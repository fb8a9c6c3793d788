/-!
Points in the text of a settings file, and the gaps between its tokens.
-/
namespace CurryScript.Yaml

structure Point where
  rest : List Char
  column : Nat
  deriving Repr

def isBreak (c : Char) : Bool :=
  c == '\n' || c == '\r' || c == '\u0085' || c == '\u2028' || c == '\u2029'

def isGap (c : Char) : Bool := c == ' ' || c == '\t' || isBreak c

def endsToken (following : List Char) : Bool := following.head?.all isGap

def breakText (c : Char) : Char := if c == '\u2028' || c == '\u2029' then c else '\n'

def isFlowMark (c : Char) : Bool := c == ',' || c == '[' || c == ']' || c == '{' || c == '}'

def startsMarker (line : List Char) : Bool :=
  ("---".toList.isPrefixOf line || "...".toList.isPrefixOf line) && endsToken (line.drop 3)

namespace Point

def atMarker (p : Point) : Bool := p.column = 0 && startsMarker p.rest

def skip (p : Point) (count : Nat) : Point := ⟨p.rest.drop count, p.column + count⟩

def atEntry (p : Point) : Bool :=
  match p.rest with
  | '-' :: rest => endsToken rest
  | _ => false

def atColon (p : Point) : Bool :=
  match p.rest.dropWhile (· == ' ') with
  | ':' :: rest => endsToken rest
  | _ => false

def pastColon (p : Point) : Point := p.skip ((p.rest.takeWhile (· == ' ')).length + 1)

end Point

/-- Passes spaces, line breaks and comments. Also tells whether a new line was started. -/
def passGap (newLine inComment : Bool) : List Char → Nat → Point × Bool
  | [], column => (⟨[], column⟩, newLine)
  | c :: rest, column =>
    if isBreak c then passGap true false rest 0
    else if inComment || c == '#' then passGap newLine true rest (column + 1)
    else if c == ' ' then passGap newLine false rest (column + 1)
    else (⟨c :: rest, column⟩, newLine)

def Point.next (p : Point) (newLine : Bool) : Point × Bool := passGap newLine false p.rest p.column

end CurryScript.Yaml
