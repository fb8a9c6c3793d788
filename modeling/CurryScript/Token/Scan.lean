import CurryScript.Cursor
import CurryScript.Numeral
import CurryScript.SyntaxError
import CurryScript.Text.Blank

/-!
Scanning: from the text of a script to its tokens. Between two lexemes a cursor passes blanks and
comments.
-/
namespace CurryScript

def reserved : List Char := [':', ';', '[', ']', '"', '#']

def isWordChar (c : Char) : Bool := !Text.isBlank c && !reserved.contains c

def endsComment (c : Char) : Bool := c == '\r' || c == '\n'

namespace Cursor

def skipGap (cursor : Cursor) : Cursor :=
  match _ : cursor.rest with
  | [] => cursor
  | c :: _ =>
    if Text.isBlank c then
      cursor.advance.skipGap
    else if c == '#' then
      (cursor.advance.skipWhile (!endsComment ·)).skipGap
    else
      cursor
termination_by cursor.rest.length
decreasing_by
  · simp [length_advance, *]
  · have bounded := length_skipWhile_le (!endsComment ·) cursor.advance
    simp_all only [length_advance, List.length_cons]
    omega

theorem length_skipGap_le (cursor : Cursor) :
    cursor.skipGap.rest.length ≤ cursor.rest.length := by
  fun_induction skipGap cursor with
  | case1 => omega
  | case2 cursor c tail found blank ih => rw [length_advance] at ih; omega
  | case3 cursor c tail found blank comment ih =>
    have bounded := length_skipWhile_le (!endsComment ·) cursor.advance
    rw [length_advance] at bounded
    omega
  | case4 => omega

end Cursor

inductive ScanError where
  | syntaxError (error : SyntaxError)
  | numeral (failure : Numeral.Failure)
  deriving DecidableEq, Repr

def classify (word : String) : Except Numeral.Failure Lexeme := do
  if let some n ← Numeral.integer? word then
    return .literal (.int n)
  if let some x ← Numeral.float? word then
    return .literal (.float x)
  if word = "true" then
    return .literal (.bool true)
  if word = "false" then
    return .literal (.bool false)
  return .identifier word

def punctuation? : Char → Option Lexeme
  | ':' => some .colon
  | ';' => some .semicolon
  | '[' => some .openBracket
  | ']' => some .closeBracket
  | _ => none

structure LineTable where
  lines : Array String

namespace LineTable

/-- A text without any characters has one empty line. -/
def ofText (text : List Char) : LineTable :=
  match Text.lines text with
  | [] => ⟨#[""]⟩
  | lines => ⟨(lines.map String.ofList).toArray⟩

/-- The line of a number counted from one, empty if the table has no such line. -/
def get (table : LineTable) (line : Nat) : String :=
  if line = 0 then "" else table.lines.getD (line - 1) ""

end LineTable

namespace Cursor

/-- Reads the lexeme at a cursor. The token carries the line of its first character. -/
def scanLexeme (table : LineTable) (cursor : Cursor) : Except ScanError Token × Cursor :=
  let token (lexeme : Lexeme) : Token := ⟨lexeme, cursor.line, table.get cursor.line⟩
  match cursor.rest with
  | [] => (.ok (token .endOfScript), cursor)
  | c :: rest =>
    match punctuation? c with
    | some lexeme => (.ok (token lexeme), cursor.advance)
    | none =>
      if c == '"' then
        let closing := cursor.advance.skipWhile (· != '"')
        if closing.rest.isEmpty then
          -- The string takes up all that is left, so the next token is the end.
          let complaint := Complaint.unterminatedString (String.ofList rest)
          (.error (.syntaxError ⟨complaint, some ⟨cursor.line, table.get cursor.line⟩⟩), closing)
        else
          let content := String.ofList (rest.takeWhile (· != '"'))
          (.ok (token (.literal (.text content))), closing.advance)
      else
        let word := String.ofList (c :: rest.takeWhile isWordChar)
        let after := cursor.advance.skipWhile isWordChar
        match classify word with
        | .ok lexeme => (.ok (token lexeme), after)
        | .error failure => (.error (.numeral failure), after)

theorem length_scanLexeme_lt (table : LineTable) (cursor : Cursor) (inside : cursor.rest ≠ []) :
    (cursor.scanLexeme table).2.rest.length < cursor.rest.length := by
  have positive := List.length_pos_iff.mpr inside
  have quoted := length_skipWhile_le (· != '"') cursor.advance
  have word := length_skipWhile_le isWordChar cursor.advance
  rw [length_advance] at quoted word
  unfold scanLexeme
  split
  · contradiction
  · split
    · rw [length_advance]; omega
    · split
      · dsimp only
        split
        · dsimp only; omega
        · dsimp only; rw [length_advance]; omega
      · dsimp only
        split <;> dsimp only <;> omega

def next (table : LineTable) (cursor : Cursor) : Except ScanError Token × Cursor :=
  cursor.skipGap.scanLexeme table

def scanAll (table : LineTable) (found : Array Token) (cursor : Cursor) :
    Except ScanError (List Token) :=
  let start := cursor.skipGap
  if _ : start.rest = [] then
    .ok (found.push ⟨.endOfScript, start.line, table.get start.line⟩).toList
  else
    match _ : start.scanLexeme table with
    | (.error error, _) => .error error
    | (.ok token, after) => after.scanAll table (found.push token)
termination_by cursor.rest.length
decreasing_by
  have shorter := length_scanLexeme_lt table cursor.skipGap ‹_›
  have bounded := length_skipGap_le cursor
  simp_all only [start]
  omega

end Cursor

def tokenize (source : String) : Except ScanError (List Token) :=
  let text := source.toList
  Cursor.scanAll (.ofText text) #[] ⟨text, 0, 1⟩

end CurryScript
