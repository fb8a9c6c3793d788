import CurryScript.Yaml.Point
import CurryScript.Yaml.Scalar

/-!
The texts of scalars, plain and quoted. A scalar may go on over several lines; its line breaks are
then folded into spaces.
-/
namespace CurryScript.Yaml

structure Scan where
  text : List Char
  point : Point
  newLine : Bool
  oneLine : Bool
  deriving Repr

def plainRun (flow : Bool) : List Char → List Char
  | [] => []
  | c :: rest =>
    let indicates := c == ':' && (endsToken rest || (flow && rest.head?.any isFlowMark))
    if isGap c || indicates || (flow && (isFlowMark c || c == '?')) then []
    else c :: plainRun flow rest

def passBreaks : List Char → Nat → Option (List Char) × Point
  | [], column => (some [], ⟨[], column⟩)
  | c :: rest, column =>
    if c == ' ' then
      passBreaks rest (column + 1)
    else if isBreak c then
      if startsMarker rest then
        (none, ⟨rest, 0⟩)
      else
        let (breaks, p) := passBreaks rest 0
        (breaks.map (breakText c :: ·), p)
    else
      (some [], ⟨c :: rest, column⟩)

/-- A single line break between words is a space; of more than one the first is dropped. -/
def foldBreaks (first : Char) (more : List Char) : List Char :=
  if breakText first ≠ '\n' then breakText first :: more
  else if more.isEmpty then [' ']
  else more

def plainGap (p : Point) : Option (List Char) × Point × Bool :=
  let spaces := p.rest.takeWhile (· == ' ')
  let p := p.skip spaces.length
  match p.rest with
  | [] => (some spaces, p, false)
  | c :: rest =>
    if isBreak c then
      if startsMarker rest then
        (none, ⟨rest, 0⟩, true)
      else
        let (breaks, p) := passBreaks rest 0
        (breaks.map (foldBreaks c), p, true)
    else
      (some spaces, p, false)

/-- Reads a plain scalar. In block form it goes on only on lines indented by at least `least`. -/
def plain (flow : Bool) (least : Nat) : Nat → Scan → List Char → Scan
  | 0, scan, _ => scan
  | fuel + 1, scan, gap =>
    let run := plainRun flow scan.point.rest
    if scan.point.rest.head? = some '#' || run.isEmpty then
      scan
    else
      let text := scan.text ++ gap ++ run
      let oneLine := scan.oneLine && !scan.newLine
      match plainGap (scan.point.skip run.length) with
      | (some (c :: cs), p, newLine) =>
        if !flow && p.column < least then ⟨text, p, newLine, oneLine⟩
        else plain flow least fuel ⟨text, p, newLine, oneLine⟩ (c :: cs)
      | (_, p, newLine) => ⟨text, p, newLine, oneLine⟩

def startsPlain (flow : Bool) : List Char → Bool
  | [] => false
  | c :: rest =>
    if c == '-' then !endsToken rest
    else if c == '?' || c == ':' then !flow && !endsToken rest
    else !isGap c && !("#,[]\x7b\x7d&*!|>'\"%@\x60".toList.contains c)

def quotedBreaks : Nat → List Char → Option (List Char × List Char)
  | 0, _ => none
  | fuel + 1, line =>
    if startsMarker line then
      none
    else
      match line.dropWhile (fun c => c == ' ' || c == '\t') with
      | [] => some ([], [])
      | c :: rest =>
        if isBreak c then
          (quotedBreaks fuel rest).map fun (breaks, after) => (breakText c :: breaks, after)
        else
          some ([], c :: rest)

def escape? : Char → Option Char
  | '0' => some '\x00'
  | 'a' => some '\x07'
  | 'b' => some '\x08'
  | 't' | '\t' => some '\t'
  | 'n' => some '\n'
  | 'v' => some '\x0b'
  | 'f' => some '\x0c'
  | 'r' => some '\r'
  | 'e' => some '\x1b'
  | ' ' => some ' '
  | '"' => some '"'
  | '\\' => some '\\'
  | '/' => some '/'
  | 'N' => some '\u0085'
  | '_' => some '\u00a0'
  | 'L' => some '\u2028'
  | 'P' => some '\u2029'
  | _ => none

def escapeWidth? : Char → Option Nat
  | 'x' => some 2
  | 'u' => some 4
  | 'U' => some 8
  | _ => none

def quotedText (double : Bool) : Nat → List Char → Option (List Char × List Char × Bool)
  | 0, _ => none
  | _, [] => none
  | fuel + 1, c :: rest =>
    let before (text : List Char) (result : List Char × List Char × Bool) :=
      (text ++ result.1, result.2.1, result.2.2)
    if c == ' ' || c == '\t' then
      let spaces := (c :: rest).takeWhile (fun c => c == ' ' || c == '\t')
      let after := (c :: rest).drop spaces.length
      if after.head?.any isBreak then quotedText double fuel after
      else (quotedText double fuel after).map (before spaces)
    else if isBreak c then
      match quotedBreaks (rest.length + 1) rest with
      | none => none
      | some (breaks, after) =>
        (quotedText double fuel after).map fun result =>
          (foldBreaks c breaks ++ result.1, result.2.1, false)
    else if double then
      if c == '"' then some ([], rest, true)
      else if c == '\\' then
        match rest with
        | [] => none
        | e :: rest =>
          match escape? e, escapeWidth? e with
          | some replaced, _ => (quotedText double fuel rest).map (before [replaced])
          | none, some width =>
            let digits := rest.take width
            if digits.length = width && digits.all (Scalar.isDigitIn 16) then
              (quotedText double fuel (rest.drop width)).map
                (before [Char.ofNat (Scalar.natIn 16 digits)])
            else none
          | none, none =>
            if isBreak e then
              match quotedBreaks (rest.length + 1) rest with
              | none => none
              | some (breaks, after) =>
                (quotedText double fuel after).map fun result =>
                  (breaks ++ result.1, result.2.1, false)
            else none
      else (quotedText double fuel rest).map (before [c])
    else if c == '\'' then
      match rest with
      | '\'' :: rest => (quotedText double fuel rest).map (before ['\''])
      | _ => some ([], rest, true)
    else (quotedText double fuel rest).map (before [c])

end CurryScript.Yaml
