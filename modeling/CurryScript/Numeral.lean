import CurryScript.Word64

/-!
Numerals: the words that denote numbers. An integer numeral is an optional sign and digits; a float
numeral is a decimal with an optional exponent, or one of the names of the special floats. A text
that is no numeral reads as `none`; the few that look like one and cannot be converted are failures.
-/
namespace CurryScript.Numeral

inductive Failure where
  | tooManyDigits (count : Nat)
  /-- The name of a special float spelled with a dotted capital or a dotless small `i`. -/
  | notAFloat (text : String)
  deriving DecidableEq, Repr

/-- The most digits, leading zeros included, that an integer numeral may have. -/
def digitLimit : Nat := 4300

def Failure.message : Failure → String
  | .tooManyDigits count =>
    s!"Exceeds the limit ({digitLimit} digits) for integer string conversion: value has {count} " ++
      "digits; use sys.set_int_max_str_digits() to increase the limit"
  | .notAFloat text => s!"could not convert string to float: '{text}'"

def isDigit (c : Char) : Bool := '0' ≤ c && c ≤ '9'

def digitValue (c : Char) : Nat := c.toNat - '0'.toNat

def natValue (digits : List Char) : Nat :=
  digits.foldl (fun total digit => 10 * total + digitValue digit) 0

inductive Sign where
  | plus
  | minus
  deriving DecidableEq, Repr

def Sign.apply : Sign → Int → Int
  | .plus, n => n
  | .minus, n => -n

def Sign.applyFloat : Sign → Float → Float
  | .plus, x => x
  | .minus, x => -x

def splitSign : List Char → Sign × List Char
  | '+' :: rest => (.plus, rest)
  | '-' :: rest => (.minus, rest)
  | text => (.plus, text)

def integer? (text : String) : Except Failure (Option Int) :=
  let (sign, digits) := splitSign text.toList
  if digits.isEmpty || !digits.all isDigit then
    .ok none
  else if digitLimit < digits.length then
    .error (.tooManyDigits digits.length)
  else
    let n := sign.apply (natValue digits)
    .ok (if Word64.InRange n then some n else none)

theorem inRange_of_integer? {text : String} {n : Int} (read : integer? text = .ok (some n)) :
    Word64.InRange n := by
  unfold integer? at read
  generalize splitSign text.toList = parts at read
  dsimp only at read
  split at read
  · cases read
  · split at read
    · cases read
    · split at read <;> cases read
      assumption

/-- A decimal: `digits` with the point `scale` places from their right end. -/
structure Decimal where
  digits : List Char
  scale : Int
  deriving DecidableEq, Repr

def exponent? : List Char → Option Int
  | [] => some 0
  | mark :: rest =>
    let (sign, digits) := splitSign rest
    if (mark == 'e' || mark == 'E') && !digits.isEmpty && digits.all isDigit then
      some (sign.apply (natValue digits))
    else
      none

/-- Reads an unsigned decimal. Digits may be missing on one side of the point, not on both. -/
def decimal? (text : List Char) : Option Decimal :=
  let whole := text.takeWhile isDigit
  match text.dropWhile isDigit with
  | '.' :: rest =>
    let fraction := rest.takeWhile isDigit
    if whole.isEmpty && fraction.isEmpty then
      none
    else
      (exponent? (rest.dropWhile isDigit)).map fun e => ⟨whole ++ fraction, e - fraction.length⟩
  | rest => if whole.isEmpty then none else (exponent? rest).map (⟨whole, ·⟩)

/-- The float nearest to a decimal. One at or above `10 ^ 310` exceeds every finite float and one
below `10 ^ (-330)` rounds to zero, so powers of ten beyond these are never computed. -/
def Decimal.toFloat (d : Decimal) : Float :=
  let significant := d.digits.dropWhile (· == '0')
  let magnitude := significant.length + d.scale
  if significant.isEmpty || magnitude < -330 then
    0.0
  else if 310 < magnitude then
    1.0 / 0.0
  else
    Float.ofScientific (natValue significant) (d.scale < 0) d.scale.natAbs

inductive Special where
  | infinity
  | notANumber
  deriving DecidableEq, Repr

def Special.toFloat : Special → Float
  | .infinity => 1.0 / 0.0
  | .notANumber => 0.0 / 0.0

def isTurkish (c : Char) : Bool := c == 'ı' || c == 'İ'

/-- Small letters for the ASCII capitals; both Turkish forms of `i` count as that letter. -/
def foldCase (c : Char) : Char := if isTurkish c then 'i' else c.toLower

def special? (text : List Char) : Option Special :=
  let name := text.map foldCase
  if name = "inf".toList ∨ name = "infinity".toList then some .infinity
  else if name = "nan".toList then some .notANumber
  else none

def float? (text : String) : Except Failure (Option Float) :=
  let (sign, body) := splitSign text.toList
  match decimal? body, special? body with
  | some d, _ => .ok (some (sign.applyFloat d.toFloat))
  | none, some special =>
    -- The letters pass for an `i` as long as only the form is looked at.
    if body.any isTurkish then .error (.notAFloat text)
    else .ok (some (sign.applyFloat special.toFloat))
  | none, none => .ok none

end CurryScript.Numeral
