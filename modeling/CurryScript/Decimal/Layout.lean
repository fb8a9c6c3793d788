import CurryScript.Decimal.Shortest

/-!
How floats are written. `Layout` holds the decisions of a format; `Float` text always shows a point
or an exponent, so no float is written like an integer.
-/
namespace CurryScript.Decimal

structure Layout where
  /-- The least and the first too large decimal exponent written positionally. -/
  positionalFrom : Int
  positionalTo : Int
  exponentWidth : Nat
  infinity : String
  notANumber : String
  deriving Repr

/-- Positional from `0.0001` up to below `10 ^ 16`, and an exponent of at least two digits with its
sign elsewhere. -/
def Layout.plain : Layout where
  positionalFrom := -4
  positionalTo := 16
  exponentWidth := 2
  infinity := "inf"
  notANumber := "nan"

def zeros (count : Nat) : List Char := List.replicate count '0'

/-- Positional notation of a digit string whose first digit has decimal exponent `e`. -/
def positional (digits : List Char) (e : Int) : List Char :=
  if e < 0 then
    "0.".toList ++ zeros (-e - 1).toNat ++ digits
  else
    let whole := e.toNat + 1
    if digits.length ≤ whole then
      digits ++ zeros (whole - digits.length) ++ ".0".toList
    else
      digits.take whole ++ '.' :: digits.drop whole

def scientific (width : Nat) (digits : List Char) (e : Int) : List Char :=
  let size := Nat.toDigits 10 e.natAbs
  let mantissa := match digits with
    | first :: second :: rest => first :: '.' :: second :: rest
    | _ => digits
  mantissa ++ 'e' :: (if e < 0 then '-' else '+') :: (zeros (width - size.length) ++ size)

def Layout.decimal (layout : Layout) (d : Scaled) : List Char :=
  let digits := Nat.toDigits 10 d.digits
  let e := d.scale + digits.length - 1
  if layout.positionalFrom ≤ e ∧ e < layout.positionalTo then positional digits e
  else scientific layout.exponentWidth digits e

def Layout.float (layout : Layout) (x : Float) : String :=
  let bits := x.toBits
  let sign := if Nat.pow 2 63 ≤ bits.toNat then "-" else ""
  if x.isNaN then layout.notANumber
  else if x.isInf then sign ++ layout.infinity
  else if bits.toNat % Nat.pow 2 63 = 0 then sign ++ "0.0"
  else sign ++ String.ofList (layout.decimal (shortest (Binary.ofBits bits)))

end CurryScript.Decimal
