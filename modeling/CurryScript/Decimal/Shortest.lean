/-!
Shortest decimals: the fewest digits that read back as a given float. A finite float is
`m * 2 ^ q`; the reals that round to it form an interval around it, whose ends belong to it exactly
when `m` is even. The shortest decimal is the first grid of decimals, coarsest first, that meets the
interval, and on that grid one of the two neighbours of the float.
-/
namespace CurryScript.Decimal

/-- The size of a finite float, `mantissa * 2 ^ exponent`. The interval below a float is narrower
when its mantissa is the least of its binade. -/
structure Binary where
  mantissa : Nat
  exponent : Int
  narrowBelow : Bool
  deriving DecidableEq, Repr

def Binary.ofBits (bits : UInt64) : Binary :=
  let fraction : Nat := bits.toNat % Nat.pow 2 52
  let biased : Nat := bits.toNat / Nat.pow 2 52 % Nat.pow 2 11
  if biased = 0 then ⟨fraction, -1074, false⟩
  else ⟨Nat.pow 2 52 + fraction, (biased : Int) - 1075, fraction = 0 && 1 < biased⟩

def Binary.floor (b : Binary) : Nat :=
  b.mantissa * Nat.pow 2 b.exponent.toNat / Nat.pow 2 (-b.exponent).toNat

/-- The interval of reals that round to a float, over a common denominator: the float itself is
`centre / unit`. -/
structure Interval where
  low : Nat
  centre : Nat
  high : Nat
  unit : Nat
  closed : Bool
  deriving DecidableEq, Repr

/-- Quarters of the last place put the ends of the interval on whole numbers. -/
def Binary.interval (b : Binary) : Interval :=
  let scale := Nat.pow 2 (b.exponent - 2).toNat
  { low := (4 * b.mantissa - if b.narrowBelow then 1 else 2) * scale
    centre := 4 * b.mantissa * scale
    high := (4 * b.mantissa + 2) * scale
    unit := Nat.pow 2 (2 - b.exponent).toNat
    closed := b.mantissa % 2 = 0 }

def Interval.contains (i : Interval) (num den : Nat) : Bool :=
  if i.closed then i.low * den ≤ num * i.unit && num * i.unit ≤ i.high * den
  else i.low * den < num * i.unit && num * i.unit < i.high * den

def leastPower (a b : Nat) : Nat → Nat → Nat
  | 0, k => k
  | fuel + 1, k => if a ≤ b * Nat.pow 10 k then k else leastPower a b fuel (k + 1)

def decimalExponent (num den : Nat) : Int :=
  if den ≤ num then (leastPower (num / den + 1) 1 400 1 : Nat) - 1
  else -(leastPower den num 400 1 : Nat)

/-- A decimal `digits * 10 ^ scale`. -/
structure Scaled where
  digits : Nat
  scale : Int
  deriving DecidableEq, Repr

def gridStep (scale : Int) : Nat × Nat := (Nat.pow 10 scale.toNat, Nat.pow 10 (-scale).toNat)

/-- The neighbour of the float, among the multiples of `10 ^ scale`, that reads back as it. Of two
that do the nearer is taken, and the even one if both are equally near. -/
def onGrid (i : Interval) (scale : Int) : Option Scaled :=
  let (num, den) := gridStep scale
  let below := i.centre * den / (i.unit * num)
  let above := below + 1
  let hitsBelow := i.contains (below * num) den
  let hitsAbove := i.contains (above * num) den
  let gapBelow := i.centre * den - below * num * i.unit
  let gapAbove := above * num * i.unit - i.centre * den
  if hitsBelow && hitsAbove then
    let digits :=
      if gapBelow < gapAbove then below
      else if gapAbove < gapBelow then above
      else if below % 2 = 0 then below else above
    some ⟨digits, scale⟩
  else if hitsBelow then some ⟨below, scale⟩
  else if hitsAbove then some ⟨above, scale⟩
  else none

def Scaled.trim : Nat → Scaled → Scaled
  | 0, d => d
  | fuel + 1, d =>
    if d.digits % 10 = 0 && d.digits ≠ 0 then Scaled.trim fuel ⟨d.digits / 10, d.scale + 1⟩ else d

/-- The shortest decimal that reads back as a float that is neither zero nor special. Seventeen
digits always suffice. -/
def shortest (b : Binary) : Scaled :=
  let i := b.interval
  let first := decimalExponent i.centre i.unit
  let grids := (List.range 17).map fun count : Nat => first - count
  ((grids.findSome? (onGrid i)).getD ⟨0, 0⟩).trim 17

end CurryScript.Decimal
