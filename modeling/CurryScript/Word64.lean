import CurryScript.Decimal.Shortest

/-!
Signed 64-bit integers. Script integers are mathematical integers kept inside this range: literals
outside it are not integers, and arithmetic wraps around its ends.
-/
namespace CurryScript.Word64

def least : Int := -0x8000000000000000

def greatest : Int := 0x7FFFFFFFFFFFFFFF

def InRange (n : Int) : Prop := least ≤ n ∧ n ≤ greatest

instance (n : Int) : Decidable (InRange n) :=
  inferInstanceAs (Decidable (_ ∧ _))

/-- The integer of the range that is congruent to `n` modulo `2 ^ 64`. -/
def wrap (n : Int) : Int := (n - least) % 0x10000000000000000 + least

theorem wrap_inRange (n : Int) : InRange (wrap n) := by
  simp only [InRange, wrap, least, greatest]
  omega

theorem wrap_of_inRange {n : Int} (inRange : InRange n) : wrap n = n := by
  simp only [InRange, wrap, least, greatest] at inRange ⊢
  omega

theorem wrap_emod (n : Int) : wrap n % 0x10000000000000000 = n % 0x10000000000000000 := by
  simp only [wrap, least]
  omega

theorem eq_wrap_of_emod {m n : Int} (inRange : InRange m)
    (congruent : m % 0x10000000000000000 = n % 0x10000000000000000) : m = wrap n := by
  simp only [InRange, wrap, least, greatest] at inRange ⊢
  omega

theorem wrap_eq_bmod (n : Int) : wrap n = n.bmod 0x10000000000000000 := by
  simp only [wrap, least, Int.bmod_def]
  split <;> omega

def divideTowardZero (a b : Int) : Int :=
  let size : Int := a.natAbs / b.natAbs
  if a < 0 ↔ b < 0 then size else -size

theorem divideTowardZero_eq_tdiv (a b : Int) : divideTowardZero a b = a.tdiv b := by
  have sizes : (a.natAbs : Int) / b.natAbs = (a.natAbs : Int).tdiv b.natAbs :=
    (Int.tdiv_eq_ediv_of_nonneg (Int.natCast_nonneg _)).symm
  have size (n : Int) : (n.natAbs : Int) = if n < 0 then -n else n := by
    split <;> omega
  unfold divideTowardZero
  rw [sizes, size a, size b]
  by_cases left : a < 0 <;> by_cases right : b < 0 <;>
    simp [left, right, Int.neg_tdiv, Int.tdiv_neg]

def beyond : Float := 9223372036854775808.0

/-- Cuts off the fraction of a float. Floats beyond the range go to its nearer end, and what is
not a number goes to zero. -/
def truncate (x : Float) : Int :=
  if x.isNaN then 0
  else if beyond ≤ x then greatest
  -- The opposite of the bound is the least integer itself.
  else if x < -beyond then least
  else
    let size : Int := (Decimal.Binary.ofBits x.toBits).floor
    if x < 0.0 then -size else size

end CurryScript.Word64
