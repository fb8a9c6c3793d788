import CurryScript.Word64

/-!
Floats as integers. The decoded size of a float is the one that its comparisons go by, so a float that
is neither below nor above the range, by comparison, is cut off to an integer inside it.
-/
namespace CurryScript

open Float.Model UnpackedFloat

namespace Decimal.Binary

/-- A decoded size is that of an unpacked float, if this has a size. -/
def Decodes (b : Binary) : UnpackedFloat → Prop
  | .zero _ => b.mantissa = 0
  | .finite _ mantissa exponent _ =>
    b.mantissa = mantissa ∧ b.exponent = exponent ∧ mantissa < 0x20000000000000
  | .infinity _ | .notANumber => True

theorem toNat_unpackMantissa (bits : UInt64) :
    (@unpackMantissa .binary64 bits.toBitVec).toNat = bits.toNat % Nat.pow 2 52 := by
  simp [unpackMantissa]

theorem toNat_unpackExponent (bits : UInt64) :
    (@unpackExponent .binary64 bits.toBitVec).toNat =
      bits.toNat / Nat.pow 2 52 % Nat.pow 2 11 := by
  simp [unpackExponent, Nat.shiftRight_eq_div_pow]

theorem toNat_leadingOne {width : Nat} (fraction : BitVec width) :
    (1#1 ++ fraction).toNat = Nat.pow 2 width + fraction.toNat := by
  have apart := Nat.two_pow_add_eq_or_of_lt fraction.isLt 1
  rw [BitVec.toNat_append, Nat.shiftLeft_eq, Nat.mul_comm]
  simpa using apart.symm

theorem decodes_unpack (x : Float) : (ofBits x.toBits).Decodes x.toModel.unpack := by
  change (ofBits x.toBits).Decodes (UnpackedFloat.unpack .binary64 x.toBits.toBitVec)
  unfold ofBits UnpackedFloat.unpack
  dsimp only
  rw [← toNat_unpackMantissa, ← toNat_unpackExponent]
  have small : (@unpackMantissa .binary64 x.toBits.toBitVec).toNat < 0x10000000000000 :=
    BitVec.isLt _
  -- An exponent field of ones has no size, one of zeros has no leading one.
  generalize @unpackExponent .binary64 x.toBits.toBitVec = biased
  by_cases special : biased = -1#11
  · rw [if_pos special]
    split <;> split <;> trivial
  · rw [if_neg special]
    by_cases least : biased = 0#11
    · have zero : biased.toNat = 0 := by
        rw [least]
        rfl
      rw [if_pos least, if_pos zero]
      by_cases none : @unpackMantissa .binary64 x.toBits.toBitVec = 0#52
      · rw [dif_pos none]
        exact congrArg BitVec.toNat none
      · rw [dif_neg none]
        refine ⟨rfl, ?_, by omega⟩
        rw [zero]
        rfl
    · have nonzero : biased.toNat ≠ 0 := by simpa [BitVec.toNat_eq] using least
      have leading := toNat_leadingOne (@unpackMantissa .binary64 x.toBits.toBitVec)
      rw [if_neg least, if_neg nonzero]
      refine ⟨leading.symm, rfl, ?_⟩
      rw [leading]
      exact Nat.add_lt_add_left small 0x10000000000000

theorem floor_le (b : Binary) : b.floor ≤ b.mantissa * Nat.pow 2 b.exponent.toNat :=
  Nat.div_le_self _ _

theorem floor_lt {b : Binary} (small : b.mantissa < 0x20000000000000)
    (below : b.exponent < 11 ∨ b.exponent = 11 ∧ b.mantissa < 0x10000000000000) :
    b.floor < 0x8000000000000000 := by
  refine Nat.lt_of_le_of_lt b.floor_le ?_
  rcases below with lower | ⟨same, less⟩
  · have power : Nat.pow 2 b.exponent.toNat ≤ 1024 :=
      Nat.pow_le_pow_right (by decide : 0 < 2) (by omega : b.exponent.toNat ≤ 10)
    calc b.mantissa * Nat.pow 2 b.exponent.toNat
        ≤ b.mantissa * 1024 := Nat.mul_le_mul_left _ power
      _ < 0x8000000000000000 := by omega
  · rw [same]
    change b.mantissa * 2048 < 0x8000000000000000
    omega

end Decimal.Binary

namespace Word64

theorem le_iff_unpack (x y : Float) : x ≤ y ↔ x.toModel.unpack.le y.toModel.unpack = true :=
  decide_eq_true_iff

theorem lt_iff_unpack (x y : Float) : x < y ↔ x.toModel.unpack.lt y.toModel.unpack = true :=
  decide_eq_true_iff

theorem unpack_beyond :
    beyond.toModel.unpack = .finite .positive 0x10000000000000 11 (by decide) := rfl

theorem unpack_neg_beyond :
    (-beyond).toModel.unpack = .finite .negative 0x10000000000000 11 (by decide) := rfl

theorem unpack_zero : (0.0 : Float).toModel.unpack = .zero .positive := rfl

section

variable {mantissa other : Nat} {exponent exponent' : Int} {positive : 0 < mantissa}
  {positive' : 0 < other}

theorem smaller_of_not_le
    (less : ¬ (UnpackedFloat.finite .positive other exponent' positive').le
      (.finite .positive mantissa exponent positive) = true) :
    exponent < exponent' ∨ exponent = exponent' ∧ mantissa < other := by
  have order : ((compare exponent' exponent).then (compare other mantissa)).isLE = false :=
    Bool.eq_false_iff.mpr less
  rw [Ordering.isLE_eq_false, Ordering.then_eq_gt, Int.compare_eq_gt, Int.compare_eq_eq,
    Nat.compare_eq_gt] at order
  omega

theorem not_larger_of_not_lt
    (more : ¬ (UnpackedFloat.finite .negative mantissa exponent positive).lt
      (.finite .negative other exponent' positive') = true) :
    exponent < exponent' ∨ exponent = exponent' ∧ mantissa ≤ other := by
  have order : ¬ (compare exponent exponent').then (compare mantissa other) = .gt := by
    intro greater
    refine more ?_
    change (some ((compare exponent exponent').then (compare mantissa other)).swap ==
      some .lt) = true
    rw [greater]
    rfl
  rw [Ordering.then_eq_gt, Int.compare_eq_gt, Int.compare_eq_eq, Nat.compare_eq_gt] at order
  omega

end

/-- The size of a float between the two comparisons. At the lower end it may be the bound itself. -/
theorem floor_of_within {x : Float} (number : x.isNaN = false) (below : ¬ beyond ≤ x)
    (above : ¬ x < -beyond) :
    (Decimal.Binary.ofBits x.toBits).floor ≤ 0x8000000000000000 ∧
      (¬ x < 0.0 → (Decimal.Binary.ofBits x.toBits).floor < 0x8000000000000000) := by
  have decoded := Decimal.Binary.decodes_unpack x
  rw [le_iff_unpack, unpack_beyond] at below
  rw [lt_iff_unpack, unpack_neg_beyond] at above
  rw [lt_iff_unpack, unpack_zero]
  change x.toModel.unpack.isNaN = false at number
  generalize Decimal.Binary.ofBits x.toBits = b at decoded ⊢
  generalize x.toModel.unpack = unpacked at decoded number below above ⊢
  cases unpacked with
  | notANumber => cases number
  | infinity sign =>
    cases sign with
    | positive => exact absurd rfl below
    | negative => exact absurd rfl above
  | zero sign =>
    have none : b.floor = 0 := by
      simp [Decimal.Binary.floor, show b.mantissa = 0 from decoded]
    omega
  | finite sign mantissa exponent positive =>
    obtain ⟨rfl, rfl, small⟩ := decoded
    cases sign with
    | positive =>
      have lower := Decimal.Binary.floor_lt small (smaller_of_not_le below)
      exact ⟨Nat.le_of_lt lower, fun _ => lower⟩
    | negative =>
      refine ⟨?_, fun nonnegative => absurd rfl nonnegative⟩
      rcases not_larger_of_not_lt above with lower | ⟨same, most⟩
      · exact Nat.le_of_lt (Decimal.Binary.floor_lt small (.inl lower))
      · refine Nat.le_trans b.floor_le ?_
        rw [same]
        exact Nat.mul_le_mul_right 2048 most

theorem truncate_inRange (x : Float) : InRange (truncate x) := by
  unfold truncate
  split
  · decide
  · split
    · decide
    · split
      · decide
      · next number below above =>
        obtain ⟨most, less⟩ := floor_of_within (by simpa using number) below above
        simp only [InRange, least, greatest]
        split
        · omega
        · next nonnegative =>
          have bounded := less nonnegative
          omega

end Word64

end CurryScript
