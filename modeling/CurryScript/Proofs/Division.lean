import CurryScript.Proofs.Arithmetic

/-!
Division of integers. The quotient is truncated toward zero and the remainder is what it leaves over,
with the sign of the dividend. One quotient of 64-bit integers is not one itself and wraps; sum and
product wrap too, so quotient and remainder give the dividend back even then.
-/
namespace CurryScript

/-- The quotient of `a` and `b` truncated toward zero, and the remainder. -/
structure Truncated (a b quotient remainder : Int) : Prop where
  whole : a = b * quotient + remainder
  small : remainder.natAbs < b.natAbs
  sign : remainder = 0 ∨ remainder.sign = a.sign

namespace Truncated

theorem of_nonzero (a : Int) {b : Int} (nonzero : b ≠ 0) :
    Truncated a b (a.tdiv b) (a.tmod b) where
  whole := (Int.mul_tdiv_add_tmod a b).symm
  small := by
    rw [Int.natAbs_tmod]
    exact Nat.mod_lt _ (Int.natAbs_pos.mpr nonzero)
  sign := by
    have signs := Int.sign_tmod a b
    split at signs
    · exact .inl (Int.sign_eq_zero_iff_zero.mp signs)
    · exact .inr signs

theorem unique {a b t r t' r' : Int} (one : Truncated a b t r) (two : Truncated a b t' r') :
    t = t' ∧ r = r' := by
  have difference : b * (t - t') = r' - r := by
    rw [Int.mul_sub]
    have first := one.whole
    have second := two.whole
    omega
  -- Two remainders with the sign of `a` are closer to each other than `b` is to zero.
  have close : (r' - r).natAbs < b.natAbs := by
    have sizes := And.intro one.small two.small
    rcases one.sign with rfl | first <;> rcases two.sign with rfl | second
    · omega
    · omega
    · omega
    · rcases Int.lt_trichotomy a 0 with negative | rfl | positive
      · rw [Int.sign_eq_neg_one_of_neg negative, Int.sign_eq_neg_one_iff_neg] at first second
        omega
      · rw [Int.sign_zero, Int.sign_eq_zero_iff_zero] at first second
        omega
      · rw [Int.sign_eq_one_of_pos positive, Int.sign_eq_one_iff_pos] at first second
        omega
  have multiple : b ∣ r' - r := ⟨t - t', difference.symm⟩
  have same : r' - r = 0 := Int.eq_zero_of_dvd_of_natAbs_lt_natAbs multiple close
  have nonzero : b ≠ 0 := by
    have small := one.small
    omega
  rw [same] at difference
  have none := (Int.mul_eq_zero.mp difference).resolve_left nonzero
  omega

end Truncated

namespace Word64

theorem tdiv_inRange {a b : Int} (dividend : InRange a) (nonzero : b ≠ 0)
    (fits : ¬ (a = least ∧ b = -1)) : InRange (a.tdiv b) := by
  simp only [InRange, least, greatest] at dividend fits ⊢
  by_cases unit : b.natAbs = 1
  · rcases Int.natAbs_eq_iff.mp unit with rfl | rfl
    · rw [Int.natCast_one, Int.tdiv_one]
      exact dividend
    · rw [Int.natCast_one, Int.tdiv_neg, Int.tdiv_one]
      omega
  · have halved : a.natAbs / b.natAbs ≤ a.natAbs / 2 :=
      Nat.div_le_div_left (by omega) (by decide)
    have size : (a.tdiv b).natAbs = a.natAbs / b.natAbs := Int.natAbs_tdiv a b
    omega

theorem wrap_tdiv {a b : Int} (dividend : InRange a) (nonzero : b ≠ 0) :
    wrap (a.tdiv b) = if a = least ∧ b = -1 then least else a.tdiv b := by
  split
  · next overflow =>
    rw [overflow.1, overflow.2]
    rfl
  · next fits => exact wrap_of_inRange (tdiv_inRange dividend nonzero fits)

theorem wrap_tmod (a : Int) {b : Int} (divisor : InRange b) (nonzero : b ≠ 0) :
    wrap (a.tmod b) = a.tmod b := by
  have small := (Truncated.of_nonzero a nonzero).small
  apply wrap_of_inRange
  simp only [InRange, least, greatest] at divisor ⊢
  omega

theorem wrap_restores {a : Int} (dividend : InRange a) (b : Int) :
    wrap (wrap (wrap (a.tdiv b) * b) + wrap (a.tmod b)) = a := by
  -- No case is made of the quotient that wraps: inside a product wrapping changes nothing.
  have product : wrap (wrap (a.tdiv b) * b) = wrap (a.tdiv b * b) := by
    simp only [wrap_eq_bmod]
    exact Int.bmod_mul_bmod
  have sum : wrap (wrap (a.tdiv b * b) + wrap (a.tmod b)) = wrap (a.tdiv b * b + a.tmod b) :=
    Operator.wrap_apply .plus _ _
  rw [product, sum, Int.mul_comm, Int.mul_tdiv_add_tmod, wrap_of_inRange dividend]

end Word64

theorem dispatch_divide (a : Int) {b : Int} (nonzero : b ≠ 0) :
    dispatch "/" [.int a, .int b] = .ok ⟨.int (Word64.wrap (a.tdiv b)), []⟩ := by
  have answer : dispatch "/" [.int a, .int b] =
      .ok ⟨Primitive.quotient (.int a) (.int b), []⟩ := rfl
  rw [answer, Primitive.quotient, if_neg nonzero, Word64.divideTowardZero_eq_tdiv]

theorem dispatch_remainder (a : Int) {b : Int} (nonzero : b ≠ 0) :
    dispatch "%" [.int a, .int b] = .ok ⟨.int (Word64.wrap (a.tmod b)), []⟩ := by
  have answer : dispatch "%" [.int a, .int b] =
      .ok ⟨Primitive.modulus (.int a) (.int b), []⟩ := rfl
  rw [answer, Primitive.modulus, if_neg nonzero, Word64.divideTowardZero_eq_tdiv, Int.tmod_def]

theorem divisionByZero_iff {name : String} (divides : name ∈ ["/", "%"]) (a b : Int) :
    (∃ payload stack printed, dispatch name [.int a, .int b] =
      .ok ⟨.exception .divisionByZero payload stack, printed⟩) ↔ b = 0 := by
  simp only [List.mem_cons, List.not_mem_nil, or_false] at divides
  constructor
  · rintro ⟨payload, stack, printed, raised⟩
    rcases Decidable.em (b = 0) with zero | nonzero
    · exact zero
    · rcases divides with rfl | rfl
      · rw [dispatch_divide a nonzero] at raised
        cases raised
      · rw [dispatch_remainder a nonzero] at raised
        cases raised
  · rintro rfl
    rcases divides with rfl | rfl <;> exact ⟨_, _, _, rfl⟩

/-- The script `+[*[/[a b] b] %[a b]]`. -/
def restoring (a b : Int) : Expr :=
  let operands : List Expr := [.literal (.int a), .literal (.int b)]
  .call "+" [.call "*" [.call "/" operands, .literal (.int b)], .call "%" operands]

theorem computes_restoring {a b : Int} (dividend : Word64.InRange a) (nonzero : b ≠ 0)
    (depth : Nat) : Eval.Computes [.add, .multiply, .divide, .remainder]
      (evaluate (depth + 4) (restoring a b)) (.ok (.int a)) := by
  have quotient : Eval.Computes [.add, .multiply, .divide, .remainder]
      (evaluate (depth + 2) (.call "/" [.literal (.int a), .literal (.int b)]))
      (.ok (.int (Word64.wrap (a.tdiv b)))) :=
    Eval.computes_call (by decide : Primitive.divide ∈ _) (Eval.computes_literal (.int a))
      (Eval.computes_literal (.int b)) (dispatch_divide a nonzero)
  have remainder : Eval.Computes [.add, .multiply, .divide, .remainder]
      (evaluate (depth + 3) (.call "%" [.literal (.int a), .literal (.int b)]))
      (.ok (.int (Word64.wrap (a.tmod b)))) :=
    Eval.computes_call (by decide : Primitive.remainder ∈ _) (Eval.computes_literal (.int a))
      (Eval.computes_literal (.int b)) (dispatch_remainder a nonzero)
  have product := Eval.computes_call (by decide : Primitive.multiply ∈ _) quotient
    (Eval.computes_literal (.int b)) (Operator.dispatch_eq .times _ _)
  have sum := Eval.computes_call (by decide : Primitive.add ∈ _) product remainder
    (Operator.dispatch_eq .plus _ _)
  simp only [Operator.apply, Word64.wrap_restores dividend] at sum
  exact sum

/-- Division and remainder on 64-bit integers. Only a zero divisor raises. The remainder is the one
that the truncated quotient leaves over. The quotient is the truncated one, except that the quotient
of the least integer and `-1` wraps to the least integer. In every case the two give the dividend
back. -/
theorem division_restores_dividend {a b : Int} (dividend : Word64.InRange a)
    (divisor : Word64.InRange b) :
    (∀ name ∈ ["/", "%"], (∃ payload stack printed, dispatch name [.int a, .int b] =
      .ok ⟨.exception .divisionByZero payload stack, printed⟩) ↔ b = 0) ∧
    (b ≠ 0 →
      let t := a.tdiv b
      let r := a.tmod b
      (Truncated a b t r ∧ ∀ t' r', Truncated a b t' r' → t' = t ∧ r' = r) ∧
      dispatch "%" [.int a, .int b] = .ok ⟨.int r, []⟩ ∧
      dispatch "/" [.int a, .int b] =
        .ok ⟨.int (if a = Word64.least ∧ b = -1 then Word64.least else t), []⟩ ∧
      ∀ machine : Machine, (∀ name ∈ ["+", "*", "/", "%"], machine.lookup name = none) →
        ∀ depth, 4 ≤ depth → (evaluate depth (restoring a b)).answer machine = .ok (.int a) ∧
          machine.Undisturbed ((evaluate depth (restoring a b)).after machine)) := by
  refine ⟨fun name divides => divisionByZero_iff divides a b, ?_⟩
  intro nonzero t r
  have truncated : Truncated a b t r := .of_nonzero a nonzero
  refine ⟨⟨truncated, fun t' r' other => other.unique truncated⟩, ?_, ?_, ?_⟩
  · rw [dispatch_remainder a nonzero, Word64.wrap_tmod a divisor nonzero]
  · rw [dispatch_divide a nonzero, Word64.wrap_tdiv dividend nonzero]
  · intro machine unbound depth enough
    have offers : machine.Offers [.add, .multiply, .divide, .remainder] := by
      intro p listed
      exact unbound p.name (List.mem_map_of_mem listed)
    obtain ⟨further, rfl⟩ := Nat.exists_eq_add_of_le' enough
    exact computes_restoring dividend nonzero further machine offers

theorem least_restored_from_wrapped_quotient :
    let machine : Machine := { frames := [{ name := "main" }] }
    Word64.InRange Word64.least ∧ Word64.InRange (-1) ∧
      dispatch "/" [.int Word64.least, .int (-1)] = .ok ⟨.int Word64.least, []⟩ ∧
      dispatch "%" [.int Word64.least, .int (-1)] = .ok ⟨.int 0, []⟩ ∧
      (evaluate 4 (restoring Word64.least (-1))).answer machine = .ok (.int Word64.least) := by
  intro machine
  have dividend : Word64.InRange Word64.least := by decide
  have divisor : Word64.InRange (-1) := by decide
  obtain ⟨_, divided⟩ := division_restores_dividend dividend divisor
  obtain ⟨_, remainder, quotient, restored⟩ := divided (by decide)
  have unbound : ∀ name ∈ ["+", "*", "/", "%"], machine.lookup name = none := fun _ _ => rfl
  exact ⟨dividend, divisor, quotient, remainder, (restored machine unbound 4 (by decide)).1⟩

end CurryScript
