import CurryScript.Proofs.Simulation

/-!
Arithmetic of integers. Sums, differences and products wrap at every step, and what comes out is the
exact result wrapped once, so it makes no difference where an intermediate result leaves the range.
-/
namespace CurryScript

namespace Machine

/-- Nothing has happened, except that a machine that debugs has recorded events. -/
structure Undisturbed (machine left : Machine) : Prop where
  rest : left = { machine with trace := left.trace }
  silent : machine.debug = false → left = machine

theorem Undisturbed.refl (machine : Machine) : machine.Undisturbed machine := ⟨rfl, fun _ => rfl⟩

theorem Undisturbed.trans {first second third : Machine} (one : first.Undisturbed second)
    (two : second.Undisturbed third) : first.Undisturbed third := by
  constructor
  · rw [two.rest, one.rest]
  · intro quiet
    have middle := one.silent quiet
    rw [two.silent (middle ▸ quiet), middle]

theorem undisturbed_note (machine : Machine) (event : TraceEvent) :
    machine.Undisturbed (machine.note event) := by
  unfold note
  split
  · next debugs => exact ⟨rfl, fun quiet => absurd debugs (by simp [quiet])⟩
  · exact .refl machine

theorem Undisturbed.lookup {machine left : Machine} (undisturbed : machine.Undisturbed left)
    (name : String) : left.lookup name = machine.lookup name := by
  rw [undisturbed.rest]
  rfl

def Offers (machine : Machine) (primitives : List Primitive) : Prop :=
  ∀ p ∈ primitives, machine.lookup p.name = none

theorem Offers.undisturbed {machine left : Machine} {primitives : List Primitive}
    (offers : machine.Offers primitives) (undisturbed : machine.Undisturbed left) :
    left.Offers primitives := by
  intro p listed
  rw [undisturbed.lookup]
  exact offers p listed

end Machine

namespace Eval

theorem eq_ok_of_answer {α : Type} {action : Eval α} {machine : Machine} {value : α}
    (answered : action.answer machine = .ok value) :
    action machine = .ok value (action.after machine) := by
  unfold answer at answered
  split at answered
  · next left outcome =>
    cases answered
    rw [after_ok outcome, outcome]
  · cases answered

theorem eq_error_of_answer {α : Type} {action : Eval α} {machine : Machine} {halt : Halt}
    (answered : action.answer machine = .error halt) :
    action machine = .error halt (action.after machine) := by
  unfold answer at answered
  split at answered
  · cases answered
  · next left outcome =>
    cases answered
    rw [after_error outcome, outcome]

/-- A computation has one answer on all machines that offer some primitives, and it does nothing to
them. -/
def Computes {α : Type} (primitives : List Primitive) (action : Eval α) (result : Except Halt α) :
    Prop :=
  ∀ machine : Machine, machine.Offers primitives →
    action.answer machine = result ∧ machine.Undisturbed (action.after machine)

section

variable {primitives : List Primitive}

theorem Computes.pure {α : Type} (value : α) : Computes primitives (pure value) (.ok value) :=
  fun machine _ => ⟨rfl, .refl machine⟩

theorem Computes.bind {α β : Type} {action : Eval α} {next : α → Eval β} {value : α}
    {result : Except Halt β} (first : Computes primitives action (.ok value))
    (rest : Computes primitives (next value) result) :
    Computes primitives (action >>= next) result := by
  intro machine offers
  obtain ⟨answered, undisturbed⟩ := first machine offers
  obtain ⟨finished, further⟩ := rest _ (offers.undisturbed undisturbed)
  have same := eq_ok_of_answer answered
  rw [after_bind_of_ok same]
  refine ⟨?_, undisturbed.trans further⟩
  rw [answer, bind_of_ok same]
  exact finished

theorem Computes.bind_halted {α β : Type} {action : Eval α} {next : α → Eval β} {halt : Halt}
    (first : Computes primitives action (.error halt)) :
    Computes primitives (action >>= next) (.error halt) := by
  intro machine offers
  obtain ⟨answered, undisturbed⟩ := first machine offers
  have halted : (action >>= next) machine = .error halt (action.after machine) :=
    bind_of_error (eq_error_of_answer answered)
  rw [answer, after_error halted, halted]
  exact ⟨rfl, undisturbed⟩

variable {depth : Nat} {first second : Expr} {a b value : Value} {halt : Halt}

theorem computes_zero (expr : Expr) : Computes primitives (evaluate 0 expr) (.error .tooDeep) :=
  fun machine _ => ⟨rfl, .refl machine⟩

theorem computes_literal (literal : Literal) :
    Computes primitives (evaluate (depth + 1) (.literal literal)) (.ok (.ofLiteral literal)) :=
  .pure _

theorem name_ordinary (p : Primitive) : p.name ≠ "," ∧ isUnderscoreName p.name = false := by
  cases p <;> decide

theorem computes_primitive {p : Primitive} {args : List Value}
    (answered : dispatch p.name args = .ok ⟨value, []⟩) :
    Computes primitives (primitive p.name args) (.ok value) := by
  intro machine _
  have called : primitive p.name args machine =
      .ok value (machine.note (.primitive p.name args.length)) := by
    unfold primitive
    rw [answered]
    rfl
  rw [answer, after_ok called, called]
  exact ⟨rfl, machine.undisturbed_note _⟩

theorem computes_call {p : Primitive} (listed : p ∈ primitives)
    (left : Computes primitives (evaluate depth first) (.ok a))
    (right : Computes primitives (evaluate depth second) (.ok b))
    (answered : dispatch p.name [a, b] = .ok ⟨value, []⟩) :
    Computes primitives (evaluate (depth + 1) (.call p.name [first, second])) (.ok value) := by
  have operands : Computes primitives ([first, second].mapM (evaluate depth)) (.ok [a, b]) := by
    rw [List.mapM_cons, List.mapM_cons]
    exact left.bind ((right.bind (.pure [b])).bind (.pure [a, b]))
  refine operands.bind fun machine offers => ?_
  have looked : (get : Eval Machine) machine = .ok machine machine := rfl
  have ordinary := name_ordinary p
  rw [answer, after, bind_of_ok looked, offers p listed]
  simp only [ordinary.1, ordinary.2, if_false]
  exact computes_primitive answered machine offers

theorem computes_call_halted_left (name : String)
    (left : Computes primitives (evaluate depth first) (.error halt)) :
    Computes primitives (evaluate (depth + 1) (.call name [first, second])) (.error halt) := by
  rw [evaluate, call, List.mapM_cons]
  exact left.bind_halted.bind_halted

theorem computes_call_halted_right (name : String)
    (left : Computes primitives (evaluate depth first) (.ok a))
    (right : Computes primitives (evaluate depth second) (.error halt)) :
    Computes primitives (evaluate (depth + 1) (.call name [first, second])) (.error halt) := by
  rw [evaluate, call, List.mapM_cons, List.mapM_cons]
  exact (left.bind right.bind_halted.bind_halted).bind_halted

end

end Eval

inductive Operator where
  | plus
  | minus
  | times
  deriving DecidableEq, Repr

namespace Operator

def primitive : Operator → Primitive
  | .plus => .add
  | .minus => .subtract
  | .times => .multiply

def apply : Operator → Int → Int → Int
  | .plus, a, b => a + b
  | .minus, a, b => a - b
  | .times, a, b => a * b

def primitives : List Primitive := [.add, .subtract, .multiply]

theorem primitive_mem (op : Operator) : op.primitive ∈ primitives := by
  cases op <;> decide

theorem dispatch_eq (op : Operator) (a b : Int) :
    dispatch op.primitive.name [.int a, .int b] =
      .ok ⟨.int (Word64.wrap (op.apply a b)), []⟩ := by
  cases op <;> rfl

theorem wrap_apply (op : Operator) (a b : Int) :
    Word64.wrap (op.apply (Word64.wrap a) (Word64.wrap b)) = Word64.wrap (op.apply a b) := by
  simp only [Word64.wrap_eq_bmod]
  cases op with
  | plus => exact (Int.add_bmod a b _).symm
  | minus => exact (Int.sub_bmod a b _).symm
  | times => exact (Int.mul_bmod a b _).symm

end Operator

/-- Calls of the operators, nested at will, over literals of 64 bits. -/
inductive IntegerTree where
  | literal (n : Int) (inRange : Word64.InRange n)
  | call (op : Operator) (left right : IntegerTree)

namespace IntegerTree

def toExpr : IntegerTree → Expr
  | .literal n _ => .literal (.int n)
  | .call op left right => .call op.primitive.name [left.toExpr, right.toExpr]

def value : IntegerTree → Int
  | .literal n _ => n
  | .call op left right => op.apply left.value right.value

def height : IntegerTree → Nat
  | .literal .. => 1
  | .call _ left right => max left.height right.height + 1

open Eval

theorem computes (tree : IntegerTree) (depth : Nat) :
    Computes Operator.primitives (evaluate depth tree.toExpr)
      (if tree.height ≤ depth then .ok (.int (Word64.wrap tree.value)) else .error .tooDeep) := by
  induction tree generalizing depth with
  | literal n inRange =>
    cases depth with
    | zero => exact computes_zero _
    | succ depth =>
      rw [value, height, Word64.wrap_of_inRange inRange, if_pos (Nat.le_add_left 1 depth)]
      exact computes_literal (.int n)
  | call op left right ihLeft ihRight =>
    cases depth with
    | zero => exact computes_zero _
    | succ depth =>
      have first := ihLeft depth
      have second := ihRight depth
      have higher : (call op left right).height ≤ depth + 1 ↔
          left.height ≤ depth ∧ right.height ≤ depth := by
        rw [height, Nat.add_le_add_iff_right, Nat.max_le]
      -- The left operand comes first, so a tree that is too high on both sides is cut off there.
      by_cases deepLeft : left.height ≤ depth
      · rw [if_pos deepLeft] at first
        by_cases deepRight : right.height ≤ depth
        · rw [if_pos deepRight] at second
          rw [if_pos (higher.mpr ⟨deepLeft, deepRight⟩), value, ← op.wrap_apply]
          exact computes_call op.primitive_mem first second (op.dispatch_eq _ _)
        · rw [if_neg deepRight] at second
          rw [if_neg fun both => deepRight (higher.mp both).2]
          exact computes_call_halted_right _ first second
      · rw [if_neg deepLeft] at first
        rw [if_neg fun both => deepLeft (higher.mp both).1]
        exact computes_call_halted_left _ first

end IntegerTree

/-- A tree of sums, differences and products comes to its exact value, wrapped: the one integer of
64 bits that is congruent to it. Nothing else happens, and only a tree that is higher than
evaluations may nest is cut off. -/
theorem integer_tree_computes_modulo (tree : IntegerTree) {machine : Machine}
    (unbound : ∀ op : Operator, machine.lookup op.primitive.name = none) (depth : Nat) :
    let n := Word64.wrap tree.value
    ((evaluate depth tree.toExpr).answer machine =
        if tree.height ≤ depth then .ok (.int n) else .error .tooDeep) ∧
      machine.Undisturbed ((evaluate depth tree.toExpr).after machine) ∧
      (Word64.InRange n ∧ n % 0x10000000000000000 = tree.value % 0x10000000000000000) ∧
      ∀ m, Word64.InRange m → m % 0x10000000000000000 = tree.value % 0x10000000000000000 →
        m = n := by
  intro n
  have offers : machine.Offers Operator.primitives := by
    intro p listed
    simp only [Operator.primitives, List.mem_cons, List.not_mem_nil, or_false] at listed
    rcases listed with rfl | rfl | rfl
    · exact unbound .plus
    · exact unbound .minus
    · exact unbound .times
  obtain ⟨answered, undisturbed⟩ := tree.computes depth machine offers
  refine ⟨answered, undisturbed, ⟨Word64.wrap_inRange _, Word64.wrap_emod _⟩, ?_⟩
  intro m inRange congruent
  exact Word64.eq_wrap_of_emod inRange congruent

/-- The script `*[+[9223372036854775807 1] -[-9223372036854775808 1]]`: both operands of the product
have wrapped, and it wraps again. -/
theorem product_of_wrapped_operands :
    let tree : IntegerTree := .call .times
      (.call .plus (.literal Word64.greatest (by decide)) (.literal 1 (by decide)))
      (.call .minus (.literal Word64.least (by decide)) (.literal 1 (by decide)))
    let machine : Machine := { frames := [{ name := "main", bindings := [("f", ⟨none, [], none⟩)] }] }
    tree.value = (Word64.greatest + 1) * (Word64.least - 1) ∧
      (∀ op : Operator, machine.lookup op.primitive.name = none) ∧
      (evaluate 3 tree.toExpr).answer machine = .ok (.int Word64.least) := by
  intro tree machine
  have unbound : ∀ op : Operator, machine.lookup op.primitive.name = none := by
    intro op
    cases op <;> rfl
  have wrapped : Word64.wrap tree.value = Word64.least := rfl
  obtain ⟨answered, _⟩ := integer_tree_computes_modulo tree unbound 3
  rw [wrapped] at answered
  exact ⟨rfl, unbound, answered⟩

end CurryScript
