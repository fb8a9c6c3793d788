import Mathlib.Data.List.Forall2
import CurryScript.Proofs.Answers

/-!
The equality that scripts see. It holds of two values just when they match: they are built in the same
way from equal atoms, with floats compared as numbers. A function or an exception matches nothing, and
neither does what is not a number, so matching is symmetric and transitive but not reflexive.
-/
namespace CurryScript

open Float.Model

/-- Floats of one form. The two zeros are the same number, and what is not a number is none. -/
def SameNumber : UnpackedFloat → UnpackedFloat → Prop
  | .infinity sign, .infinity sign' => sign = sign'
  | .zero _, .zero _ => True
  | .finite sign mantissa exponent _, .finite sign' mantissa' exponent' _ =>
    sign = sign' ∧ exponent = exponent' ∧ mantissa = mantissa'
  | _, _ => False

theorem beq_iff_sameNumber (x y : Float) :
    (x == y) = true ↔ SameNumber x.toModel.unpack y.toModel.unpack := by
  change x.toModel.unpack.beq y.toModel.unpack = true ↔ _
  generalize x.toModel.unpack = a, y.toModel.unpack = b
  have positive : compare UnpackedFloat.Sign.positive .positive = .eq := rfl
  have negative : compare UnpackedFloat.Sign.negative .negative = .eq := rfl
  unfold UnpackedFloat.beq UnpackedFloat.compare SameNumber
  rcases a with (_ | _) | _ | _ | ⟨_ | _, _, _, _⟩ <;>
    rcases b with (_ | _) | _ | _ | ⟨_ | _, _, _, _⟩ <;>
    dsimp only <;> simp [positive, negative]

theorem beq_symm_of_float {x y : Float} (same : (x == y) = true) : (y == x) = true := by
  rw [beq_iff_sameNumber] at same ⊢
  generalize x.toModel.unpack = a, y.toModel.unpack = b at same ⊢
  unfold SameNumber at same ⊢
  cases a <;> cases b <;> dsimp only at same ⊢ <;> simp_all

theorem beq_trans_of_float {x y z : Float} (one : (x == y) = true) (two : (y == z) = true) :
    (x == z) = true := by
  rw [beq_iff_sameNumber] at one two ⊢
  generalize x.toModel.unpack = a, y.toModel.unpack = b, z.toModel.unpack = c at one two ⊢
  unfold SameNumber at one two ⊢
  cases a <;> cases b <;> dsimp only at one <;> cases c <;> dsimp only at two ⊢ <;> simp_all

namespace Value

/-- A value is found in another as the value itself or as an item of its lists, at any depth. What
an exception holds is not found this way. -/
inductive Listed (part : Value) : Value → Prop
  | self : Listed part part
  | item {items : List Value} {item : Value} (member : item ∈ items) (inside : Listed part item) :
      Listed part (.list items)

def isIncomparable : Value → Bool
  | .function _ | .exception .. => true
  | _ => false

inductive Matches : Value → Value → Prop
  | bool (value : Bool) : Matches (.bool value) (.bool value)
  | int (value : Int) : Matches (.int value) (.int value)
  | float {x y : Float} (same : (x == y) = true) : Matches (.float x) (.float y)
  | text (value : String) : Matches (.text value) (.text value)
  | list {items others : List Value} (each : List.Forall₂ Matches items others) :
      Matches (.list items) (.list others)

theorem Matches.isException_eq_false {a b : Value} (found : a.Matches b) :
    a.isException = false ∧ b.isException = false := by
  cases found <;> exact ⟨rfl, rfl⟩

mutual

theorem matches_of_equal {a b : Value} (yes : a.equal b = .ok true) : a.Matches b := by
  unfold equal at yes
  split at yes
  · contradiction
  · contradiction
  · simp at yes
    subst yes
    exact .bool _
  · simp at yes
    subst yes
    exact .int _
  · simp at yes
    exact .float yes
  · simp at yes
    subst yes
    exact .text _
  · split at yes
    · next sameLength => exact .list (matches_of_equalAll sameLength yes)
    · contradiction
  · contradiction

theorem matches_of_equalAll {as bs : List Value} (sameLength : as.length = bs.length)
    (yes : equalAll as bs = .ok true) : List.Forall₂ Matches as bs := by
  unfold equalAll at yes
  split at yes
  · split at yes
    · contradiction
    · split at yes
      · next first =>
        exact .cons (matches_of_equal first) (matches_of_equalAll (Nat.succ.inj sameLength) yes)
      · next other => exact absurd yes other
  · next ended =>
    cases as <;> cases bs <;> simp at sameLength
    · exact .nil
    · exact absurd rfl (ended _ _ _ _ rfl)

end

mutual

theorem Matches.equal : ∀ {a b : Value}, a.Matches b → a.equal b = .ok true
  | _, _, .bool _ | _, _, .int _ | _, _, .text _ => by simp [Value.equal]
  | _, _, .float same => by simp [Value.equal, same]
  | .list _, _, .list each => by rw [Value.equal, if_pos each.length_eq, equalAll_of_matches each]

theorem equalAll_of_matches : ∀ {as bs : List Value}, List.Forall₂ Matches as bs →
    equalAll as bs = .ok true
  | [], _, .nil => rfl
  | _ :: _, _, .cons first rest => by
    obtain ⟨left, right⟩ := first.isException_eq_false
    rw [equalAll, left, right, first.equal]
    exact equalAll_of_matches rest

end

theorem equal_iff_matches {a b : Value} : a.equal b = .ok true ↔ a.Matches b :=
  ⟨matches_of_equal, Matches.equal⟩

mutual

theorem Matches.symm : ∀ {a b : Value}, a.Matches b → b.Matches a
  | _, _, .bool value => .bool value
  | _, _, .int value => .int value
  | _, _, .float same => .float (beq_symm_of_float same)
  | _, _, .text value => .text value
  | .list _, _, .list each => .list (matchesAll_symm each)

theorem matchesAll_symm : ∀ {as bs : List Value}, List.Forall₂ Matches as bs →
    List.Forall₂ Matches bs as
  | [], _, .nil => .nil
  | _ :: _, _, .cons first rest => .cons first.symm (matchesAll_symm rest)

end

mutual

theorem Matches.trans : ∀ {a b c : Value}, a.Matches b → b.Matches c → a.Matches c
  | _, _, _, .bool value, .bool _ => .bool value
  | _, _, _, .int value, .int _ => .int value
  | _, _, _, .float one, .float two => .float (beq_trans_of_float one two)
  | _, _, _, .text value, .text _ => .text value
  | .list _, _, _, .list one, .list two => .list (matchesAll_trans one two)

theorem matchesAll_trans : ∀ {as bs cs : List Value}, List.Forall₂ Matches as bs →
    List.Forall₂ Matches bs cs → List.Forall₂ Matches as cs
  | [], _, _, .nil, .nil => .nil
  | _ :: _, _, _, .cons one ones, .cons two twos => .cons (one.trans two) (matchesAll_trans ones twos)

end

theorem Matches.listed {part whole : Value} (found : whole.Matches whole)
    (inside : part.Listed whole) : part.Matches part := by
  induction inside with
  | self => exact found
  | item member _ ih =>
    cases found with
    | list each => exact ih (List.forall₂_same.mp each _ member)

def Comparable (value : Value) : Prop :=
  ∀ part : Value, part.Listed value → part.isIncomparable = false

theorem Comparable.item {items : List Value} (clear : Comparable (.list items)) :
    ∀ item ∈ items, item.Comparable :=
  fun _ member part inside => clear part (.item member inside)

theorem Matches.comparable {a b : Value} (found : a.Matches b) : a.Comparable := by
  intro part inside
  have self := (found.trans found.symm).listed inside
  cases self <;> rfl

mutual

theorem matches_of_same {a b : Value} (proper : a.Proper) (clear : a.Comparable)
    (yes : a.same b = true) : a.Matches b := by
  unfold same at yes
  split at yes
  · simp only [decide_eq_true_eq] at yes
    subst yes
    exact .bool _
  · simp only [decide_eq_true_eq] at yes
    subst yes
    exact .int _
  · exact .float yes
  · simp only [decide_eq_true_eq] at yes
    subst yes
    exact .text _
  · exact .list (matches_of_sameAll (proper_list_iff.mp proper) clear.item yes)
  · cases clear _ .self
  · cases clear _ .self
  · cases proper _ .self
  · contradiction

theorem matches_of_sameAll {as bs : List Value} (proper : ∀ a ∈ as, a.Proper)
    (clear : ∀ a ∈ as, a.Comparable) (yes : sameAll as bs = true) :
    List.Forall₂ Matches as bs := by
  unfold sameAll at yes
  split at yes
  · exact .nil
  · rw [Bool.and_eq_true] at yes
    rw [List.forall_mem_cons] at proper clear
    exact .cons (matches_of_same proper.1 clear.1 yes.1)
      (matches_of_sameAll proper.2 clear.2 yes.2)
  · contradiction

end

mutual

theorem Matches.same : ∀ {a b : Value}, a.Matches b → a.same b = true
  | _, _, .bool _ | _, _, .int _ | _, _, .text _ => by simp [Value.same]
  | _, _, .float same => by simp [Value.same, same]
  | .list _, _, .list each => by rw [Value.same, sameAll_of_matches each]

theorem sameAll_of_matches : ∀ {as bs : List Value}, List.Forall₂ Matches as bs →
    sameAll as bs = true
  | [], _, .nil => rfl
  | _ :: _, _, .cons first rest => by rw [sameAll, first.same, sameAll_of_matches rest]; rfl

end

mutual

theorem matches_self : ∀ {value : Value}, value.Proper → value.Comparable →
    (∀ x, Listed (.float x) value → (x == x) = true) → value.Matches value
  | .bool value, _, _, _ => .bool value
  | .int value, _, _, _ => .int value
  | .float _, _, _, numbers => .float (numbers _ .self)
  | .text value, _, _, _ => .text value
  | .list _, proper, clear, numbers =>
    .list (matchesAll_self (proper_list_iff.mp proper) clear.item fun _ member x inside =>
      numbers x (.item member inside))
  | .function _, _, clear, _ | .exception .., _, clear, _ => nomatch clear _ .self
  | .void, proper, _, _ => nomatch proper _ .self

theorem matchesAll_self : ∀ {items : List Value}, (∀ item ∈ items, item.Proper) →
    (∀ item ∈ items, item.Comparable) →
    (∀ item ∈ items, ∀ x, Listed (.float x) item → (x == x) = true) →
    List.Forall₂ Matches items items
  | [], _, _, _ => .nil
  | item :: items, proper, clear, numbers => by
    rw [List.forall_mem_cons] at proper clear numbers
    exact .cons (matches_self proper.1 clear.1 numbers.1)
      (matchesAll_self proper.2 clear.2 numbers.2)

end

mutual

theorem exists_equal {a b : Value} (proper : a.Proper) (proper' : b.Proper) :
    ∃ answer, a.equal b = .ok answer := by
  unfold equal
  split
  · cases proper _ .self
  · cases proper' _ .self
  · exact ⟨_, rfl⟩
  · exact ⟨_, rfl⟩
  · exact ⟨_, rfl⟩
  · exact ⟨_, rfl⟩
  · split
    · exact exists_equalAll (proper_list_iff.mp proper) (proper_list_iff.mp proper')
    · exact ⟨_, rfl⟩
  · exact ⟨_, rfl⟩

theorem exists_equalAll {as bs : List Value} (proper : ∀ a ∈ as, a.Proper)
    (proper' : ∀ b ∈ bs, b.Proper) : ∃ answer, equalAll as bs = .ok answer := by
  unfold equalAll
  split
  · rw [List.forall_mem_cons] at proper proper'
    split
    · exact ⟨_, rfl⟩
    · split
      · exact exists_equalAll proper.2 proper'.2
      · exact exists_equal proper.1 proper'.1
  · exact ⟨_, rfl⟩

end

def Equals (a b : Value) : Prop := dispatch "=" [a, b] = .ok ⟨.bool true, []⟩

theorem dispatch_equal {a b : Value} (plain : a.isException = false)
    (plain' : b.isException = false) :
    dispatch "=" [a, b] = (a.equal b).map (⟨.bool ·, []⟩) := by
  have known : Primitive.ofName? "=" = some .equal := rfl
  simp [dispatch, known, Primitive.observesExceptions, Primitive.apply, plain, plain']

theorem equals_iff_matches {a b : Value} : a.Equals b ↔ a.Matches b := by
  unfold Equals
  constructor
  · intro yes
    have known : Primitive.ofName? "=" = some .equal := rfl
    cases left : a.isException with
    | true =>
      simp [dispatch, known, Primitive.observesExceptions, left] at yes
      rw [yes] at left
      contradiction
    | false =>
      cases right : b.isException with
      | true =>
        simp [dispatch, known, Primitive.observesExceptions, left, right] at yes
        rw [yes] at right
        contradiction
      | false =>
        rw [dispatch_equal left right] at yes
        cases compared : a.equal b with
        | error halt => rw [compared] at yes; cases yes
        | ok answer =>
          rw [compared] at yes
          cases yes
          exact matches_of_equal compared
  · intro found
    obtain ⟨plain, plain'⟩ := found.isException_eq_false
    rw [dispatch_equal plain plain', found.equal]
    rfl

end Value

theorem equality_agrees_with_sameness :
    (∀ a b : Value, a.Proper → b.Proper → a.isException = false → b.isException = false →
      ∃ answer, dispatch "=" [a, b] = .ok ⟨.bool answer, []⟩ ∧
        (answer = true ↔ a.same b = true ∧
          ∀ part : Value, part.Listed a → part.isIncomparable = false)) ∧
    (∀ a b : Value, a.Equals b → b.Equals a) ∧
    (∀ a b c : Value, a.Equals b → b.Equals c → a.Equals c) ∧
    ∀ a : Value, a.Proper → (a.Equals a ↔
      ∀ part : Value, part.Listed a →
        part.isIncomparable = false ∧ ∀ x, part = .float x → (x == x) = true) := by
  simp only [Value.equals_iff_matches]
  refine ⟨fun a b proper proper' plain plain' => ?_, fun a b => Value.Matches.symm,
    fun a b c => Value.Matches.trans, fun a proper => ?_⟩
  · obtain ⟨answer, compared⟩ := Value.exists_equal proper proper'
    refine ⟨answer, by rw [Value.dispatch_equal plain plain', compared]; rfl, ?_⟩
    have matched : answer = true ↔ a.Matches b := by
      rw [← Value.equal_iff_matches, compared]
      simp
    rw [matched]
    exact ⟨fun found => ⟨found.same, found.comparable⟩,
      fun ⟨same, clear⟩ => Value.matches_of_same proper clear same⟩
  · constructor
    · intro found part inside
      have self := found.listed inside
      refine ⟨found.comparable part inside, ?_⟩
      rintro x rfl
      cases self with
      | float same => exact same
    · intro each
      exact Value.matches_self proper (fun part inside => (each part inside).1)
        fun x inside => (each _ inside).2 x rfl

/-- Both zeros are one number, and a function differs from itself. -/
theorem zeros_equal_and_functions_not :
    let zeros : Value := .list [.int 1, .list [.float 0.0]]
    let others : Value := .list [.int 1, .list [.float (-0.0)]]
    let functions : Value := .list [.function { name := none, body := [] }]
    zeros.Proper ∧ others.Proper ∧ functions.Proper ∧
      dispatch "=" [zeros, others] = .ok ⟨.bool true, []⟩ ∧ others.Equals zeros ∧
      zeros.same others = true ∧ ¬ functions.Equals functions := by
  intro zeros others functions
  obtain ⟨agree, symmetric, -, reflexive⟩ := equality_agrees_with_sameness
  have atoms (x : Float) : (Value.list [.int 1, .list [.float x]]).Proper := by
    simpa [Value.proper_list_iff] using
      And.intro (Value.proper_of_atom rfl rfl) (Value.proper_of_atom rfl rfl)
  have proper : functions.Proper := by
    simpa [functions, Value.proper_list_iff] using Value.proper_of_atom rfl rfl
  have called : dispatch "=" [zeros, others] = .ok ⟨.bool true, []⟩ := rfl
  obtain ⟨answer, called', decided⟩ := agree zeros others (atoms _) (atoms _) rfl rfl
  cases called.symm.trans called'
  refine ⟨atoms _, atoms _, proper, called, symmetric _ _ called, (decided.mp rfl).1, ?_⟩
  intro equal
  have clear := (reflexive functions proper).mp equal _ (.item (List.mem_cons_self ..) .self)
  cases clear.1

end CurryScript
