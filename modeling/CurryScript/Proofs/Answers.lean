import CurryScript.Primitive.Answer
import CurryScript.Proofs.Truncation

/-!
What primitives answer with. An answer is composed of parts of the arguments, or it is an exception
that the primitive itself raises.
-/
namespace CurryScript

namespace Value

/-- A value is found in another: as the value itself, among the items of a list, or in the payload
of an exception, at any depth. -/
inductive Within (part : Value) : Value → Prop
  | self : Within part part
  | item {items : List Value} {item : Value} (member : item ∈ items) (inside : Within part item) :
      Within part (.list items)
  | payload {flavor : Flavor} {payload : Value} {stack : List String}
      (inside : Within part payload) : Within part (.exception flavor payload stack)

def Everywhere (p : Value → Prop) (value : Value) : Prop := ∀ part, Within part value → p part

theorem Within.trans {part middle whole : Value} (inner : Within part middle)
    (outer : Within middle whole) : Within part whole := by
  induction outer with
  | self => exact inner
  | item member _ ih => exact .item member ih
  | payload _ ih => exact .payload ih

theorem Everywhere.of_within {p : Value → Prop} {part whole : Value} (each : Everywhere p whole)
    (inside : Within part whole) : Everywhere p part :=
  fun _ inner => each _ (inner.trans inside)

theorem everywhere_list {p : Value → Prop} {items : List Value} (self : p (.list items))
    (each : ∀ item ∈ items, Everywhere p item) : Everywhere p (.list items) := by
  intro part inside
  cases inside with
  | self => exact self
  | item member inside => exact each _ member part inside

theorem everywhere_exception {p : Value → Prop} {flavor : Flavor} {payload : Value}
    {stack : List String} (self : p (.exception flavor payload stack))
    (inner : Everywhere p payload) : Everywhere p (.exception flavor payload stack) := by
  intro part inside
  cases inside with
  | self => exact self
  | payload inside => exact inner part inside

def isAtom : Value → Bool
  | .list _ | .exception .. => false
  | _ => true

theorem everywhere_atom {p : Value → Prop} {value : Value} (atom : value.isAtom = true)
    (self : p value) : Everywhere p value := by
  intro part inside
  cases inside with
  | self => exact self
  | item | payload => cases atom

def Proper (value : Value) : Prop := value.Everywhere (·.kind?.isSome = true)

theorem proper_list_iff {items : List Value} :
    Proper (.list items) ↔ ∀ item ∈ items, item.Proper :=
  ⟨fun proper _ member => proper.of_within (.item member .self), everywhere_list rfl⟩

theorem proper_of_atom {value : Value} (atom : value.isAtom = true)
    (known : value.kind?.isSome = true) : value.Proper :=
  everywhere_atom atom known

/-- The values that are found in sources, the atoms that are not functions, and the lists of
these. An integer is one of 64 bits, or it is the length of a text. -/
inductive Composed (sources : List Value) : Value → Prop
  | part {source part : Value} (member : source ∈ sources) (inside : Within part source) :
      Composed sources part
  | bool (value : Bool) : Composed sources (.bool value)
  | int {value : Int} (inRange : Word64.InRange value) : Composed sources (.int value)
  | length {text : String} (member : .text text ∈ sources) : Composed sources (.int text.length)
  | float (value : Float) : Composed sources (.float value)
  | text (value : String) : Composed sources (.text value)
  | list {items : List Value} (each : ∀ item ∈ items, Composed sources item) :
      Composed sources (.list items)

theorem Composed.of_mem {sources : List Value} {value : Value} (member : value ∈ sources) :
    Composed sources value :=
  .part member .self

end Value

def Flavor.isFault : Flavor → Bool
  | .earlyReturn | .error | .redefinition => false
  | _ => true

/-- How the call of a name that no frame binds can be answered: with a composed value, with a fault
of its own, or with an exception around an argument. -/
inductive Answered (name : String) (sources : List Value) : Value → Prop
  | composed {value : Value} (made : value.Composed sources) : Answered name sources value
  | fault {flavor : Flavor} (own : flavor.isFault = true) (message : String) :
      Answered name sources (.fault flavor name message)
  | raised {payload : Value} (member : payload ∈ sources) (plain : payload.isException = false)
      (named : name = Primitive.raise.name) : Answered name sources (.exception .error payload [])
  | returned {payload : Value} (member : payload ∈ sources) (plain : payload.isException = false)
      (named : name = Primitive.earlyReturn.name) :
      Answered name sources (.exception .earlyReturn payload [])

theorem Value.Composed.mono {sources larger : List Value} {value : Value}
    (made : value.Composed sources) (more : ∀ {source}, source ∈ sources → source ∈ larger) :
    value.Composed larger := by
  induction made with
  | part member inside => exact .part (more member) inside
  | bool value => exact .bool value
  | int inRange => exact .int inRange
  | length member => exact .length (more member)
  | float value => exact .float value
  | text value => exact .text value
  | list _ ih => exact .list ih

theorem Answered.mono {name : String} {sources larger : List Value} {value : Value}
    (answered : Answered name sources value)
    (more : ∀ {source}, source ∈ sources → source ∈ larger) : Answered name larger value := by
  cases answered with
  | composed made => exact .composed (made.mono more)
  | fault own message => exact .fault own message
  | raised member plain named => exact .raised (more member) plain named
  | returned member plain named => exact .returned (more member) plain named

namespace Primitive
open Value

theorem answered_typeFault (p : Primitive) (message : String) (args : List Value) :
    Answered p.name args (p.typeFault message) :=
  .fault rfl message

theorem answered_countFault (name : String) (expected given : Nat) (args : List Value) :
    Answered name args (countFault name expected given) :=
  .fault rfl _

theorem answered_onFloats (p : Primitive) {f : Float → Float → Value} {args : List Value}
    (each : ∀ x y, (f x y).Composed args) (a b : Value) :
    Answered p.name args (p.onFloats f a b) := by
  unfold onFloats
  split
  · exact .composed (each _ _)
  · exact answered_typeFault p _ args

theorem answered_arithmetic (p : Primitive) (onInts : Int → Int → Int) (op : Float → Float → Float)
    (a b : Value) (args : List Value) : Answered p.name args (p.arithmetic onInts op a b) := by
  unfold arithmetic
  split
  · exact .composed (.int (Word64.wrap_inRange _))
  · exact answered_onFloats p (fun _ _ => .float _) _ _

theorem answered_compare (p : Primitive) (onInts : Int → Int → Bool) (op : Float → Float → Bool)
    (a b : Value) (args : List Value) : Answered p.name args (p.compare onInts op a b) := by
  unfold compare
  split
  · exact .composed (.bool _)
  · exact answered_onFloats p (fun _ _ => .bool _) _ _

theorem answered_sum (a b : Value) : Answered add.name [a, b] (sum a b) := by
  unfold sum
  split
  · exact .composed (.text _)
  · exact .fault rfl _
  · next xs ys =>
    refine .composed (.list fun item member => ?_)
    rcases List.mem_append.mp member with left | right
    · exact .part (List.mem_cons_self ..) (.item left .self)
    · exact .part (by simp) (.item right .self)
  · exact .fault rfl _
  · split
    · exact answered_arithmetic .add _ _ _ _ _
    · exact .fault rfl _
    · exact answered_typeFault add _ _

theorem answered_quotient (a b : Value) (args : List Value) :
    Answered divide.name args (quotient a b) := by
  unfold quotient
  split
  · split
    · exact .fault rfl _
    · exact .composed (.int (Word64.wrap_inRange _))
  · exact answered_onFloats divide (fun _ _ => .float _) _ _

theorem answered_modulus (a b : Value) (args : List Value) :
    Answered remainder.name args (modulus a b) := by
  unfold modulus
  split
  · split
    · exact .fault rfl _
    · exact .composed (.int (Word64.wrap_inRange _))
  · exact answered_typeFault remainder _ _

theorem answered_slice (s start length : Value) (args : List Value) :
    Answered textSlice.name args (slice s start length) := by
  unfold slice
  split
  · split
    · exact .fault rfl _
    · exact .composed (.text _)
  · exact answered_typeFault textSlice _ _
  · exact answered_typeFault textSlice _ _
  · exact answered_typeFault textSlice _ _

theorem answered_choice (condition a b : Value) :
    Answered choose.name [condition, a, b] (choice condition a b) := by
  unfold choice
  split
  · exact .composed (.of_mem (by simp))
  · exact .composed (.of_mem (by simp))
  · exact .composed (.of_mem (by simp))
  · exact answered_typeFault choose _ _

theorem answered_caught (x : Value) : Answered inspect.name [x] (caught x) := by
  unfold caught
  split
  · next flavor payload stack =>
    refine .composed (.list fun item member => ?_)
    simp only [Fault.toList, List.mem_cons, List.not_mem_nil, or_false] at member
    rcases member with rfl | rfl | rfl
    · exact .text _
    · exact .part (List.mem_cons_self ..) (.payload .self)
    · refine .list fun entry listed => ?_
      obtain ⟨name, _, rfl⟩ := List.mem_map.mp listed
      exact .text name
  · refine .composed (.list fun item member => ?_)
    simp only [List.mem_cons, List.not_mem_nil, or_false] at member
    rcases member with rfl | rfl
    · exact .text "ok"
    · exact .of_mem (List.mem_cons_self ..)

theorem answered_intOf {x value : Value} {args : List Value} (ok : intOf x = .ok value) :
    Answered toInt.name args value := by
  unfold intOf at ok
  split at ok
  · cases ok
    exact .composed (.int (Word64.truncate_inRange _))
  · split at ok
    · next read =>
      cases ok
      exact .composed (.int (Numeral.inRange_of_integer? read))
    · cases ok
      exact .fault rfl _
    · cases ok
  · cases ok
    exact answered_typeFault toInt _ _

theorem answered_floatOf {x value : Value} {args : List Value} (ok : floatOf x = .ok value) :
    Answered toFloat.name args value := by
  unfold floatOf at ok
  split at ok
  · cases ok
    exact .composed (.float _)
  · split at ok <;> cases ok
    · exact .composed (.float _)
    · exact .fault rfl _
  · cases ok
    exact answered_typeFault toFloat _ _

theorem answered_answer (p : Primitive) (args : List Value)
    (plain : p.observesExceptions = false → ∀ arg ∈ args, arg.isException = false) :
    Answered p.name args (apply.answer p args) := by
  unfold apply.answer
  split
  case h_1 => exact answered_typeFault print _ _
  case h_2 => exact .composed (.text _)
  case h_3 => exact answered_sum _ _
  case h_4 => exact answered_arithmetic .subtract _ _ _ _ _
  case h_5 => exact answered_arithmetic .multiply _ _ _ _ _
  case h_6 => exact answered_quotient _ _ _
  case h_7 => exact answered_modulus _ _ _
  case h_8 => exact .composed (.bool _)
  case h_9 => exact answered_typeFault negate _ _
  case h_10 => exact .composed (.bool _)
  case h_11 => exact answered_typeFault both _ _
  case h_12 => exact .composed (.bool _)
  case h_13 => exact answered_typeFault either _ _
  case h_14 => exact answered_choice _ _ _
  case h_15 => exact answered_caught _
  case h_16 => exact .raised (List.mem_cons_self ..) (plain rfl _ (List.mem_cons_self ..)) rfl
  case h_17 => exact .returned (List.mem_cons_self ..) (plain rfl _ (List.mem_cons_self ..)) rfl
  case h_18 => exact answered_compare .greater _ _ _ _ _
  case h_19 => exact answered_compare .less _ _ _ _ _
  case h_20 => exact answered_slice _ _ _ _
  case h_21 => exact .composed (.length (List.mem_cons_self ..))
  case h_22 => exact answered_typeFault textLength _ _
  case h_23 => exact .composed (.part (List.mem_cons_self ..) (.item (List.mem_cons_self ..) .self))
  case h_24 => exact .fault rfl _
  case h_25 => exact answered_typeFault head _ _
  case h_26 items =>
    refine .composed (.list fun item member => ?_)
    exact .part (List.mem_cons_self ..) (.item (List.mem_of_mem_tail member) .self)
  case h_27 => exact answered_typeFault tail _ _
  case h_28 => exact answered_countFault _ _ _ _

theorem answered_apply {p : Primitive} {args : List Value} {reply : Reply}
    (plain : p.observesExceptions = false → ∀ arg ∈ args, arg.isException = false)
    (ok : p.apply args = .ok reply) : Answered p.name args reply.value := by
  unfold apply at ok
  split at ok
  · next x =>
    cases converted : intOf x <;> rw [converted] at ok <;> cases ok
    exact answered_intOf converted
  · next x =>
    cases converted : floatOf x <;> rw [converted] at ok <;> cases ok
    exact answered_floatOf converted
  · next a b =>
    cases compared : a.equal b <;> rw [compared] at ok <;> cases ok
    exact .composed (.bool _)
  · cases ok
    exact .composed (.bool _)
  · cases ok
    exact answered_answer p args plain

theorem name_of_ofName? {name : String} {p : Primitive} (found : ofName? name = some p) :
    p.name = name := by
  have matched := List.find?_some found
  simpa using matched

end Primitive

/-- All that the call of a name without a binding can do: pass an exception on, find the name
undefined, or apply a primitive. Only a primitive that observes exceptions is applied to one. -/
theorem dispatch_cases (name : String) (args : List Value) :
    (∃ exception ∈ args, exception.isException = true ∧
      dispatch name args = .ok ⟨exception, []⟩) ∨
    dispatch name args = .ok ⟨.fault .undefined name "function is not defined in scope", []⟩ ∨
    ∃ p : Primitive, p.name = name ∧ dispatch name args = p.apply args ∧
      (p.observesExceptions = false → ∀ arg ∈ args, arg.isException = false) := by
  unfold dispatch
  cases known : Primitive.ofName? name with
  | none =>
    cases passed : args.find? Value.isException with
    | some exception =>
      exact .inl ⟨exception, List.mem_of_find?_eq_some passed, List.find?_some passed, by simp⟩
    | none => exact .inr (.inl (by simp))
  | some p =>
    have named := Primitive.name_of_ofName? known
    cases observes : p.observesExceptions with
    | true => exact .inr (.inr ⟨p, named, by simp [observes], by simp [observes]⟩)
    | false =>
      cases passed : args.find? Value.isException with
      | some exception =>
        exact .inl ⟨exception, List.mem_of_find?_eq_some passed, List.find?_some passed,
          by simp [observes]⟩
      | none =>
        refine .inr (.inr ⟨p, named, by simp [observes], fun _ arg member => ?_⟩)
        simpa using List.find?_eq_none.mp passed arg member

theorem answered_dispatch {name : String} {args : List Value} {reply : Reply}
    (ok : dispatch name args = .ok reply) : Answered name args reply.value := by
  rcases dispatch_cases name args with
    ⟨exception, member, _, same⟩ | same | ⟨p, rfl, same, plain⟩
  · cases ok.symm.trans same
    exact .composed (.of_mem member)
  · cases ok.symm.trans same
    exact .fault rfl _
  · exact Primitive.answered_apply plain (same ▸ ok)

end CurryScript
