import Mathlib.Data.List.Forall2
import CurryScript.Proofs.Answers

/-!
Values that are alike: built in the same way, with functions in the same places. No primitive looks
into a function, so calls whose arguments are alike are answered alike.
-/
namespace CurryScript

namespace Value

/-- Values that differ in nothing but their functions, which a relation pairs. -/
inductive Alike (functions : Function → Function → Prop) : Value → Value → Prop
  | bool (value : Bool) : Alike functions (.bool value) (.bool value)
  | int (value : Int) : Alike functions (.int value) (.int value)
  | float (value : Float) : Alike functions (.float value) (.float value)
  | text (value : String) : Alike functions (.text value) (.text value)
  | void : Alike functions .void .void
  | list {items others : List Value} (each : List.Forall₂ (Alike functions) items others) :
      Alike functions (.list items) (.list others)
  | function {f g : Function} (paired : functions f g) :
      Alike functions (.function f) (.function g)
  | exception (flavor : Flavor) (stack : List String) {payload other : Value}
      (inner : Alike functions payload other) :
      Alike functions (.exception flavor payload stack) (.exception flavor other stack)

variable {functions : Function → Function → Prop}

theorem alike_ofLiteral (literal : Literal) :
    Alike functions (.ofLiteral literal) (.ofLiteral literal) := by
  cases literal with
  | bool value => exact .bool value
  | int value => exact .int value
  | float value => exact .float value
  | text value => exact .text value

theorem alike_fault (flavor : Flavor) (name message : String) :
    Alike functions (.fault flavor name message) (.fault flavor name message) :=
  .exception flavor [name] (.text message)

theorem Composed.alike {value : Value} (made : value.Composed []) :
    Alike functions value value := by
  induction made with
  | part member | length member => cases member
  | bool value => exact .bool value
  | int _ => exact .int _
  | float value => exact .float value
  | text value => exact .text value
  | list _ ih =>
    apply Alike.list
    rw [List.forall₂_same]
    exact ih

theorem alike_of_answered {name : String} {value : Value} (answered : Answered name [] value) :
    Alike functions value value := by
  cases answered with
  | composed made => exact made.alike
  | fault _ message => exact alike_fault _ name message
  | raised member | returned member => cases member

theorem Alike.isException_eq {value other : Value} (alike : Alike functions value other) :
    value.isException = other.isException := by
  cases alike <;> rfl

mutual

theorem Alike.display_eq : ∀ {value other : Value}, Alike functions value other →
    value.display = other.display
  | _, _, .bool _ | _, _, .int _ | _, _, .float _ | _, _, .text _ | _, _, .void
  | _, _, .function _ => rfl
  | .list _, _, .list each => by rw [display, display, displayEach_eq each]
  | .exception .., _, .exception _ _ inner => by rw [display, display, inner.display_eq]

theorem displayEach_eq : ∀ {items others : List Value},
    List.Forall₂ (Alike functions) items others → displayEach items = displayEach others
  | [], _, .nil => rfl
  | _ :: _, _, .cons first rest => by
    rw [displayEach, displayEach, first.display_eq, displayEach_eq rest]

end

mutual

theorem Alike.equal_eq : ∀ {a a' b b' : Value}, Alike functions a a' → Alike functions b b' →
    a.equal b = a'.equal b'
  | .list _, _, _, _, .list left, second => by
    cases second with
    | list right => rw [equal, equal, left.length_eq, right.length_eq, equalAll_eq left right]
    | bool | int | float | text | void | function | exception => rfl
  | _, _, _, _, .bool _, second | _, _, _, _, .int _, second | _, _, _, _, .float _, second
  | _, _, _, _, .text _, second | _, _, _, _, .void, second | _, _, _, _, .function _, second
  | _, _, _, _, .exception .., second => by cases second <;> rfl

theorem equalAll_eq : ∀ {as as' bs bs' : List Value}, List.Forall₂ (Alike functions) as as' →
    List.Forall₂ (Alike functions) bs bs' → equalAll as bs = equalAll as' bs'
  | [], _, _, _, .nil, second => by cases second <;> rfl
  | _ :: _, _, _, _, .cons _ _, .nil => rfl
  | _ :: _, _, _, _, .cons first rest, .cons first' rest' => by
    simp only [equalAll, first.isException_eq, first'.isException_eq, first.equal_eq first',
      equalAll_eq rest rest']

end

mutual

theorem alike_refl (self : ∀ f, functions f f) : ∀ value : Value, Alike functions value value
  | .bool value => .bool value
  | .int value => .int value
  | .float value => .float value
  | .text value => .text value
  | .list items => .list (alikeAll_refl self items)
  | .function f => .function (self f)
  | .exception flavor payload stack => .exception flavor stack (alike_refl self payload)
  | .void => .void

theorem alikeAll_refl (self : ∀ f, functions f f) :
    ∀ items : List Value, List.Forall₂ (Alike functions) items items
  | [] => .nil
  | item :: items => .cons (alike_refl self item) (alikeAll_refl self items)

end

mutual

theorem Alike.eq (single : ∀ {f g}, functions f g → f = g) :
    ∀ {value other : Value}, Alike functions value other → value = other
  | _, _, .bool _ | _, _, .int _ | _, _, .float _ | _, _, .text _ | _, _, .void => rfl
  | .list _, _, .list each => by rw [alikeAll_eq single each]
  | _, _, .function paired => by rw [single paired]
  | .exception .., _, .exception _ _ inner => by rw [inner.eq single]

theorem alikeAll_eq (single : ∀ {f g}, functions f g → f = g) :
    ∀ {items others : List Value}, List.Forall₂ (Alike functions) items others → items = others
  | [], _, .nil => rfl
  | _ :: _, _, .cons first rest => by rw [first.eq single, alikeAll_eq single rest]

end

mutual

theorem Alike.imp {weaker : Function → Function → Prop}
    (weaken : ∀ {f g}, functions f g → weaker f g) :
    ∀ {value other : Value}, Alike functions value other → Alike weaker value other
  | _, _, .bool value => .bool value
  | _, _, .int value => .int value
  | _, _, .float value => .float value
  | _, _, .text value => .text value
  | _, _, .void => .void
  | .list _, _, .list each => .list (alikeAll_imp weaken each)
  | _, _, .function paired => .function (weaken paired)
  | .exception .., _, .exception flavor stack inner => .exception flavor stack (inner.imp weaken)

theorem alikeAll_imp {weaker : Function → Function → Prop}
    (weaken : ∀ {f g}, functions f g → weaker f g) :
    ∀ {items others : List Value}, List.Forall₂ (Alike functions) items others →
      List.Forall₂ (Alike weaker) items others
  | [], _, .nil => .nil
  | _ :: _, _, .cons first rest => .cons (first.imp weaken) (alikeAll_imp weaken rest)

end

mutual

theorem equal_error {a b : Value} {halt : Halt} (halted : a.equal b = .error halt) :
    halt = .notAValue := by
  unfold equal at halted
  split at halted <;> try split at halted
  all_goals first
    | exact equalAll_error halted
    | cases halted <;> rfl

theorem equalAll_error {as bs : List Value} {halt : Halt} (halted : equalAll as bs = .error halt) :
    halt = .notAValue := by
  unfold equalAll at halted
  split at halted
  · split at halted
    · contradiction
    · split at halted
      · exact equalAll_error halted
      · exact equal_error halted
  · contradiction

end

end Value

/-- Answers that are alike: values that are, with the same lines printed, or the same halt. No
primitive refuses to run. -/
inductive AnswersAlike (functions : Function → Function → Prop) :
    Except Halt Reply → Except Halt Reply → Prop
  | ok {value other : Value} (alike : value.Alike functions other) (printed : List String) :
      AnswersAlike functions (.ok ⟨value, printed⟩) (.ok ⟨other, printed⟩)
  | error {halt : Halt} (running : halt ≠ .framesActive) :
      AnswersAlike functions (.error halt) (.error halt)

theorem answersAlike_map {functions : Function → Function → Prop} {outcome : Except Halt Value}
    (each : ∀ {value}, outcome = .ok value → value.Alike functions value)
    (running : outcome ≠ .error .framesActive) :
    AnswersAlike functions (outcome.map (⟨·, []⟩)) (outcome.map (⟨·, []⟩)) := by
  cases outcome with
  | ok value => exact .ok (each rfl) []
  | error halt => exact .error fun refused => running (congrArg _ refused)

namespace Primitive
open Value

variable {functions : Function → Function → Prop} {a a' b b' c c' : Value}

theorem alike_of_same {name : String} {value other : Value} (same : value = other)
    (answered : Answered name [] other) : Alike functions value other := by
  rw [same]
  exact alike_of_answered answered

theorem alike_arithmetic (p : Primitive) (onInts : Int → Int → Int) (op : Float → Float → Float)
    (first : Alike functions a a') (second : Alike functions b b') :
    Alike functions (p.arithmetic onInts op a b) (p.arithmetic onInts op a' b') := by
  have same : p.arithmetic onInts op a b = p.arithmetic onInts op a' b' := by
    cases first <;> cases second <;> rfl
  exact alike_of_same same (answered_arithmetic p onInts op a' b' [])

theorem alike_compare (p : Primitive) (onInts : Int → Int → Bool) (op : Float → Float → Bool)
    (first : Alike functions a a') (second : Alike functions b b') :
    Alike functions (p.compare onInts op a b) (p.compare onInts op a' b') := by
  have same : p.compare onInts op a b = p.compare onInts op a' b' := by
    cases first <;> cases second <;> rfl
  exact alike_of_same same (answered_compare p onInts op a' b' [])

theorem alike_quotient (first : Alike functions a a') (second : Alike functions b b') :
    Alike functions (quotient a b) (quotient a' b') := by
  have same : quotient a b = quotient a' b' := by cases first <;> cases second <;> rfl
  exact alike_of_same same (answered_quotient a' b' [])

theorem alike_modulus (first : Alike functions a a') (second : Alike functions b b') :
    Alike functions (modulus a b) (modulus a' b') := by
  have same : modulus a b = modulus a' b' := by cases first <;> cases second <;> rfl
  exact alike_of_same same (answered_modulus a' b' [])

theorem alike_slice (first : Alike functions a a') (second : Alike functions b b')
    (third : Alike functions c c') : Alike functions (slice a b c) (slice a' b' c') := by
  have same : slice a b c = slice a' b' c' := by
    cases first <;> cases second <;> cases third <;> rfl
  exact alike_of_same same (answered_slice a' b' c' [])

theorem alike_sum (first : Alike functions a a') (second : Alike functions b b') :
    Alike functions (sum a b) (sum a' b') := by
  cases first with
  | text s =>
    cases second with
    | text t => exact .text (s ++ t)
    | bool | int | float | void | list | function | exception =>
      exact alike_fault .mismatch add.name "mismatched argument types"
  | list items =>
    cases second with
    | list others => exact .list (List.rel_append items others)
    | bool | int | float | text | void | function | exception =>
      exact alike_fault .mismatch add.name "can only append list to list"
  | bool | void | function | exception =>
    exact alike_fault .type add.name "numbers, strings, or list arguments expected"
  | int =>
    cases second with
    | int => exact .int _
    | float => exact .float _
    | bool | text | void | list | function | exception =>
      exact alike_fault .mismatch add.name "mismatched argument types"
  | float =>
    cases second with
    | int | float => exact .float _
    | bool | text | void | list | function | exception =>
      exact alike_fault .mismatch add.name "mismatched argument types"

theorem alike_choice (first : Alike functions a a') (second : Alike functions b b')
    (third : Alike functions c c') : Alike functions (choice a b c) (choice a' b' c') := by
  cases first with
  | bool condition =>
    cases condition with
    | true => exact second
    | false => exact third
  | exception flavor stack inner => exact .exception flavor stack inner
  | int | float | text | void | list | function =>
    exact alike_fault .type choose.name "expected boolean for first argument"

theorem alike_caught (alike : Alike functions a a') :
    Alike functions (caught a) (caught a') := by
  have marked : Alike functions (.list [.text "ok", a]) (.list [.text "ok", a']) :=
    .list (.cons (.text "ok") (.cons alike .nil))
  cases alike with
  | exception flavor stack inner =>
    have names : List.Forall₂ (Alike functions) (stack.map .text) (stack.map .text) := by
      rw [List.forall₂_same]
      intro entry listed
      obtain ⟨name, _, rfl⟩ := List.mem_map.mp listed
      exact .text name
    exact .list (.cons (.text flavor.label) (.cons inner (.cons (.list names) .nil)))
  | bool | int | float | text | void | list | function => exact marked

theorem alike_head (alike : Alike functions a a') :
    Alike functions (apply.answer head [a]) (apply.answer head [a']) := by
  cases alike with
  | list each =>
    cases each with
    | nil => exact alike_fault .runtime head.name "attempt to get first item of empty list"
    | cons first rest => exact first
  | bool | int | float | text | void | function | exception =>
    exact alike_fault .type head.name "list argument expected"

theorem alike_tail (alike : Alike functions a a') :
    Alike functions (apply.answer tail [a]) (apply.answer tail [a']) := by
  cases alike with
  | list each =>
    cases each with
    | nil => exact .list .nil
    | cons first rest => exact .list rest
  | bool | int | float | text | void | function | exception =>
    exact alike_fault .type tail.name "list argument expected"

theorem apply_of_count (p : Primitive) (args : List Value) (wrong : args.length ≠ p.arity) :
    p.apply args = .ok ⟨countFault p.name p.arity args.length, []⟩ := by
  have answer : apply.answer p args = countFault p.name p.arity args.length := by
    unfold apply.answer
    split <;> first | exact absurd rfl wrong | rfl
  unfold apply
  split <;> first | exact absurd rfl wrong | rw [answer]

theorem alike_unary (p : Primitive) (count : p.arity = 1) (alike : Alike functions a a') :
    AnswersAlike functions (p.apply [a]) (p.apply [a']) := by
  cases p with
  | negate =>
    cases alike with
    | bool value => exact .ok (.bool !value) []
    | int | float | text | void | list | function | exception =>
      exact .ok (alike_fault .type negate.name "boolean argument expected") []
  | print =>
    cases alike with
    | text message => exact .ok (.bool false) [message]
    | bool | int | float | void | list | function | exception =>
      exact .ok (alike_fault .type print.name "string argument expected") []
  | head => exact .ok (alike_head alike) []
  | tail => exact .ok (alike_tail alike) []
  | inspect => exact .ok (alike_caught alike) []
  | raise => exact .ok (.exception .error [] alike) []
  | earlyReturn => exact .ok (.exception .earlyReturn [] alike) []
  | toInt =>
    have same : intOf a = intOf a' := by cases alike <;> rfl
    simp only [apply, same]
    refine answersAlike_map (fun converted => alike_of_answered (answered_intOf converted)) ?_
    unfold intOf
    split <;> try split
    all_goals simp
  | toFloat =>
    have same : floatOf a = floatOf a' := by cases alike <;> rfl
    simp only [apply, same]
    refine answersAlike_map (fun converted => alike_of_answered (answered_floatOf converted)) ?_
    unfold floatOf
    split <;> try split
    all_goals simp
  | toText =>
    have shown : Alike functions (.text a.display) (.text a'.display) :=
      alike.display_eq ▸ .text a.display
    exact .ok shown []
  | textLength =>
    cases alike with
    | text s => exact .ok (.int s.length) []
    | bool | int | float | void | list | function | exception =>
      exact .ok (alike_fault .type textLength.name "string argument expected") []
  | remainder | both | multiply | add | subtract | divide | less | equal | greater | choose
  | textSlice | either => contradiction

theorem alike_binary (p : Primitive) (count : p.arity = 2) (first : Alike functions a a')
    (second : Alike functions b b') : AnswersAlike functions (p.apply [a, b]) (p.apply [a', b']) := by
  cases p with
  | add => exact .ok (alike_sum first second) []
  | subtract => exact .ok (alike_arithmetic .subtract (· - ·) (· - ·) first second) []
  | multiply => exact .ok (alike_arithmetic .multiply (· * ·) (· * ·) first second) []
  | divide => exact .ok (alike_quotient first second) []
  | remainder => exact .ok (alike_modulus first second) []
  | less => exact .ok (alike_compare .less (· < ·) (· < ·) first second) []
  | greater => exact .ok (alike_compare .greater (· > ·) (· > ·) first second) []
  | equal =>
    simp only [apply, first.equal_eq second]
    cases outcome : a'.equal b' with
    | ok same => exact .ok (.bool same) []
    | error halt => exact .error (equal_error outcome ▸ nofun)
  | both =>
    cases first with
    | bool x =>
      cases second with
      | bool y => exact .ok (.bool (x && y)) []
      | int | float | text | void | list | function | exception =>
        exact .ok (alike_fault .type both.name "boolean arguments expected") []
    | int | float | text | void | list | function | exception =>
      exact .ok (alike_fault .type both.name "boolean arguments expected") []
  | either =>
    cases first with
    | bool x =>
      cases second with
      | bool y => exact .ok (.bool (x || y)) []
      | int | float | text | void | list | function | exception =>
        exact .ok (alike_fault .type either.name "boolean arguments expected") []
    | int | float | text | void | list | function | exception =>
      exact .ok (alike_fault .type either.name "boolean arguments expected") []
  | negate | print | head | inspect | tail | toFloat | toInt | raise | toText | textLength
  | earlyReturn | choose | textSlice => contradiction

theorem alike_ternary (p : Primitive) (count : p.arity = 3) (first : Alike functions a a')
    (second : Alike functions b b') (third : Alike functions c c') :
    AnswersAlike functions (p.apply [a, b, c]) (p.apply [a', b', c']) := by
  cases p with
  | choose => exact .ok (alike_choice first second third) []
  | textSlice => exact .ok (alike_slice first second third) []
  | negate | print | head | inspect | tail | toFloat | toInt | raise | toText | textLength
  | earlyReturn | remainder | both | multiply | add | subtract | divide | less | equal | greater
  | either => contradiction

theorem alike_apply (p : Primitive) {args others : List Value}
    (each : List.Forall₂ (Alike functions) args others) :
    AnswersAlike functions (p.apply args) (p.apply others) := by
  by_cases count : args.length = p.arity
  · cases each with
    | nil => cases p <;> contradiction
    | cons first each =>
      cases each with
      | nil => exact alike_unary p count.symm first
      | cons second each =>
        cases each with
        | nil => exact alike_binary p count.symm first second
        | cons third each =>
          cases each with
          | nil => exact alike_ternary p count.symm first second third
          | cons _ _ => cases p <;> simp [arity] at count
  · have count' : others.length ≠ p.arity := by rwa [← each.length_eq]
    rw [apply_of_count p args count, apply_of_count p others count', each.length_eq]
    exact .ok (alike_fault .argumentCount p.name _) []

end Primitive

def passedOn (name : String) (args : List Value) : Option Value :=
  if (Primitive.ofName? name).any Primitive.observesExceptions then none
  else args.find? Value.isException

theorem dispatch_eq (name : String) (args : List Value) : dispatch name args =
    match passedOn name args, Primitive.ofName? name with
    | some exception, _ => .ok ⟨exception, []⟩
    | none, none => .ok ⟨.fault .undefined name "function is not defined in scope", []⟩
    | none, some p => p.apply args := rfl

section

variable {functions : Function → Function → Prop} {args others : List Value}
  (each : List.Forall₂ (Value.Alike functions) args others)

include each

theorem alike_passedOn (name : String) :
    Option.Rel (Value.Alike functions) (passedOn name args) (passedOn name others) := by
  unfold passedOn
  split
  · exact .none
  · induction each with
    | nil => exact .none
    | @cons value other _ _ first _ ih =>
      rw [List.find?_cons, List.find?_cons, ← first.isException_eq]
      cases value.isException with
      | true => exact .some first
      | false => exact ih

theorem alike_dispatch (name : String) :
    AnswersAlike functions (dispatch name args) (dispatch name others) := by
  have passed := alike_passedOn each name
  rw [dispatch_eq, dispatch_eq]
  generalize passedOn name args = exception, passedOn name others = exception' at passed
  cases passed with
  | some alike => exact .ok alike []
  | none =>
    cases Primitive.ofName? name with
    | none => exact .ok (Value.alike_fault .undefined name "function is not defined in scope") []
    | some p => exact Primitive.alike_apply p each

end

end CurryScript
