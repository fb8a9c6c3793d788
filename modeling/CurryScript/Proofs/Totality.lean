import CurryScript.Proofs.Equality
import CurryScript.Proofs.NumeralForms

/-!
Calls of primitives are answered with values. What goes wrong is an exception value that names the
call, and only the conversion of two forms of numerals stops without an answer.
-/
namespace CurryScript

open Value

section

variable {sources : List Value} {value : Value}

theorem proper_of_composed (made : value.Composed sources)
    (each : ∀ source ∈ sources, source.Proper) : value.Proper := by
  induction made with
  | part member inside => exact (each _ member).of_within inside
  | bool | int | length | float | text => exact proper_of_atom rfl rfl
  | list _ ih => exact proper_list_iff.mpr ih

theorem proper_of_answered {name : String} (answered : Answered name sources value)
    (each : ∀ source ∈ sources, source.Proper) : value.Proper := by
  cases answered with
  | composed made => exact proper_of_composed made each
  | fault => exact everywhere_exception rfl (proper_of_atom rfl rfl)
  | raised member | returned member => exact everywhere_exception rfl (each _ member)

theorem made_of_answered {name : String} (answered : Answered name sources value)
    (raised : value.isException = true) (new : ∀ source ∈ sources, ¬ value.Within source) :
    name = "raise" ∨ name = "~" ∨
      ∃ flavor message, value = .exception flavor (.text message) [name] := by
  cases answered with
  | composed made =>
    cases made with
    | part member inside => exact absurd inside (new _ member)
    | bool | int | length | float | text | list => contradiction
  | fault own message => exact .inr (.inr ⟨_, message, rfl⟩)
  | raised _ _ named => exact .inl named
  | returned _ _ named => exact .inr (.inl named)

end

inductive Escapes : String → List Value → Numeral.Failure → Prop
  | integer {text : String} {count : Nat} (overlong : Numeral.Overlong text count) :
      Escapes "int" [.text text] (.tooManyDigits count)
  | float {text : String} (named : Numeral.SpecialName true text)
      (unplain : ¬ Numeral.SpecialName false text) :
      Escapes "float" [.text text] (.notAFloat text)

theorem Escapes.dispatch_eq {name : String} {args : List Value} {failure : Numeral.Failure}
    (escapes : Escapes name args failure) : dispatch name args = .error (.numeral failure) := by
  cases escapes with
  | @integer text count overlong =>
    have failed := Numeral.integer?_eq_error_iff.mpr ⟨count, rfl, overlong⟩
    have called : dispatch "int" [.text text] = (Primitive.intOf (.text text)).map (⟨·, []⟩) := rfl
    rw [called, Primitive.intOf, failed]
    rfl
  | @float text named unplain =>
    have failed := Numeral.float?_eq_error_iff.mpr ⟨rfl, named, unplain⟩
    have called : dispatch "float" [.text text] = (Primitive.floatOf (.text text)).map (⟨·, []⟩) := rfl
    rw [called, Primitive.floatOf, failed]
    rfl

namespace Primitive

theorem escapes_of_intOf {x : Value} {halt : Halt} (stopped : intOf x = .error halt) :
    ∃ failure, halt = .numeral failure ∧ Escapes "int" [x] failure := by
  unfold intOf at stopped
  split at stopped
  · cases stopped
  · split at stopped
    · cases stopped
    · cases stopped
    · next failure failed =>
      cases stopped
      obtain ⟨count, rfl, overlong⟩ := Numeral.integer?_eq_error_iff.mp failed
      exact ⟨_, rfl, .integer overlong⟩
  · cases stopped

theorem escapes_of_floatOf {x : Value} {halt : Halt} (stopped : floatOf x = .error halt) :
    ∃ failure, halt = .numeral failure ∧ Escapes "float" [x] failure := by
  unfold floatOf at stopped
  split at stopped
  · cases stopped
  · split at stopped
    · cases stopped
    · cases stopped
    · next failure failed =>
      cases stopped
      obtain ⟨rfl, named, unplain⟩ := Numeral.float?_eq_error_iff.mp failed
      exact ⟨_, rfl, .float named unplain⟩
  · cases stopped

theorem escapes_of_apply {p : Primitive} {args : List Value} {halt : Halt}
    (proper : ∀ arg ∈ args, arg.Proper) (stopped : p.apply args = .error halt) :
    ∃ failure, halt = .numeral failure ∧ Escapes p.name args failure := by
  unfold apply at stopped
  split at stopped
  · next x =>
    cases converted : intOf x <;> rw [converted] at stopped <;> cases stopped
    exact escapes_of_intOf converted
  · next x =>
    cases converted : floatOf x <;> rw [converted] at stopped <;> cases stopped
    exact escapes_of_floatOf converted
  · next a b =>
    simp only [List.forall_mem_cons] at proper
    obtain ⟨answer, compared⟩ := exists_equal proper.1 proper.2.1
    rw [compared] at stopped
    cases stopped
  · cases stopped
  · cases stopped

end Primitive

theorem escapes_of_dispatch {name : String} {args : List Value} {halt : Halt}
    (proper : ∀ arg ∈ args, arg.Proper) (stopped : dispatch name args = .error halt) :
    ∃ failure, halt = .numeral failure ∧ Escapes name args failure := by
  rcases dispatch_cases name args with ⟨_, _, _, same⟩ | same | ⟨p, rfl, same, _⟩
  · cases stopped.symm.trans same
  · cases stopped.symm.trans same
  · exact Primitive.escapes_of_apply proper (same ▸ stopped)

/-- Every call of a name without a binding is answered with a value, but for two conversions of texts,
which fail. An exception that is new in an answer has been raised or returned by the script, or it is
a message of the call. -/
theorem calls_answered_or_escape (name : String) (args : List Value)
    (proper : ∀ arg ∈ args, arg.Proper) :
    ((∀ failure, ¬ Escapes name args failure) →
      ∃ reply, dispatch name args = .ok reply ∧ reply.value.Proper) ∧
    (∀ failure, Escapes name args failure → dispatch name args = .error (.numeral failure)) ∧
    ∀ reply, dispatch name args = .ok reply → reply.value.isException = true →
      (∀ arg ∈ args, ¬ reply.value.Within arg) →
      name = "raise" ∨ name = "~" ∨
        ∃ flavor message, reply.value = .exception flavor (.text message) [name] := by
  refine ⟨fun kept => ?_, fun failure => Escapes.dispatch_eq, fun reply ok raised new => ?_⟩
  · cases called : dispatch name args with
    | ok reply => exact ⟨reply, rfl, proper_of_answered (answered_dispatch called) proper⟩
    | error halt =>
      obtain ⟨failure, -, escapes⟩ := escapes_of_dispatch proper called
      exact absurd escapes (kept failure)
  · exact made_of_answered (answered_dispatch ok) raised new

/-- A division by zero is answered. One digit too many and a dotless letter are not. -/
theorem division_answered_and_numerals_escape :
    let numbers : List Value := [.int 1, .int 0]
    let digits := String.ofList (List.replicate 4301 '7')
    (∀ arg ∈ numbers, arg.Proper) ∧ (∀ failure, ¬ Escapes "/" numbers failure) ∧
      (∃ reply, dispatch "/" numbers = .ok reply ∧ reply.value.Proper ∧
        reply.value = .exception .divisionByZero (.text "attempt to divide by zero") ["/"]) ∧
      dispatch "int" [.text digits] = .error (.numeral (.tooManyDigits 4301)) ∧
      dispatch "float" [.text "-ınf"] = .error (.numeral (.notAFloat "-ınf")) := by
  intro numbers digits
  have proper : ∀ arg ∈ numbers, arg.Proper := by
    simpa [numbers] using And.intro (proper_of_atom rfl rfl) (proper_of_atom rfl rfl)
  have text (word : String) : ∀ arg ∈ [Value.text word], arg.Proper := by
    simpa using proper_of_atom rfl rfl
  have divided : dispatch "/" numbers =
      .ok ⟨.exception .divisionByZero (.text "attempt to divide by zero") ["/"], []⟩ := rfl
  have kept (failure : Numeral.Failure) : ¬ Escapes "/" numbers failure := by
    intro escapes
    cases divided.symm.trans escapes.dispatch_eq
  have overlong : Numeral.Overlong digits 4301 := by
    refine ⟨List.replicate 4301 '7', ?_, ?_, List.length_replicate, by decide⟩
    · rw [String.toList_ofList]
      exact .unsigned
    · intro c member
      rw [List.eq_of_mem_replicate member]
      decide
  have dotless : Escapes "float" [.text "-ınf"] (.notAFloat "-ınf") := by
    obtain ⟨-, named, unplain⟩ := Numeral.float?_eq_error_iff.mp
      (show Numeral.float? "-ınf" = .error (.notAFloat "-ınf") by decide +kernel)
    exact .float named unplain
  obtain ⟨answered, -, -⟩ := calls_answered_or_escape "/" numbers proper
  obtain ⟨reply, called, whole⟩ := answered kept
  obtain ⟨-, many, -⟩ := calls_answered_or_escape "int" [.text digits] (text digits)
  obtain ⟨-, named, -⟩ := calls_answered_or_escape "float" [.text "-ınf"] (text "-ınf")
  refine ⟨proper, kept, ⟨reply, called, whole, ?_⟩, many _ (.integer overlong), named _ dotless⟩
  cases divided.symm.trans called
  rfl

end CurryScript
