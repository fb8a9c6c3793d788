import CurryScript.Proofs.Output

/-!
The depth to which evaluations may nest matters only when it is exceeded: an evaluation that is not
cut off does the same at every greater depth, and one that is cut off has printed a beginning of what
is printed at a greater depth.
-/
namespace CurryScript

theorem Machine.Continues.pop {machine other : Machine} (continues : machine.Continues other) :
    machine.pop.Continues other.pop := by
  have back : machine.pop.Continues machine := ⟨[], machine.printed_pop.symm⟩
  exact (back.trans continues).trans ⟨[], other.printed_pop⟩

namespace Eval

/-- A computation is cut off for its depth, with no more printed than by another, or it is the
same. -/
structure Settles {α : Type} (shallow deep : Eval α) : Prop where
  continues : Keeps Machine.Continues deep
  settled : ∀ machine, deep machine = shallow machine ∨
    ∃ left, shallow machine = .error .tooDeep left ∧ left.Continues (deep.after machine)

theorem Settles.refl {α : Type} {action : Eval α} (continues : Keeps Machine.Continues action) :
    Settles action action :=
  ⟨continues, fun _ => .inl rfl⟩

theorem Settles.pure {α : Type} (value : α) : Settles (pure value : Eval α) (pure value) :=
  .refl (keeps_pure kept_continues value)

theorem Settles.get : Settles (get : Eval Machine) get :=
  .refl fun machine => .refl machine

theorem Settles.trans {α : Type} {shallow deep deepest : Eval α} (one : Settles shallow deep)
    (two : Settles deep deepest) : Settles shallow deepest := by
  refine ⟨two.continues, fun machine => ?_⟩
  rcases one.settled machine with same | ⟨left, cut, further⟩
  · rw [← same]
    exact two.settled machine
  · refine .inr ⟨left, cut, ?_⟩
    rcases two.settled machine with same | ⟨left', cut', more⟩
    · rw [after, same]
      exact further
    · rw [after_error cut'] at further
      exact further.trans more

theorem Settles.cutOff {α : Type} {deep : Eval α} (continues : Keeps Machine.Continues deep) :
    Settles (throw .tooDeep) deep :=
  ⟨continues, fun machine => .inr ⟨machine, rfl, continues machine⟩⟩

theorem continues_after_bind {α β : Type} {action : Eval α} {next : α → Eval β}
    (rest : ∀ value, Keeps Machine.Continues (next value)) (machine : Machine) :
    (action.after machine).Continues ((action >>= next).after machine) := by
  cases outcome : action machine with
  | ok value left =>
    rw [after_ok outcome, after_bind_of_ok outcome]
    exact rest value left
  | error halt left =>
    rw [after_error outcome, after_error (bind_of_error outcome)]
    exact .refl left

theorem Settles.bind {α β : Type} {action action' : Eval α} {next next' : α → Eval β}
    (first : Settles action action') (rest : ∀ value, Settles (next value) (next' value)) :
    Settles (action >>= next) (action' >>= next') := by
  have more : ∀ value, Keeps Machine.Continues (next' value) := fun value => (rest value).continues
  refine ⟨keeps_bind kept_continues first.continues more, fun machine => ?_⟩
  rcases first.settled machine with same | ⟨left, cut, further⟩
  · cases outcome : action machine with
    | ok value left =>
      rw [outcome] at same
      rw [bind_of_ok outcome, bind_of_ok same, after_bind_of_ok same]
      exact (rest value).settled left
    | error halt left =>
      rw [outcome] at same
      rw [bind_of_error outcome, bind_of_error same]
      exact .inl rfl
  · refine .inr ⟨left, bind_of_error cut, further.trans ?_⟩
    exact continues_after_bind more machine

theorem Settles.mapM {α β : Type} {action action' : α → Eval β}
    (each : ∀ item, Settles (action item) (action' item)) (items : List α) :
    Settles (items.mapM action) (items.mapM action') := by
  induction items with
  | nil => exact .pure []
  | cons item items ih =>
    rw [List.mapM_cons, List.mapM_cons]
    exact (each item).bind fun value => ih.bind fun values => .pure (value :: values)

theorem Settles.inFrame {α : Type} {action action' : Eval α} (inside : Settles action action')
    (name : String) (args : List Value) :
    Settles (inFrame name args action) (inFrame name args action') := by
  refine ⟨keeps_inFrame kept_continues inside.continues name args, fun machine => ?_⟩
  rcases inside.settled (machine.push name args) with same | ⟨left, cut, further⟩
  · refine .inl ?_
    rw [Eval.inFrame, Eval.inFrame, same]
  · refine .inr ⟨left.pop, ?_, ?_⟩
    · rw [Eval.inFrame, cut]
    · have popped : (Eval.inFrame name args action').after machine =
          (action'.after (machine.push name args)).pop := by
        unfold after Eval.inFrame
        cases action' (machine.push name args) <;> rfl
      rw [popped]
      exact further.pop

section

variable {evaluate deeper : Expr → Eval Value}
  (each : ∀ expr, Settles (evaluate expr) (deeper expr))

include each

theorem settles_statements (last : Value) (body : Block) :
    Settles (statements evaluate last body) (statements deeper last body) := by
  induction body generalizing last with
  | nil => exact .pure last
  | cons expr rest ih =>
    refine (each expr).bind fun value => ?_
    split
    · exact .pure value
    · exact ih value

theorem settles_block (body : Block) (args : List Value) (name : String) (traced : Bool) :
    Settles (block evaluate body args name traced) (block deeper body args name traced) :=
  ((settles_statements each _ body).inFrame name args).bind fun _ => .pure _

theorem settles_applyComma (args : List Expr) (values : List Value) :
    Settles (applyComma evaluate args values) (applyComma deeper args values) := by
  unfold applyComma
  split
  · split
    · exact .pure _
    · exact settles_block each _ _ _ _
    · exact .pure _
    · exact .pure _
  · exact .pure _

theorem settles_call (name : String) (args : List Expr) :
    Settles (call evaluate name args) (call deeper name args) := by
  refine (Settles.mapM each args).bind fun values => ?_
  refine Settles.get.bind fun machine => ?_
  split
  · exact settles_block each _ _ _ _
  · split
    · exact settles_applyComma each args values
    · split
      · exact .refl (keeps_frameArgs kept_continues name)
      · exact .refl (kept_continues.primitive name values)

end

theorem settles_evaluate_succ (depth : Nat) (expr : Expr) :
    Settles (evaluate depth expr) (evaluate (depth + 1) expr) := by
  induction depth generalizing expr with
  | zero => exact .cutOff (keeps_evaluate kept_continues 1 expr)
  | succ depth ih =>
    cases expr with
    | literal value => exact .pure _
    | list items =>
      rw [evaluate, evaluate, map_eq_pure_bind, map_eq_pure_bind]
      exact (Settles.mapM ih items).bind fun values => .pure _
    | bare name => exact settles_call ih name []
    | call name args => exact settles_call ih name args
    | lambda body => exact .pure _
    | define name body => exact .refl (kept_continues.define name body)

theorem settles_evaluate {depth deeper : Nat} (larger : depth ≤ deeper) (expr : Expr) :
    Settles (evaluate depth expr) (evaluate deeper expr) := by
  induction larger with
  | refl => exact .refl (keeps_evaluate kept_continues depth expr)
  | step _ ih => exact ih.trans (settles_evaluate_succ _ expr)

theorem settles_run {depth deeper : Nat} (larger : depth ≤ deeper) (mainFrame : String)
    (program : Block) : Settles (run depth mainFrame program) (run deeper mainFrame program) := by
  refine Settles.get.bind fun machine => ?_
  split
  · exact settles_block (settles_evaluate larger) program [] mainFrame false
  · exact .refl (keeps_throw kept_continues .framesActive)

end Eval

end CurryScript
