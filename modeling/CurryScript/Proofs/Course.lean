import CurryScript.Proofs.Answers
import CurryScript.Proofs.Stack

/-!
The course of a run: the evaluations that take place while a program is run, each with the machine
it starts on. An evaluation leads to those of its operands, one after the other, and then, if it
enters the body of a function, to those of the statements in the body.
-/
namespace CurryScript

namespace Expr

def callee? : Expr → Option String
  | .bare name | .call name _ => some name
  | _ => none

/-- The expressions that are evaluated in the place where an expression stands. -/
def operands : Expr → List Expr
  | .list items => items
  | .call _ args => args
  | _ => []

mutual

def calls : Expr → List String
  | .literal _ => []
  | .list items => callsAll items
  | .bare name => [name]
  | .call name args => name :: callsAll args
  | .lambda body => callsAll body
  | .define _ body => callsAll body

def callsAll : List Expr → List String
  | [] => []
  | expr :: rest => calls expr ++ callsAll rest

end

theorem mem_callsAll {name : String} {exprs : List Expr} :
    name ∈ callsAll exprs ↔ ∃ expr ∈ exprs, name ∈ expr.calls := by
  induction exprs with
  | nil => simp [callsAll]
  | cons expr rest ih => simp [callsAll, ih]

theorem mem_calls_of_callee {expr : Expr} {name : String} (calling : expr.callee? = some name) :
    name ∈ expr.calls := by
  cases expr <;> simp_all [callee?, calls]

theorem mem_calls_of_operand {expr operand : Expr} {name : String}
    (member : operand ∈ expr.operands) (called : name ∈ operand.calls) : name ∈ expr.calls := by
  have among := mem_callsAll.mpr ⟨operand, member, called⟩
  cases expr <;> simp_all [operands, calls]

end Expr

theorem evaluate_of_callee {expr : Expr} {name : String} (calling : expr.callee? = some name)
    (depth : Nat) : evaluate (depth + 1) expr = Eval.call (evaluate depth) name expr.operands := by
  cases expr <;> cases calling <;> rfl

namespace Eval

/-- A call enters the body of a function with arguments: under its own name if the name is bound,
or by applying a function value with a comma. -/
inductive Enters (machine : Machine) :
    String → List Expr → List Value → Function → List Value → Prop
  | named {name : String} {args : List Expr} {values : List Value} {f : Function}
      (bound : machine.lookup name = some f) : Enters machine name args values f values
  | comma {callee : Expr} {written : List Expr} {f : Function} {given : List Value}
      (unbound : machine.lookup "," = none) :
      Enters machine "," [callee, .list written] [.function f, .list given] f given

/-- All that a comma without a binding can do with evaluated arguments: enter a function, pass on an
exception in the place of the function, or find a fault. -/
theorem applyComma_ok {evaluate : Expr → Eval Value} {args : List Expr} {values : List Value}
    {machine after : Machine} {value : Value} (unbound : machine.lookup "," = none)
    (ok : applyComma evaluate args values machine = .ok value after) :
    (∃ f given, Enters machine "," args values f given ∧
      block evaluate f.body given "," true machine = .ok value after) ∨
    (after = machine ∧ ∃ given, values = [value, given] ∧ value.isException = true) ∨
    (after = machine ∧
      ∃ flavor message, flavor.isFault = true ∧ value = .fault flavor "," message) := by
  unfold applyComma at ok
  split at ok
  · split at ok
    · cases ok
      exact .inr (.inl ⟨rfl, _, rfl, rfl⟩)
    · exact .inl ⟨_, _, .comma unbound, ok⟩
    · cases ok
      exact .inr (.inr ⟨rfl, _, _, rfl, rfl⟩)
    · cases ok
      exact .inr (.inr ⟨rfl, _, _, rfl, rfl⟩)
  · cases ok
    exact .inr (.inr ⟨rfl, _, _, rfl, rfl⟩)

theorem frameArgs_ok {name : String} {machine after : Machine} {value : Value}
    (ok : frameArgs name machine = .ok value after) : after = machine ∧
      ((∃ frame ∈ machine.frames, value = .list frame.args) ∨
        ∃ message, value = .fault .type name message) := by
  unfold frameArgs at ok
  split at ok <;> cases ok
  · next frame found => exact ⟨rfl, .inl ⟨frame, List.mem_of_getElem? found, rfl⟩⟩
  · exact ⟨rfl, .inr ⟨_, rfl⟩⟩

theorem primitive_ok {name : String} {args : List Value} {machine after : Machine} {value : Value}
    (ok : primitive name args machine = .ok value after) :
    after.frames = machine.frames ∧ Answered name args value := by
  refine ⟨by rw [← frames_primitive name args machine, after_ok ok], ?_⟩
  unfold primitive at ok
  dsimp only at ok
  split at ok <;> cases ok
  exact answered_dispatch ‹_›

/-- All that a call can do after its operands: enter a function, or, if its name has no binding,
answer in the frames of its caller. -/
theorem call_ok {evaluate : Expr → Eval Value} {name : String} {args : List Expr}
    {machine after : Machine} {value : Value}
    (ok : call evaluate name args machine = .ok value after) :
    ∃ values left, args.mapM evaluate machine = .ok values left ∧
      ((∃ f given, Enters left name args values f given ∧
        block evaluate f.body given name true left = .ok value after) ∨
      (left.lookup name = none ∧ after.frames = left.frames ∧
        Answered name (values ++ left.frames.flatMap (·.args)) value ∧
        (name = "," → (∃ given, values = [value, given]) ∨
          ∃ flavor message, flavor.isFault = true ∧ value = .fault flavor name message))) := by
  obtain ⟨values, left, operands, looked⟩ := bind_ok ok
  obtain ⟨_, _, got, ended⟩ := bind_ok looked
  cases got
  refine ⟨values, left, operands, ?_⟩
  cases bound : left.lookup name with
  | some f =>
    simp only [bound] at ended
    exact .inl ⟨f, values, .named bound, ended⟩
  | none =>
    simp only [bound] at ended
    split at ended
    · next comma =>
      subst comma
      rcases applyComma_ok bound ended with
        entered | ⟨rfl, given, rfl, _⟩ | ⟨rfl, flavor, message, own, rfl⟩
      · exact .inl entered
      · exact .inr ⟨rfl, rfl, .composed (.of_mem (by simp)), fun _ => .inl ⟨given, rfl⟩⟩
      · exact .inr ⟨rfl, rfl, .fault own message, fun _ => .inr ⟨flavor, message, own, rfl⟩⟩
    · next noComma =>
      refine .inr ?_
      split at ended
      · obtain ⟨rfl, ⟨frame, member, rfl⟩ | ⟨message, rfl⟩⟩ := frameArgs_ok ended
        · refine ⟨rfl, rfl, .composed (.list fun item listed => .of_mem ?_), (absurd · noComma)⟩
          exact List.mem_append_right values (List.mem_flatMap.mpr ⟨frame, member, listed⟩)
        · exact ⟨rfl, rfl, .fault rfl message, (absurd · noComma)⟩
      · obtain ⟨same, answered⟩ := primitive_ok ended
        exact ⟨rfl, same, answered.mono (List.mem_append_left _), (absurd · noComma)⟩

theorem call_of_enters {evaluate : Expr → Eval Value} {name : String} {args : List Expr}
    {values given : List Value} {machine left : Machine} {f : Function}
    (operands : args.mapM evaluate machine = .ok values left)
    (enters : Enters left name args values f given) :
    call evaluate name args machine = block evaluate f.body given name true left := by
  have got : (get : Eval Machine) left = .ok left left := rfl
  rw [call, bind_of_ok operands, bind_of_ok got]
  cases enters with
  | named bound =>
    rw [bound]
    rfl
  | comma unbound =>
    rw [unbound, if_pos rfl]
    rfl

/-- An expression of a sequence is reached on a machine, after those before it have been evaluated
and none of their values has stopped the sequence. -/
inductive Visits (evaluate : Expr → Eval Value) (stops : Value → Bool) :
    List Expr → Machine → Expr → Machine → Prop
  | here {expr : Expr} {rest : List Expr} {machine : Machine} :
      Visits evaluate stops (expr :: rest) machine expr machine
  | later {expr reached : Expr} {rest : List Expr} {machine left there : Machine} {value : Value}
      (ok : evaluate expr machine = .ok value left) (goesOn : stops value = false)
      (more : Visits evaluate stops rest left reached there) :
      Visits evaluate stops (expr :: rest) machine reached there

theorem Visits.mem {evaluate : Expr → Eval Value} {stops : Value → Bool} {exprs : List Expr}
    {machine there : Machine} {reached : Expr}
    (visited : Visits evaluate stops exprs machine reached there) : reached ∈ exprs := by
  induction visited with
  | here => exact List.mem_cons_self
  | later _ _ _ ih => exact List.mem_cons_of_mem _ ih

theorem Visits.statements {evaluate : Expr → Eval Value} {body : Block} {machine there : Machine}
    {reached : Expr} (visited : Visits evaluate Value.isException body machine reached there)
    (last : Value) : ∃ before rest,
      statements evaluate last body machine = statements evaluate before (reached :: rest) there := by
  induction visited generalizing last with
  | here => exact ⟨last, _, rfl⟩
  | @later _ _ _ _ _ _ value ok goesOn _ ih =>
    obtain ⟨before, rest, same⟩ := ih value
    refine ⟨before, rest, ?_⟩
    rw [Eval.statements, bind_of_ok ok, goesOn]
    exact same

/-- Wherever the sequence goes, an evaluation on a fine machine yields a good value and leaves the
machine fine. -/
def Secured (evaluate : Expr → Eval Value) (stops : Value → Bool) (good : Value → Prop)
    (fine : Machine → Prop) (exprs : List Expr) (machine : Machine) : Prop :=
  ∀ reached there, Visits evaluate stops exprs machine reached there → fine there →
    ∀ value left, evaluate reached there = .ok value left → good value ∧ fine left

section

variable {evaluate : Expr → Eval Value} {stops : Value → Bool} {good : Value → Prop}
  {fine : Machine → Prop}

theorem Secured.rest {expr : Expr} {rest : List Expr} {machine left : Machine} {value : Value}
    (secured : Secured evaluate stops good fine (expr :: rest) machine)
    (ok : evaluate expr machine = .ok value left) (goesOn : stops value = false) :
    Secured evaluate stops good fine rest left :=
  fun reached there visited => secured reached there (.later ok goesOn visited)

theorem Secured.visits {exprs : List Expr} {machine there : Machine} {reached : Expr}
    (secured : Secured evaluate stops good fine exprs machine) (start : fine machine)
    (visited : Visits evaluate stops exprs machine reached there) : fine there := by
  induction visited with
  | here => exact start
  | later ok goesOn more ih =>
    exact ih (secured.rest ok goesOn) (secured _ _ .here start _ _ ok).2

theorem Secured.mapM {exprs : List Expr} {machine after : Machine} {values : List Value}
    (secured : Secured evaluate (fun _ => false) good fine exprs machine) (start : fine machine)
    (ok : exprs.mapM evaluate machine = .ok values after) :
    (∀ value ∈ values, good value) ∧ fine after := by
  induction exprs generalizing machine values with
  | nil =>
    cases ok
    exact ⟨nofun, start⟩
  | cons expr rest ih =>
    obtain ⟨value, left, others, first, later, rfl⟩ := mapM_cons_ok ok
    obtain ⟨goodFirst, fineLeft⟩ := secured _ _ .here start _ _ first
    obtain ⟨goodOthers, fineAfter⟩ := ih (secured.rest first rfl) fineLeft later
    exact ⟨List.forall_mem_cons.mpr ⟨goodFirst, goodOthers⟩, fineAfter⟩

theorem Secured.statements {body : Block} {machine after : Machine} {last value : Value}
    (secured : Secured evaluate Value.isException good fine body machine) (start : fine machine)
    (before : good last) (ok : statements evaluate last body machine = .ok value after) :
    good value ∧ fine after := by
  induction body generalizing machine last with
  | nil =>
    cases ok
    exact ⟨before, start⟩
  | cons expr rest ih =>
    obtain ⟨result, left, first, ended⟩ := bind_ok ok
    obtain ⟨goodResult, fineLeft⟩ := secured _ _ .here start _ _ first
    split at ended
    · cases ended
      exact ⟨goodResult, fineLeft⟩
    · next goesOn =>
      exact ih (secured.rest first (by simpa using goesOn)) fineLeft goodResult ended

end

end Eval

structure Task where
  depth : Nat
  expr : Expr
  machine : Machine

namespace Task
open Eval

def outcome (task : Task) : EStateM.Result Halt Machine Value :=
  evaluate task.depth task.expr task.machine

def Calls (task : Task) (name : String) (values : List Value) (left : Machine) : Prop :=
  ∃ depth, task.depth = depth + 1 ∧ task.expr.callee? = some name ∧
    task.expr.operands.mapM (evaluate depth) task.machine = .ok values left

inductive Spawns : Task → Task → Prop
  | operand {depth : Nat} {expr reached : Expr} {machine there : Machine}
      (visited : Visits (evaluate depth) (fun _ => false) expr.operands machine reached there) :
      Spawns ⟨depth + 1, expr, machine⟩ ⟨depth, reached, there⟩
  | statement {depth : Nat} {expr reached : Expr} {machine left there : Machine} {name : String}
      {values given : List Value} {f : Function}
      (calls : Calls ⟨depth + 1, expr, machine⟩ name values left)
      (enters : Enters left name expr.operands values f given)
      (visited : Visits (evaluate depth) Value.isException f.body (left.push name given)
        reached there) :
      Spawns ⟨depth + 1, expr, machine⟩ ⟨depth, reached, there⟩

/-- The values at hand in an evaluation: its result, and the arguments in the frames. -/
inductive Holds (task : Task) : Value → Prop
  | result {value : Value} {left : Machine} (ok : task.outcome = .ok value left) : Holds task value
  | argument {frame : Frame} {value : Value} (active : frame ∈ task.machine.frames)
      (member : value ∈ frame.args) : Holds task value

/-- The task is the call of a name without a binding, and answers with a fault of its own: the name
is all there is on the stack, and the fault was in none of the evaluated operands. -/
def Produces (task : Task) (name : String) (fault : Fault) : Prop :=
  ∃ values left after, task.Calls name values left ∧ left.lookup name = none ∧
    task.outcome = .ok fault.toValue after ∧ fault.stack = [name] ∧
    ∀ value ∈ values, ¬ fault.toValue.Within value

end Task

structure Run where
  depth : Nat
  mainFrame : String
  program : Block
  start : Machine

namespace Run
open Eval

def outcome (run : Run) : EStateM.Result Halt Machine Value :=
  Eval.run run.depth run.mainFrame run.program run.start

inductive Live (run : Run) : Task → Prop
  | statement {reached : Expr} {there : Machine} (fresh : run.start.frames = [])
      (visited : Visits (evaluate run.depth) Value.isException run.program
        (run.start.push run.mainFrame []) reached there) :
      Live run ⟨run.depth, reached, there⟩
  | spawned {parent child : Task} (live : Live run parent) (spawns : parent.Spawns child) :
      Live run child

def Produced (run : Run) (name : String) (fault : Fault) : Prop :=
  ∃ task, run.Live task ∧ task.Produces name fault

theorem outcome_ok {run : Run} {value : Value} {after : Machine}
    (ok : run.outcome = .ok value after) : run.start.frames = [] ∧
      block (evaluate run.depth) run.program [] run.mainFrame false run.start =
        .ok value after := by
  obtain ⟨_, _, got, ok⟩ := bind_ok ok
  cases got
  split at ok
  · next fresh => exact ⟨List.isEmpty_iff.mp fresh, ok⟩
  · cases ok

end Run

end CurryScript
