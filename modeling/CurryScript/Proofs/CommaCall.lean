import CurryScript.Proofs.EvaluationDepth

/-!
A comma that applies a function value does what a call of the function by its name does. The
arguments are evaluated once and before the name is looked up, the body runs in a frame whose name
it cannot see, and the name shows only in the stack of an exception that stops the body. The comma
evaluates the arguments one level further down, so that one of the two can be cut off where the other
is not.
-/
namespace CurryScript

namespace Eval

/-- Evaluates arguments and then a body with them, each to a depth of its own, in a frame of the
given name. -/
def callUnder (name : String) (body : Block) (args : List Expr) (outer inner : Nat) :
    Eval Value := do
  let values ← args.mapM (evaluate outer)
  block (evaluate inner) body values name

theorem settles_callUnder (name : String) (body : Block) (args : List Expr)
    {outer outer' inner inner' : Nat} (further : outer ≤ outer') (deeper : inner ≤ inner') :
    Settles (callUnder name body args outer inner) (callUnder name body args outer' inner') := by
  refine (Settles.mapM (settles_evaluate further) args).bind fun values => ?_
  exact settles_block (settles_evaluate deeper) body values name true

theorem sameFrames_callUnder (name : String) (body : Block) {args : List Expr}
    (plain : Expr.definesAny args = false) (outer inner : Nat) :
    Keeps SameFrames (callUnder name body args outer inner) := by
  refine keeps_bind_of_trans SameFrames.trans (sameFrames_operands outer plain) fun values => ?_
  exact frames_block inner body values name true

/-- Results of one body that was called under two names. They differ if an exception has stopped the
body, and then in the name that `leave` puts at the end of its stack. -/
def EndsUnder (name other : String) (value value' : Value) : Prop :=
  ∃ result, value = leave name true result ∧ value' = leave other true result

theorem simulates_callUnder (name other : String) (body : Block) (args : List Expr)
    (outer inner : Nat) :
    Simulates .identical (EndsUnder name other) (callUnder name body args outer inner)
      (callUnder other body args outer inner) := by
  have same (exprs : List Expr) : List.Forall₂ Comparison.identical.exprs exprs exprs := by
    rw [Comparison.identical, List.forall₂_eq_eq_eq]
  refine simulates_bind (simulates_mapM (simulates_evaluate outer) (same args)) fun given => ?_
  intro machine machine' alike
  have inside := simulates_statements (simulates_evaluate inner) (same body) (.bool false) _ _
    (alike.push given name other)
  refine agree_bind (agree_inFrame alike given inside) fun {result _} results => ?_
  cases Comparison.identical_values_eq results
  exact simulates_pure ⟨result, rfl, rfl⟩

theorem evaluate_named_call {name : String} {f : Function} {args : List Expr} {machine : Machine}
    (bound : machine.lookup name = some f) (plain : Expr.definesAny args = false) (depth : Nat) :
    evaluate (depth + 1) (.call name args) machine =
      callUnder name f.body args depth depth machine := by
  have frames := sameFrames_operands depth plain machine
  rw [evaluate, callUnder]
  cases operands : args.mapM (evaluate depth) machine with
  | ok values left =>
    -- The name is looked up after the arguments, and they have bound nothing.
    rw [after_ok operands] at frames
    have still : left.lookup name = some f := by
      rw [Machine.lookup, frames]
      exact bound
    rw [call_of_enters operands (.named still), bind_of_ok operands]
  | error halt left => rw [call, bind_of_error operands, bind_of_error operands]

theorem evaluate_comma_call {callee : Expr} {f : Function} {args : List Expr} {depth : Nat}
    {machine start : Machine} (unbound : machine.lookup "," = none)
    (evaluated : evaluate (depth + 1) callee machine = .ok (.function f) start)
    (unmoved : SameFrames machine start) (plain : Expr.definesAny args = false) :
    evaluate (depth + 2) (.call "," [callee, .list args]) machine =
      callUnder "," f.body args depth (depth + 1) start := by
  have frames := sameFrames_operands depth plain start
  have operands : [callee, .list args].mapM (evaluate (depth + 1)) machine =
      (args.mapM (evaluate depth) >>= fun values => pure [.function f, .list values]) start := by
    rw [List.mapM_cons, bind_of_ok evaluated, List.mapM_cons, evaluate, map_eq_pure_bind]
    simp only [bind_assoc]
    rfl
  rw [evaluate, callUnder]
  cases given : args.mapM (evaluate depth) start with
  | ok values left =>
    rw [after_ok given] at frames
    rw [bind_of_ok given] at operands
    have still : left.lookup "," = none := by
      rw [Machine.lookup, unmoved.trans frames]
      exact unbound
    rw [call_of_enters operands (.comma still), bind_of_ok given]
  | error halt left =>
    rw [bind_of_error given] at operands
    rw [call, bind_of_error operands, bind_of_error given]

structure SameDoing (machine left left' : Machine) : Prop where
  frames : SameFrames machine left
  frames' : SameFrames machine left'
  printed : ∃ lines, Machine.Printed lines machine left ∧ Machine.Printed lines machine left'

/-- Outcomes of calls of one body under two names: they are the same but for the name that an
exception leaves when it stops the body. -/
inductive CallsAgree (name other : String) (machine : Machine) :
    EStateM.Result Halt Machine Value → EStateM.Result Halt Machine Value → Prop
  | ended {value value' : Value} {left left' : Machine} (results : EndsUnder name other value value')
      (same : SameDoing machine left left') :
      CallsAgree name other machine (.ok value left) (.ok value' left')
  | halted (halt : Halt) {left left' : Machine} (same : SameDoing machine left left') :
      CallsAgree name other machine (.error halt left) (.error halt left')

def CutShort (machine : Machine) (outcome : EStateM.Result Halt Machine Value) (other : Machine) :
    Prop :=
  ∃ left lines more, outcome = .error .tooDeep left ∧ Machine.Printed lines machine left ∧
    Machine.Printed (lines ++ more) machine other

theorem callsAgree_callUnder (name other : String) (body : Block) {args : List Expr}
    (plain : Expr.definesAny args = false) (outer inner : Nat) {machine start : Machine}
    (unmoved : SameFrames machine start) (silent : Machine.Printed [] machine start) :
    CallsAgree name other machine (callUnder name body args outer inner start)
      (callUnder other body args outer inner machine) := by
  have agree := simulates_callUnder name other body args outer inner start machine
    (Comparison.identical_machines unmoved)
  have frames := unmoved.trans (sameFrames_callUnder name body plain outer inner start)
  have frames' := sameFrames_callUnder other body plain outer inner machine
  obtain ⟨lines, printed, printed'⟩ := agree.proceeds.printed
  have same : SameDoing machine ((callUnder name body args outer inner).after start)
      ((callUnder other body args outer inner).after machine) :=
    ⟨frames, frames', lines, silent.trans printed, printed'⟩
  unfold after at same
  generalize callUnder name body args outer inner start = outcome,
    callUnder other body args outer inner machine = outcome' at agree same ⊢
  cases agree with
  | ok results _ => exact .ended results same
  | error _ _ => exact .halted _ same

theorem CallsAgree.printed {name other : String} {machine start start' : Machine}
    {action action' : Eval Value}
    (agree : CallsAgree name other machine (action start) (action' start')) :
    ∃ lines, Machine.Printed lines machine (action.after start) ∧
      Machine.Printed lines machine (action'.after start') := by
  unfold after
  generalize action start = outcome, action' start' = outcome' at agree ⊢
  cases agree with
  | ended _ same => exact same.printed
  | halted _ same => exact same.printed

theorem callUnder_same_or_cutShort {name : String} {body : Block} {args : List Expr}
    {outer outer' inner inner' : Nat} (further : outer ≤ outer') (deeper : inner ≤ inner')
    {machine start other : Machine} (silent : Machine.Printed [] machine start)
    {lines : List String}
    (printed : Machine.Printed lines machine ((callUnder name body args outer' inner').after start))
    (shown : Machine.Printed lines machine other) :
    callUnder name body args outer' inner' start = callUnder name body args outer inner start ∨
      CutShort machine (callUnder name body args outer inner start) other := by
  have continues : Keeps Machine.Continues (callUnder name body args outer inner) :=
    (settles_callUnder name body args (Nat.le_refl outer) (Nat.le_refl inner)).continues
  rcases (settles_callUnder name body args further deeper).settled start with
    same | ⟨left, cut, more, rest⟩
  · exact .inl same
  · obtain ⟨begun, first⟩ := continues start
    rw [after_error cut] at first
    have whole : begun ++ more = lines := ((silent.trans first).trans rest).lines_eq printed
    refine .inr ⟨left, begun, more, cut, silent.trans first, ?_⟩
    rw [whole]
    exact shown

theorem evaluate_or_cutOff {expr : Expr} {reach : Nat} {value : Value} {machine start : Machine}
    (evaluated : evaluate reach expr machine = .ok value start) (depth : Nat) :
    evaluate depth expr machine = .ok value start ∨ depth < reach ∧
      ∃ left, evaluate depth expr machine = .error .tooDeep left ∧ left.Continues start := by
  rcases Nat.lt_or_ge depth reach with less | enough
  · rcases (settles_evaluate (Nat.le_of_lt less) expr).settled machine with same | ⟨left, cut, further⟩
    · exact .inl (same ▸ evaluated)
    · rw [after_ok evaluated] at further
      exact .inr ⟨less, left, cut, further⟩
  · rcases (settles_evaluate enough expr).settled machine with same | ⟨left, cut, _⟩
    · exact .inl (same.trans evaluated)
    · rw [evaluated] at cut
      cases cut

section

variable {machine start : Machine} {g : String} {f f' : Function} {callee : Expr}
  {args : List Expr} {reach : Nat} (unbound : machine.lookup "," = none)
  (bound : machine.lookup g = some f)
  (evaluated : evaluate reach callee machine = .ok (.function f') start)
  (sameBody : f'.body = f.body) (unmoved : SameFrames machine start)
  (silent : Machine.Printed [] machine start) (plain : Expr.definesAny args = false)

include unbound bound evaluated sameBody unmoved silent plain

theorem comma_cutShort_or_agrees (depth : Nat) :
    CutShort machine (evaluate depth (.call "," [callee, .list args]) machine)
        ((evaluate depth (.call g args)).after machine) ∨
      CallsAgree "," g machine (evaluate depth (.call "," [callee, .list args]) machine)
        (evaluate depth (.call g args) machine) := by
  cases depth with
  | zero => exact .inl ⟨machine, [], [], rfl, .refl machine, .refl machine⟩
  | succ depth =>
    rcases evaluate_or_cutOff evaluated depth with ok | ⟨_, left, cut, more, rest⟩
    · cases depth with
      | zero => cases ok
      | succ depth =>
        -- The comma has one level less for its arguments than the call it is compared with.
        have agree := callsAgree_callUnder "," g f.body plain (depth + 1) (depth + 1) unmoved silent
        rw [← evaluate_named_call bound plain (depth + 1)] at agree
        obtain ⟨lines, printed, shown⟩ := agree.printed
        rw [evaluate_comma_call unbound ok unmoved plain, sameBody]
        rcases callUnder_same_or_cutShort (Nat.le_succ depth) (Nat.le_refl (depth + 1)) silent printed
            shown with same | short
        · rw [← same]
          exact .inr agree
        · exact .inl short
    · -- The function of the comma is cut off, and by then it has printed nothing.
      have halted : evaluate (depth + 1) (.call "," [callee, .list args]) machine =
          .error .tooDeep left := by
        rw [evaluate, call, List.mapM_cons, bind_of_error (bind_of_error cut)]
      obtain ⟨lines, first⟩ := keeps_evaluate kept_continues depth callee machine
      rw [after_error cut] at first
      have none : lines = [] := List.append_eq_nil_iff.mp ((first.trans rest).lines_eq silent) |>.1
      obtain ⟨shown, named⟩ := keeps_evaluate kept_continues (depth + 1) (.call g args) machine
      exact .inl ⟨left, [], shown, halted, none ▸ first, named⟩

theorem named_cutShort_or_agrees {depth : Nat} (enough : reach ≤ depth) :
    CutShort machine (evaluate depth (.call g args) machine)
        ((evaluate (depth + 1) (.call "," [callee, .list args])).after machine) ∨
      CallsAgree "," g machine (evaluate (depth + 1) (.call "," [callee, .list args]) machine)
        (evaluate depth (.call g args) machine) := by
  have ok : evaluate depth callee machine = .ok (.function f') start := by
    rcases evaluate_or_cutOff evaluated depth with ok | ⟨less, _⟩
    · exact ok
    · omega
  cases depth with
  | zero => cases ok
  | succ depth =>
    -- Here it has as much for its arguments and one level more for the body.
    have agree := callsAgree_callUnder "," g f.body plain depth (depth + 1) unmoved silent
    rw [← sameBody, ← evaluate_comma_call unbound ok unmoved plain, sameBody] at agree
    obtain ⟨lines, shown, printed⟩ := agree.printed
    rw [evaluate_named_call bound plain depth]
    rcases callUnder_same_or_cutShort (Nat.le_refl depth) (Nat.le_succ depth) (.refl machine)
        printed shown with same | short
    · rw [← same]
      exact .inr agree
    · exact .inl short

end

end Eval

open Eval

/-- A comma that applies a function and a call of a name bound to a function with the same body
print the same lines, leave the frames, and yield the same but for the name under which an exception
stopped the body. This holds at every depth at which the comma is not cut off, and at every depth at
which the named call is not cut off and the function can be evaluated, with one level more for the
comma. -/
theorem comma_call_agrees_with_named_call {machine start : Machine} {g : String} {f f' : Function}
    {callee : Expr} {args : List Expr} {reach : Nat} (unbound : machine.lookup "," = none)
    (bound : machine.lookup g = some f)
    (evaluated : evaluate reach callee machine = .ok (.function f') start)
    (sameBody : f'.body = f.body) (unmoved : SameFrames machine start)
    (silent : Machine.Printed [] machine start) (plain : Expr.definesAny args = false) :
    (∀ depth,
      CutShort machine (evaluate depth (.call "," [callee, .list args]) machine)
          ((evaluate depth (.call g args)).after machine) ∨
        CallsAgree "," g machine (evaluate depth (.call "," [callee, .list args]) machine)
          (evaluate depth (.call g args) machine)) ∧
      ∀ depth, reach ≤ depth →
        CutShort machine (evaluate depth (.call g args) machine)
            ((evaluate (depth + 1) (.call "," [callee, .list args])).after machine) ∨
          CallsAgree "," g machine (evaluate (depth + 1) (.call "," [callee, .list args]) machine)
            (evaluate depth (.call g args) machine) := by
  constructor
  · intro depth
    exact comma_cutShort_or_agrees unbound bound evaluated sameBody unmoved silent plain depth
  · intro depth enough
    exact named_cutShort_or_agrees unbound bound evaluated sameBody unmoved silent plain enough

/-- The scripts `,[pick [>>["arg"]]]` and `g[>>["arg"]]`, where `pick` yields a function with the
body of `g`, which prints a line and raises a text. -/
theorem raising_body_called_by_comma_and_by_name :
    let body : Block := [.call ">>" [.literal (.text "body")], .call "raise" [.literal (.text "x")]]
    let g : Function := { name := some "g", body }
    let pick : Function := { name := some "pick", body := [.lambda body] }
    let machine : Machine :=
      { frames := [{ name := "main", bindings := [("g", g), ("pick", pick)] }] }
    let args : List Expr := [.call ">>" [.literal (.text "arg")]]
    ∃ left left', evaluate 4 (.call "," [.bare "pick", .list args]) machine =
        .ok (.exception .error (.text "x") [","]) left ∧
      evaluate 3 (.call "g" args) machine = .ok (.exception .error (.text "x") ["g"]) left' ∧
      SameDoing machine left left' ∧ Effect.output left.effects.toList = ["arg", "body"] := by
  intro body g pick machine args
  have unbound : machine.lookup "," = none := rfl
  have bound : machine.lookup "g" = some g := rfl
  have picked : evaluate 2 (.bare "pick") machine = .ok (.function { name := none, body }) machine :=
    rfl
  have plain : Expr.definesAny args = false := rfl
  let printed := (machine.emit "arg").emit "body"
  have applied : evaluate 4 (.call "," [.bare "pick", .list args]) machine =
      .ok (.exception .error (.text "x") [","]) printed := rfl
  have called : evaluate 3 (.call "g" args) machine =
      .ok (.exception .error (.text "x") ["g"]) printed := rfl
  have outcomes :=
    (comma_call_agrees_with_named_call unbound bound picked rfl rfl (.refl machine) plain).2 3
      (by decide)
  rw [applied, called] at outcomes
  rcases outcomes with ⟨_, _, _, cut, _⟩ | agree
  · cases cut
  · cases agree with
    | ended _ same => exact ⟨printed, printed, applied, called, same, rfl⟩

end CurryScript
