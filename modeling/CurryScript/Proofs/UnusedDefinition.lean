import CurryScript.Proofs.Simulation

/-!
Definitions that are not used. A function sees the definitions of its callers, so a definition among
the expressions of a program is in sight of all that runs after it. Where its name occurs nowhere in
the program it changes nothing all the same, neither the outcome nor what is printed.
-/
namespace CurryScript

namespace Expr

mutual

def names : Expr → List String
  | .literal _ => []
  | .list items => namesAll items
  | .bare name => [name]
  | .call name args => name :: namesAll args
  | .lambda body => namesAll body
  | .define name body => name :: namesAll body

def namesAll : List Expr → List String
  | [] => []
  | expr :: rest => names expr ++ namesAll rest

end

end Expr

namespace Comparison

def Avoids (name : String) (expr other : Expr) : Prop := expr = other ∧ name ∉ expr.names

theorem avoids_all {name : String} {exprs : List Expr} (absent : name ∉ Expr.namesAll exprs) :
    List.Forall₂ (Avoids name) exprs exprs := by
  induction exprs with
  | nil => exact .nil
  | cons expr exprs ih =>
    rw [Expr.namesAll, List.mem_append, not_or] at absent
    exact .cons ⟨rfl, absent.1⟩ (ih absent.2)

/-- Code without a name, compared with itself. The frames of the first run have all that those of the
second have but the bindings of this name. -/
def avoiding (name : String) : Comparison where
  known other := other ≠ name
  exprs := Avoids name
  parallel := by
    rintro expr _ ⟨rfl, absent⟩
    have known {other : String} {names : List String} (absent : name ∉ other :: names) :
        decide (other ≠ name) = true ∧ name ∉ names := by
      rw [List.mem_cons, not_or] at absent
      exact ⟨decide_eq_true (Ne.symm absent.1), absent.2⟩
    cases expr with
    | literal value => exact .literal value
    | list items => exact .list (avoids_all absent)
    | bare other => exact .call (known absent).1 rfl rfl .nil
    | call other args => exact .call (known absent).1 rfl rfl (avoids_all (known absent).2)
    | lambda body => exact .lambda (avoids_all absent)
    | define other body => exact .define (known absent).1 (avoids_all (known absent).2)

theorem avoiding_values_eq {name : String} {value other : Value}
    (alike : (avoiding name).Values value other) : value = other := by
  have single {expr other : Expr} (paired : (avoiding name).exprs expr other) : expr = other :=
    paired.1
  exact values_eq single alike

end Comparison

namespace Frame

theorem unbound_of_avoiding {name : String} {frame : Frame}
    (alike : (Comparison.avoiding name).Frames frame frame) : frame.contains name = false := by
  have kept := List.length_filter_eq_length_iff.mp alike.bindings.length_eq.symm
  rw [Bool.eq_false_iff]
  intro bound
  rw [contains_iff_mem_keys, keys, List.mem_map] at bound
  obtain ⟨binding, member, named⟩ := bound
  have known : decide (binding.1 ≠ name) = true := kept binding member
  rw [decide_eq_true_eq] at known
  exact known named

theorem avoiding_bind {name : String} {frame : Frame} (f : Function)
    (alike : (Comparison.avoiding name).Frames frame frame) :
    (Comparison.avoiding name).Frames frame
      { frame with bindings := frame.bindings ++ [(name, f)] } := by
  have dropped : [(name, f)].filter ((Comparison.avoiding name).known ·.1) = [] := by
    simp [Comparison.avoiding]
  refine ⟨alike.args, ?_⟩
  rw [List.filter_append, dropped, List.append_nil]
  exact alike.bindings

end Frame

namespace Eval

open Comparison (avoiding)

variable {name : String} {program : Block}

/-- The definition binds its name in the innermost frame, where the other run does not. -/
theorem define_avoiding (body : Block) {machine : Machine}
    (alike : (avoiding name).Machines machine machine) (framed : machine.frames ≠ []) :
    ∃ left, define name body machine = .ok (.function { name := some name, body }) left ∧
      (avoiding name).Proceeds machine machine machine left := by
  obtain ⟨frame, below, here⟩ := List.exists_cons_of_ne_nil framed
  unfold Comparison.Machines at alike
  rw [here] at alike
  cases alike with
  | cons innermost rest =>
    let f : Function := { name := some name, body }
    let bound : Frame := { frame with bindings := frame.bindings ++ [(name, f)] }
    have unbound := Frame.unbound_of_avoiding innermost
    have done : frame.bind? name f = some bound := by
      simp [Frame.bind?, unbound, bound]
    refine ⟨{ machine with frames := bound :: below }.note (.define name bound.name), ?_, ?_⟩
    · simp only [define, here]
      rw [done]
    · refine .silent ?_ (.refl machine) (machine.printed_reframed _ _)
      unfold Comparison.Machines
      rw [Machine.frames_note, here]
      exact .cons (Frame.avoiding_bind f innermost) rest

theorem agree_statements_define (depth : Nat) {expr : Expr} {rest : Block}
    (absent : name ∉ Expr.namesAll (expr :: rest)) (body : Block) (last : Value)
    {machine : Machine} (alike : (avoiding name).Machines machine machine)
    (framed : machine.frames ≠ []) :
    (avoiding name).Agree (avoiding name).Values machine machine
      (statements (evaluate depth) last (expr :: rest) machine)
      (statements (evaluate depth) last (.define name body :: expr :: rest) machine) := by
  have paired : List.Forall₂ (avoiding name).exprs (expr :: rest) (expr :: rest) :=
    Comparison.avoids_all absent
  have runs := simulates_statements (simulates_evaluate depth) paired (.bool false)
  cases depth with
  | zero =>
    have running : Halt.tooDeep ≠ .framesActive := nofun
    exact .error running (.refl alike)
  | succ depth =>
    obtain ⟨left, defined, proceeds⟩ := define_avoiding body alike framed
    -- The value of the definition is dropped, as another expression follows.
    have stepped : statements (evaluate (depth + 1)) last (.define name body :: expr :: rest)
        machine = statements (evaluate (depth + 1)) (.bool false) (expr :: rest) left := by
      have evaluated : evaluate (depth + 1) (.define name body) machine = _ := defined
      rw [statements, bind_of_ok evaluated]
      rfl
    rw [stepped]
    exact (runs machine left proceeds.frames).after proceeds

theorem agree_statements_insert (depth : Nat) (absent : name ∉ Expr.namesAll program)
    {position : Nat} (before : position < program.length) (body : Block) (last : Value)
    {machine : Machine} (alike : (avoiding name).Machines machine machine)
    (framed : machine.frames ≠ []) :
    (avoiding name).Agree (avoiding name).Values machine machine
      (statements (evaluate depth) last program machine)
      (statements (evaluate depth) last (program.insertIdx position (.define name body)) machine) := by
  -- Up to the definition both runs are one and the same, so its machine is like itself.
  induction position generalizing program machine last with
  | zero =>
    cases program with
    | nil => contradiction
    | cons expr rest =>
      rw [List.insertIdx_zero]
      exact agree_statements_define depth absent body last alike framed
  | succ position ih =>
    cases program with
    | nil => contradiction
    | cons expr rest =>
      rw [Expr.namesAll, List.mem_append, not_or] at absent
      have paired : (avoiding name).exprs expr expr := ⟨rfl, absent.1⟩
      have first := simulates_evaluate depth expr expr paired machine machine alike
      have grown := keeps_evaluate kept_grown depth expr machine
      rw [List.insertIdx_succ_cons, statements, statements]
      simp only [bind, EStateM.bind]
      cases outcome : evaluate depth expr machine with
      | ok value left =>
        rw [outcome] at first
        rw [after_ok outcome] at grown
        have framed' : left.frames ≠ [] := by
          rw [← List.length_pos_iff, grown.length, List.length_pos_iff]
          exact framed
        cases first with
        | ok results proceeds =>
          dsimp only
          split
          · exact .ok results proceeds
          · have before' : position < rest.length := Nat.lt_of_succ_lt_succ before
            exact (ih absent.2 before' value proceeds.frames framed').after proceeds
      | error halt left =>
        rw [outcome] at first
        cases first with
        | error running proceeds => exact .error running proceeds

/-- A definition whose name occurs nowhere in a program can be put before any of its expressions. -/
theorem unused_definition_unobserved (depth : Nat) (mainFrame : String)
    (absent : name ∉ Expr.namesAll program) {position : Nat} (before : position < program.length)
    (body : Block) {machine : Machine} (idle : machine.frames = []) :
    let short := run depth mainFrame program
    let long := run depth mainFrame (program.insertIdx position (.define name body))
    long.answer machine = short.answer machine ∧
      (∃ lines, Machine.Printed lines machine (short.after machine) ∧
        Machine.Printed lines machine (long.after machine)) := by
  intro short long
  have alike : (avoiding name).Machines machine machine := .of_idle idle idle
  have entered := alike.push .nil mainFrame mainFrame
  have framed : (machine.push mainFrame []).frames ≠ [] := by simp
  have inside := agree_statements_insert depth absent before body (.bool false) entered framed
  have agree : (avoiding name).Agree (avoiding name).Values machine machine (short machine)
      (long machine) := by
    unfold short long
    rw [run_of_idle depth mainFrame _ idle, run_of_idle depth mainFrame _ idle]
    refine agree_bind (agree_inFrame alike .nil inside) fun result => ?_
    exact simulates_pure (alike_leave (fun _ => rfl) result)
  exact ⟨(agree.answer_eq Comparison.avoiding_values_eq).symm, agree.proceeds.printed⟩

/-- The function that prints is called with the unused one in sight. -/
theorem unused_definition_unobserved_in_sight :
    let program : Block :=
      [.define "f" [.bare "_", .call ">>" [.literal (.text "a")]], .call "f" [.bare "_"]]
    let long := program.insertIdx 1 (.define "g" [.call "~" [.bare "f"]])
    "g" ∉ Expr.namesAll program ∧ 1 < program.length ∧
      (run 9 "main" long).answer {} = (run 9 "main" program).answer {} ∧
      (∃ lines, Machine.Printed lines {} ((run 9 "main" program).after {}) ∧
        Machine.Printed lines {} ((run 9 "main" long).after {})) ∧
      ((run 9 "main" long).after {}).stream = "a\n" := by
  intro program long
  have absent : "g" ∉ Expr.namesAll program := by decide
  have before : 1 < program.length := by decide
  have unobserved := unused_definition_unobserved 9 "main" absent before
    [.call "~" [.bare "f"]] (rfl : ({} : Machine).frames = [])
  exact ⟨absent, before, unobserved.1, unobserved.2, by decide +kernel⟩

end Eval

end CurryScript
