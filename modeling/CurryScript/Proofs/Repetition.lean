import Mathlib.Logic.Function.Iterate
import CurryScript.Proofs.Output

/-!
Evaluating again. The answer to a node and the lines it prints depend on the frames alone. A node
without definitions leaves the frames as it found them, whatever the functions it calls define in
frames of their own, so it can be evaluated over and over with the same answer and the same lines.
-/
namespace CurryScript

/-- Whether evaluating a node can bind a name in the frame in which it stands. A block by itself is
never evaluated. -/
def Node.defines : Node → Bool
  | .expr inner => inner.defines
  | .block _ => false

namespace Eval

theorem sameFrames_node (depth : Nat) {node : Node} (plain : node.defines = false) :
    Keeps SameFrames (Eval.node depth node) := by
  cases node with
  | expr expr => exact sameFrames_evaluate depth plain
  | block body => exact fun _ => rfl

theorem frames_repeated {α : Type} {action : Eval α} (kept : Keeps SameFrames action)
    (machine : Machine) (count : Nat) : (action.after^[count] machine).frames = machine.frames := by
  induction count with
  | zero => rfl
  | succ count ih =>
    rw [Function.iterate_succ_apply', kept, ih]

theorem answer_node_of_frames (depth : Nat) (node : Node) {machine other : Machine}
    (same : other.frames = machine.frames) :
    (Eval.node depth node).answer other = (Eval.node depth node).answer machine := by
  have alike : Comparison.identical.Machines other machine := Comparison.identical_machines same
  exact (simulates_node depth node other machine alike).answer_eq Comparison.identical_values_eq

end Eval

open Eval

/-- A node without definitions can be evaluated again. After any number of evaluations the frames
are those of the beginning, and the next evaluation gives the answer that the first one gave, be it a
value, an exception or a halt, and prints the lines that the first one printed. -/
theorem evaluation_repeatable (depth : Nat) {node : Node} (plain : node.defines = false)
    (machine : Machine) (count : Nat) :
    let action := Eval.node depth node
    let reached := action.after^[count] machine
    reached.frames = machine.frames ∧ action.answer reached = action.answer machine ∧
      Machine.Printed (action.lines machine.frames) reached (action.after reached) := by
  intro action reached
  have frames : reached.frames = machine.frames :=
    frames_repeated (sameFrames_node depth plain) machine count
  have printed := printed_node depth node reached
  rw [frames] at printed
  exact ⟨frames, answer_node_of_frames depth node frames, printed⟩

/-- The script `[f :[1]]`, evaluated a second time, where `f` binds a name in its frame, prints a
line and raises what the name yields. -/
theorem defining_call_evaluated_again :
    let body : Block := [.define "g" [.literal (.int 1)], .call ">>" [.literal (.text "line")],
      .call "raise" [.bare "g"]]
    let machine : Machine :=
      { frames := [{ name := "main", bindings := [("f", { name := some "f", body })] }] }
    let action := Eval.node 5 (.expr (.list [.bare "f", .lambda [.literal (.int 1)]]))
    let once := action.after machine
    ∃ lambda : Function, once.frames = machine.frames ∧
      action.answer once = .ok (.list [.exception .error (.int 1) ["f"], .function lambda]) ∧
      Machine.Printed ["line"] machine once ∧ Machine.Printed ["line"] once (action.after once) := by
  intro body machine action once
  let node : Node := .expr (.list [.bare "f", .lambda [.literal (.int 1)]])
  have plain : node.defines = false := rfl
  obtain ⟨_, _, printed⟩ := evaluation_repeatable 5 plain machine 0
  obtain ⟨frames, again, printedAgain⟩ := evaluation_repeatable 5 plain machine 1
  have answer : action.answer machine = .ok (.list [.exception .error (.int 1) ["f"],
      .function { name := none, body := [.literal (.int 1)] }]) := rfl
  exact ⟨_, frames, again.trans answer, printed, printedAgain⟩

end CurryScript
