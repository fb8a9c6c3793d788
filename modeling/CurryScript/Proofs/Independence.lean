import CurryScript.Proofs.Simulation
import CurryScript.Session

/-!
What evaluation does not depend on: the names of frames, debugging, and all that was printed or
executed before. Scripts of one session are therefore independent of each other.
-/
namespace CurryScript

namespace Comparison

def identical : Comparison where
  known _ := true
  exprs := Eq
  parallel := by
    rintro expr _ rfl
    have same (exprs : List Expr) : List.Forall₂ Eq exprs exprs := by
      rw [List.forall₂_eq_eq_eq]
    cases expr with
    | literal value => exact .literal value
    | list items => exact .list (same items)
    | bare name => exact .call rfl rfl rfl .nil
    | call name args => exact .call rfl rfl rfl (same args)
    | lambda body => exact .lambda (same body)
    | define name body => exact .define rfl (same body)

theorem identical_functions (f : Function) : identical.Functions f f :=
  ⟨rfl, rfl, by rw [identical, List.forall₂_eq_eq_eq]⟩

theorem identical_values_eq {value other : Value} (alike : identical.Values value other) :
    value = other :=
  values_eq id alike

theorem identical_bindings_iff {bindings others : List (String × Function)} :
    List.Forall₂ identical.Bindings bindings others ↔ bindings = others := by
  constructor
  · intro each
    rw [← List.forall₂_eq_eq_eq]
    refine each.imp fun binding other paired => ?_
    exact Prod.ext paired.1 (functions_eq id paired.2)
  · rintro rfl
    rw [List.forall₂_same]
    exact fun binding _ => ⟨rfl, identical_functions binding.2⟩

end Comparison

structure Frame.SameContents (frame other : Frame) : Prop where
  args : frame.args = other.args
  bindings : frame.bindings = other.bindings

theorem Comparison.identical_frames_iff {frame other : Frame} :
    identical.Frames frame other ↔ frame.SameContents other := by
  have all (bindings : List (String × Function)) :
      bindings.filter (identical.known ·.1) = bindings :=
    List.filter_eq_self.mpr fun _ _ => rfl
  constructor
  · rintro ⟨args, bindings⟩
    rw [all, identical_bindings_iff] at bindings
    exact ⟨Value.alikeAll_eq (functions_eq id) args, bindings⟩
  · rintro ⟨args, bindings⟩
    refine ⟨?_, ?_⟩
    · rw [args]
      exact Value.alikeAll_refl identical_functions other.args
    · rw [all, identical_bindings_iff]
      exact bindings

theorem Comparison.identical_machines {machine other : Machine}
    (same : machine.frames = other.frames) : identical.Machines machine other := by
  unfold Machines
  rw [same, List.forall₂_same]
  exact fun frame _ => identical_frames_iff.mpr ⟨rfl, rfl⟩

/-- Machines that are equal but for the names of their frames and for debugging, that is, the flag
and the trace it asks for. -/
structure Machine.SameButNames (machine other : Machine) : Prop where
  frames : List.Forall₂ Frame.SameContents machine.frames other.frames
  effects : machine.effects = other.effects
  stream : machine.stream = other.stream

namespace Machine

theorem SameButNames.alike {machine other : Machine} (same : machine.SameButNames other) :
    Comparison.identical.Machines machine other :=
  same.frames.imp fun _ _ => Comparison.identical_frames_iff.mpr

theorem SameButNames.proceeds {machine other left left' : Machine}
    (same : machine.SameButNames other)
    (proceeds : Comparison.identical.Proceeds machine other left left') :
    left.SameButNames left' := by
  obtain ⟨lines, here, there⟩ := proceeds.printed
  refine ⟨proceeds.frames.imp fun _ _ => Comparison.identical_frames_iff.mp, ?_, ?_⟩
  · rw [← Array.toList_inj, here.effects, there.effects, same.effects]
  · rw [here.stream, there.stream, same.stream]

end Machine

theorem Eval.simulates_node (depth : Nat) (node : Node) :
    Simulates .identical Comparison.identical.Values (Eval.node depth node)
      (Eval.node depth node) := by
  cases node with
  | expr expr => exact simulates_evaluate depth expr expr rfl
  | block body => exact simulates_throw nofun

namespace Session

theorem frames_giveUp (settings : Settings) (machine : Machine) :
    (giveUp settings machine).2.frames = [] := by
  rw [giveUp, Machine.frames_note]

theorem frames_evaluateProgram (settings : Settings) (program : Block) {machine : Machine}
    (idle : machine.frames = []) : (evaluateProgram settings program machine).2.frames = [] := by
  have framed := Eval.frames_block (evaluationDepth settings.depth) program [] settings.mainFrame
    false machine
  rw [evaluateProgram, Eval.run_of_idle _ _ _ idle]
  cases outcome : Eval.block (evaluate (evaluationDepth settings.depth)) program []
      settings.mainFrame false machine with
  | ok value left =>
    rw [Eval.after_ok outcome, idle] at framed
    dsimp only
    cases value.fault? with
    | none => exact framed
    | some fault => rw [Machine.frames_note, framed]
  | error halt left =>
    rw [Eval.after_error outcome, idle] at framed
    cases halt with
    | tooDeep => exact frames_giveUp settings left
    | numeral | notAValue | blockNode | definitionOutsideFrame | framesActive => exact framed

theorem frames_executeOn (settings : Settings) (source : String) {machine : Machine}
    (idle : machine.frames = []) : (executeOn settings source machine).2.frames = [] := by
  unfold executeOn
  cases readProgram settings.depth source with
  | ok read =>
    apply frames_evaluateProgram
    rw [Machine.frames_note, idle]
  | error unreadable =>
    cases unreadable with
    | numeral failure => exact idle
    | syntaxError error => exact idle
    | tooDeep => exact frames_giveUp settings machine

/-- What is the same in two executions that start from two machines: the answer, which is not that
the script was refused, and the lines printed. -/
structure Matching {α : Type} (machine other : Machine) (done done' : Except Halt α × Machine) :
    Prop where
  answer : done.1 = done'.1
  running : done.1 ≠ .error .framesActive
  printed : ∃ lines, Machine.Printed lines machine done.2 ∧ Machine.Printed lines other done'.2

section

variable {settings settings' : Settings}
  (sameLimit : settings.recursionLimit = settings'.recursionLimit)

theorem matching_giveUp {machine other left left' : Machine}
    (printed : ∃ lines, Machine.Printed lines machine left ∧ Machine.Printed lines other left') :
    Matching machine other (giveUp settings left) (giveUp settings' left') := by
  obtain ⟨lines, here, there⟩ := printed
  refine ⟨rfl, nofun, lines ++ [], here.trans ?_, there.trans ?_⟩
  · exact left.printed_reframed [] _
  · exact left'.printed_reframed [] _

include sameLimit

theorem depth_eq : settings.depth = settings'.depth := by
  rw [Settings.depth, Settings.depth, sameLimit]

theorem matching_evaluateProgram (program : Block) {machine other : Machine}
    (idle : machine.frames = []) (idle' : other.frames = []) :
    Matching machine other (evaluateProgram settings program machine)
      (evaluateProgram settings' program other) := by
  have same : List.Forall₂ Comparison.identical.exprs program program := by
    rw [Comparison.identical, List.forall₂_eq_eq_eq]
  have agree := Eval.agree_run (evaluationDepth settings.depth) settings.mainFrame
    settings'.mainFrame same idle idle'
  unfold evaluateProgram
  rw [← depth_eq sameLimit]
  generalize Eval.run _ settings.mainFrame program machine = outcome,
    Eval.run _ settings'.mainFrame program other = outcome' at agree ⊢
  cases agree with
  | @ok value value' left left' results proceeds =>
    obtain rfl := Comparison.identical_values_eq results
    obtain ⟨lines, here, there⟩ := proceeds.printed
    dsimp only
    cases value.fault? with
    | none => exact ⟨rfl, nofun, lines, here, there⟩
    | some fault =>
      refine ⟨rfl, nofun, lines ++ [], here.trans ?_, there.trans ?_⟩
      · exact left.printed_note _
      · exact left'.printed_note _
  | @error halt running left left' proceeds =>
    cases halt with
    | tooDeep => exact matching_giveUp proceeds.printed
    | framesActive => contradiction
    | numeral | notAValue | blockNode | definitionOutsideFrame =>
      exact ⟨rfl, nofun, proceeds.printed⟩

theorem matching_executeOn (source : String) {machine other : Machine}
    (idle : machine.frames = []) (idle' : other.frames = []) :
    Matching machine other (executeOn settings source machine)
      (executeOn settings' source other) := by
  unfold executeOn
  rw [← depth_eq sameLimit]
  cases readProgram settings.depth source with
  | ok read =>
    obtain ⟨program, count⟩ := read
    have noted {start : Machine} (idle : start.frames = []) :
        (start.note (.parsed program.length count)).frames = [] := by
      rw [Machine.frames_note, idle]
    have matching := matching_evaluateProgram sameLimit program (noted idle) (noted idle')
    obtain ⟨lines, here, there⟩ := matching.printed
    refine ⟨matching.answer, matching.running, [] ++ lines, ?_, ?_⟩
    · exact (machine.printed_note _).trans here
    · exact (other.printed_note _).trans there
  | error unreadable =>
    cases unreadable with
    | numeral failure => exact ⟨rfl, nofun, [], .refl machine, .refl other⟩
    | syntaxError error => exact ⟨rfl, nofun, [], .refl machine, .refl other⟩
    | tooDeep => exact matching_giveUp ⟨[], .refl machine, .refl other⟩

end

/-- A script starts without effects, so its report holds its own alone. -/
theorem matching_execute (session other : Session)
    (sameLimit : session.settings.recursionLimit = other.settings.recursionLimit) (source : String)
    (idle : session.machine.frames = []) (idle' : other.machine.frames = []) :
    let done := session.execute source
    let done' := other.execute source
    Matching { session.machine with effects := #[] } { other.machine with effects := #[] }
      (done.1, done.2.machine) (done'.1, done'.2.machine) := by
  have cleared {start : Machine} (idle : start.frames = []) :
      { start with effects := #[] }.frames = [] := idle
  have matching := matching_executeOn sameLimit source (cleared idle) (cleared idle')
  obtain ⟨lines, here, there⟩ := matching.printed
  refine ⟨?_, ?_, lines, here, there⟩
  · simp only [execute]
    rw [matching.answer, here.effects, there.effects]
  · have running := matching.running
    simp only [execute]
    generalize executeOn session.settings source _ = done at running
    cases answer : done.1 with
    | ok ending => nofun
    | error halt =>
      intro refused
      cases refused
      exact running answer

def afterAll (session : Session) (sources : List String) : Session :=
  sources.foldl (fun session source => (session.execute source).2) session

theorem afterAll_idle (sources : List String) {session : Session}
    (idle : session.machine.frames = []) :
    (session.afterAll sources).settings = session.settings ∧
      (session.afterAll sources).machine.frames = [] := by
  induction sources generalizing session with
  | nil => exact ⟨rfl, idle⟩
  | cons source sources ih => exact ih (frames_executeOn session.settings source idle)

/-- A script in a session does what it does alone, whatever was executed before it. -/
theorem scripts_independent (settings : Settings) (earlier : List String) (source : String) :
    let session := (start settings).afterAll earlier
    let together := session.execute source
    let alone := (start settings).execute source
    together.1 = alone.1 ∧ together.1 ≠ .error .framesActive ∧
      together.2.machine.stream = session.machine.stream ++ alone.2.machine.stream ∧
      session.machine.frames = [] ∧ together.2.machine.frames = [] := by
  intro session together alone
  obtain ⟨same, idle⟩ : session.settings = settings ∧ session.machine.frames = [] :=
    afterAll_idle earlier rfl
  have matching := matching_execute session (start settings) (congrArg _ same) source idle rfl
  obtain ⟨lines, here, there⟩ := matching.printed
  -- Alone the stream starts empty, so it ends as the text of the lines.
  have written : alone.2.machine.stream = Effect.text lines := by
    rw [there.stream]
    exact String.empty_append
  refine ⟨matching.answer, matching.running, ?_, idle, ?_⟩
  · rw [written]
    exact here.stream
  · exact frames_executeOn session.settings source idle

end Session

/-- Evaluation does not depend on the names of frames or on debugging, and so neither do executions
on the name of the first frame or on debugging. -/
theorem names_and_debugging_unobservable :
    (∀ (depth : Nat) (node : Node) (machine other : Machine), machine.SameButNames other →
      (Eval.node depth node).answer machine = (Eval.node depth node).answer other ∧
      (∃ lines, Machine.Printed lines machine ((Eval.node depth node).after machine) ∧
        Machine.Printed lines other ((Eval.node depth node).after other)) ∧
      ((Eval.node depth node).after machine).SameButNames ((Eval.node depth node).after other)) ∧
    ∀ (settings settings' : Settings) (source : String),
      settings.recursionLimit = settings'.recursionLimit →
      let done := (Session.start settings).execute source
      let done' := (Session.start settings').execute source
      done.1 = done'.1 ∧ done.2.machine.SameButNames done'.2.machine := by
  constructor
  · intro depth node machine other same
    have agree := Eval.simulates_node depth node machine other same.alike
    refine ⟨agree.answer_eq Comparison.identical_values_eq, agree.proceeds.printed, ?_⟩
    exact same.proceeds agree.proceeds
  · intro settings settings' source sameLimit done done'
    have matching := Session.matching_execute (.start settings) (.start settings') sameLimit source
      rfl rfl
    obtain ⟨lines, here, there⟩ := matching.printed
    refine ⟨matching.answer, ?_, ?_, ?_⟩
    · have idle : done.2.machine.frames = [] := Session.frames_executeOn settings source rfl
      have idle' : done'.2.machine.frames = [] := Session.frames_executeOn settings' source rfl
      rw [idle, idle']
      exact .nil
    · rw [← Array.toList_inj]
      exact here.effects.trans there.effects.symm
    · exact here.stream.trans there.stream.symm

/-- A call that prints a line and then fails, in frames of different names, and a script that
defines and calls the same function. -/
theorem renamed_frames_unobserved :
    let f : Function :=
      { name := some "f"
        body := [.call ">>" [.literal (.text "a")],
          .call "+" [.literal (.int 1), .literal (.bool true)]] }
    let machine : Machine :=
      { frames := [{ name := "main", bindings := [("f", f)] }], debug := true }
    let other : Machine := { frames := [{ name := "other", bindings := [("f", f)] }] }
    let called := Eval.node 3 (.expr (.call "f" []))
    let settings : Settings := { debug := true, mainFrame := "top" }
    let source := "f: [>>[\"a\"]; +[1 true]]; f[]"
    machine.SameButNames other ∧ called.answer machine = called.answer other ∧
      (called.after machine).SameButNames (called.after other) ∧
      (called.after machine).stream = "a\n" ∧
      ((Session.start settings).execute source).1 = ((Session.start {}).execute source).1 ∧
      ((Session.start settings).execute source).1.toOption.map
        (fun report => (report.output, report.ending.isError)) = some (["a"], true) := by
  intro f machine other called settings source
  have same : machine.SameButNames other := ⟨.cons ⟨rfl, rfl⟩ .nil, rfl, rfl⟩
  have evaluated :=
    names_and_debugging_unobservable.1 3 (.expr (.call "f" [])) machine other same
  have executed := names_and_debugging_unobservable.2 settings {} source rfl
  exact ⟨same, evaluated.1, evaluated.2.2, by decide +kernel, executed.1, by decide +kernel⟩

end CurryScript
