import CurryScript.Command
import CurryScript.Proofs.Independence

/-!
Output. Evaluation takes back nothing of what was printed: however it ends, the lines it prints
follow those before it, among the effects and on the stream alike, and they depend on the frames
alone. So the stream shows the lines that a script reports, and the command writes them before
anything else.
-/
namespace CurryScript

theorem Effect.output_printed (lines : List String) :
    Effect.output (lines.map Effect.printed) = lines := by
  have shown : (lines.map Effect.printed).filter (·.topics = some ["stdout"]) =
      lines.map Effect.printed := by
    rw [List.filter_eq_self]
    intro effect member
    obtain ⟨line, _, rfl⟩ := List.mem_map.mp member
    rfl
  rw [Effect.output, shown, List.map_map]
  exact List.map_id lines

namespace Machine

theorem Printed.output {before after : Machine} {lines : List String}
    (printed : Printed lines before after) (fresh : before.effects = #[]) :
    Effect.output after.effects.toList = lines := by
  rw [printed.effects, fresh]
  exact Effect.output_printed lines

theorem Printed.lines_eq {before after : Machine} {lines lines' : List String}
    (printed : Printed lines before after) (printed' : Printed lines' before after) :
    lines = lines' := by
  have same := printed.effects.symm.trans printed'.effects
  rw [List.append_cancel_left_eq] at same
  rw [← Effect.output_printed lines, same, Effect.output_printed]

theorem Printed.symm {before after : Machine} (silent : Printed [] before after) :
    Printed [] after before := by
  constructor
  · rw [silent.effects, List.map_nil, List.append_nil, List.append_nil]
  · rw [silent.stream, Effect.text, List.map_nil, String.join_nil, String.append_empty,
      String.append_empty]

def Continues (before after : Machine) : Prop := ∃ lines, Printed lines before after

theorem Continues.refl (machine : Machine) : machine.Continues machine := ⟨[], .refl machine⟩

theorem Continues.trans {first second third : Machine} (one : first.Continues second)
    (two : second.Continues third) : first.Continues third := by
  obtain ⟨lines, printed⟩ := one
  obtain ⟨more, further⟩ := two
  exact ⟨lines ++ more, printed.trans further⟩

theorem Continues.output_prefix {before after : Machine} (continues : before.Continues after) :
    Effect.output before.effects.toList <+: Effect.output after.effects.toList := by
  obtain ⟨lines, printed⟩ := continues
  rw [printed.effects, Effect.output, Effect.output, List.filter_append, List.map_append]
  exact List.prefix_append _ _

theorem continues_note (machine : Machine) (event : TraceEvent) :
    machine.Continues (machine.note event) :=
  ⟨[], machine.printed_note event⟩

end Machine

namespace Eval

theorem continues_define (name : String) (body : Block) (machine : Machine) :
    machine.Continues ((define name body).after machine) := by
  rcases define_cases name body machine with
    ⟨_, halted⟩ | ⟨_, _, _, _, refused⟩ | ⟨_, _, _, _, _, defined⟩
  · rw [after_error halted]
    exact .refl machine
  · rw [after_ok refused]
    exact .refl machine
  · rw [after_ok defined]
    exact ⟨[], machine.printed_reframed _ _⟩

theorem continues_primitive (name : String) (args : List Value) (machine : Machine) :
    machine.Continues ((primitive name args).after machine) := by
  have noted := machine.continues_note (.primitive name args.length)
  unfold primitive after
  cases dispatch name args with
  | ok reply => exact noted.trans ⟨reply.printed, Machine.printed_emitAll reply.printed _⟩
  | error halt => exact noted

theorem kept_continues : Kept Machine.Continues where
  refl := .refl
  trans := .trans
  frame {machine left name args} moved := by
    have entered : machine.Continues (machine.push name args) := ⟨[], machine.printed_push name args⟩
    have popped : left.Continues left.pop := ⟨[], left.printed_pop⟩
    exact (entered.trans moved).trans popped
  define := continues_define
  primitive := continues_primitive

/-- The lines that a computation prints when it starts in given frames and from nothing else. -/
def lines {α : Type} (action : Eval α) (frames : List Frame) : List String :=
  Effect.output (action.after { frames }).effects.toList

theorem printed_node (depth : Nat) (node : Node) (machine : Machine) :
    Machine.Printed ((Eval.node depth node).lines machine.frames) machine
      ((Eval.node depth node).after machine) := by
  have alike : Comparison.identical.Machines { frames := machine.frames } machine :=
    Comparison.identical_machines rfl
  have agree := simulates_node depth node _ machine alike
  obtain ⟨printed, here, there⟩ := agree.proceeds.printed
  have same : (Eval.node depth node).lines machine.frames = printed := here.output rfl
  rw [same]
  exact there

end Eval

namespace Session

theorem printed_giveUp (settings : Settings) (machine : Machine) :
    Machine.Printed [] machine (giveUp settings machine).2 :=
  machine.printed_reframed [] _

theorem continues_run (depth : Nat) (mainFrame : String) (program : Block) :
    Eval.Keeps Machine.Continues (Eval.run depth mainFrame program) := by
  refine Eval.keeps_bind Eval.kept_continues .refl fun machine => ?_
  split
  · exact Eval.keeps_block Eval.kept_continues (Eval.keeps_evaluate Eval.kept_continues depth) _ _ _ _
  · exact Eval.keeps_throw Eval.kept_continues .framesActive

theorem printed_evaluateProgram (settings : Settings) (program : Block) (machine : Machine) :
    Machine.Printed []
      ((Eval.run (evaluationDepth settings.depth) settings.mainFrame program).after machine)
      (evaluateProgram settings program machine).2 := by
  unfold evaluateProgram
  cases outcome : Eval.run _ settings.mainFrame program machine with
  | ok value left =>
    rw [Eval.after_ok outcome]
    dsimp only
    cases value.fault? with
    | none => exact .refl left
    | some fault => exact left.printed_note _
  | error halt left =>
    rw [Eval.after_error outcome]
    cases halt with
    | tooDeep => exact printed_giveUp settings left
    | numeral | notAValue | blockNode | definitionOutsideFrame | framesActive => exact .refl left

theorem continues_evaluateProgram (settings : Settings) (program : Block) (machine : Machine) :
    machine.Continues (evaluateProgram settings program machine).2 := by
  have moved := continues_run (evaluationDepth settings.depth) settings.mainFrame program machine
  exact moved.trans ⟨[], printed_evaluateProgram settings program machine⟩

theorem continues_executeOn (settings : Settings) (source : String) (machine : Machine) :
    machine.Continues (executeOn settings source machine).2 := by
  unfold executeOn
  cases readProgram settings.depth source with
  | ok read =>
    exact (machine.continues_note _).trans (continues_evaluateProgram settings read.1 _)
  | error unreadable =>
    cases unreadable with
    | numeral failure => exact .refl machine
    | syntaxError error => exact .refl machine
    | tooDeep => exact ⟨[], printed_giveUp settings machine⟩

theorem evaluateProgram_ne_syntaxError (settings : Settings) (program : Block) (machine : Machine)
    (error : SyntaxError) : (evaluateProgram settings program machine).1 ≠ .ok (.syntaxError error) := by
  unfold evaluateProgram
  split
  · split <;> nofun
  · nofun
  · nofun

theorem readProgram_of_syntaxError {settings : Settings} {source : String} {machine : Machine}
    {error : SyntaxError} (ended : (executeOn settings source machine).1 = .ok (.syntaxError error)) :
    readProgram settings.depth source = .error (.syntaxError error) := by
  unfold executeOn at ended
  cases read : readProgram settings.depth source with
  | ok program =>
    rw [read] at ended
    exact absurd ended (evaluateProgram_ne_syntaxError settings program.1 _ error)
  | error unreadable =>
    rw [read] at ended
    cases unreadable with
    | numeral failure => cases ended
    | tooDeep => cases ended
    | syntaxError error =>
      cases ended
      rfl

theorem executeOn_syntaxError {settings : Settings} {source : String} {machine : Machine}
    {error : SyntaxError} (ended : (executeOn settings source machine).1 = .ok (.syntaxError error)) :
    (executeOn settings source machine).2 = machine := by
  rw [executeOn, readProgram_of_syntaxError ended]

theorem stream_execute (session : Session) (source : String) :
    let left := (session.execute source).2.machine
    left.stream = session.machine.stream ++ Effect.text (Effect.output left.effects.toList) := by
  intro left
  obtain ⟨lines, printed⟩ := continues_executeOn session.settings source
    { session.machine with effects := #[] }
  have recorded : Effect.output left.effects.toList = lines := printed.output rfl
  rw [recorded]
  exact printed.stream

theorem execute_ok {session : Session} {source : String} {report : Report}
    (ok : (session.execute source).1 = .ok report) :
    (executeOn session.settings source { session.machine with effects := #[] }).1 =
        .ok report.ending ∧
      report.effects = (session.execute source).2.machine.effects.toList := by
  unfold execute at ok ⊢
  dsimp only at ok ⊢
  cases ended : (executeOn session.settings source { session.machine with effects := #[] }).1 with
  | error halt =>
    rw [ended] at ok
    cases ok
  | ok ending =>
    rw [ended] at ok
    cases ok
    exact ⟨rfl, rfl⟩

theorem stream_of_report {session : Session} {source : String} {report : Report}
    (ok : (session.execute source).1 = .ok report) :
    (session.execute source).2.machine.stream =
      session.machine.stream ++ Effect.text report.output := by
  rw [Report.output, (execute_ok ok).2]
  exact stream_execute session source

theorem output_of_syntaxError {session : Session} {source : String} {report : Report}
    {error : SyntaxError} (ok : (session.execute source).1 = .ok report)
    (ended : report.ending = .syntaxError error) : report.output = [] := by
  obtain ⟨ending, effects⟩ := execute_ok ok
  rw [ended] at ending
  have unchanged : (session.execute source).2.machine = { session.machine with effects := #[] } :=
    executeOn_syntaxError ending
  rw [Report.output, effects, unchanged]
  rfl

end Session

namespace Command

theorem execute_of_report {settings : Settings} {source : String} {report : Report}
    (ok : ((Session.start settings).execute source).1 = .ok report) :
    (execute settings source).stdout =
        Effect.text report.output ++ (if report.ending.isError then report.text ++ "\n" else "") ∧
      (execute settings source).status = .ok (if report.ending.isError then 1 else 0) := by
  have written : ((Session.start settings).execute source).2.machine.stream =
      Effect.text report.output := by
    rw [Session.stream_of_report ok]
    exact String.empty_append
  unfold execute
  dsimp only
  rw [ok, written]
  dsimp only
  split
  · exact ⟨String.append_assoc .., rfl⟩
  · exact ⟨String.append_empty.symm, rfl⟩

theorem run_of_readable {surroundings : Surroundings} {path source : String} {settings : Settings}
    (readable : surroundings.readText path = .ok source)
    (valid : Settings.load surroundings = .ok settings) :
    run surroundings [path] = execute settings source := by
  rw [run, runFile, readable]
  dsimp only
  rw [valid]

end Command

/-- Output is only ever appended, the same lines to the effects and to the stream, and which lines
depends on nothing but the frames. A script that ends, in whatever way, has written to the stream
what its report has for output, and the command writes this and then the report of an error, by
whatever reader it has its settings. -/
theorem output_appended_to_both_channels :
    (∀ (depth : Nat) (node : Node) (machine : Machine),
      Machine.Printed ((Eval.node depth node).lines machine.frames) machine
        ((Eval.node depth node).after machine)) ∧
    (∀ (session : Session) (source : String),
      let done := session.execute source
      done.2.machine.stream = session.machine.stream ++
          Effect.text (Effect.output done.2.machine.effects.toList) ∧
        ∀ report, done.1 = .ok report →
          done.2.machine.stream = session.machine.stream ++ Effect.text report.output ∧
          ∀ error, report.ending = .syntaxError error → report.output = []) ∧
    ∀ (surroundings : Surroundings) (path source : String) (settings : Settings) (report : Report),
      surroundings.readText path = .ok source → Settings.load surroundings = .ok settings →
      ((Session.start settings).execute source).1 = .ok report →
      let outcome := Command.run surroundings [path]
      outcome.stdout = Effect.text report.output ++
          (if report.ending.isError then report.text ++ "\n" else "") ∧
        outcome.status = .ok (if report.ending.isError then 1 else 0) := by
  refine ⟨Eval.printed_node, ?_, ?_⟩
  · intro session source done
    refine ⟨Session.stream_execute session source, fun report ok => ?_⟩
    exact ⟨Session.stream_of_report ok, fun error ended => Session.output_of_syntaxError ok ended⟩
  · intro surroundings path source settings report readable valid ok outcome
    have ran : outcome = Command.execute settings source := Command.run_of_readable readable valid
    rw [ran]
    exact Command.execute_of_report ok

/-- A script that prints a line and then calls a function that is not there, under settings from a
file that is read in some way or other. -/
theorem undefined_call_reported_after_output :
    let source := ">>[\"a\"]; f"
    let settings : Settings := { recursionLimit := 500 }
    let surroundings : Surroundings :=
      { read := readEntry [("script", .file source.toUTF8.toList), ("settings", .file [])]
        lookupVariable := fun name => if name = "CURRY_CONFIG" then some "settings" else none
        readYaml := fun _ => .ok (.mapping [(.text "recursion_limit", .int 500)]) }
    ∃ report, surroundings.readText "script" = .ok source ∧
      Settings.load surroundings = .ok settings ∧
      ((Session.start settings).execute source).1 = .ok report ∧ report.output = ["a"] ∧
      (Command.run surroundings ["script"]).stdout = "a\n" ++ (report.text ++ "\n") ∧
      (Command.run surroundings ["script"]).status = .ok 1 := by
  intro source settings surroundings
  have readable : surroundings.readText "script" = .ok source := by decide +kernel
  have valid : Settings.load surroundings = .ok settings := by decide +kernel
  have ran : ((Session.start settings).execute source).1.toOption.map
      (fun report => (report.output, report.ending.isError)) = some (["a"], true) := by
    decide +kernel
  cases ok : ((Session.start settings).execute source).1 with
  | error halt =>
    rw [ok] at ran
    cases ran
  | ok report =>
    rw [ok] at ran
    obtain ⟨output, failed⟩ := Prod.mk.inj (Option.some.inj ran)
    have outcome := output_appended_to_both_channels.2.2 surroundings "script" source settings
      report readable valid ok
    rw [output, if_pos failed, if_pos failed] at outcome
    exact ⟨report, readable, valid, rfl, output, outcome⟩

end CurryScript
