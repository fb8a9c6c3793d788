import CurryScript.Proofs.EvaluationDepth
import CurryScript.Proofs.ParseDepth

/-!
The recursion limit. A script that is not given up under a limit does the same under every larger
one, and a script that is given up has printed a beginning of what it prints under a larger limit.
Nothing in a script can keep an evaluation that halts from halting the whole run.
-/
namespace CurryScript

namespace Eval

variable {evaluate : Expr → Eval Value} {machine there left : Machine} {reached : Expr}
  {halt : Halt}

theorem mapM_of_visits {exprs : List Expr}
    (visited : Visits evaluate (fun _ => false) exprs machine reached there)
    (halted : evaluate reached there = .error halt left) :
    exprs.mapM evaluate machine = .error halt left := by
  induction visited with
  | here =>
    rw [List.mapM_cons]
    exact bind_of_error halted
  | later ok _ _ ih =>
    rw [List.mapM_cons, bind_of_ok ok]
    exact bind_of_error (ih halted)

theorem block_of_visits {body : Block} {args : List Value} {name : String} (traced : Bool)
    (visited : Visits evaluate Value.isException body (machine.push name args) reached there)
    (halted : evaluate reached there = .error halt left) :
    block evaluate body args name traced machine = .error halt left.pop := by
  apply block_of_error
  obtain ⟨before, rest, same⟩ := visited.statements (.bool false)
  rw [same]
  exact bind_of_error halted

end Eval

theorem evaluate_of_operands {depth : Nat} {expr : Expr} {machine left : Machine} {halt : Halt}
    (halted : expr.operands.mapM (evaluate depth) machine = .error halt left) :
    evaluate (depth + 1) expr machine = .error halt left := by
  cases expr with
  | list items =>
    rw [evaluate, map_eq_pure_bind]
    exact Eval.bind_of_error halted
  | call name args => exact Eval.bind_of_error halted
  | literal | bare | lambda | define => cases halted

theorem Task.Spawns.halts {parent child : Task} (spawns : parent.Spawns child) {halt : Halt}
    {left : Machine} (halted : child.outcome = .error halt left) :
    ∃ after, parent.outcome = .error halt after ∧ left.Continues after := by
  cases spawns with
  | operand visited =>
    exact ⟨left, evaluate_of_operands (Eval.mapM_of_visits visited halted), .refl left⟩
  | statement calls enters visited =>
    obtain ⟨_, same, calling, operands⟩ := calls
    cases same
    refine ⟨left.pop, ?_, [], left.printed_pop⟩
    rw [outcome, evaluate_of_callee calling, Eval.call_of_enters operands enters]
    exact Eval.block_of_visits true visited halted

theorem Run.Live.halts {run : Run} {task : Task} (live : run.Live task) {halt : Halt}
    {left : Machine} (halted : task.outcome = .error halt left) :
    ∃ after, run.outcome = .error halt after ∧ left.Continues after := by
  -- From the evaluation that halts outwards: each one it takes place in halts in the same way.
  induction live generalizing left with
  | statement fresh visited =>
    refine ⟨left.pop, ?_, [], left.printed_pop⟩
    rw [outcome, Eval.run_of_idle _ _ _ fresh]
    exact Eval.block_of_visits false visited halted
  | spawned _ spawns ih =>
    obtain ⟨between, stopped, printed⟩ := spawns.halts halted
    obtain ⟨after, ended, more⟩ := ih stopped
    exact ⟨after, ended, printed.trans more⟩

theorem evaluationDepth_le {levels more : Nat} (larger : levels ≤ more) :
    evaluationDepth levels ≤ evaluationDepth more :=
  Nat.div_le_div_right larger

theorem Settings.depth_le {settings settings' : Settings}
    (larger : settings.recursionLimit ≤ settings'.recursionLimit) :
    settings.depth ≤ settings'.depth := by
  unfold depth
  have := Int.toNat_le_toNat larger
  omega

namespace Session

def SettledBy (done done' : Except Halt Ending × Machine) : Prop :=
  done' = done ∨ done.1 = .ok .tooDeep ∧ done.2.Continues done'.2

theorem readProgram_settles {depth deeper : Nat} (larger : depth ≤ deeper) (source : String) :
    readProgram depth source = .error .tooDeep ∨
      readProgram deeper source = readProgram depth source := by
  unfold readProgram
  cases tokenize source with
  | error error => cases error <;> exact .inr rfl
  | ok tokens =>
    dsimp only
    rcases parse_settles larger tokens 0 with cut | same
    · rw [cut]
      exact .inl rfl
    · rw [same]
      exact .inr rfl

theorem continues_of_giveUp (settings : Settings) {machine other : Machine}
    (continues : machine.Continues other) : (giveUp settings machine).2.Continues other := by
  have back : (giveUp settings machine).2.Continues machine :=
    ⟨[], (printed_giveUp settings machine).symm⟩
  exact back.trans continues

section

variable {settings settings' : Settings} (sameFrame : settings.mainFrame = settings'.mainFrame)
  (larger : settings.recursionLimit ≤ settings'.recursionLimit)

include sameFrame larger

theorem evaluateProgram_settles (program : Block) (machine : Machine) :
    SettledBy (evaluateProgram settings program machine)
      (evaluateProgram settings' program machine) := by
  have ended := printed_evaluateProgram settings' program machine
  rw [← sameFrame] at ended
  have deeper := evaluationDepth_le (Settings.depth_le larger)
  rcases (Eval.settles_run deeper settings.mainFrame program).settled machine with
    same | ⟨left, cut, further⟩
  · unfold evaluateProgram
    rw [← sameFrame, same]
    cases Eval.run (evaluationDepth settings.depth) settings.mainFrame program machine with
    | ok value left => exact .inl rfl
    | error halt left =>
      cases halt with
      | tooDeep =>
        -- The limit shows in the trace even if both limits are exceeded.
        exact .inr ⟨rfl, continues_of_giveUp settings ⟨[], printed_giveUp settings' left⟩⟩
      | numeral | notAValue | blockNode | definitionOutsideFrame | framesActive => exact .inl rfl
  · have givenUp : evaluateProgram settings program machine = giveUp settings left := by
      rw [evaluateProgram, cut]
    rw [givenUp]
    exact .inr ⟨rfl, continues_of_giveUp settings (further.trans ⟨[], ended⟩)⟩

theorem executeOn_settles (source : String) (machine : Machine) :
    SettledBy (executeOn settings source machine) (executeOn settings' source machine) := by
  rcases readProgram_settles (Settings.depth_le larger) source with cut | same
  · have givenUp : executeOn settings source machine = giveUp settings machine := by
      rw [executeOn, cut]
    rw [givenUp]
    exact .inr ⟨rfl, continues_of_giveUp settings (continues_executeOn settings' source machine)⟩
  · unfold executeOn
    rw [same]
    cases read : readProgram settings.depth source with
    | ok program => exact evaluateProgram_settles sameFrame larger program.1 _
    | error unreadable =>
      cases unreadable with
      | numeral failure => exact .inl rfl
      | syntaxError error => exact .inl rfl
      | tooDeep =>
        exact .inr ⟨rfl, continues_of_giveUp settings ⟨[], printed_giveUp settings' machine⟩⟩

end

theorem execute_settles (settings : Settings) {limit larger : Int} (grows : limit ≤ larger)
    (machine : Machine) (source : String) :
    let done := (Session.mk { settings with recursionLimit := limit } machine).execute source
    let done' := (Session.mk { settings with recursionLimit := larger } machine).execute source
    (done'.1 = done.1 ∧ done'.2.machine = done.2.machine) ∨
      (∃ effects, done.1 = .ok ⟨.tooDeep, effects⟩) ∧ done.2.machine.Continues done'.2.machine := by
  intro done done'
  have settled : SettledBy
      (executeOn { settings with recursionLimit := limit } source { machine with effects := #[] })
      (executeOn { settings with recursionLimit := larger } source { machine with effects := #[] }) := by
    apply executeOn_settles
    · rfl
    · exact grows
  rcases settled with same | ⟨cut, further⟩
  · refine .inl ⟨?_, ?_⟩
    · simp only [done, done', execute, same]
    · simp only [done, done', execute, same]
  · refine .inr ⟨⟨done.2.machine.effects.toList, ?_⟩, further⟩
    simp only [done, execute, cut, Except.map]

end Session

/-- A larger bound on the depth changes neither how a source is read nor what a program does, unless
the smaller one is exceeded. So a larger recursion limit changes nothing for a script that is not
given up, and for one that is, the lines printed under the smaller limit are the first ones under the
larger. No evaluation that nests too deep is kept from halting the run it takes place in. -/
theorem recursion_limit_monotone :
    (∀ (depth deeper : Nat) (source mainFrame : String) (program : Block), depth ≤ deeper →
      (Session.readProgram depth source = .error .tooDeep ∨
        Session.readProgram deeper source = Session.readProgram depth source) ∧
      Eval.Settles (Eval.run depth mainFrame program) (Eval.run deeper mainFrame program)) ∧
    (∀ (settings : Settings) (limit larger : Int) (machine : Machine) (source : String),
      limit ≤ larger →
      let done := (Session.mk { settings with recursionLimit := limit } machine).execute source
      let done' := (Session.mk { settings with recursionLimit := larger } machine).execute source
      ((∀ report, done.1 = .ok report → report.ending ≠ .tooDeep) →
        done'.1 = done.1 ∧ done'.2.machine = done.2.machine) ∧
      ∀ report, done.1 = .ok report → report.ending = .tooDeep →
        report.output <+: Effect.output done'.2.machine.effects.toList ∧
        ∀ report', done'.1 = .ok report' → report.output <+: report'.output) ∧
    ∀ (run : Run) (task : Task) (left : Machine), run.Live task →
      task.outcome = .error .tooDeep left →
      ∃ after, run.outcome = .error .tooDeep after ∧ left.Continues after := by
  refine ⟨?_, ?_, ?_⟩
  · intro depth deeper source mainFrame program larger
    exact ⟨Session.readProgram_settles larger source, Eval.settles_run larger mainFrame program⟩
  · intro settings limit larger machine source grows done done'
    have settled : (done'.1 = done.1 ∧ done'.2.machine = done.2.machine) ∨
        (∃ effects, done.1 = .ok ⟨.tooDeep, effects⟩) ∧
          done.2.machine.Continues done'.2.machine :=
      Session.execute_settles settings grows machine source
    have prints : Effect.output done.2.machine.effects.toList <+:
        Effect.output done'.2.machine.effects.toList := by
      rcases settled with ⟨_, same⟩ | ⟨_, further⟩
      · simp [same]
      · exact further.output_prefix
    refine ⟨?_, ?_⟩
    · intro finished
      rcases settled with same | ⟨⟨effects, cut⟩, _⟩
      · exact same
      · exact absurd rfl (finished _ cut)
    · intro report ok _
      have recorded : report.output = Effect.output done.2.machine.effects.toList := by
        rw [Report.output, (Session.execute_ok ok).2]
      rw [recorded]
      refine ⟨prints, fun report' ok' => ?_⟩
      rw [Report.output, (Session.execute_ok ok').2]
      exact prints
  · intro run task left live halted
    exact live.halts halted

/-- A function that calls itself without end, a call of nothing that is caught, and a run in which
`catch` is given an argument that nests too deep. -/
theorem endless_recursion_under_two_limits :
    let settings : Settings := {}
    let endless := ">>[\"a\"]; f: [f]; f"
    let done := (Session.mk { settings with recursionLimit := 1000 } {}).execute endless
    let done' := (Session.mk { settings with recursionLimit := 1500 } {}).execute endless
    let caught := (Session.mk { settings with recursionLimit := 1000 } {}).execute "catch[f]"
    let caught' := (Session.mk { settings with recursionLimit := 1500 } {}).execute "catch[f]"
    let run : Run := ⟨2, "main", [.call "catch" [.call "~" [.literal (.bool true)]]], {}⟩
    (∃ report, done.1 = .ok report ∧ report.ending = .tooDeep ∧ report.output = ["a"] ∧
      ["a"] <+: Effect.output done'.2.machine.effects.toList) ∧
    caught'.1 = caught.1 ∧ ∃ after, run.outcome = .error .tooDeep after := by
  intro settings endless done done' caught caught' run
  have grows : (1000 : Int) ≤ 1500 := by decide
  have ended : done.1.toOption.map
      (fun report => (report.output, report.ending matches .tooDeep)) = some (["a"], true) := by
    decide +kernel
  have finished : caught.1.toOption.any (·.ending matches .tooDeep) = false := by
    decide +kernel
  refine ⟨?_, ?_, ?_⟩
  · obtain ⟨report, found, shown⟩ := Option.map_eq_some_iff.mp ended
    obtain ⟨output, cut⟩ := Prod.mk.inj shown
    have ok : done.1 = .ok report := by
      cases outcome : done.1 with
      | error halt => simp [outcome, Except.toOption] at found
      | ok other =>
        rw [outcome] at found
        exact congrArg Except.ok (Option.some.inj found)
    have tooDeep : report.ending = .tooDeep := by
      cases ending : report.ending with
      | tooDeep => rfl
      | value | syntaxError | uncaught => simp [ending] at cut
    have printed : report.output <+: Effect.output done'.2.machine.effects.toList :=
      ((recursion_limit_monotone.2.1 settings 1000 1500 {} endless grows).2 report ok tooDeep).1
    rw [output] at printed
    exact ⟨report, ok, tooDeep, output, printed⟩
  · have calm : ∀ report, caught.1 = .ok report → report.ending ≠ .tooDeep := by
      intro report ok tooDeep
      simp [ok, tooDeep, Except.toOption] at finished
    exact ((recursion_limit_monotone.2.1 settings 1000 1500 {} "catch[f]" grows).1 calm).1
  · have live : run.Live ⟨0, .literal (.bool true), _⟩ :=
      .spawned (.spawned (.statement rfl .here) (.operand .here)) (.operand .here)
    obtain ⟨after, outcome, _⟩ := recursion_limit_monotone.2.2 run _ _ live rfl
    exact ⟨after, outcome⟩

end CurryScript
