import CurryScript.Proofs.Course
import CurryScript.Session

/-!
Exceptions in the course of a run. Wherever an exception comes up, it tells where it comes from, and
an early return never gets past the function it ends.
-/
namespace CurryScript

/-- An exception as it comes up in a run whose program has the calls `called`. -/
structure Fault.WellFormed (called : List String) (produced : String → Fault → Prop)
    (fault : Fault) : Prop where
  payload : fault.payload.isException = false
  returned : fault.flavor = .earlyReturn → fault.stack = []
  message : fault.flavor ≠ .earlyReturn → fault.flavor ≠ .error →
    ∃ text, fault.payload = .text text
  origin : fault.flavor ≠ .earlyReturn → fault.flavor ≠ .error → fault.flavor ≠ .redefinition →
    ∃ name passed, fault.stack = name :: passed ∧ produced name { fault with stack := [name] }
  named : ∀ name ∈ fault.stack, name ∈ called

def Block.CallsIn (called : List String) (body : Block) : Prop :=
  ∀ name ∈ Expr.callsAll body, name ∈ called

def Value.Sound (called : List String) (produced : String → Fault → Prop) : Value → Prop
  | .exception flavor payload stack => Fault.WellFormed called produced ⟨flavor, payload, stack⟩
  | .function f => Block.CallsIn called f.body
  | _ => True

def Value.AllSound (called : List String) (produced : String → Fault → Prop) : Value → Prop :=
  Value.Everywhere (Value.Sound called produced)

structure Machine.Sound (called : List String) (produced : String → Fault → Prop)
    (machine : Machine) : Prop where
  args : ∀ frame ∈ machine.frames, ∀ value ∈ frame.args, value.AllSound called produced
  bodies : ∀ frame ∈ machine.frames, ∀ binding ∈ frame.bindings,
    Block.CallsIn called binding.2.body

section

variable {called : List String} {produced : String → Fault → Prop}

theorem allSound_composed {sources : List Value} {value : Value} (made : value.Composed sources)
    (each : ∀ source ∈ sources, source.AllSound called produced) :
    value.AllSound called produced := by
  induction made with
  | part member inside => exact (each _ member).of_within inside
  | bool | int | length | float | text => exact Value.everywhere_atom rfl trivial
  | list _ ih => exact Value.everywhere_list trivial ih

theorem Value.AllSound.payload {flavor : Flavor} {payload : Value} {stack : List String}
    (sound : Value.AllSound called produced (.exception flavor payload stack)) :
    payload.AllSound called produced :=
  sound.of_within (.payload .self)

theorem Value.AllSound.wellFormed {value : Value} (sound : value.AllSound called produced)
    {fault : Fault} (inside : fault.toValue.Within value) : fault.WellFormed called produced :=
  sound _ inside

theorem Fault.wellFormed_own {flavor : Flavor} {name message : String}
    (own : flavor.isFault = true) (known : name ∈ called)
    (made : produced name ⟨flavor, .text message, [name]⟩) :
    Fault.WellFormed called produced ⟨flavor, .text message, [name]⟩ where
  payload := rfl
  returned := by
    rintro rfl
    cases own
  message _ _ := ⟨message, rfl⟩
  origin _ _ _ := ⟨name, [], rfl, made⟩
  named entry listed := List.mem_singleton.mp listed ▸ known

theorem Fault.wellFormed_raised {payload : Value} (plain : payload.isException = false) :
    Fault.WellFormed called produced ⟨.error, payload, []⟩ where
  payload := plain
  returned := nofun
  message _ other := absurd rfl other
  origin _ other := absurd rfl other
  named := nofun

theorem Fault.wellFormed_returned {payload : Value} (plain : payload.isException = false) :
    Fault.WellFormed called produced ⟨.earlyReturn, payload, []⟩ where
  payload := plain
  returned _ := rfl
  message other := absurd rfl other
  origin other := absurd rfl other
  named := nofun

theorem Fault.wellFormed_redefinition (message : String) :
    Fault.WellFormed called produced ⟨.redefinition, .text message, []⟩ where
  payload := rfl
  returned := nofun
  message _ _ := ⟨message, rfl⟩
  origin _ _ other := absurd rfl other
  named := nofun

theorem Fault.WellFormed.traced {fault : Fault} (sound : fault.WellFormed called produced)
    (escapes : fault.flavor ≠ .earlyReturn) {name : String} (known : name ∈ called) :
    (fault.traced name).WellFormed called produced where
  payload := sound.payload
  returned returns := absurd returns escapes
  message := sound.message
  origin noReturn noError noRedefinition := by
    obtain ⟨first, passed, stack, made⟩ := sound.origin noReturn noError noRedefinition
    exact ⟨first, passed ++ [name], by simp [Fault.traced, stack], made⟩
  named entry listed := by
    rcases List.mem_append.mp listed with earlier | last
    · exact sound.named entry earlier
    · rw [List.mem_singleton.mp last]
      exact known

theorem allSound_leave {value : Value} (sound : value.AllSound called produced) {name : String}
    {traced : Bool} (known : traced = true → name ∈ called) :
    (Eval.leave name traced value).AllSound called produced := by
  unfold Eval.leave
  split
  · exact sound.payload
  · next flavor payload stack escapes =>
    cases traced with
    | false => exact sound
    | true =>
      have here : Fault.WellFormed called produced ⟨flavor, payload, stack⟩ := sound _ .self
      exact Value.everywhere_exception (here.traced escapes (known rfl)) sound.payload
  · exact sound

theorem leave_ne_earlyReturn {value : Value} (sound : value.AllSound called produced)
    (name : String) (traced : Bool) (payload : Value) (stack : List String) :
    Eval.leave name traced value ≠ .exception .earlyReturn payload stack := by
  unfold Eval.leave
  split
  · next inner _ =>
    have plain : inner.isException = false := (sound _ .self).payload
    rintro rfl
    cases plain
  · next escapes =>
    rintro ⟨⟩
    exact escapes rfl
  · next plain =>
    rintro rfl
    exact plain _ _ _ rfl

theorem Machine.Sound.of_frames {machine after : Machine} (sound : machine.Sound called produced)
    (same : after.frames = machine.frames) : after.Sound called produced :=
  ⟨same ▸ sound.args, same ▸ sound.bodies⟩

theorem Machine.Sound.push {machine : Machine} (sound : machine.Sound called produced)
    {name : String} {args : List Value} (each : ∀ value ∈ args, value.AllSound called produced) :
    (machine.push name args).Sound called produced := by
  constructor <;> rw [Machine.frames_push] <;> refine List.forall_mem_cons.mpr ⟨?_, ?_⟩
  · exact each
  · exact sound.args
  · exact nofun
  · exact sound.bodies

theorem Machine.Sound.lookup {machine : Machine} (sound : machine.Sound called produced)
    {name : String} {f : Function} (bound : machine.lookup name = some f) :
    Block.CallsIn called f.body := by
  obtain ⟨frame, active, found⟩ := List.exists_of_findSome?_eq_some bound
  obtain ⟨front, back, bindings, _⟩ := List.lookup_eq_some_iff.mp found
  exact sound.bodies frame active (name, f) (by simp [bindings])

theorem sound_define {machine after : Machine} {name : String} {body : Block} {value : Value}
    (sound : machine.Sound called produced) (known : Block.CallsIn called body)
    (ok : Eval.define name body machine = .ok value after) :
    value.AllSound called produced ∧ after.Sound called produced := by
  rcases Eval.define_cases name body machine with
    ⟨_, halted⟩ | ⟨frame, below, here, _, refused⟩ | ⟨frame, below, bound, here, done, defined⟩
  · cases ok.symm.trans halted
  · cases ok.symm.trans refused
    refine ⟨?_, sound⟩
    exact Value.everywhere_exception (Fault.wellFormed_redefinition _)
      (Value.everywhere_atom rfl trivial)
  · cases ok.symm.trans defined
    refine ⟨Value.everywhere_atom rfl known, ?_⟩
    unfold Frame.bind? at done
    split at done <;> cases done
    obtain ⟨args, bodies⟩ := sound
    rw [here] at args bodies
    constructor <;> rw [Machine.frames_note] <;> refine List.forall_mem_cons.mpr ⟨?_, ?_⟩
    · exact args frame List.mem_cons_self
    · exact fun other member => args other (List.mem_cons_of_mem _ member)
    · intro binding member
      rcases List.mem_append.mp member with old | new
      · exact bodies frame List.mem_cons_self binding old
      · rw [List.mem_singleton.mp new]
        exact known
    · exact fun other member => bodies other (List.mem_cons_of_mem _ member)

end

namespace Run
open Eval

def SoundValue (run : Run) (value : Value) : Prop :=
  value.AllSound (Expr.callsAll run.program) run.Produced

def SoundMachine (run : Run) (machine : Machine) : Prop :=
  machine.Sound (Expr.callsAll run.program) run.Produced

def Knows (run : Run) (expr : Expr) : Prop := ∀ name ∈ expr.calls, name ∈ Expr.callsAll run.program

def Preserves (run : Run) (depth : Nat) : Prop :=
  ∀ expr machine, run.Live ⟨depth, expr, machine⟩ → run.Knows expr → run.SoundMachine machine →
    ∀ value left, evaluate depth expr machine = .ok value left →
      run.SoundValue value ∧ run.SoundMachine left

variable {run : Run} {depth : Nat} {expr : Expr} {machine : Machine}

theorem secured_operands (preserves : run.Preserves depth)
    (live : run.Live ⟨depth + 1, expr, machine⟩) (known : run.Knows expr) :
    Secured (evaluate depth) (fun _ => false) run.SoundValue run.SoundMachine expr.operands
      machine := by
  intro reached there visited
  refine preserves reached there (.spawned live (.operand visited)) fun name called => ?_
  exact known name (Expr.mem_calls_of_operand visited.mem called)

theorem sound_entered {name : String} {args : List Expr} {values given : List Value}
    {left : Machine} {f : Function} (sound : run.SoundMachine left)
    (each : ∀ value ∈ values, run.SoundValue value)
    (enters : Enters left name args values f given) :
    Block.CallsIn (Expr.callsAll run.program) f.body ∧ run.SoundMachine (left.push name given) := by
  cases enters with
  | named bound => exact ⟨sound.lookup bound, sound.push each⟩
  | @comma callee written f given unbound =>
    have function : run.SoundValue (.function f) := each _ (by simp)
    have list : run.SoundValue (.list given) := each _ (by simp)
    exact ⟨function _ .self, sound.push fun value member => list.of_within (.item member .self)⟩

theorem sound_answer (live : run.Live ⟨depth + 1, expr, machine⟩) (known : run.Knows expr)
    {name : String} {values : List Value} {left after : Machine} {value : Value}
    (calls : Task.Calls ⟨depth + 1, expr, machine⟩ name values left)
    (unbound : left.lookup name = none) (ok : evaluate (depth + 1) expr machine = .ok value after)
    (each : ∀ value ∈ values, run.SoundValue value) (sound : run.SoundMachine left)
    (answered : Answered name (values ++ left.frames.flatMap (·.args)) value) :
    run.SoundValue value := by
  have sources : ∀ source ∈ values ++ left.frames.flatMap (·.args), run.SoundValue source := by
    intro source member
    rcases List.mem_append.mp member with operand | argument
    · exact each source operand
    · obtain ⟨frame, active, inside⟩ := List.mem_flatMap.mp argument
      exact sound.args frame active source inside
  cases answered with
  | composed made => exact allSound_composed made sources
  | @fault flavor own message =>
    -- A fault that is found in an operand was there before; any other one is made by this call.
    by_cases old : ∃ operand ∈ values, (Value.fault flavor name message).Within operand
    · obtain ⟨operand, member, inside⟩ := old
      exact (each operand member).of_within inside
    · have fresh : ∀ operand ∈ values, ¬ (Value.fault flavor name message).Within operand :=
        fun operand member inside => old ⟨operand, member, inside⟩
      have mine : name ∈ Expr.callsAll run.program := by
        obtain ⟨_, _, calling, _⟩ := calls
        exact known name (Expr.mem_calls_of_callee calling)
      have made : run.Produced name ⟨flavor, .text message, [name]⟩ :=
        ⟨_, live, values, left, after, calls, unbound, ok, rfl, fresh⟩
      exact Value.everywhere_exception (Fault.wellFormed_own own mine made)
        (Value.everywhere_atom rfl trivial)
  | raised member plain =>
    exact Value.everywhere_exception (Fault.wellFormed_raised plain) (sources _ member)
  | returned member plain =>
    exact Value.everywhere_exception (Fault.wellFormed_returned plain) (sources _ member)

theorem sound_initial : run.SoundValue (.bool false) := Value.everywhere_atom rfl trivial

theorem sound_operands (preserves : run.Preserves depth)
    (live : run.Live ⟨depth + 1, expr, machine⟩) (known : run.Knows expr)
    (start : run.SoundMachine machine) {values : List Value} {left : Machine}
    (operands : expr.operands.mapM (evaluate depth) machine = .ok values left) :
    (∀ value ∈ values, run.SoundValue value) ∧ run.SoundMachine left :=
  (secured_operands preserves live known).mapM start operands

theorem secured_body (preserves : run.Preserves depth)
    (live : run.Live ⟨depth + 1, expr, machine⟩) (known : run.Knows expr)
    (start : run.SoundMachine machine) {name : String} {values given : List Value} {left : Machine}
    {f : Function} (calling : expr.callee? = some name)
    (operands : expr.operands.mapM (evaluate depth) machine = .ok values left)
    (enters : Enters left name expr.operands values f given) :
    (∀ reached ∈ f.body, run.Knows reached) ∧ run.SoundMachine (left.push name given) ∧
      Secured (evaluate depth) Value.isException run.SoundValue run.SoundMachine f.body
        (left.push name given) := by
  obtain ⟨each, sound⟩ := sound_operands preserves live known start operands
  obtain ⟨inside, pushed⟩ := sound_entered sound each enters
  have knows : ∀ reached ∈ f.body, run.Knows reached := fun reached member name called =>
    inside name (Expr.mem_callsAll.mpr ⟨reached, member, called⟩)
  refine ⟨knows, pushed, fun reached there visited => ?_⟩
  exact preserves reached there
    (.spawned live (.statement ⟨depth, rfl, calling, operands⟩ enters visited))
    (knows reached visited.mem)

theorem entered_ok (preserves : run.Preserves depth)
    (live : run.Live ⟨depth + 1, expr, machine⟩) (known : run.Knows expr)
    (start : run.SoundMachine machine) {name : String} {values given : List Value}
    {left after : Machine} {f : Function} {value : Value} (calling : expr.callee? = some name)
    (operands : expr.operands.mapM (evaluate depth) machine = .ok values left)
    (enters : Enters left name expr.operands values f given)
    (ok : block (evaluate depth) f.body given name true left = .ok value after) :
    ∃ result, run.SoundValue result ∧ value = leave name true result := by
  obtain ⟨_, pushed, secured⟩ :=
    secured_body preserves live known start calling operands enters
  obtain ⟨result, last, body, left, _⟩ := block_ok ok
  exact ⟨result, (secured.statements pushed sound_initial body).1, left⟩

theorem sound_call (preserves : run.Preserves depth)
    (live : run.Live ⟨depth + 1, expr, machine⟩) (known : run.Knows expr)
    (start : run.SoundMachine machine) {name : String} (calling : expr.callee? = some name)
    {value : Value} {after : Machine} (ok : evaluate (depth + 1) expr machine = .ok value after) :
    run.SoundValue value ∧ run.SoundMachine after := by
  have called := ok
  rw [evaluate_of_callee calling] at called
  obtain ⟨values, left, operands, entered | ⟨unbound, same, answered, _⟩⟩ := call_ok called
  · obtain ⟨f, given, enters, invoked⟩ := entered
    have same : after.frames = left.frames := by
      rw [← frames_block depth f.body given name true left, after_ok invoked]
    obtain ⟨result, ended, rfl⟩ :=
      entered_ok preserves live known start calling operands enters invoked
    have mine := known name (Expr.mem_calls_of_callee calling)
    have sound := (sound_operands preserves live known start operands).2
    exact ⟨allSound_leave ended fun _ => mine, sound.of_frames same⟩
  · obtain ⟨each, sound⟩ := sound_operands preserves live known start operands
    refine ⟨?_, sound.of_frames same⟩
    exact sound_answer live known ⟨depth, rfl, calling, operands⟩ unbound ok each sound answered

theorem preserves (run : Run) (depth : Nat) : run.Preserves depth := by
  -- The evaluations that a call leads to are one level less deep, and they belong to the run too.
  induction depth with
  | zero =>
    intro expr machine _ _ _ value left ok
    cases ok
  | succ depth ih =>
    intro expr machine live known start value left ok
    cases expr with
    | literal value =>
      cases ok
      cases value <;> exact ⟨Value.everywhere_atom rfl trivial, start⟩
    | list items =>
      rw [evaluate, map_eq_pure_bind] at ok
      obtain ⟨values, after, operands, ended⟩ := bind_ok ok
      cases ended
      obtain ⟨each, sound⟩ := sound_operands ih live known start operands
      exact ⟨Value.everywhere_list trivial each, sound⟩
    | bare name => exact sound_call ih live known start rfl ok
    | call name args => exact sound_call ih live known start rfl ok
    | lambda body =>
      cases ok
      exact ⟨Value.everywhere_atom rfl known, start⟩
    | define name body => exact sound_define start known ok

theorem sound_start (fresh : run.start.frames = []) :
    run.SoundMachine (run.start.push run.mainFrame []) := by
  have empty : run.SoundMachine run.start := by constructor <;> simp [fresh]
  exact empty.push nofun

theorem secured_program (fresh : run.start.frames = []) :
    Secured (evaluate run.depth) Value.isException run.SoundValue run.SoundMachine run.program
      (run.start.push run.mainFrame []) := by
  intro reached there visited
  refine run.preserves run.depth reached there (.statement fresh visited) fun name called => ?_
  exact Expr.mem_callsAll.mpr ⟨reached, visited.mem, called⟩

theorem Live.start {task : Task} (live : run.Live task) :
    run.Knows task.expr ∧ run.SoundMachine task.machine := by
  induction live with
  | @statement reached there fresh visited =>
    exact ⟨fun name called => Expr.mem_callsAll.mpr ⟨reached, visited.mem, called⟩,
      (secured_program fresh).visits (sound_start fresh) visited⟩
  | @spawned parent child live spawns ih =>
    obtain ⟨known, start⟩ := ih
    cases spawns with
    | operand visited =>
      have secured := secured_operands (run.preserves _) live known
      exact ⟨fun name called => known name (Expr.mem_calls_of_operand visited.mem called),
        secured.visits start visited⟩
    | statement calls enters visited =>
      obtain ⟨_, same, calling, operands⟩ := calls
      cases same
      obtain ⟨knows, pushed, secured⟩ :=
        secured_body (run.preserves _) live known start calling operands enters
      exact ⟨knows _ visited.mem, secured.visits pushed visited⟩

theorem Live.holds {task : Task} (live : run.Live task) {value : Value} (held : task.Holds value) :
    run.SoundValue value := by
  obtain ⟨known, start⟩ := live.start
  cases held with
  | result ok => exact (run.preserves _ _ _ live known start _ _ ok).1
  | argument active member => exact start.args _ active _ member

theorem Live.entered_ne_earlyReturn {task : Task} (live : run.Live task) {name : String}
    {values given : List Value} {left after : Machine} {f : Function} {value : Value}
    (calls : task.Calls name values left)
    (enters : Enters left name task.expr.operands values f given)
    (ok : task.outcome = .ok value after) (payload : Value) (stack : List String) :
    value ≠ .exception .earlyReturn payload stack := by
  obtain ⟨known, start⟩ := live.start
  obtain ⟨depth, expr, machine⟩ := task
  obtain ⟨_, same, calling, operands⟩ := calls
  cases same
  rw [Task.outcome, evaluate_of_callee calling, call_of_enters operands enters] at ok
  obtain ⟨result, ended, rfl⟩ :=
    entered_ok (run.preserves _) live known start calling operands enters ok
  exact leave_ne_earlyReturn ended name true payload stack

theorem Live.comma_earlyReturn {task : Task} (live : run.Live task) {values : List Value}
    {left after : Machine} {payload : Value} {stack : List String}
    (calls : task.Calls "," values left)
    (ok : task.outcome = .ok (.exception .earlyReturn payload stack) after) :
    ∃ given, values = [.exception .earlyReturn payload stack, given] := by
  have ⟨depth, same, calling, operands⟩ := calls
  have called := ok
  rw [Task.outcome, same, evaluate_of_callee calling] at called
  obtain ⟨_, _, operands', entered | ⟨_, _, _, comma⟩⟩ := call_ok called
  · cases operands.symm.trans operands'
    obtain ⟨f, given, enters, _⟩ := entered
    exact absurd rfl (live.entered_ne_earlyReturn calls enters ok payload stack)
  · cases operands.symm.trans operands'
    rcases comma rfl with handed | ⟨flavor, message, own, same⟩
    · exact handed
    · cases same
      cases own

theorem sound_outcome {value : Value} {after : Machine} (ok : run.outcome = .ok value after) :
    run.SoundValue value ∧ ∀ payload stack, value ≠ .exception .earlyReturn payload stack := by
  obtain ⟨fresh, ended⟩ := outcome_ok ok
  obtain ⟨result, last, body, rfl, _⟩ := block_ok ended
  have sound := ((secured_program fresh).statements (sound_start fresh) sound_initial body).1
  exact ⟨allSound_leave sound nofun, leave_ne_earlyReturn sound run.mainFrame false⟩

end Run

namespace Session

theorem outcome_of_evaluateProgram {settings : Settings} {program : Block} {machine : Machine}
    {fault : Fault} (ended : (evaluateProgram settings program machine).1 = .ok (.uncaught fault)) :
    ∃ run : Run, ∃ after, run.outcome = .ok fault.toValue after := by
  refine ⟨⟨evaluationDepth settings.depth, settings.mainFrame, program, machine⟩, ?_⟩
  unfold evaluateProgram at ended
  split at ended
  · next value after ok =>
    split at ended
    · cases ended
    · next found =>
      cases ended
      refine ⟨after, ok.trans ?_⟩
      cases value <;> cases found
      rfl
  · cases ended
  · cases ended

theorem outcome_of_uncaught {session : Session} {source : String} {report : Report}
    {fault : Fault} (ok : (session.execute source).1 = .ok report)
    (ended : report.ending = .uncaught fault) :
    ∃ run : Run, ∃ after, run.outcome = .ok fault.toValue after := by
  unfold execute executeOn at ok
  dsimp only at ok
  split at ok
  · cases ok
  · cases ok
    cases ended
  · cases ok
    cases ended
  · next program tokens _ =>
    generalize machine : Machine.note _ _ = start at ok
    cases outcome : (evaluateProgram session.settings program start).1 with
    | error halt => simp [outcome, Except.map] at ok
    | ok ending =>
      simp only [outcome, Except.map] at ok
      cases ok
      cases ended
      exact outcome_of_evaluateProgram outcome

end Session

/-- In every run of a program, wherever an exception comes up, it is well-formed. A function that is
entered never ends with an early return, and neither does a run; a comma passes one on only in the
place of its function. So no session reports an early return. -/
theorem run_exceptions_wellFormed (run : Run) :
    (∀ task value (fault : Fault), run.Live task → task.Holds value → fault.toValue.Within value →
      fault.WellFormed (Expr.callsAll run.program) run.Produced) ∧
    (∀ value after (fault : Fault), run.outcome = .ok value after → fault.toValue.Within value →
      fault.WellFormed (Expr.callsAll run.program) run.Produced) ∧
    (∀ task name values left f given value after payload stack, run.Live task →
      task.Calls name values left → Eval.Enters left name task.expr.operands values f given →
      task.outcome = .ok value after → value ≠ .exception .earlyReturn payload stack) ∧
    (∀ task values left after payload stack, run.Live task → task.Calls "," values left →
      task.outcome = .ok (.exception .earlyReturn payload stack) after →
      ∃ given, values = [.exception .earlyReturn payload stack, given]) ∧
    (∀ value after payload stack, run.outcome = .ok value after →
      value ≠ .exception .earlyReturn payload stack) ∧
    (∀ session source report fault, (Session.execute session source).1 = .ok report →
      report.ending = .uncaught fault → fault.flavor ≠ .earlyReturn) := by
  refine ⟨?_, ?_, ?_, ?_, ?_, ?_⟩
  · intro task value fault live held inside
    exact (live.holds held).wellFormed inside
  · intro value after fault ok inside
    exact (Run.sound_outcome ok).1.wellFormed inside
  · intro task name values left f given value after payload stack live calls enters ok
    exact live.entered_ne_earlyReturn calls enters ok payload stack
  · intro task values left after payload stack live calls ok
    exact live.comma_earlyReturn calls ok
  · intro value after payload stack ok
    exact (Run.sound_outcome ok).2 payload stack
  · intro session source report fault ok ended returns
    obtain ⟨other, after, outcome⟩ := Session.outcome_of_uncaught ok ended
    exact (Run.sound_outcome outcome).2 fault.payload fault.stack (by simp [Fault.toValue, returns])

/-- A comma does hand on an early return that stands in the place of its function. -/
theorem comma_hands_on_earlyReturn :
    ∃ run task values left after, Run.Live run task ∧ Task.Calls task "," values left ∧
      left.lookup "," = none ∧ task.outcome = .ok (.exception .earlyReturn (.int 1) []) after := by
  -- The script `,[~[1] []]`: its one statement is the call in question.
  exact ⟨⟨3, "main", [.call "," [.call "~" [.literal (.int 1)], .list []]], {}⟩, _, _, _, _,
    .statement rfl .here, ⟨2, rfl, rfl, rfl⟩, rfl, rfl⟩

end CurryScript
