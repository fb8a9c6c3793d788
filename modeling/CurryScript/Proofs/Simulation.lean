import CurryScript.Proofs.Course
import CurryScript.Proofs.Likeness

/-!
Two runs side by side. Their code is compared expression by expression and their frames one by one.
Once the code of two runs is known to correspond, so do all their steps: the runs come to values that
are alike or halt for the same reason, and they print the same lines.
-/
namespace CurryScript

def Effect.text (lines : List String) : String := String.join (lines.map (· ++ "\n"))

namespace Machine

/-- The lines that were printed from one state of a machine to another, as effects and as text. -/
structure Printed (lines : List String) (before after : Machine) : Prop where
  effects : after.effects.toList = before.effects.toList ++ lines.map Effect.printed
  stream : after.stream = before.stream ++ Effect.text lines

theorem Printed.refl (machine : Machine) : Printed [] machine machine := by
  constructor <;> simp [Effect.text]

theorem Printed.trans {first second third : Machine} {lines more : List String}
    (one : Printed lines first second) (two : Printed more second third) :
    Printed (lines ++ more) first third := by
  constructor
  · rw [two.effects, one.effects, List.map_append, List.append_assoc]
  · rw [two.stream, one.stream, String.append_assoc]
    simp [Effect.text]

theorem printed_note (machine : Machine) (event : TraceEvent) :
    Printed [] machine (machine.note event) := by
  unfold note
  split
  · constructor <;> simp [Effect.text]
  · exact .refl machine

theorem printed_reframed (machine : Machine) (frames : List Frame) (event : TraceEvent) :
    Printed [] machine ({ machine with frames }.note event) := by
  have noted := printed_note { machine with frames } event
  exact ⟨noted.effects, noted.stream⟩

theorem printed_push (machine : Machine) (name : String) (args : List Value) :
    Printed [] machine (machine.push name args) :=
  machine.printed_reframed _ _

theorem printed_pop (machine : Machine) : Printed [] machine machine.pop := by
  unfold pop
  split
  · exact .refl machine
  · exact machine.printed_reframed _ _

theorem printed_emitAll (lines : List String) (machine : Machine) :
    Printed lines machine (lines.foldl emit machine) := by
  induction lines generalizing machine with
  | nil => exact .refl machine
  | cons line lines ih =>
    have first : Printed [line] machine (machine.emit line) := by
      constructor <;> simp [emit, Effect.text, String.append_assoc]
    exact first.trans (ih (machine.emit line))

end Machine

/-- Expressions of one form, over known names and over expressions that a relation pairs. -/
inductive Expr.Parallel (known : String → Bool) (exprs : Expr → Expr → Prop) : Expr → Expr → Prop
  | literal (value : Literal) : Parallel known exprs (.literal value) (.literal value)
  | list {items others : List Expr} (each : List.Forall₂ exprs items others) :
      Parallel known exprs (.list items) (.list others)
  | call {expr other : Expr} {name : String} (listed : known name = true)
      (calling : expr.callee? = some name) (calling' : other.callee? = some name)
      (operands : List.Forall₂ exprs expr.operands other.operands) :
      Parallel known exprs expr other
  | lambda {body other : Block} (each : List.Forall₂ exprs body other) :
      Parallel known exprs (.lambda body) (.lambda other)
  | define {name : String} {body other : Block} (listed : known name = true)
      (each : List.Forall₂ exprs body other) :
      Parallel known exprs (.define name body) (.define name other)

/-- A way of comparing the code of two runs. All names in the code are known; the frames of the
second run may bind others. -/
structure Comparison where
  known : String → Bool
  exprs : Expr → Expr → Prop
  parallel : ∀ {expr other : Expr}, exprs expr other → expr.Parallel known exprs other

namespace Comparison

variable (c : Comparison)

structure Functions (f g : Function) : Prop where
  name : f.name = g.name
  origin : f.origin = g.origin
  body : List.Forall₂ c.exprs f.body g.body

abbrev Values : Value → Value → Prop := Value.Alike c.Functions

def Bindings (binding other : String × Function) : Prop :=
  binding.1 = other.1 ∧ c.Functions binding.2 other.2

/-- The first frame holds what the second holds under known names. Their own names do not count. -/
structure Frames (frame other : Frame) : Prop where
  args : List.Forall₂ c.Values frame.args other.args
  bindings : List.Forall₂ c.Bindings frame.bindings (other.bindings.filter (c.known ·.1))

def Machines (machine other : Machine) : Prop :=
  List.Forall₂ c.Frames machine.frames other.frames

variable {c}

section

variable (single : ∀ {expr other : Expr}, c.exprs expr other → expr = other)

include single

theorem functions_eq {f g : Function} (paired : c.Functions f g) : f = g := by
  have body : f.body = g.body := by
    rw [← List.forall₂_eq_eq_eq]
    exact paired.body.imp fun _ _ => single
  obtain ⟨name, origin, _⟩ := paired
  cases f
  cases g
  simp_all

theorem values_eq {value other : Value} (alike : c.Values value other) : value = other :=
  alike.eq (functions_eq single)

end

theorem lookup_filter {name : String} (listed : c.known name = true)
    (bindings : List (String × Function)) :
    (bindings.filter (c.known ·.1)).lookup name = bindings.lookup name := by
  induction bindings with
  | nil => rfl
  | cons binding bindings ih =>
    obtain ⟨key, f⟩ := binding
    by_cases same : name = key
    · subst same
      simp [listed]
    · have different : (name == key) = false := by simpa using same
      rw [List.lookup_cons, different, List.filter_cons]
      split
      · rw [List.lookup_cons, different]
        exact ih
      · exact ih

theorem lookup_bindings {bindings others : List (String × Function)}
    (each : List.Forall₂ c.Bindings bindings others) (name : String) :
    Option.Rel c.Functions (bindings.lookup name) (others.lookup name) := by
  induction each with
  | nil => exact .none
  | @cons binding other _ _ first _ ih =>
    obtain ⟨key, f⟩ := binding
    obtain ⟨key', g⟩ := other
    obtain ⟨rfl, paired⟩ := first
    rw [List.lookup_cons, List.lookup_cons]
    cases name == key with
    | true => exact .some paired
    | false => exact ih

theorem Frames.get? {frame other : Frame} (alike : c.Frames frame other) {name : String}
    (listed : c.known name = true) :
    Option.Rel c.Functions (frame.get? name) (other.get? name) := by
  have found := lookup_bindings alike.bindings name
  rw [lookup_filter listed] at found
  exact found

theorem Frames.bind? {frame other : Frame} (alike : c.Frames frame other) {name : String}
    (listed : c.known name = true) {f g : Function} (paired : c.Functions f g) :
    Option.Rel c.Frames (frame.bind? name f) (other.bind? name g) := by
  have found := alike.get? listed
  have taken : frame.contains name = other.contains name := by
    unfold Frame.contains
    generalize frame.get? name = here, other.get? name = there at found
    cases found <;> rfl
  unfold Frame.bind?
  rw [taken]
  split
  · exact .none
  · refine .some ⟨alike.args, ?_⟩
    have added : ([(name, g)] : List (String × Function)).filter (c.known ·.1) = [(name, g)] := by
      simp [listed]
    dsimp only
    rw [List.filter_append, added]
    exact List.rel_append alike.bindings (.cons ⟨rfl, paired⟩ .nil)

theorem Machines.lookup {machine other : Machine} (alike : c.Machines machine other)
    {name : String} (listed : c.known name = true) :
    Option.Rel c.Functions (machine.lookup name) (other.lookup name) := by
  unfold Machine.lookup
  unfold Machines at alike
  generalize machine.frames = frames, other.frames = frames' at alike ⊢
  induction alike with
  | nil => exact .none
  | @cons frame frame' _ _ first _ ih =>
    have found := first.get? listed
    rw [List.findSome?_cons, List.findSome?_cons]
    generalize frame.get? name = here, frame'.get? name = there at found
    cases found with
    | some paired => exact .some paired
    | none => exact ih

theorem Machines.of_idle {machine other : Machine} (idle : machine.frames = [])
    (idle' : other.frames = []) : c.Machines machine other := by
  unfold Machines
  rw [idle, idle']
  exact .nil

theorem Machines.of_frames {machine other after after' : Machine} (alike : c.Machines machine other)
    (same : after.frames = machine.frames) (same' : after'.frames = other.frames) :
    c.Machines after after' := by
  unfold Machines
  rw [same, same']
  exact alike

theorem Machines.push {machine other : Machine} (alike : c.Machines machine other)
    {args args' : List Value} (each : List.Forall₂ c.Values args args') (name name' : String) :
    c.Machines (machine.push name args) (other.push name' args') := by
  unfold Machines
  rw [Machine.frames_push, Machine.frames_push]
  exact .cons ⟨each, .nil⟩ alike

theorem Machines.pop {machine other : Machine} (alike : c.Machines machine other) :
    c.Machines machine.pop other.pop := by
  unfold Machines at alike ⊢
  rw [Machine.frames_pop, Machine.frames_pop]
  generalize machine.frames = frames, other.frames = frames' at alike ⊢
  cases alike with
  | nil => exact .nil
  | cons _ below => exact below

structure Proceeds (c : Comparison) (before before' left left' : Machine) : Prop where
  frames : c.Machines left left'
  printed : ∃ lines, Machine.Printed lines before left ∧ Machine.Printed lines before' left'

theorem Proceeds.trans {first first' second second' third third' : Machine}
    (one : c.Proceeds first first' second second')
    (two : c.Proceeds second second' third third') : c.Proceeds first first' third third' := by
  obtain ⟨lines, here, there⟩ := one.printed
  obtain ⟨more, here', there'⟩ := two.printed
  exact ⟨two.frames, lines ++ more, here.trans here', there.trans there'⟩

theorem Proceeds.silent {before before' left left' : Machine} (frames : c.Machines left left')
    (here : Machine.Printed [] before left) (there : Machine.Printed [] before' left') :
    c.Proceeds before before' left left' :=
  ⟨frames, [], here, there⟩

theorem Proceeds.refl {machine other : Machine} (alike : c.Machines machine other) :
    c.Proceeds machine other machine other :=
  .silent alike (.refl machine) (.refl other)

/-- Outcomes of two runs that agree: related results, or the same halt. A run that is under way does
not refuse to start. -/
inductive Agree (c : Comparison) {α : Type} (related : α → α → Prop) (before before' : Machine) :
    EStateM.Result Halt Machine α → EStateM.Result Halt Machine α → Prop
  | ok {value value' : α} {left left' : Machine} (results : related value value')
      (proceeds : c.Proceeds before before' left left') :
      Agree c related before before' (.ok value left) (.ok value' left')
  | error {halt : Halt} (running : halt ≠ .framesActive) {left left' : Machine}
      (proceeds : c.Proceeds before before' left left') :
      Agree c related before before' (.error halt left) (.error halt left')

theorem Agree.after {α : Type} {related : α → α → Prop} {before before' left left' : Machine}
    {outcome outcome' : EStateM.Result Halt Machine α}
    (agree : c.Agree related left left' outcome outcome')
    (proceeds : c.Proceeds before before' left left') :
    c.Agree related before before' outcome outcome' := by
  cases agree with
  | ok results further => exact .ok results (proceeds.trans further)
  | error running further => exact .error running (proceeds.trans further)

end Comparison

namespace Eval

def Simulates (c : Comparison) {α : Type} (related : α → α → Prop) (action action' : Eval α) :
    Prop :=
  ∀ machine machine', c.Machines machine machine' →
    c.Agree related machine machine' (action machine) (action' machine')

variable {c : Comparison}

theorem simulates_pure {α : Type} {related : α → α → Prop} {value value' : α}
    (results : related value value') : Simulates c related (pure value) (pure value') :=
  fun _ _ alike => .ok results (.refl alike)

theorem simulates_throw {α : Type} {related : α → α → Prop} {halt : Halt}
    (running : halt ≠ .framesActive) : Simulates c related (throw halt : Eval α) (throw halt) :=
  fun _ _ alike => .error running (.refl alike)

theorem simulates_get : Simulates c c.Machines (get : Eval Machine) get :=
  fun _ _ alike => .ok alike (.refl alike)

theorem agree_bind {α β : Type} {between : α → α → Prop} {related : β → β → Prop}
    {action action' : Eval α} {next next' : α → Eval β} {machine machine' : Machine}
    (agree : c.Agree between machine machine' (action machine) (action' machine'))
    (rest : ∀ {value value'}, between value value' →
      Simulates c related (next value) (next' value')) :
    c.Agree related machine machine' ((action >>= next) machine) ((action' >>= next') machine') := by
  simp only [bind, EStateM.bind]
  generalize action machine = outcome, action' machine' = outcome' at agree ⊢
  cases agree with
  | ok results proceeds => exact (rest results _ _ proceeds.frames).after proceeds
  | error running proceeds => exact .error running proceeds

theorem simulates_bind {α β : Type} {between : α → α → Prop} {related : β → β → Prop}
    {action action' : Eval α} {next next' : α → Eval β}
    (first : Simulates c between action action')
    (rest : ∀ {value value'}, between value value' →
      Simulates c related (next value) (next' value')) :
    Simulates c related (action >>= next) (action' >>= next') :=
  fun machine machine' alike => agree_bind (first machine machine' alike) rest

theorem simulates_mapM {α β : Type} {inputs : α → α → Prop} {related : β → β → Prop}
    {action action' : α → Eval β}
    (each : ∀ item item', inputs item item' → Simulates c related (action item) (action' item'))
    {items items' : List α} (paired : List.Forall₂ inputs items items') :
    Simulates c (List.Forall₂ related) (items.mapM action) (items'.mapM action') := by
  induction paired with
  | nil => exact simulates_pure .nil
  | cons first _ ih =>
    rw [List.mapM_cons, List.mapM_cons]
    refine simulates_bind (each _ _ first) fun result => ?_
    exact simulates_bind ih fun results => simulates_pure (.cons result results)

/-- Frames may have different names: what is evaluated in them does not see the names. -/
theorem agree_inFrame {α : Type} {related : α → α → Prop} {action action' : Eval α}
    {machine machine' : Machine} (alike : c.Machines machine machine') {args args' : List Value}
    (each : List.Forall₂ c.Values args args') {name name' : String}
    (inside : c.Agree related (machine.push name args) (machine'.push name' args')
      (action (machine.push name args)) (action' (machine'.push name' args'))) :
    c.Agree related machine machine' (inFrame name args action machine)
      (inFrame name' args' action' machine') := by
  have entered : c.Proceeds machine machine' (machine.push name args)
      (machine'.push name' args') :=
    .silent (alike.push each name name') (machine.printed_push name args)
      (machine'.printed_push name' args')
  unfold inFrame
  generalize action (machine.push name args) = outcome,
    action' (machine'.push name' args') = outcome' at inside ⊢
  cases inside with
  | @ok _ _ left left' results proceeds =>
    have popped : c.Proceeds left left' left.pop left'.pop :=
      .silent proceeds.frames.pop left.printed_pop left'.printed_pop
    exact .ok results ((entered.trans proceeds).trans popped)
  | @error _ running left left' proceeds =>
    have popped : c.Proceeds left left' left.pop left'.pop :=
      .silent proceeds.frames.pop left.printed_pop left'.printed_pop
    exact .error running ((entered.trans proceeds).trans popped)

theorem simulates_define {name : String} (listed : c.known name = true) {body body' : Block}
    (each : List.Forall₂ c.exprs body body') :
    Simulates c c.Values (define name body) (define name body') := by
  intro machine machine' alike
  have frames := alike
  unfold Comparison.Machines at frames
  have paired : c.Functions { name := some name, body } { name := some name, body := body' } :=
    ⟨rfl, rfl, each⟩
  unfold define
  dsimp only
  generalize here : machine.frames = stack, there : machine'.frames = stack' at frames ⊢
  cases frames with
  | nil =>
    have running : Halt.definitionOutsideFrame ≠ .framesActive := nofun
    exact .error running (.refl alike)
  | @cons frame frame' below below' first rest =>
    have bound := first.bind? listed paired
    dsimp only
    generalize frame.bind? name _ = grown, frame'.bind? name _ = grown' at bound ⊢
    cases bound with
    | none => exact .ok (.exception .redefinition [] (.text _)) (.refl alike)
    | some larger =>
      refine .ok (.function paired) (.silent ?_ (machine.printed_reframed _ _)
        (machine'.printed_reframed _ _))
      unfold Comparison.Machines
      rw [Machine.frames_note, Machine.frames_note]
      exact .cons larger rest

theorem leave_exception {flavor : Flavor} (escapes : flavor ≠ .earlyReturn) (name : String)
    (traced : Bool) (payload : Value) (stack : List String) :
    leave name traced (.exception flavor payload stack) =
      .exception flavor payload (if traced then stack ++ [name] else stack) := by
  cases flavor with
  | earlyReturn => contradiction
  | error | argumentCount | parse | type | mismatch | divisionByZero | runtime | undefined
  | redefinition => rfl

theorem alike_leave {name name' : String} {traced : Bool} (same : traced = true → name = name')
    {value value' : Value} (alike : c.Values value value') :
    c.Values (leave name traced value) (leave name' traced value') := by
  cases alike with
  | exception flavor stack inner =>
    by_cases returns : flavor = .earlyReturn
    · subst returns
      exact inner
    · have marks : (if traced then stack ++ [name] else stack) =
          if traced then stack ++ [name'] else stack := by
        cases traced with
        | true => rw [same rfl]
        | false => rfl
      rw [leave_exception returns, leave_exception returns, marks]
      exact .exception flavor _ inner
  | bool value => exact .bool value
  | int value => exact .int value
  | float value => exact .float value
  | text value => exact .text value
  | void => exact .void
  | list each => exact .list each
  | function paired => exact .function paired

theorem alike_getElem? {α : Type} {related : α → α → Prop} {items others : List α}
    (each : List.Forall₂ related items others) (index : Nat) :
    Option.Rel related items[index]? others[index]? := by
  induction each generalizing index with
  | nil => exact .none
  | cons first rest ih =>
    cases index with
    | zero => exact .some first
    | succ index => exact ih index

theorem simulates_frameArgs (name : String) :
    Simulates c c.Values (frameArgs name) (frameArgs name) := by
  intro machine machine' alike
  have found := alike_getElem? alike (name.length - 1)
  unfold frameArgs
  generalize machine.frames[name.length - 1]? = frame,
    machine'.frames[name.length - 1]? = frame' at found ⊢
  cases found with
  | some same => exact .ok (.list same.args) (.refl alike)
  | none => exact .ok (Value.alike_fault .type name _) (.refl alike)

theorem simulates_primitive (name : String) {args args' : List Value}
    (each : List.Forall₂ c.Values args args') :
    Simulates c c.Values (primitive name args) (primitive name args') := by
  intro machine machine' alike
  have answers := alike_dispatch each name
  unfold primitive
  generalize dispatch name args = answer, dispatch name args' = answer' at answers ⊢
  cases answers with
  | ok result lines =>
    refine .ok result ⟨alike.of_frames ?_ ?_, lines, ?_, ?_⟩
    · rw [Machine.frames_emitAll, Machine.frames_note]
    · rw [Machine.frames_emitAll, Machine.frames_note]
    · exact (machine.printed_note _).trans (Machine.printed_emitAll lines _)
    · exact (machine'.printed_note _).trans (Machine.printed_emitAll lines _)
  | error running =>
    refine .error running (.silent (alike.of_frames ?_ ?_) (machine.printed_note _)
      (machine'.printed_note _))
    · rw [Machine.frames_note]
    · rw [Machine.frames_note]

theorem pair_of_length {α : Type} {related : α → α → Prop} {items others : List α}
    (each : List.Forall₂ related items others) (count : items.length = 2) :
    ∃ a b a' b', items = [a, b] ∧ others = [a', b'] ∧ related a a' ∧ related b b' := by
  obtain ⟨a, b, rfl⟩ := List.length_eq_two.mp count
  cases each with
  | cons first rest =>
    cases rest with
    | cons second last =>
      cases last
      exact ⟨a, b, _, _, rfl, rfl, first, second⟩

theorem applyComma_of_counts (evaluate : Expr → Eval Value) {args : List Expr}
    {values : List Value} (wrong : ¬ (args.length = 2 ∧ values.length = 2)) :
    applyComma evaluate args values = pure (Primitive.countFault "," 2 values.length) := by
  unfold applyComma
  split
  · exact absurd ⟨rfl, rfl⟩ wrong
  · rfl

section

variable {evaluate evaluate' : Expr → Eval Value}
  (each : ∀ expr expr', c.exprs expr expr' →
    Simulates c c.Values (evaluate expr) (evaluate' expr'))

include each

theorem simulates_statements {body body' : Block} (paired : List.Forall₂ c.exprs body body')
    {last last' : Value} (alike : c.Values last last') :
    Simulates c c.Values (statements evaluate last body) (statements evaluate' last' body') := by
  induction paired generalizing last last' with
  | nil => exact simulates_pure alike
  | cons first _ ih =>
    refine simulates_bind (each _ _ first) fun {value value'} result => ?_
    rw [result.isException_eq]
    split
    · exact simulates_pure result
    · exact ih result

theorem simulates_block {body body' : Block} (paired : List.Forall₂ c.exprs body body')
    {args args' : List Value} (given : List.Forall₂ c.Values args args') {name name' : String}
    {traced : Bool} (same : traced = true → name = name') :
    Simulates c c.Values (block evaluate body args name traced)
      (block evaluate' body' args' name' traced) := by
  intro machine machine' alike
  have inside := simulates_statements each paired (.bool false) _ _ (alike.push given name name')
  refine agree_bind (agree_inFrame alike given inside) fun result => ?_
  exact simulates_pure (alike_leave same result)

theorem simulates_invoke {f f' : Function} (paired : c.Functions f f') {args args' : List Value}
    (given : List.Forall₂ c.Values args args') (name : String) :
    Simulates c c.Values (invoke evaluate f args name) (invoke evaluate' f' args' name) :=
  simulates_block each paired.body given fun _ => rfl

/-- A function takes its arguments by comma only from a list that is written as one, and the code of
the other run has a list in its place. -/
theorem simulates_comma_function {f f' : Function} (paired : c.Functions f f')
    (callee callee' : Expr) {written written' : Expr}
    (parallel : written.Parallel c.known c.exprs written') {given given' : Value}
    (alike : c.Values given given') :
    Simulates c c.Values (applyComma evaluate [callee, written] [.function f, given])
      (applyComma evaluate' [callee', written'] [.function f', given']) := by
  have refused : c.Values (.fault .type "," "list expected as second argument")
      (.fault .type "," "list expected as second argument") := Value.alike_fault ..
  cases parallel with
  | list _ =>
    cases alike with
    | list items => exact simulates_invoke each paired items ","
    | bool | int | float | text | void | function | exception => exact simulates_pure refused
  | call _ calling calling' =>
    cases written <;> cases calling <;> cases written' <;> cases calling' <;>
      exact simulates_pure refused
  | literal | lambda | define => exact simulates_pure refused

theorem simulates_applyComma {args args' : List Expr} (paired : List.Forall₂ c.exprs args args')
    {values values' : List Value} (alike : List.Forall₂ c.Values values values') :
    Simulates c c.Values (applyComma evaluate args values) (applyComma evaluate' args' values') := by
  by_cases counts : args.length = 2 ∧ values.length = 2
  · obtain ⟨callee, written, callee', written', rfl, rfl, _, second⟩ :=
      pair_of_length paired counts.1
    obtain ⟨value, given, value', given', rfl, rfl, first, arguments⟩ :=
      pair_of_length alike counts.2
    cases first with
    | exception flavor stack inner => exact simulates_pure (.exception flavor stack inner)
    | function functions =>
      exact simulates_comma_function each functions callee callee' (c.parallel second) arguments
    | bool | int | float | text | void | list =>
      exact simulates_pure (Value.alike_fault .type "," "function expected as first argument")
  · have counts' : ¬ (args'.length = 2 ∧ values'.length = 2) := by
      rwa [← paired.length_eq, ← alike.length_eq]
    rw [applyComma_of_counts evaluate counts, applyComma_of_counts evaluate' counts',
      alike.length_eq]
    exact simulates_pure (Value.alike_fault .argumentCount "," _)

theorem simulates_call {name : String} (listed : c.known name = true) {args args' : List Expr}
    (paired : List.Forall₂ c.exprs args args') :
    Simulates c c.Values (call evaluate name args) (call evaluate' name args') := by
  refine simulates_bind (simulates_mapM each paired) fun values => ?_
  refine simulates_bind simulates_get fun {machine machine'} alike => ?_
  have found := alike.lookup listed
  generalize machine.lookup name = bound, machine'.lookup name = bound' at found ⊢
  cases found with
  | some functions => exact simulates_invoke each functions values name
  | none =>
    dsimp only
    split
    · exact simulates_applyComma each paired values
    · split
      · exact simulates_frameArgs name
      · exact simulates_primitive name values

end

theorem simulates_evaluate (depth : Nat) (expr expr' : Expr) (paired : c.exprs expr expr') :
    Simulates c c.Values (evaluate depth expr) (evaluate depth expr') := by
  induction depth generalizing expr expr' with
  | zero => exact simulates_throw nofun
  | succ depth ih =>
    cases c.parallel paired with
    | literal value => exact simulates_pure (Value.alike_ofLiteral value)
    | list each =>
      rw [evaluate, evaluate, map_eq_pure_bind, map_eq_pure_bind]
      exact simulates_bind (simulates_mapM ih each) fun items => simulates_pure (.list items)
    | call listed calling calling' operands =>
      rw [evaluate_of_callee calling, evaluate_of_callee calling']
      exact simulates_call ih listed operands
    | lambda each => exact simulates_pure (.function ⟨rfl, rfl, each⟩)
    | define listed each => exact simulates_define listed each

theorem run_of_idle (depth : Nat) (mainFrame : String) (program : Block) {machine : Machine}
    (idle : machine.frames = []) :
    run depth mainFrame program machine =
      block (evaluate depth) program [] mainFrame false machine := by
  have read : (get : Eval Machine) machine = .ok machine machine := rfl
  rw [run, bind_of_ok read, idle]
  rfl

theorem agree_run (depth : Nat) (mainFrame mainFrame' : String) {program program' : Block}
    (paired : List.Forall₂ c.exprs program program') {machine machine' : Machine}
    (idle : machine.frames = []) (idle' : machine'.frames = []) :
    c.Agree c.Values machine machine' (run depth mainFrame program machine)
      (run depth mainFrame' program' machine') := by
  have blocks : Simulates c c.Values (block (evaluate depth) program [] mainFrame false)
      (block (evaluate depth) program' [] mainFrame' false) :=
    simulates_block (simulates_evaluate depth) paired .nil nofun
  rw [run_of_idle depth mainFrame program idle, run_of_idle depth mainFrame' program' idle']
  exact blocks machine machine' (.of_idle idle idle')

def answer {α : Type} (action : Eval α) (machine : Machine) : Except Halt α :=
  match action machine with
  | .ok value _ => .ok value
  | .error halt _ => .error halt

end Eval

theorem Comparison.Agree.answer_eq {c : Comparison} {α : Type} {related : α → α → Prop}
    {action action' : Eval α} {machine machine' : Machine}
    (agree : c.Agree related machine machine' (action machine) (action' machine'))
    (single : ∀ {value value'}, related value value' → value = value') :
    action.answer machine = action'.answer machine' := by
  unfold Eval.answer
  generalize action machine = outcome, action' machine' = outcome' at agree ⊢
  cases agree with
  | ok results _ => rw [single results]
  | error _ _ => rfl

theorem Comparison.Agree.proceeds {c : Comparison} {α : Type} {related : α → α → Prop}
    {action action' : Eval α} {machine machine' : Machine}
    (agree : c.Agree related machine machine' (action machine) (action' machine')) :
    c.Proceeds machine machine' (action.after machine) (action'.after machine') := by
  unfold Eval.after
  generalize action machine = outcome, action' machine' = outcome' at agree ⊢
  cases agree with
  | ok _ proceeds => exact proceeds
  | error _ proceeds => exact proceeds

end CurryScript
