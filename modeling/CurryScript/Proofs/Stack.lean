import CurryScript.Proofs.Outcome

/-!
The discipline of the frame stack. An evaluation leaves as many frames as it found. It may add
bindings to the innermost one and touches nothing else, and a block, which runs in a frame of its
own, leaves the frames as they were, as does an expression without definitions. All of this holds
however the evaluation ends.
-/
namespace CurryScript

namespace Frame

/-- The frame with names added: what was bound stays bound, in its order, and the names added are
distinct and were not bound before. -/
structure Grows (before grown : Frame) : Prop where
  name : grown.name = before.name
  args : grown.args = before.args
  bindings : ∃ added : List (String × Function), grown.bindings = before.bindings ++ added ∧
    (added.map (·.1)).Nodup ∧ ∀ key ∈ added.map (·.1), key ∉ before.keys

namespace Grows

theorem refl (frame : Frame) : frame.Grows frame :=
  ⟨rfl, rfl, [], by simp⟩

theorem trans {first second third : Frame} (one : first.Grows second) (two : second.Grows third) :
    first.Grows third := by
  obtain ⟨added, bound, distinct, fresh⟩ := one.bindings
  obtain ⟨more, boundMore, distinctMore, freshMore⟩ := two.bindings
  refine ⟨two.name.trans one.name, two.args.trans one.args, added ++ more, ?_, ?_, ?_⟩
  · rw [boundMore, bound, List.append_assoc]
  · rw [List.map_append, List.nodup_append]
    refine ⟨distinct, distinctMore, ?_⟩
    rintro key old _ new rfl
    apply freshMore key new
    rw [keys, bound, List.map_append]
    exact List.mem_append_right _ old
  · intro key member
    rw [List.map_append, List.mem_append] at member
    rcases member with old | new
    · exact fresh key old
    · intro earlier
      apply freshMore key new
      rw [keys, bound, List.map_append]
      exact List.mem_append_left _ earlier

end Grows

theorem contains_iff_mem_keys (frame : Frame) (key : String) :
    frame.contains key = true ↔ key ∈ frame.keys := by
  unfold contains get? keys
  induction frame.bindings with
  | nil => simp
  | cons binding rest ih =>
    obtain ⟨name, f⟩ := binding
    by_cases same : key = name
    · simp [same]
    · have different : (key == name) = false := by simpa using same
      simp [List.lookup_cons, different, same, ih]

theorem get?_eq_none (frame : Frame) (key : String) (absent : key ∉ frame.keys) :
    frame.get? key = none := by
  have unbound := mt (contains_iff_mem_keys frame key).mp absent
  simpa [contains] using unbound

theorem grows_of_bind? {frame bound : Frame} {key : String} {f : Function}
    (done : frame.bind? key f = some bound) : frame.Grows bound := by
  unfold bind? at done
  split at done
  · contradiction
  · rename_i absent
    cases done
    refine ⟨rfl, rfl, [(key, f)], rfl, by simp, ?_⟩
    intro other member
    rw [List.map_singleton, List.mem_singleton] at member
    subst member
    exact mt (contains_iff_mem_keys frame other).mpr absent

theorem Grows.get? {before grown : Frame} (grows : before.Grows grown) {key : String}
    (old : key ∈ grown.keys → key ∈ before.keys) : grown.get? key = before.get? key := by
  obtain ⟨added, bound, _, fresh⟩ := grows.bindings
  by_cases known : key ∈ before.keys
  · have present := (contains_iff_mem_keys before key).mpr known
    obtain ⟨f, found⟩ := Option.isSome_iff_exists.mp present
    have extended : grown.get? key = some f := by
      unfold Frame.get? at found ⊢
      rw [bound, List.lookup_append, found]
      rfl
    rw [extended, found]
  · rw [get?_eq_none before key known, get?_eq_none grown key (mt old known)]

end Frame

namespace Machine

inductive Grown : List Frame → List Frame → Prop
  | empty : Grown [] []
  | innermost {before grown : Frame} (below : List Frame) (grows : before.Grows grown) :
      Grown (before :: below) (grown :: below)

namespace Grown

theorem refl (frames : List Frame) : Grown frames frames := by
  cases frames with
  | nil => exact .empty
  | cons frame below => exact .innermost below (.refl frame)

theorem trans {first second third : List Frame} (one : Grown first second)
    (two : Grown second third) : Grown first third := by
  cases one with
  | empty => exact two
  | innermost below grows =>
    cases two with
    | innermost _ more => exact .innermost below (grows.trans more)

theorem tail {before grown : List Frame} (holds : Grown before grown) :
    grown.tail = before.tail := by
  cases holds <;> rfl

theorem length {before grown : List Frame} (holds : Grown before grown) :
    grown.length = before.length := by
  cases holds <;> simp

theorem head? {before grown : List Frame} (holds : Grown before grown) {frame : Frame}
    (innermost : before.head? = some frame) :
    ∃ larger, grown.head? = some larger ∧ frame.Grows larger := by
  cases holds with
  | empty => contradiction
  | innermost below grows =>
    cases Option.some.inj innermost
    exact ⟨_, rfl, grows⟩

end Grown

@[simp]
theorem frames_note (machine : Machine) (event : TraceEvent) :
    (machine.note event).frames = machine.frames := by
  unfold note
  split <;> rfl

@[simp]
theorem frames_emit (machine : Machine) (message : String) :
    (machine.emit message).frames = machine.frames := rfl

@[simp]
theorem frames_push (machine : Machine) (name : String) (args : List Value) :
    (machine.push name args).frames = { name, args } :: machine.frames := by
  simp [push]

@[simp]
theorem frames_pop (machine : Machine) : machine.pop.frames = machine.frames.tail := by
  unfold pop
  split <;> simp [*]

theorem frames_emitAll (machine : Machine) (messages : List String) :
    (messages.foldl emit machine).frames = machine.frames := by
  induction messages generalizing machine with
  | nil => rfl
  | cons message messages ih => rw [List.foldl_cons, ih, frames_emit]

def bindsInnermost (machine : Machine) (name : String) : Bool :=
  machine.frames.head?.any (·.contains name)

theorem lookup_of_grown {machine grown : Machine} (holds : Grown machine.frames grown.frames)
    (name : String) (old : grown.bindsInnermost name → machine.bindsInnermost name) :
    grown.lookup name = machine.lookup name := by
  unfold bindsInnermost at old
  unfold lookup
  generalize machine.frames = before at holds old ⊢
  generalize grown.frames = after at holds old ⊢
  cases holds with
  | empty => rfl
  | innermost below grows =>
    simp only [List.head?_cons, Option.any_some, Frame.contains_iff_mem_keys] at old
    rw [List.findSome?_cons, List.findSome?_cons, grows.get? old]

end Machine

namespace Expr

mutual

/-- Whether an expression defines a name in the frame in which it stands. Definitions in the bodies
of functions do not count. -/
def defines : Expr → Bool
  | .literal _ | .bare _ | .lambda _ => false
  | .list items => definesAny items
  | .call _ args => definesAny args
  | .define .. => true

def definesAny : List Expr → Bool
  | [] => false
  | expr :: rest => defines expr || definesAny rest

end

theorem defines_of_mem {exprs : List Expr} (plain : definesAny exprs = false) :
    ∀ expr ∈ exprs, expr.defines = false := by
  induction exprs with
  | nil => simp
  | cons expr rest ih =>
    rw [definesAny, Bool.or_eq_false_iff] at plain
    exact List.forall_mem_cons.mpr ⟨plain.1, ih plain.2⟩

end Expr

namespace Eval

theorem grown_define (name : String) (body : Block) (machine : Machine) :
    Machine.Grown machine.frames ((define name body).after machine).frames := by
  rcases define_cases name body machine with
    ⟨_, halted⟩ | ⟨frame, below, here, _, refused⟩ | ⟨frame, below, bound, here, done, defined⟩
  · rw [after_error halted]
    exact .refl _
  · rw [after_ok refused]
    exact .refl _
  · rw [after_ok defined, Machine.frames_note, here]
    exact .innermost below (Frame.grows_of_bind? done)

theorem frames_primitive (name : String) (args : List Value) (machine : Machine) :
    ((primitive name args).after machine).frames = machine.frames := by
  unfold primitive after
  cases dispatch name args with
  | ok reply =>
    dsimp only
    rw [Machine.frames_emitAll, Machine.frames_note]
  | error halt =>
    dsimp only
    rw [Machine.frames_note]

theorem kept_grown : Kept fun machine left => Machine.Grown machine.frames left.frames where
  refl machine := .refl machine.frames
  trans := .trans
  frame moved := by
    rw [Machine.frames_pop, moved.tail, Machine.frames_push]
    exact .refl _
  define := grown_define
  primitive name args machine := by
    rw [frames_primitive]
    exact .refl _

/-- A frame entered and left again leaves no mark, if what runs inside only lets it grow. -/
theorem frames_block (depth : Nat) (body : Block) (args : List Value) (name : String)
    (traced : Bool) (machine : Machine) :
    ((block (evaluate depth) body args name traced).after machine).frames = machine.frames := by
  have inside := keeps_statements kept_grown (keeps_evaluate kept_grown depth) (.bool false) body
    (machine.push name args)
  have popped : ((block (evaluate depth) body args name traced).after machine).frames =
      ((statements (evaluate depth) (.bool false) body).after (machine.push name args)).pop.frames := by
    unfold after block
    simp only [bind, EStateM.bind, inFrame]
    cases statements (evaluate depth) (.bool false) body (machine.push name args) <;> rfl
  rw [popped, Machine.frames_pop, inside.tail, Machine.frames_push]
  rfl

def SameFrames (machine left : Machine) : Prop := left.frames = machine.frames

theorem SameFrames.trans ⦃first second third : Machine⦄ (one : SameFrames first second)
    (two : SameFrames second third) : SameFrames first third :=
  Eq.trans two one

theorem sameFrames_applyComma (depth : Nat) (args : List Expr) (values : List Value) :
    Keeps SameFrames (applyComma (evaluate depth) args values) := by
  have idle (value : Value) : Keeps SameFrames (pure value) := fun _ => rfl
  unfold applyComma
  split
  · split
    · exact idle _
    · exact frames_block depth _ _ _ _
    · exact idle _
    · exact idle _
  · exact idle _

theorem sameFrames_mapM {depth : Nat} {exprs : List Expr}
    (each : ∀ expr ∈ exprs, Keeps SameFrames (evaluate depth expr)) :
    Keeps SameFrames (exprs.mapM (evaluate depth)) :=
  keeps_mapM_of_trans SameFrames.trans (fun _ => rfl) each

theorem sameFrames_call {depth : Nat} {args : List Expr}
    (each : ∀ arg ∈ args, Keeps SameFrames (evaluate depth arg)) (name : String) :
    Keeps SameFrames (call (evaluate depth) name args) := by
  refine keeps_bind_of_trans SameFrames.trans (sameFrames_mapM each) fun values => ?_
  refine keeps_bind_of_trans SameFrames.trans (fun _ => rfl) fun machine => ?_
  split
  · exact frames_block depth _ _ _ _
  · split
    · exact sameFrames_applyComma depth args values
    · split
      · exact fun machine => congrArg _ (after_frameArgs name machine)
      · exact frames_primitive name values

theorem sameFrames_evaluate (depth : Nat) {expr : Expr} (plain : expr.defines = false) :
    Keeps SameFrames (evaluate depth expr) := by
  induction depth generalizing expr with
  | zero => exact fun _ => rfl
  | succ depth ih =>
    have operands {exprs : List Expr} (plain : Expr.definesAny exprs = false) :
        ∀ expr ∈ exprs, Keeps SameFrames (evaluate depth expr) :=
      fun expr member => ih (Expr.defines_of_mem plain expr member)
    cases expr with
    | literal value => exact fun _ => rfl
    | list items =>
      rw [evaluate, map_eq_pure_bind]
      exact keeps_bind_of_trans SameFrames.trans (sameFrames_mapM (operands plain)) fun _ _ => rfl
    | bare name => exact sameFrames_call (by simp) name
    | call name args => exact sameFrames_call (operands plain) name
    | lambda body => exact fun _ => rfl
    | define name body => cases plain

theorem sameFrames_operands (depth : Nat) {args : List Expr}
    (plain : Expr.definesAny args = false) : Keeps SameFrames (args.mapM (evaluate depth)) :=
  sameFrames_mapM fun arg member => sameFrames_evaluate depth (Expr.defines_of_mem plain arg member)

theorem grown_node (depth : Nat) (node : Node) (machine : Machine) :
    Machine.Grown machine.frames ((Eval.node depth node).after machine).frames := by
  cases node with
  | expr expr => exact keeps_evaluate kept_grown depth expr machine
  | block body => exact keeps_throw kept_grown .blockNode machine

/-- The discipline of the stack, for every machine and every outcome. Evaluating a node leaves the
frames below the innermost one alone and lets that one only grow, so a name that it does not newly
bind means what it meant. Blocks and calls leave the whole stack as it was. -/
theorem evaluation_keeps_stack (depth : Nat) (machine : Machine) :
    (∀ node : Node,
      let left := (Eval.node depth node).after machine
      left.frames.length = machine.frames.length ∧
      left.frames.tail = machine.frames.tail ∧
      (∀ frame, machine.frames.head? = some frame →
        ∃ grown, left.frames.head? = some grown ∧ frame.Grows grown) ∧
      ∀ name, (left.bindsInnermost name → machine.bindsInnermost name) →
        left.lookup name = machine.lookup name) ∧
    (∀ body args name traced,
      ((block (evaluate depth) body args name traced).after machine).frames = machine.frames) ∧
    ∀ f args name,
      ((invoke (evaluate depth) f args name).after machine).frames = machine.frames := by
  refine ⟨?_, ?_, ?_⟩
  · intro node
    have grown := grown_node depth node machine
    exact ⟨grown.length, grown.tail, fun frame innermost => grown.head? innermost,
      Machine.lookup_of_grown grown⟩
  · intro body args name traced
    exact frames_block depth body args name traced machine
  · intro f args name
    exact frames_block depth f.body args name true machine

end Eval

end CurryScript
