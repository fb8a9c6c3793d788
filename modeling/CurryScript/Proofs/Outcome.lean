import CurryScript.Evaluation

/-!
What evaluations leave behind. An evaluation changes its machine whether it yields a value or halts,
so statements about machines speak of the machine after it, whatever its outcome. A relation between
the machines before and after holds of every evaluation once it holds of the elementary steps.
-/
namespace CurryScript.Eval

def after {α : Type} (action : Eval α) (machine : Machine) : Machine :=
  match action machine with
  | .ok _ left | .error _ left => left

theorem after_ok {α : Type} {action : Eval α} {machine left : Machine} {value : α}
    (ok : action machine = .ok value left) : action.after machine = left := by
  rw [after, ok]

theorem after_error {α : Type} {action : Eval α} {machine left : Machine} {halt : Halt}
    (halted : action machine = .error halt left) : action.after machine = left := by
  rw [after, halted]

theorem bind_ok {α β : Type} {action : Eval α} {next : α → Eval β} {machine after : Machine}
    {result : β} (ok : (action >>= next) machine = .ok result after) :
    ∃ value left, action machine = .ok value left ∧ next value left = .ok result after := by
  simp only [bind, EStateM.bind] at ok
  split at ok
  · next value left outcome => exact ⟨value, left, outcome, ok⟩
  · contradiction

theorem bind_of_ok {α β : Type} {action : Eval α} {next : α → Eval β} {machine left : Machine}
    {value : α} (ok : action machine = .ok value left) :
    (action >>= next) machine = next value left := by
  simp only [bind, EStateM.bind, ok]

theorem bind_of_error {α β : Type} {action : Eval α} {next : α → Eval β} {machine left : Machine}
    {halt : Halt} (halted : action machine = .error halt left) :
    (action >>= next) machine = .error halt left := by
  simp only [bind, EStateM.bind, halted]

theorem after_bind_of_ok {α β : Type} {action : Eval α} {next : α → Eval β}
    {machine left : Machine} {value : α} (ok : action machine = .ok value left) :
    (action >>= next).after machine = (next value).after left := by
  rw [after, bind_of_ok ok, after]

theorem mapM_cons_ok {evaluate : Expr → Eval Value} {expr : Expr} {rest : List Expr}
    {machine after : Machine} {values : List Value}
    (ok : (expr :: rest).mapM evaluate machine = .ok values after) :
    ∃ value left others, evaluate expr machine = .ok value left ∧
      rest.mapM evaluate left = .ok others after ∧ values = value :: others := by
  rw [List.mapM_cons] at ok
  obtain ⟨value, left, first, ok⟩ := bind_ok ok
  obtain ⟨others, last, later, ok⟩ := bind_ok ok
  cases ok
  exact ⟨value, left, others, first, later, rfl⟩

theorem block_ok {evaluate : Expr → Eval Value} {body : Block} {args : List Value} {name : String}
    {traced : Bool} {machine after : Machine} {value : Value}
    (ok : block evaluate body args name traced machine = .ok value after) :
    ∃ result left,
      statements evaluate (.bool false) body (machine.push name args) = .ok result left ∧
      value = leave name traced result ∧ after = left.pop := by
  obtain ⟨result, last, framed, ok⟩ := bind_ok ok
  cases ok
  unfold inFrame at framed
  split at framed
  · next result' left inner =>
    cases framed
    exact ⟨result, left, inner, rfl, rfl⟩
  · contradiction

theorem block_of_ok {evaluate : Expr → Eval Value} {body : Block} {args : List Value}
    {name : String} {machine left : Machine} {result : Value}
    (ok : statements evaluate (.bool false) body (machine.push name args) = .ok result left)
    (traced : Bool) :
    block evaluate body args name traced machine = .ok (leave name traced result) left.pop := by
  have framed : inFrame name args (statements evaluate (.bool false) body) machine =
      .ok result left.pop := by
    rw [inFrame, ok]
  rw [block, bind_of_ok framed]
  rfl

theorem block_of_error {evaluate : Expr → Eval Value} {body : Block} {args : List Value}
    {name : String} {machine left : Machine} {halt : Halt}
    (halted : statements evaluate (.bool false) body (machine.push name args) = .error halt left)
    (traced : Bool) :
    block evaluate body args name traced machine = .error halt left.pop := by
  have framed : inFrame name args (statements evaluate (.bool false) body) machine =
      .error halt left.pop := by
    rw [inFrame, halted]
  exact bind_of_error framed

theorem after_frameArgs (name : String) (machine : Machine) :
    (frameArgs name).after machine = machine := by
  unfold after frameArgs
  cases machine.frames[name.length - 1]? <;> rfl

/-- All that a definition can do: halt outside of any frame, refuse a bound name, or bind it. -/
theorem define_cases (name : String) (body : Block) (machine : Machine) :
    (machine.frames = [] ∧
      define name body machine = .error .definitionOutsideFrame machine) ∨
    (∃ frame below, machine.frames = frame :: below ∧ frame.contains name = true ∧
      define name body machine =
        .ok (.exception .redefinition (.text ("attempt to redefine " ++ name)) []) machine) ∨
    ∃ frame below bound, machine.frames = frame :: below ∧
      frame.bind? name { name := some name, body } = some bound ∧
      define name body machine = .ok (.function { name := some name, body })
        ({ machine with frames := bound :: below }.note (.define name bound.name)) := by
  unfold define
  cases here : machine.frames with
  | nil => exact .inl ⟨rfl, rfl⟩
  | cons frame below =>
    refine .inr ?_
    cases done : frame.bind? name { name := some name, body } with
    | none =>
      have taken : frame.contains name = true := by
        unfold Frame.bind? at done
        split at done
        · assumption
        · contradiction
      exact .inl ⟨frame, below, rfl, taken, by simp [done]⟩
    | some bound => exact .inr ⟨frame, below, bound, rfl, done, by simp [done]⟩

/-- A relation that the elementary steps of evaluation keep: definitions, primitives, and what
happens between the entry of a frame and its removal. -/
structure Kept (relation : Machine → Machine → Prop) : Prop where
  refl : ∀ machine, relation machine machine
  trans : ∀ {first second third}, relation first second → relation second third →
    relation first third
  frame : ∀ {machine left name args}, relation (machine.push name args) left →
    relation machine left.pop
  define : ∀ name body machine, relation machine ((Eval.define name body).after machine)
  primitive : ∀ name args machine, relation machine ((Eval.primitive name args).after machine)

def Keeps {α : Type} (relation : Machine → Machine → Prop) (action : Eval α) : Prop :=
  ∀ machine, relation machine (action.after machine)

section

variable {relation : Machine → Machine → Prop}
  (trans : ∀ ⦃first second third⦄, relation first second → relation second third →
    relation first third)

include trans

theorem keeps_bind_of_trans {α β : Type} {action : Eval α} {next : α → Eval β}
    (first : Keeps relation action) (rest : ∀ value, Keeps relation (next value)) :
    Keeps relation (action >>= next) := by
  intro machine
  have moved := first machine
  cases outcome : action machine with
  | ok value left =>
    rw [after_ok outcome] at moved
    rw [after_bind_of_ok outcome]
    exact trans moved (rest value left)
  | error halt left =>
    rw [after_error outcome] at moved
    rw [after_error (bind_of_error outcome)]
    exact moved

theorem keeps_mapM_of_trans {α β : Type} (refl : ∀ machine, relation machine machine)
    {action : α → Eval β} {items : List α}
    (each : ∀ item ∈ items, Keeps relation (action item)) :
    Keeps relation (items.mapM action) := by
  induction items with
  | nil => exact refl
  | cons item items ih =>
    obtain ⟨first, rest⟩ := List.forall_mem_cons.mp each
    rw [List.mapM_cons]
    refine keeps_bind_of_trans trans first fun value => ?_
    exact keeps_bind_of_trans trans (ih rest) fun values => refl

end

section

variable {relation : Machine → Machine → Prop} (kept : Kept relation)

include kept

theorem keeps_pure {α : Type} (value : α) : Keeps relation (pure value : Eval α) :=
  kept.refl

theorem keeps_throw {α : Type} (halt : Halt) : Keeps relation (throw halt : Eval α) :=
  kept.refl

theorem keeps_bind {α β : Type} {action : Eval α} {next : α → Eval β}
    (first : Keeps relation action) (rest : ∀ value, Keeps relation (next value)) :
    Keeps relation (action >>= next) :=
  keeps_bind_of_trans @kept.trans first rest

theorem keeps_mapM {α β : Type} {action : α → Eval β} (each : ∀ item, Keeps relation (action item))
    (items : List α) : Keeps relation (items.mapM action) :=
  keeps_mapM_of_trans @kept.trans kept.refl fun item _ => each item

theorem keeps_inFrame {α : Type} {action : Eval α} (inside : Keeps relation action)
    (name : String) (args : List Value) : Keeps relation (inFrame name args action) := by
  intro machine
  have moved := kept.frame (inside (machine.push name args))
  have same : (inFrame name args action).after machine =
      (action.after (machine.push name args)).pop := by
    unfold after inFrame
    cases action (machine.push name args) <;> rfl
  rw [same]
  exact moved

variable {evaluate : Expr → Eval Value} (each : ∀ expr, Keeps relation (evaluate expr))

include each

theorem keeps_statements (last : Value) (body : Block) :
    Keeps relation (statements evaluate last body) := by
  induction body generalizing last with
  | nil => exact keeps_pure kept last
  | cons expr rest ih =>
    refine keeps_bind kept (each expr) fun value => ?_
    split
    · exact keeps_pure kept value
    · exact ih value

theorem keeps_block (body : Block) (args : List Value) (name : String) (traced : Bool) :
    Keeps relation (block evaluate body args name traced) :=
  keeps_bind kept (keeps_inFrame kept (keeps_statements kept each _ body) name args)
    fun _ => keeps_pure kept _

theorem keeps_applyComma (args : List Expr) (values : List Value) :
    Keeps relation (applyComma evaluate args values) := by
  unfold applyComma
  split
  · split
    · exact keeps_pure kept _
    · exact keeps_block kept each _ _ _ _
    · exact keeps_pure kept _
    · exact keeps_pure kept _
  · exact keeps_pure kept _

omit each in
theorem keeps_frameArgs (name : String) : Keeps relation (frameArgs name) := by
  intro machine
  rw [after_frameArgs]
  exact kept.refl machine

theorem keeps_call (name : String) (args : List Expr) :
    Keeps relation (call evaluate name args) := by
  refine keeps_bind kept (keeps_mapM kept each args) fun values => ?_
  refine keeps_bind kept kept.refl fun machine => ?_
  split
  · exact keeps_block kept each _ _ _ _
  · split
    · exact keeps_applyComma kept each args values
    · split
      · exact keeps_frameArgs kept name
      · exact kept.primitive name values

end

theorem keeps_evaluate {relation : Machine → Machine → Prop} (kept : Kept relation) (depth : Nat)
    (expr : Expr) : Keeps relation (evaluate depth expr) := by
  induction depth generalizing expr with
  | zero => exact keeps_throw kept .tooDeep
  | succ depth ih =>
    cases expr with
    | literal value => exact keeps_pure kept _
    | list items =>
      rw [evaluate, map_eq_pure_bind]
      exact keeps_bind kept (keeps_mapM kept ih items) fun values => keeps_pure kept _
    | bare name => exact keeps_call kept ih name []
    | call name args => exact keeps_call kept ih name args
    | lambda body => exact keeps_pure kept _
    | define name body => exact kept.define name body

end CurryScript.Eval
