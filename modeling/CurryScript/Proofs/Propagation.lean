import CurryScript.Proofs.Simulation

/-!
Faults on their way out. An exception that comes up in an argument or in the body of a function passes
through all the calls around it, and the functions it leaves, and nothing else, add their names to its
stack.
-/
namespace CurryScript

namespace Primitive

theorem name_of_observes {name : String}
    (observes : (ofName? name).any observesExceptions = true) : name = "?" ∨ name = "catch" := by
  cases known : ofName? name with
  | none => simp [known] at observes
  | some p =>
    rw [← name_of_ofName? known]
    rw [known, Option.any_some] at observes
    cases p with
    | choose => exact .inl rfl
    | inspect => exact .inr rfl
    | negate | remainder | both | multiply | add | subtract | divide | less | equal | greater | print
    | head | tail | toFloat | toInt | raise | toText | textLength | textSlice | either
    | earlyReturn => contradiction

end Primitive

theorem find?_isException {plain others : List Value} {exception : Value}
    (inOrder : ∀ value ∈ plain, value.isException = false)
    (raised : exception.isException = true) :
    (plain ++ exception :: others).find? Value.isException = some exception := by
  have none : plain.find? Value.isException = none :=
    List.find?_eq_none.mpr fun value member => by simp [inOrder value member]
  rw [List.find?_append, none, Option.none_or, List.find?_cons, raised]

theorem dispatch_of_exception {name : String} (blind : name ≠ "?" ∧ name ≠ "catch")
    {plain others : List Value} {exception : Value}
    (inOrder : ∀ value ∈ plain, value.isException = false)
    (raised : exception.isException = true) :
    dispatch name (plain ++ exception :: others) = .ok ⟨exception, []⟩ := by
  have unobserved : (Primitive.ofName? name).any Primitive.observesExceptions = false := by
    rw [Bool.eq_false_iff]
    intro observes
    rcases Primitive.name_of_observes observes with choose | inspect
    · exact blind.1 choose
    · exact blind.2 inspect
  have passed : passedOn name (plain ++ exception :: others) = some exception := by
    rw [passedOn, unobserved]
    exact find?_isException inOrder raised
  rw [dispatch_eq, passed]

namespace Eval

variable {evaluate : Expr → Eval Value}

theorem mapM_around {before later : List Expr} {arg : Expr} {machine there left after : Machine}
    {plain others : List Value} {value : Value}
    (earlier : before.mapM evaluate machine = .ok plain there)
    (evaluated : evaluate arg there = .ok value left)
    (rest : later.mapM evaluate left = .ok others after) :
    (before ++ arg :: later).mapM evaluate machine = .ok (plain ++ value :: others) after := by
  rw [List.mapM_append, bind_of_ok earlier, List.mapM_cons]
  simp only [bind_assoc, pure_bind]
  rw [bind_of_ok evaluated, bind_of_ok rest]
  rfl

theorem call_of_unbound {name : String} {args : List Expr} {machine left : Machine}
    {values : List Value} (operands : args.mapM evaluate machine = .ok values left)
    (unbound : left.lookup name = none) :
    call evaluate name args machine =
      (if name = "," then applyComma evaluate args values
        else if isUnderscoreName name then frameArgs name else primitive name values) left := by
  have got : (get : Eval Machine) left = .ok left left := rfl
  rw [call, bind_of_ok operands, bind_of_ok got, unbound]

theorem primitive_of_silent {name : String} {args : List Value} {value : Value}
    (answer : dispatch name args = .ok ⟨value, []⟩) (machine : Machine) :
    ∃ left, primitive name args machine = .ok value left := by
  unfold primitive
  rw [answer]
  exact ⟨_, rfl⟩

theorem block_of_exception {body : Block} {args : List Value} {name : String}
    {machine there left : Machine} {reached : Expr} {flavor : Flavor} {payload : Value}
    {stack : List String} (escapes : flavor ≠ .earlyReturn)
    (visited : Visits evaluate Value.isException body (machine.push name args) reached there)
    (evaluated : evaluate reached there = .ok (.exception flavor payload stack) left) :
    block evaluate body args name true machine =
      .ok (.exception flavor payload (stack ++ [name])) left.pop := by
  have inside : statements evaluate (.bool false) body (machine.push name args) =
      .ok (.exception flavor payload stack) left := by
    obtain ⟨before, rest, same⟩ := visited.statements (.bool false)
    rw [same, statements, bind_of_ok evaluated]
    rfl
  rw [block_of_ok inside, leave_exception escapes]
  rfl

end Eval

/-- The places among its arguments from which a call hands an exception on: all of them, except that
a comma and a choice look at the first of two or three arguments alone, that `catch` makes a list of
an exception and that underscores have no use for arguments. -/
inductive HandsOn : String → List Expr → List Expr → Prop
  | anywhere {name : String} (noComma : name ≠ ",") (noFrame : isUnderscoreName name = false)
      (blind : name ≠ "?" ∧ name ≠ "catch") (before later : List Expr) : HandsOn name before later
  | comma (second : Expr) : HandsOn "," [] [second]
  | choice (second third : Expr) : HandsOn "?" [] [second, third]

namespace Task
open Eval

/-- Layers of calls around an evaluation. It takes place in an argument that is handed on, after
arguments in order and before others that only have to come to an end, or in the body of a function
that is entered, after statements in order. The functions entered are listed, innermost first. -/
inductive Wraps : Task → Task → List String → Prop
  | here (task : Task) : Wraps task task []
  | argument {depth : Nat} {name : String} {machine there left : Machine}
      {plain others : List Value} {task : Task} {passed : List String}
      (before : List Expr) (arg : Expr) (later : List Expr)
      (earlier : before.mapM (evaluate depth) machine = .ok plain there)
      (inOrder : ∀ value ∈ plain, value.isException = false)
      (inner : Wraps ⟨depth, arg, there⟩ task passed)
      (rest : later.mapM (evaluate depth) ((evaluate depth arg).after there) = .ok others left)
      (unbound : left.lookup name = none) (handsOn : HandsOn name before later) :
      Wraps ⟨depth + 1, .call name (before ++ arg :: later), machine⟩ task passed
  | body {depth : Nat} {expr reached : Expr} {name : String} {machine left there : Machine}
      {values given : List Value} {f : Function} {task : Task} {passed : List String}
      (calls : Calls ⟨depth + 1, expr, machine⟩ name values left)
      (enters : Enters left name expr.operands values f given)
      (visited : Visits (evaluate depth) Value.isException f.body (left.push name given)
        reached there)
      (inner : Wraps ⟨depth, reached, there⟩ task passed) :
      Wraps ⟨depth + 1, expr, machine⟩ task (passed ++ [name])

end Task

section

variable {evaluate : Expr → Eval Value} {before later : List Expr} {arg : Expr}
  {machine left : Machine} {plain others : List Value} {flavor : Flavor} {payload : Value}
  {stack : List String}

theorem Eval.length_mapM {args : List Expr} {values : List Value} {after : Machine}
    (ok : args.mapM evaluate machine = .ok values after) : values.length = args.length := by
  induction args generalizing machine values with
  | nil =>
    cases ok
    rfl
  | cons arg args ih =>
    obtain ⟨value, left, others, _, later, rfl⟩ := mapM_cons_ok ok
    rw [List.length_cons, List.length_cons, ih later]

theorem call_hands_on {name : String} (handsOn : HandsOn name before later)
    (inOrder : ∀ value ∈ plain, value.isException = false) (first : plain.length = before.length)
    (count : others.length = later.length)
    (operands : (before ++ arg :: later).mapM evaluate machine =
      .ok (plain ++ .exception flavor payload stack :: others) left)
    (unbound : left.lookup name = none) :
    ∃ after, Eval.call evaluate name (before ++ arg :: later) machine =
      .ok (.exception flavor payload stack) after := by
  rw [Eval.call_of_unbound operands unbound]
  cases handsOn with
  | anywhere noComma noFrame blind =>
    rw [if_neg noComma, noFrame]
    exact Eval.primitive_of_silent (dispatch_of_exception blind inOrder rfl) left
  | comma second =>
    obtain rfl := List.length_eq_zero_iff.mp first
    obtain ⟨given, rfl⟩ := List.length_eq_one_iff.mp count
    exact ⟨left, rfl⟩
  | choice second third =>
    obtain rfl := List.length_eq_zero_iff.mp first
    obtain ⟨a, b, rfl⟩ := List.length_eq_two.mp count
    have answer : dispatch "?" [.exception flavor payload stack, a, b] =
        .ok ⟨.exception flavor payload stack, []⟩ := rfl
    exact Eval.primitive_of_silent answer left

end

/-- A fault comes out of all the calls around it with its flavor and its payload, and with the names
of the functions it has left after those on its stack. -/
theorem fault_passes_wrapping_calls {outer inner : Task} {passed : List String}
    (wraps : outer.Wraps inner passed) {flavor : Flavor} {payload : Value} {stack : List String}
    {left : Machine} (raised : inner.outcome = .ok (.exception flavor payload stack) left)
    (fault : flavor ≠ .earlyReturn) :
    ∃ after, outer.outcome = .ok (.exception flavor payload (stack ++ passed)) after := by
  induction wraps with
  | here task => exact ⟨left, by rw [List.append_nil]; exact raised⟩
  | argument before arg later earlier inOrder inner rest unbound handsOn ih =>
    obtain ⟨between, evaluated⟩ := ih raised
    rw [Eval.after_ok evaluated] at rest
    exact call_hands_on handsOn inOrder (Eval.length_mapM earlier) (Eval.length_mapM rest)
      (Eval.mapM_around earlier evaluated rest) unbound
  | body calls enters visited inner ih =>
    obtain ⟨between, evaluated⟩ := ih raised
    obtain ⟨_, same, calling, operands⟩ := calls
    cases same
    refine ⟨between.pop, ?_⟩
    rw [Task.outcome, evaluate_of_callee calling, Eval.call_of_enters operands enters,
      ← List.append_assoc]
    exact Eval.block_of_exception fault visited evaluated

/-- The script `+[2 ,[:[1; ?[f[7] 3 g]] [4]]]`, where `f` is bound to a function that raises a text
inside an addition: a choice and two additions hand the exception on, and the comma and `f` are left. -/
theorem raise_passes_nested_calls :
    let raising : Expr := .call "raise" [.literal (.text "x")]
    let f : Function := { name := some "f", body := [.call "+" [.literal (.int 0), raising]] }
    let choosing : Expr :=
      .call "?" [.call "f" [.literal (.int 7)], .literal (.int 3), .bare "g"]
    let applying : Expr :=
      .call "," [.lambda [.literal (.int 1), choosing], .list [.literal (.int 4)]]
    let frame : Frame := { name := "main", bindings := [("f", f)] }
    let outer : Task := ⟨7, .call "+" [.literal (.int 2), applying], { frames := [frame] }⟩
    ∃ inner left after, outer.Wraps inner ["f", ","] ∧
      inner.outcome = .ok (.exception .error (.text "x") []) left ∧
      outer.outcome = .ok (.exception .error (.text "x") ["f", ","]) after := by
  intro raising f choosing applying frame outer
  let start : Machine := { frames := [frame] }
  let applied := start.push "," [.int 4]
  let called := applied.push "f" [.int 7]
  have noFrame : isUnderscoreName "+" = false := rfl
  have blind : "+" ≠ "?" ∧ "+" ≠ "catch" := by decide
  have noComma : "+" ≠ "," := by decide
  have adding : Task.Wraps ⟨3, .call "+" [.literal (.int 0), raising], called⟩
      ⟨2, raising, called⟩ [] :=
    .argument [.literal (.int 0)] raising [] rfl (by simp [Value.ofLiteral, Value.isException])
      (.here _) rfl rfl (.anywhere noComma noFrame blind _ _)
  have calling : Task.Wraps ⟨4, .call "f" [.literal (.int 7)], applied⟩ ⟨2, raising, called⟩ ["f"] :=
    .body ⟨3, rfl, rfl, rfl⟩ (.named rfl) .here adding
  have chosen : Task.Wraps ⟨5, choosing, applied⟩ ⟨2, raising, called⟩ ["f"] :=
    .argument [] _ [_, _] rfl (by simp) calling rfl rfl (.choice _ _)
  have entering : Task.Wraps ⟨6, applying, start⟩ ⟨2, raising, called⟩ ["f", ","] :=
    .body ⟨5, rfl, rfl, rfl⟩ (.comma rfl) (.later rfl rfl .here) chosen
  have wraps : outer.Wraps ⟨2, raising, called⟩ ["f", ","] :=
    .argument [.literal (.int 2)] applying [] rfl (by simp [Value.ofLiteral, Value.isException])
      entering rfl rfl (.anywhere noComma noFrame blind _ _)
  have raised : (Task.mk 2 raising called).outcome = .ok (.exception .error (.text "x") []) called :=
    rfl
  obtain ⟨after, outcome⟩ := fault_passes_wrapping_calls wraps raised (by decide)
  exact ⟨_, _, after, wraps, raised, outcome⟩

end CurryScript
