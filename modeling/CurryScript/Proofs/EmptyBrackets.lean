import CurryScript.Proofs.Simulation

/-!
Brackets on an empty call. Trees without float literals are equal just when they become the same tree
once every bare call has got its brackets. Nothing that a run does depends on these brackets, so equal
programs do the same; only the bodies of the functions they come to may be written differently.
-/
namespace CurryScript

namespace Expr

mutual

def bracketed : Expr → Expr
  | .literal value => .literal value
  | .list items => .list (bracketedAll items)
  | .bare name => .call name []
  | .call name args => .call name (bracketedAll args)
  | .lambda body => .lambda (bracketedAll body)
  | .define name body => .define name (bracketedAll body)

def bracketedAll : List Expr → List Expr
  | [] => []
  | expr :: rest => bracketed expr :: bracketedAll rest

end

mutual

def floatFree : Expr → Bool
  | .literal (.float _) => false
  | .literal _ | .bare _ => true
  | .list items => floatFreeAll items
  | .call _ args => floatFreeAll args
  | .lambda body => floatFreeAll body
  | .define _ body => floatFreeAll body

def floatFreeAll : List Expr → Bool
  | [] => true
  | expr :: rest => floatFree expr && floatFreeAll rest

end

theorem literal_equal_iff {value other : Literal} (free : floatFree (.literal value) = true) :
    value.equal other = true ↔ value = other := by
  cases value with
  | float x => contradiction
  | bool | int | text => cases other <;> simp [Literal.equal]

theorem bracketedAll_eq_nil_iff {exprs : List Expr} : bracketedAll exprs = [] ↔ exprs = [] := by
  cases exprs <;> simp [bracketedAll]

mutual

theorem equal_iff_bracketed : ∀ {expr : Expr}, expr.floatFree = true → ∀ other : Expr,
    expr.equal other = true ↔ expr.bracketed = other.bracketed
  | .literal _, free, other => by
    cases other <;> simp [equal, bracketed, literal_equal_iff free]
  | .list _, free, other => by
    cases other <;> simp [equal, bracketed, equalAll_iff_bracketedAll free]
  | .bare _, _, other => by
    cases other <;> simp [equal, bracketed, bracketedAll_eq_nil_iff]
  | .call _ _, free, other => by
    cases other <;>
      simp [equal, bracketed, equalAll_iff_bracketedAll free, bracketedAll_eq_nil_iff]
  | .lambda _, free, other => by
    cases other <;> simp [equal, bracketed, equalAll_iff_bracketedAll free]
  | .define _ _, free, other => by
    cases other <;> simp [equal, bracketed, equalAll_iff_bracketedAll free]

theorem equalAll_iff_bracketedAll : ∀ {exprs : List Expr}, floatFreeAll exprs = true →
    ∀ others : List Expr, equalAll exprs others = true ↔ bracketedAll exprs = bracketedAll others
  | [], _, others => by cases others <;> simp [equalAll, bracketedAll]
  | _ :: _, free, others => by
    rw [floatFreeAll, Bool.and_eq_true] at free
    cases others <;>
      simp [equalAll, bracketedAll, equal_iff_bracketed free.1, equalAll_iff_bracketedAll free.2]

end

def Respelled (expr other : Expr) : Prop := expr.floatFree = true ∧ expr.equal other = true

theorem respelledAll_iff {exprs others : List Expr} :
    List.Forall₂ Respelled exprs others ↔
      floatFreeAll exprs = true ∧ equalAll exprs others = true := by
  induction exprs generalizing others with
  | nil => cases others <;> simp [floatFreeAll, equalAll]
  | cons expr exprs ih =>
    cases others with
    | nil => simp [equalAll]
    | cons other others =>
      simp only [List.forall₂_cons, ih, Respelled, floatFreeAll, equalAll, Bool.and_eq_true]
      exact and_and_and_comm

theorem Respelled.parallel {expr other : Expr} (paired : expr.Respelled other) :
    expr.Parallel (fun _ => true) Respelled other := by
  obtain ⟨free, same⟩ := paired
  cases expr <;> cases other <;>
    simp only [equal, Bool.false_eq_true, Bool.and_eq_true, decide_eq_true_eq,
      List.isEmpty_iff] at same
  case literal.literal value other =>
    rw [literal_equal_iff free] at same
    subst same
    exact .literal value
  case list.list => exact .list (respelledAll_iff.mpr ⟨free, same⟩)
  case bare.bare =>
    subst same
    exact .call rfl rfl rfl .nil
  case bare.call | call.bare =>
    obtain ⟨rfl, rfl⟩ := same
    exact .call rfl rfl rfl .nil
  case call.call =>
    obtain ⟨rfl, args⟩ := same
    exact .call rfl rfl rfl (respelledAll_iff.mpr ⟨free, args⟩)
  case lambda.lambda => exact .lambda (respelledAll_iff.mpr ⟨free, same⟩)
  case define.define =>
    obtain ⟨rfl, body⟩ := same
    exact .define rfl (respelledAll_iff.mpr ⟨free, body⟩)

end Expr

def Comparison.respelled : Comparison where
  known _ := true
  exprs := Expr.Respelled
  parallel := Expr.Respelled.parallel

structure Function.Respelled (f g : Function) : Prop where
  name : f.name = g.name
  origin : f.origin = g.origin
  body : Block.equal f.body g.body = true

theorem Comparison.respelled_values {value other : Value}
    (alike : respelled.Values value other) : value.Alike Function.Respelled other :=
  alike.imp fun paired =>
    ⟨paired.name, paired.origin, (Expr.respelledAll_iff.mp paired.body).2⟩

/-- Answers of two runs: values that are alike, or the same halt. -/
inductive RunsAlike (functions : Function → Function → Prop) :
    Except Halt Value → Except Halt Value → Prop
  | value {value other : Value} (alike : value.Alike functions other) :
      RunsAlike functions (.ok value) (.ok other)
  | halted (halt : Halt) : RunsAlike functions (.error halt) (.error halt)

theorem Comparison.respelled_answers {action action' : Eval Value} {machine machine' : Machine}
    (agree : respelled.Agree respelled.Values machine machine' (action machine)
      (action' machine')) :
    RunsAlike Function.Respelled (action.answer machine) (action'.answer machine') := by
  unfold Eval.answer
  generalize action machine = outcome, action' machine' = outcome' at agree ⊢
  cases agree with
  | ok results _ => exact .value (respelled_values results)
  | error _ _ => exact .halted _

/-- Blocks of which one has no float literal are equal just when they become the same once every bare
call has got its brackets, and then they do the same on a fresh machine. -/
theorem equal_blocks_run_alike (a b : Block) (free : Expr.floatFreeAll a = true) :
    (Block.equal a b = true ↔ Expr.bracketedAll a = Expr.bracketedAll b) ∧
    (Block.equal a b = true → ∀ (depth : Nat) (mainFrame : String) (debug : Bool),
      let fresh : Machine := { debug }
      let one := Eval.run depth mainFrame a
      let other := Eval.run depth mainFrame b
      RunsAlike Function.Respelled (one.answer fresh) (other.answer fresh) ∧
        (one.after fresh).effects = (other.after fresh).effects ∧
        (one.after fresh).stream = (other.after fresh).stream) := by
  refine ⟨Expr.equalAll_iff_bracketedAll free b, fun same depth mainFrame debug => ?_⟩
  intro fresh one other
  have paired : List.Forall₂ Comparison.respelled.exprs a b :=
    Expr.respelledAll_iff.mpr ⟨free, same⟩
  have agree : Comparison.respelled.Agree Comparison.respelled.Values fresh fresh (one fresh)
      (other fresh) := Eval.agree_run depth mainFrame mainFrame paired rfl rfl
  obtain ⟨lines, here, there⟩ := agree.proceeds.printed
  refine ⟨Comparison.respelled_answers agree, ?_, here.stream.trans there.stream.symm⟩
  rw [← Array.toList_inj, here.effects, there.effects]

theorem functions_from_respelled_programs :
    let body : Block := [.call ">>" [.literal (.text "x")], .lambda [.bare "g"]]
    let body' : Block := [.call ">>" [.literal (.text "x")], .lambda [.call "g" []]]
    let program : Block := [.define "f" body, .list [.bare "f"]]
    let program' : Block := [.define "f" body', .list [.call "f" []]]
    let value (inner : Block) : Value := .list [.function { name := none, body := inner }]
    Expr.floatFreeAll program = true ∧ Block.equal program program' = true ∧
      (Eval.run 9 "main" program).answer {} = .ok (value [.bare "g"]) ∧
      (Eval.run 9 "main" program').answer {} = .ok (value [.call "g" []]) ∧
      RunsAlike Function.Respelled (.ok (value [.bare "g"])) (.ok (value [.call "g" []])) ∧
      ((Eval.run 9 "main" program).after {}).effects =
        ((Eval.run 9 "main" program').after {}).effects := by
  intro body body' program program' value
  have free : Expr.floatFreeAll program = true := rfl
  have same : Block.equal program program' = true := by decide
  obtain ⟨-, alike⟩ := equal_blocks_run_alike program program' free
  obtain ⟨answers, effects, -⟩ := alike same 9 "main" false
  exact ⟨free, same, rfl, rfl, answers, effects⟩

end CurryScript
