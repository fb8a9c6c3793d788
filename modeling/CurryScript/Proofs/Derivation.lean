import CurryScript.Expr.Grammar

/-!
The grammar of scripts as derivations, apart from any way of reading. In a run of items an
identifier may stand directly before a colon or an opening bracket, and two readings are then
possible: that the item ends with the identifier, or that it goes on. A tied derivation takes the
second. Tying loses no sequence of tokens, since the two items of a loose derivation join into one.
-/
namespace CurryScript

def Expr.isBare : Expr → Bool
  | .bare _ => true
  | _ => false

namespace Grammar

/-- Whether a token directly after an identifier belongs to it, as the colon of a definition or the
bracket of its arguments. -/
def attaches (token : Token) : Bool :=
  token.lexeme = .colon || token.lexeme = .openBracket

mutual

inductive Derives (tied : Bool) : List Token → Expr → Prop
  | literal {token : Token} {value : Literal} (written : token.lexeme = .literal value) :
      Derives tied [token] (.literal value)
  | list {opener closer : Token} {inside : List Token} {exprs : List Expr}
      (opened : opener.lexeme = .openBracket) (items : DerivesItems tied inside exprs)
      (closed : closer.lexeme = .closeBracket) :
      Derives tied (opener :: (inside ++ [closer])) (.list exprs)
  | lambda {colon opener closer : Token} {inside : List Token} {body : Block}
      (marked : colon.lexeme = .colon) (opened : opener.lexeme = .openBracket)
      (block : DerivesBlock tied inside body) (closed : closer.lexeme = .closeBracket) :
      Derives tied (colon :: opener :: (inside ++ [closer])) (.lambda body)
  | define {token colon opener closer : Token} {name : String} {inside : List Token} {body : Block}
      (named : token.lexeme = .identifier name) (marked : colon.lexeme = .colon)
      (opened : opener.lexeme = .openBracket) (block : DerivesBlock tied inside body)
      (closed : closer.lexeme = .closeBracket) :
      Derives tied (token :: colon :: opener :: (inside ++ [closer])) (.define name body)
  | bare {token : Token} {name : String} (named : token.lexeme = .identifier name) :
      Derives tied [token] (.bare name)
  | call {token opener closer : Token} {name : String} {inside : List Token} {args : List Expr}
      (named : token.lexeme = .identifier name) (opened : opener.lexeme = .openBracket)
      (items : DerivesItems tied inside args) (closed : closer.lexeme = .closeBracket) :
      Derives tied (token :: opener :: (inside ++ [closer])) (.call name args)

/-- Expressions one after the other. If the derivation is tied, no token that attaches to an
identifier follows an item that is just an identifier. -/
inductive DerivesItems (tied : Bool) : List Token → List Expr → Prop
  | none : DerivesItems tied [] []
  | more {front back : List Token} {expr : Expr} {exprs : List Expr}
      (first : Derives tied front expr) (rest : DerivesItems tied back exprs)
      (tie : tied = true → expr.isBare = true → ∀ token ∈ back.head?, attaches token = false) :
      DerivesItems tied (front ++ back) (expr :: exprs)

inductive DerivesBlock (tied : Bool) : List Token → Block → Prop
  | none : DerivesBlock tied [] []
  | last {tokens : List Token} {expr : Expr} (only : Derives tied tokens expr) :
      DerivesBlock tied tokens [expr]
  | more {front back : List Token} {semicolon : Token} {expr : Expr} {exprs : List Expr}
      (first : Derives tied front expr) (separated : semicolon.lexeme = .semicolon)
      (rest : DerivesBlock tied back exprs) :
      DerivesBlock tied (front ++ semicolon :: back) (expr :: exprs)

end

/-- A list of items that attaches to an identifier before it joins that identifier to its first
item: a list becomes the arguments of a call, and a function becomes a definition. -/
theorem DerivesItems.join {token : Token} {name : String} {back : List Token} {exprs : List Expr}
    (named : token.lexeme = .identifier name) (items : DerivesItems true back exprs)
    (attached : ∃ next ∈ back.head?, attaches next = true) :
    ∃ joined, DerivesItems true (token :: back) joined := by
  obtain ⟨next, starts, follows⟩ := attached
  cases items with
  | none => simp at starts
  | @more front back expr exprs first rest tie =>
    cases first with
    | literal written =>
      simp only [List.cons_append, List.head?_cons, Option.mem_some_iff] at starts
      subst starts
      simp [attaches, written] at follows
    | list opened items closed =>
      exact ⟨_, .more (.call named opened items closed) rest (by simp [Expr.isBare])⟩
    | lambda marked opened block closed =>
      exact ⟨_, .more (.define named marked opened block closed) rest (by simp [Expr.isBare])⟩
    | define head _ _ _ _ | bare head | call head _ _ _ =>
      simp only [List.cons_append, List.head?_cons, Option.mem_some_iff] at starts
      subst starts
      simp [attaches, head] at follows

theorem DerivesItems.cons {front back : List Token} {expr : Expr} {exprs : List Expr}
    (first : Derives true front expr) (rest : DerivesItems true back exprs) :
    ∃ joined, DerivesItems true (front ++ back) joined := by
  by_cases attached : expr.isBare = true ∧ ∃ next ∈ back.head?, attaches next = true
  · obtain ⟨bare, follows⟩ := attached
    cases first with
    | bare named => exact rest.join named follows
    | literal | list | lambda | define | call => simp [Expr.isBare] at bare
  · refine ⟨_, .more first rest ?_⟩
    intro _ bare token member
    cases follows : attaches token with
    | false => rfl
    | true => exact absurd ⟨bare, token, member, follows⟩ attached

mutual

theorem Derives.tie : ∀ {tokens : List Token} {expr : Expr}, Derives false tokens expr →
    ∃ tied, Derives true tokens tied
  | _, _, .literal written => ⟨_, .literal written⟩
  | _, _, .list opened items closed =>
    have ⟨_, inside⟩ := items.tie
    ⟨_, .list opened inside closed⟩
  | _, _, .lambda marked opened block closed =>
    have ⟨_, inside⟩ := block.tie
    ⟨_, .lambda marked opened inside closed⟩
  | _, _, .define named marked opened block closed =>
    have ⟨_, inside⟩ := block.tie
    ⟨_, .define named marked opened inside closed⟩
  | _, _, .bare named => ⟨_, .bare named⟩
  | _, _, .call named opened items closed =>
    have ⟨_, inside⟩ := items.tie
    ⟨_, .call named opened inside closed⟩

theorem DerivesItems.tie : ∀ {tokens : List Token} {exprs : List Expr},
    DerivesItems false tokens exprs → ∃ tied, DerivesItems true tokens tied
  | _, _, .none => ⟨_, .none⟩
  | _, _, .more first rest _ =>
    have ⟨_, front⟩ := first.tie
    have ⟨_, back⟩ := rest.tie
    DerivesItems.cons front back

theorem DerivesBlock.tie : ∀ {tokens : List Token} {body : Block}, DerivesBlock false tokens body →
    ∃ tied, DerivesBlock true tokens tied
  | _, _, .none => ⟨_, .none⟩
  | _, _, .last only =>
    have ⟨_, tied⟩ := only.tie
    ⟨_, .last tied⟩
  | _, _, .more first separated rest =>
    have ⟨_, front⟩ := first.tie
    have ⟨_, back⟩ := rest.tie
    ⟨_, .more front separated back⟩

end

theorem Derives.starts {tied : Bool} {tokens : List Token} {expr : Expr}
    (derived : Derives tied tokens expr) : ∃ token rest, tokens = token :: rest ∧
      token.kind ≠ .closeBracket ∧ token.kind ≠ .endOfScript := by
  cases derived with
  | @literal token value written =>
    refine ⟨token, [], rfl, ?_⟩
    rcases value with (_ | _) | _ | _ | _ <;> simp [Token.kind, written, Lexeme.kind]
  | list head | lambda head | define head | bare head | call head =>
    exact ⟨_, _, rfl, by simp [Token.kind, head, Lexeme.kind], by simp [Token.kind, head, Lexeme.kind]⟩

end Grammar

end CurryScript
