import CurryScript.Expr.Grammar

/-!
The depth to which productions may nest matters only when it is exceeded: a production that is not
cut off reads the same at every greater depth.
-/
namespace CurryScript

namespace Grammar

/-- An answer is cut off, or is the answer at a greater depth too. -/
def Settles {α : Type} (shallow deep : Except ParseStop α) : Prop :=
  shallow = .error .tooDeep ∨ deep = shallow

namespace Settles

variable {α β : Type} {shallow deep : Except ParseStop α}

theorem refl (answer : Except ParseStop α) : Settles answer answer := .inr rfl

theorem trans {deepest : Except ParseStop α} (one : Settles shallow deep)
    (two : Settles deep deepest) : Settles shallow deepest := by
  rcases one with cut | rfl
  · exact .inl cut
  · exact two

theorem map (settled : Settles shallow deep) (f : α → β) :
    Settles (shallow.map f) (deep.map f) := by
  rcases settled with rfl | rfl
  · exact .inl rfl
  · exact .refl _

theorem eq_ok (settled : Settles shallow deep) {value : α} (read : shallow = .ok value) :
    deep = .ok value := by
  rcases settled with rfl | rfl
  · contradiction
  · exact read

end Settles

section

variable {item deeper : (tokens : List Token) → Attempt tokens}
  (each : ∀ tokens, Settles (item tokens) (deeper tokens))

include each

theorem items_settles (opener : Token) (bound : Nat) (found : Array Expr) (tokens : List Token)
    (inside : tokens.length ≤ bound) :
    Settles (items item opener bound found tokens inside)
      (items deeper opener bound found tokens inside) := by
  fun_induction items item opener bound found tokens inside with
  | case1 found inside => rw [items]; exact .refl _
  | case2 found token rest inside closes => rw [items, if_pos closes]; exact .refl _
  | case3 found token rest inside closes ends =>
    rw [items, if_neg closes, if_pos ends]
    exact .refl _
  | case4 found token rest inside closes ends stop stopped =>
    rw [items, if_neg closes, if_neg ends]
    rcases each (token :: rest) with cut | same
    · rw [stopped] at cut
      cases cut
      exact .inl rfl
    · rw [same, stopped]
      exact .refl _
  | case5 found token rest inside closes ends read =>
    rw [items, if_neg closes, if_neg ends, (each (token :: rest)).eq_ok read]
    exact .refl _
  | case6 found token rest inside closes ends reading read fits ih =>
    rw [items, if_neg closes, if_neg ends]
    simp only [(each (token :: rest)).eq_ok read]
    exact ih

theorem statements_settles (terminator : Lexeme.Kind) (bound : Nat) (found : Array Expr)
    (tokens : List Token) (inside : tokens.length < bound) :
    Settles (statements item terminator bound found tokens inside)
      (statements deeper terminator bound found tokens inside) := by
  fun_induction statements item terminator bound found tokens inside with
  | case1 found inside => rw [statements]; exact .refl _
  | case2 found token rest inside ends => rw [statements, if_pos ends]; exact .refl _
  | case3 found token rest inside ends stop stopped =>
    rw [statements, if_neg ends]
    rcases each (token :: rest) with cut | same
    · rw [stopped] at cut
      cases cut
      exact .inl rfl
    · rw [same, stopped]
      exact .refl _
  | case4 found token rest inside ends read =>
    rw [statements, if_neg ends, (each (token :: rest)).eq_ok read]
    exact .refl _
  | case5 found token rest inside ends expr _ _ shorter read =>
    rw [statements, if_neg ends]
    simp only [(each (token :: rest)).eq_ok read]
    exact .refl _
  | case6 found token rest inside ends expr check next _ separated _ shorter read ih =>
    rw [statements, if_neg ends]
    simp only [(each (token :: rest)).eq_ok read, if_pos separated]
    exact ih
  | case7 found token rest inside ends expr check next _ separated closes _ shorter read =>
    rw [statements, if_neg ends]
    simp only [(each (token :: rest)).eq_ok read, if_neg separated, if_pos closes]
    exact .refl _
  | case8 found token rest inside ends expr check next _ separated closes _ shorter read =>
    rw [statements, if_neg ends]
    simp only [(each (token :: rest)).eq_ok read, if_neg separated, if_neg closes]
    exact .refl _

end

theorem body_settles
    {block deeper : (tokens : List Token) → Except ParseStop (Reading Block (tokens.length + 1))}
    (each : ∀ tokens, Settles (block tokens) (deeper tokens)) (colon : Token)
    (tokens : List Token) : Settles (body block colon tokens) (body deeper colon tokens) := by
  unfold body
  cases tokens with
  | nil => exact .refl _
  | cons opener rest =>
    dsimp only
    split
    · exact (each rest).map _
    · exact .refl _

structure SettlesAt (depth : Nat) : Prop where
  expression : ∀ tokens, Settles (expression depth tokens) (expression (depth + 1) tokens)
  list : ∀ tokens, Settles (list depth tokens) (list (depth + 1) tokens)
  call : ∀ tokens, Settles (call depth tokens) (call (depth + 1) tokens)
  definition : ∀ tokens, Settles (definition depth tokens) (definition (depth + 1) tokens)
  block : ∀ terminator tokens,
    Settles (block depth terminator tokens) (block (depth + 1) terminator tokens)

theorem list_settles {depth : Nat} (settled : SettlesAt depth) (tokens : List Token) :
    Settles (list (depth + 1) tokens) (list (depth + 2) tokens) := by
  cases tokens with
  | nil => exact .refl _
  | cons opener rest => exact items_settles settled.expression opener _ _ rest _

theorem call_settles {depth : Nat} (settled : SettlesAt depth) (tokens : List Token) :
    Settles (call (depth + 1) tokens) (call (depth + 2) tokens) := by
  rcases tokens with _ | ⟨callee, _ | ⟨next, rest⟩⟩
  · exact .refl _
  · exact .refl _
  · unfold call
    dsimp only
    split
    · exact (settled.list (next :: rest)).map _
    · exact .refl _

theorem definition_settles {depth : Nat} (settled : SettlesAt depth) (tokens : List Token) :
    Settles (definition (depth + 1) tokens) (definition (depth + 2) tokens) := by
  cases tokens with
  | nil => exact .refl _
  | cons token rest =>
    unfold definition
    dsimp only
    split
    · cases rest with
      | nil => exact .refl _
      | cons colon rest =>
        dsimp only
        split
        · exact (body_settles (settled.block .closeBracket) colon rest).map _
        · exact .refl _
    · exact (body_settles (settled.block .closeBracket) token rest).map _
    · exact .refl _

theorem expression_settles {depth : Nat} (settled : SettlesAt depth) (tokens : List Token) :
    Settles (expression (depth + 1) tokens) (expression (depth + 2) tokens) := by
  cases tokens with
  | nil => exact .refl _
  | cons token rest =>
    unfold expression
    dsimp only
    split
    · exact .refl _
    · exact (settled.list (token :: rest)).map _
    · rcases settled.definition (token :: rest) with cut | same
      · rw [cut]
        exact .inl rfl
      · rw [same]
        exact .refl _
    · rcases settled.definition (token :: rest) with cut | same
      · rw [cut]
        exact .inl rfl
      · rw [same]
        split
        · exact (settled.call (token :: rest)).map _
        · exact .refl _
    · exact .refl _

theorem settlesAt (depth : Nat) : SettlesAt depth := by
  induction depth with
  | zero =>
    exact ⟨fun _ => .inl rfl, fun _ => .inl rfl, fun _ => .inl rfl, fun _ => .inl rfl,
      fun _ _ => .inl rfl⟩
  | succ depth ih =>
    exact ⟨expression_settles ih, list_settles ih, call_settles ih, definition_settles ih,
      fun terminator tokens => statements_settles ih.expression terminator _ _ tokens _⟩

theorem block_settles {depth deeper : Nat} (larger : depth ≤ deeper) (terminator : Lexeme.Kind)
    (tokens : List Token) :
    Settles (block depth terminator tokens) (block deeper terminator tokens) := by
  induction larger with
  | refl => exact .refl _
  | step _ ih => exact ih.trans ((settlesAt _).block terminator tokens)

theorem program_settles {depth deeper : Nat} (larger : depth ≤ deeper) (tokens : List Token) :
    Settles (program depth tokens) (program deeper tokens) := by
  unfold program
  rcases block_settles larger .endOfScript tokens with cut | same
  · rw [cut]
    exact .inl rfl
  · rw [same]
    exact .refl _

end Grammar

theorem parse_settles {depth deeper : Nat} (larger : depth ≤ deeper) (tokens : List Token)
    (start : Nat) : Grammar.Settles (parse depth tokens start) (parse deeper tokens start) :=
  (Grammar.program_settles larger (tokens.drop start)).map _

end CurryScript
