import CurryScript.Proofs.Derivation
import CurryScript.Proofs.ParseDepth

/-!
Parsing against the grammar. What the productions read is derived, with the tree they build and with
the ties as they decide them. What is derived is read, at every depth that does not cut it off. So
a script has one tree, and the productions refuse nothing that has any.
-/
namespace CurryScript

theorem Lexeme.kind_eq_iff {lexeme : Lexeme} (plain : Lexeme) (empty : plain.content? = none) :
    lexeme.kind = plain.kind ↔ lexeme = plain := by
  constructor
  · intro same
    rcases lexeme with _ | _ | _ | _ | _ | ((_ | _) | _ | _ | _) | _ <;>
      cases plain <;> simp_all [Lexeme.kind, Lexeme.content?]
  · intro same
    rw [same]

theorem Lexeme.kind_of_eq {token : Token} {lexeme : Lexeme} (same : token.lexeme = lexeme) :
    token.kind = lexeme.kind := by
  rw [Token.kind, same]

namespace Grammar

theorem attaches_eq_false_iff {token : Token} :
    attaches token = false ↔ token.kind ≠ .colon ∧ token.kind ≠ .openBracket := by
  have colon : token.kind = .colon ↔ token.lexeme = .colon := Lexeme.kind_eq_iff .colon rfl
  have opens : token.kind = .openBracket ↔ token.lexeme = .openBracket :=
    Lexeme.kind_eq_iff .openBracket rfl
  simp [attaches, colon, opens]

/-- After a bare identifier comes a token that does not attach to it. -/
def Follows (expr : Expr) (rest : List Token) : Prop :=
  expr.isBare = true → ∃ token ∈ rest.head?, attaches token = false

theorem follows_cons {expr : Expr} {token : Token} {rest : List Token}
    (apart : attaches token = false) : Follows expr (token :: rest) :=
  fun _ => ⟨token, rfl, apart⟩

def Taken (tokens : List Token) (expr : Expr) (rest : List Token) : Prop :=
  ∃ front, tokens = front ++ rest ∧ Derives true front expr ∧ Follows expr rest

def Sound (item : (tokens : List Token) → Attempt tokens) : Prop :=
  ∀ {tokens : List Token} {reading}, item tokens = .ok (some reading) →
    Taken tokens reading.value reading.rest

private theorem map_ok {α β : Type} {f : α → β} {answer : Except ParseStop α} {result : β}
    (read : answer.map f = .ok result) : ∃ value, answer = .ok value ∧ f value = result := by
  cases answer with
  | error stop => cases read
  | ok value => exact ⟨value, rfl, Except.ok.inj read⟩

theorem definition_none {depth : Nat} {token : Token} {name : String} {rest : List Token}
    (named : token.lexeme = .identifier name)
    (unread : definition depth (token :: rest) = .ok none) :
    ∃ next more, rest = next :: more ∧ next.kind ≠ .colon := by
  cases depth with
  | zero => cases unread
  | succ depth =>
    simp only [definition, named] at unread
    split at unread
    · cases unread
    · rename_i next more
      refine ⟨next, more, rfl, ?_⟩
      intro marked
      rw [if_pos marked] at unread
      obtain ⟨inner, _, equal⟩ := map_ok unread
      cases equal

section

variable {item : (tokens : List Token) → Attempt tokens} (sound : Sound item)

include sound

theorem items_sound {opener : Token} {bound : Nat} {found : Array Expr} {tokens : List Token}
    {inside : tokens.length ≤ bound} {reading : Reading (List Expr) bound}
    (read : items item opener bound found tokens inside = .ok reading) :
    ∃ front closer exprs, tokens = front ++ closer :: reading.rest ∧
      closer.lexeme = .closeBracket ∧ reading.value = found.toList ++ exprs ∧
      DerivesItems true front exprs := by
  fun_induction items item opener bound found tokens inside with
  | case1 found inside => cases read
  | case2 found token rest inside closes =>
    cases read
    exact ⟨[], token, [], rfl, (Lexeme.kind_eq_iff .closeBracket rfl).mp closes,
      by simp, .none⟩
  | case3 => cases read
  | case4 => cases read
  | case5 => cases read
  | case6 found token rest inside closes ends first read' fits ih =>
    obtain ⟨front, taken, derived, follows⟩ := sound read'
    obtain ⟨back, closer, exprs, left, closed, value, items⟩ := ih read
    refine ⟨front ++ back, closer, first.value :: exprs, ?_, closed, ?_, ?_⟩
    · rw [taken, left, List.append_assoc]
    · simp [value]
    · refine .more derived items ?_
      intro _ bare token member
      obtain ⟨next, starts, apart⟩ := follows bare
      rw [left, List.head?_append, Option.mem_def.mp member] at starts
      cases starts
      exact apart

theorem statements_sound {terminator : Lexeme.Kind} {bound : Nat} {found : Array Expr}
    {tokens : List Token} {inside : tokens.length < bound} {reading : Reading Block bound}
    (read : statements item terminator bound found tokens inside = .ok reading) :
    ∃ front last after exprs, tokens = front ++ last :: after ∧ reading.rest = last :: after ∧
      last.kind = terminator ∧ reading.value = found.toList ++ exprs ∧
      DerivesBlock true front exprs := by
  fun_induction statements item terminator bound found tokens inside with
  | case1 => cases read
  | case2 found token rest inside ends =>
    cases read
    exact ⟨[], token, rest, [], rfl, rfl, ends, by simp, .none⟩
  | case3 => cases read
  | case4 => cases read
  | case5 => cases read
  | case6 found token rest inside ends expr check next _ separated _ shorter read' ih =>
    obtain ⟨front, taken, derived, _⟩ := sound read'
    obtain ⟨back, last, after, exprs, left, stops, closes, value, block⟩ := ih read
    refine ⟨front ++ check :: back, last, after, expr :: exprs, ?_, stops, closes, ?_, ?_⟩
    · simp [taken, left]
    · simp [value]
    · exact .more derived ((Lexeme.kind_eq_iff .semicolon rfl).mp separated) block
  | case7 found token rest inside ends expr check next _ separated closes _ shorter read' =>
    cases read
    obtain ⟨front, taken, derived, _⟩ := sound read'
    exact ⟨front, check, next, [expr], taken, rfl, closes, by simp, .last derived⟩
  | case8 => cases read

end

structure SoundAt (depth : Nat) : Prop where
  expression : Sound (expression depth)
  definition : Sound (definition depth)
  call : ∀ {token next : Token} {name : String} {more : List Token} {reading},
    token.lexeme = .identifier name → next.kind ≠ .colon →
      call depth (token :: next :: more) = .ok reading →
        Taken (token :: next :: more) reading.value reading.rest
  list : ∀ {opener : Token} {rest : List Token} {reading},
    list depth (opener :: rest) = .ok reading →
      ∃ inside closer, rest = inside ++ closer :: reading.rest ∧ closer.lexeme = .closeBracket ∧
        DerivesItems true inside reading.value
  block : ∀ {terminator : Lexeme.Kind} {tokens : List Token} {reading},
    block depth terminator tokens = .ok reading →
      ∃ front last after, tokens = front ++ last :: after ∧ reading.rest = last :: after ∧
        last.kind = terminator ∧ DerivesBlock true front reading.value

theorem soundAt_zero : SoundAt 0 :=
  ⟨nofun, nofun, nofun, nofun, nofun⟩

section

variable {depth : Nat} (sound : SoundAt depth)

include sound

theorem list_sound {opener : Token} {rest : List Token} {reading}
    (read : list (depth + 1) (opener :: rest) = .ok reading) :
    ∃ inside closer, rest = inside ++ closer :: reading.rest ∧ closer.lexeme = .closeBracket ∧
      DerivesItems true inside reading.value := by
  obtain ⟨inside, closer, exprs, taken, closed, value, derived⟩ :=
    items_sound sound.expression read
  refine ⟨inside, closer, taken, closed, ?_⟩
  rw [value]
  exact derived

theorem block_sound {terminator : Lexeme.Kind} {tokens : List Token} {reading}
    (read : block (depth + 1) terminator tokens = .ok reading) :
    ∃ front last after, tokens = front ++ last :: after ∧ reading.rest = last :: after ∧
      last.kind = terminator ∧ DerivesBlock true front reading.value := by
  obtain ⟨front, last, after, exprs, taken, stops, closes, value, derived⟩ :=
    statements_sound sound.expression read
  refine ⟨front, last, after, taken, stops, closes, ?_⟩
  rw [value]
  exact derived

theorem body_sound {colon : Token} {tokens : List Token} {reading}
    (read : body (block depth .closeBracket) colon tokens = .ok reading) :
    ∃ opener inside closer, tokens = opener :: (inside ++ closer :: reading.rest) ∧
      opener.lexeme = .openBracket ∧ closer.lexeme = .closeBracket ∧
      DerivesBlock true inside reading.value := by
  unfold body at read
  split at read
  · cases read
  · rename_i opener rest
    split at read
    · rename_i opened
      obtain ⟨inner, within, rfl⟩ := map_ok read
      obtain ⟨inside, closer, after, taken, stops, closes, derived⟩ := sound.block within
      refine ⟨opener, inside, closer, ?_, (Lexeme.kind_eq_iff .openBracket rfl).mp opened,
        (Lexeme.kind_eq_iff .closeBracket rfl).mp closes, derived⟩
      have left : inner.rest.tail = after := by rw [stops, List.tail_cons]
      change opener :: rest = opener :: (inside ++ closer :: inner.rest.tail)
      rw [left, ← taken]
    · cases read

theorem definition_sound : Sound (definition (depth + 1)) := by
  intro tokens reading read
  unfold definition at read
  split at read
  · cases read
  · rename_i token rest
    split at read
    · rename_i name named
      split at read
      · cases read
      · rename_i colon rest
        split at read
        · rename_i marked
          obtain ⟨inner, within, equal⟩ := map_ok read
          cases equal
          obtain ⟨opener, inside, closer, taken, opened, closed, derived⟩ :=
            body_sound sound within
          refine ⟨_, ?_, .define named ((Lexeme.kind_eq_iff .colon rfl).mp marked)
            opened derived closed, by simp [Follows, Expr.isBare]⟩
          simp [taken]
        · cases read
    · rename_i marked
      obtain ⟨inner, within, equal⟩ := map_ok read
      cases equal
      obtain ⟨opener, inside, closer, taken, opened, closed, derived⟩ := body_sound sound within
      refine ⟨_, ?_, .lambda marked opened derived closed, by simp [Follows, Expr.isBare]⟩
      simp [taken]
    · cases read

theorem call_sound {token next : Token} {name : String} {more : List Token} {reading}
    (named : token.lexeme = .identifier name) (apart : next.kind ≠ .colon)
    (read : call (depth + 1) (token :: next :: more) = .ok reading) :
    Taken (token :: next :: more) reading.value reading.rest := by
  have callee : calleeName token = name := by simp [calleeName, named]
  simp only [call, callee] at read
  split at read
  · rename_i opened
    obtain ⟨inner, within, rfl⟩ := map_ok read
    obtain ⟨inside, closer, taken, closed, derived⟩ := sound.list within
    refine ⟨_, ?_, .call named ((Lexeme.kind_eq_iff .openBracket rfl).mp opened)
      derived closed, by simp [Follows, Expr.isBare]⟩
    simp [taken]
  · rename_i closed
    cases read
    exact ⟨[token], rfl, .bare named, follows_cons (attaches_eq_false_iff.mpr ⟨apart, closed⟩)⟩

theorem expression_sound : Sound (expression (depth + 1)) := by
  intro tokens reading read
  unfold expression at read
  split at read
  · cases read
  · rename_i token rest
    split at read
    · rename_i value written
      cases read
      exact ⟨[token], rfl, .literal written, by simp [Follows, Expr.isBare]⟩
    · rename_i opened
      obtain ⟨inner, within, equal⟩ := map_ok read
      cases equal
      obtain ⟨inside, closer, taken, closed, derived⟩ := sound.list within
      refine ⟨_, ?_, .list opened derived closed, by simp [Reading.map, Follows, Expr.isBare]⟩
      simp [taken, Reading.map]
    · split at read
      · cases read
      · exact sound.definition read
    · rename_i name named
      split at read
      · rename_i unread
        obtain ⟨next, more, rfl, apart⟩ := definition_none named unread
        obtain ⟨inner, within, equal⟩ := map_ok read
        cases equal
        exact sound.call named apart within
      · exact sound.definition read
    · cases read

end

theorem soundAt (depth : Nat) : SoundAt depth := by
  induction depth with
  | zero => exact soundAt_zero
  | succ depth ih =>
    exact ⟨expression_sound ih, definition_sound ih, call_sound ih, list_sound ih, block_sound ih⟩

section

variable {item : (tokens : List Token) → Attempt tokens} {bound : Nat} {found : Array Expr}

theorem items_close {opener closer : Token} {rest : List Token}
    (inside : (closer :: rest).length ≤ bound) (closed : closer.lexeme = .closeBracket) :
    ∃ shorter, items item opener bound found (closer :: rest) inside =
      .ok ⟨found.toList, rest, shorter⟩ := by
  have kind : closer.kind = .closeBracket := Lexeme.kind_of_eq closed
  rw [items, if_pos kind]
  exact ⟨_, rfl⟩

theorem items_next {opener : Token} {front back : List Token} {expr : Expr}
    (inside : (front ++ back).length ≤ bound) (derived : Derives true front expr)
    (read : ∃ shorter, item (front ++ back) = .ok (some ⟨expr, back, shorter⟩)) :
    ∃ fits, items item opener bound found (front ++ back) inside =
      items item opener bound (found.push expr) back fits := by
  obtain ⟨token, more, rfl, notClose, notEnd⟩ := derived.starts
  obtain ⟨shorter, read⟩ := read
  change item (token :: (more ++ back)) = .ok (some ⟨expr, back, shorter⟩) at read
  refine ⟨by simp at inside ⊢; omega, ?_⟩
  simp only [List.cons_append]
  rw [items, if_neg notClose, if_neg notEnd]
  simp only [read]

variable {terminator : Lexeme.Kind}

theorem statements_end {last : Token} {rest : List Token}
    (inside : (last :: rest).length < bound) (ends : last.kind = terminator) :
    ∃ shorter, statements item terminator bound found (last :: rest) inside =
      .ok ⟨found.toList, last :: rest, shorter⟩ := by
  rw [statements, if_pos ends]
  exact ⟨_, rfl⟩

variable {front back : List Token} {expr : Expr} (derived : Derives true front expr)
  (closing : terminator = .closeBracket ∨ terminator = .endOfScript)

include derived closing

theorem statements_last {last : Token}
    (inside : (front ++ last :: back).length < bound) (ends : last.kind = terminator)
    (read : ∃ shorter, item (front ++ last :: back) = .ok (some ⟨expr, last :: back, shorter⟩)) :
    ∃ shorter, statements item terminator bound found (front ++ last :: back) inside =
      .ok ⟨found.toList ++ [expr], last :: back, shorter⟩ := by
  obtain ⟨token, more, rfl, notClose, notEnd⟩ := derived.starts
  obtain ⟨shorter, read⟩ := read
  change item (token :: (more ++ last :: back)) = .ok (some ⟨expr, last :: back, shorter⟩) at read
  have starts : token.kind ≠ terminator := by rcases closing with rfl | rfl <;> assumption
  have unseparated : last.kind ≠ .semicolon := by rcases closing with rfl | rfl <;> simp [ends]
  refine ⟨by simp at inside ⊢; omega, ?_⟩
  simp only [List.cons_append]
  rw [statements, if_neg starts]
  simp only [read, if_neg unseparated, if_pos ends, Array.toList_push]

theorem statements_next {semicolon : Token}
    (inside : (front ++ semicolon :: back).length < bound)
    (separated : semicolon.lexeme = .semicolon)
    (read : ∃ shorter,
      item (front ++ semicolon :: back) = .ok (some ⟨expr, semicolon :: back, shorter⟩)) :
    ∃ fits, statements item terminator bound found (front ++ semicolon :: back) inside =
      statements item terminator bound (found.push expr) back fits := by
  obtain ⟨token, more, rfl, notClose, notEnd⟩ := derived.starts
  obtain ⟨shorter, read⟩ := read
  change item (token :: (more ++ semicolon :: back)) =
    .ok (some ⟨expr, semicolon :: back, shorter⟩) at read
  have starts : token.kind ≠ terminator := by rcases closing with rfl | rfl <;> assumption
  have kind : semicolon.kind = .semicolon := Lexeme.kind_of_eq separated
  refine ⟨by simp at inside ⊢; omega, ?_⟩
  simp only [List.cons_append]
  rw [statements, if_neg starts]
  simp only [read, if_pos kind]

end

theorem follows_of_tie {expr : Expr} {back rest : List Token} {closer : Token}
    (tie : true = true → expr.isBare = true → ∀ token ∈ back.head?, attaches token = false)
    (closed : closer.lexeme = .closeBracket) : Follows expr (back ++ closer :: rest) := by
  intro bare
  cases back with
  | nil => exact follows_cons (by simp [attaches, closed]) bare
  | cons next more => exact follows_cons (tie rfl bare next rfl) bare

theorem list_read {depth : Nat} {opener closer : Token} {inside rest : List Token}
    {exprs : List Expr}
    (read : ∀ {bound : Nat} {found : Array Expr} (fits : (inside ++ closer :: rest).length ≤ bound),
      ∃ shorter, items (expression depth) opener bound found (inside ++ closer :: rest) fits =
        .ok ⟨found.toList ++ exprs, rest, shorter⟩) :
    ∃ shorter, list (depth + 1) (opener :: (inside ++ closer :: rest)) =
      .ok ⟨exprs, rest, shorter⟩ := by
  obtain ⟨shorter, done⟩ := @read _ #[] (Nat.le_succ _)
  exact ⟨shorter, done⟩

theorem body_read {depth : Nat} {colon opener closer : Token} {inside rest : List Token}
    {exprs : Block} (opened : opener.lexeme = .openBracket)
    (read : ∃ shorter, block depth .closeBracket (inside ++ closer :: rest) =
      .ok ⟨exprs, closer :: rest, shorter⟩) :
    ∃ shorter, body (block depth .closeBracket) colon (opener :: (inside ++ closer :: rest)) =
      .ok ⟨exprs, rest, shorter⟩ := by
  obtain ⟨shorter, done⟩ := read
  have kind : opener.kind = .openBracket := Lexeme.kind_of_eq opened
  refine ⟨by simp at shorter ⊢; omega, ?_⟩
  simp only [body, if_pos kind, done]
  rfl

theorem expression_list {depth : Nat} {opener : Token} {more rest : List Token}
    {exprs : List Expr} (opened : opener.lexeme = .openBracket)
    (read : ∃ shorter, list depth (opener :: more) = .ok ⟨exprs, rest, shorter⟩) :
    ∃ shorter, expression (depth + 1) (opener :: more) =
      .ok (some ⟨.list exprs, rest, shorter⟩) := by
  obtain ⟨shorter, done⟩ := read
  refine ⟨shorter, ?_⟩
  simp only [expression, opened, done]
  rfl

theorem expression_bare {depth : Nat} {token next : Token} {name : String} {rest : List Token}
    (named : token.lexeme = .identifier name) (apart : attaches next = false) :
    ∃ shorter, expression (depth + 2) (token :: next :: rest) =
      .ok (some ⟨.bare name, next :: rest, shorter⟩) := by
  obtain ⟨notColon, notOpen⟩ := attaches_eq_false_iff.mp apart
  refine ⟨by simp, ?_⟩
  simp only [expression, definition, call, calleeName, named]
  rw [if_neg notColon]
  dsimp only
  rw [if_neg notOpen]
  rfl

theorem expression_call {depth : Nat} {token opener : Token} {name : String}
    {more rest : List Token} {args : List Expr} (named : token.lexeme = .identifier name)
    (opened : opener.lexeme = .openBracket)
    (read : ∃ shorter, list depth (opener :: more) = .ok ⟨args, rest, shorter⟩) :
    ∃ shorter, expression (depth + 2) (token :: opener :: more) =
      .ok (some ⟨.call name args, rest, shorter⟩) := by
  obtain ⟨shorter, done⟩ := read
  have kind : opener.kind = .openBracket := Lexeme.kind_of_eq opened
  have notColon : opener.kind ≠ .colon := by simp [kind]
  refine ⟨by simp at shorter ⊢; omega, ?_⟩
  simp only [expression, definition, call, calleeName, named]
  rw [if_neg notColon]
  dsimp only
  rw [if_pos kind, done]
  rfl

theorem expression_lambda {depth : Nat} {colon : Token} {more rest : List Token} {exprs : Block}
    (marked : colon.lexeme = .colon)
    (read : ∃ shorter, body (block depth .closeBracket) colon more = .ok ⟨exprs, rest, shorter⟩) :
    ∃ shorter, expression (depth + 2) (colon :: more) =
      .ok (some ⟨.lambda exprs, rest, shorter⟩) := by
  obtain ⟨shorter, done⟩ := read
  refine ⟨by simp; omega, ?_⟩
  simp only [expression, definition, marked, done]
  rfl

theorem expression_define {depth : Nat} {token colon : Token} {name : String}
    {more rest : List Token} {exprs : Block} (named : token.lexeme = .identifier name)
    (marked : colon.lexeme = .colon)
    (read : ∃ shorter, body (block depth .closeBracket) colon more = .ok ⟨exprs, rest, shorter⟩) :
    ∃ shorter, expression (depth + 2) (token :: colon :: more) =
      .ok (some ⟨.define name exprs, rest, shorter⟩) := by
  obtain ⟨shorter, done⟩ := read
  have kind : colon.kind = .colon := Lexeme.kind_of_eq marked
  refine ⟨by simp; omega, ?_⟩
  simp only [expression, definition, named]
  rw [if_pos kind, done]
  rfl

-- A derivation says at each token which production reads it, so the induction is on the derivation.
-- Every token pays for two levels of depth, which covers the three levels of the deepest form.
mutual

theorem Derives.read : ∀ {front : List Token} {expr : Expr}, Derives true front expr →
    ∀ {depth : Nat} {tokens rest : List Token}, tokens = front ++ rest →
      2 * front.length ≤ depth → Follows expr rest →
      ∃ shorter, expression depth tokens = .ok (some ⟨expr, rest, shorter⟩)
  | _, _, .literal written, depth, tokens, rest, whole, enough, _ => by
    obtain ⟨depth, rfl⟩ : ∃ less, depth = less + 1 := ⟨depth - 1, by simp at enough; omega⟩
    subst whole
    refine ⟨by simp, ?_⟩
    simp only [List.cons_append, List.nil_append, expression, written]
  | _, _, .list opened items closed, depth, tokens, rest, whole, enough, _ => by
    simp only [List.cons_append, List.append_assoc, List.nil_append] at whole
    simp only [List.length_cons, List.length_append, List.length_nil] at enough
    obtain ⟨depth, rfl⟩ : ∃ less, depth = less + 2 := ⟨depth - 2, by omega⟩
    subst whole
    exact expression_list opened (list_read fun fits => items.read fits rfl (by omega) closed)
  | _, _, .lambda marked opened block closed, depth, tokens, rest, whole, enough, _ => by
    simp only [List.cons_append, List.append_assoc, List.nil_append] at whole
    simp only [List.length_cons, List.length_append, List.length_nil] at enough
    obtain ⟨depth, rfl⟩ : ∃ less, depth = less + 3 := ⟨depth - 3, by omega⟩
    subst whole
    exact expression_lambda marked (body_read opened
      (block.read (Nat.lt_succ_self _) rfl (by omega) (Lexeme.kind_of_eq closed) (.inl rfl)))
  | _, _, .define named marked opened block closed, depth, tokens, rest, whole, enough, _ => by
    simp only [List.cons_append, List.append_assoc, List.nil_append] at whole
    simp only [List.length_cons, List.length_append, List.length_nil] at enough
    obtain ⟨depth, rfl⟩ : ∃ less, depth = less + 3 := ⟨depth - 3, by omega⟩
    subst whole
    exact expression_define named marked (body_read opened
      (block.read (Nat.lt_succ_self _) rfl (by omega) (Lexeme.kind_of_eq closed) (.inl rfl)))
  | _, _, .bare named, depth, tokens, rest, whole, enough, follows => by
    obtain ⟨depth, rfl⟩ : ∃ less, depth = less + 2 := ⟨depth - 2, by simp at enough; omega⟩
    obtain ⟨next, starts, apart⟩ := follows rfl
    obtain ⟨more, rfl⟩ := List.head?_eq_some_iff.mp starts
    subst whole
    exact expression_bare named apart
  | _, _, .call named opened items closed, depth, tokens, rest, whole, enough, _ => by
    simp only [List.cons_append, List.append_assoc, List.nil_append] at whole
    simp only [List.length_cons, List.length_append, List.length_nil] at enough
    obtain ⟨depth, rfl⟩ : ∃ less, depth = less + 3 := ⟨depth - 3, by omega⟩
    subst whole
    exact expression_call named opened
      (list_read fun fits => items.read fits rfl (by omega) closed)

theorem DerivesItems.read : ∀ {front : List Token} {exprs : List Expr},
    DerivesItems true front exprs →
    ∀ {depth bound : Nat} {opener closer : Token} {tokens rest : List Token} {found : Array Expr}
      (fits : tokens.length ≤ bound), tokens = front ++ closer :: rest →
      2 * front.length ≤ depth → closer.lexeme = .closeBracket →
      ∃ shorter, items (expression depth) opener bound found tokens fits =
        .ok ⟨found.toList ++ exprs, rest, shorter⟩
  | _, _, .none, depth, bound, opener, closer, tokens, rest, found, fits, whole, _, closed => by
    subst whole
    rw [List.append_nil]
    exact items_close fits closed
  | _, _, @DerivesItems.more _ front back _ _ first others tie, depth, bound, opener, closer,
      tokens, rest, found, fits, whole, enough, closed => by
    rw [List.append_assoc] at whole
    rw [List.length_append] at enough
    have enoughFront : 2 * front.length ≤ depth := by omega
    have enoughBack : 2 * back.length ≤ depth := by omega
    subst whole
    obtain ⟨left, next⟩ := items_next fits first
      (first.read rfl enoughFront (follows_of_tie tie closed))
    obtain ⟨shorter, done⟩ := others.read left rfl enoughBack closed
    refine ⟨shorter, ?_⟩
    rw [next, done]
    simp

theorem DerivesBlock.read : ∀ {front : List Token} {exprs : Block},
    DerivesBlock true front exprs →
    ∀ {depth bound : Nat} {terminator : Lexeme.Kind} {last : Token} {tokens rest : List Token}
      {found : Array Expr} (fits : tokens.length < bound), tokens = front ++ last :: rest →
      2 * front.length ≤ depth → last.kind = terminator →
      terminator = .closeBracket ∨ terminator = .endOfScript →
      ∃ shorter, statements (expression depth) terminator bound found tokens fits =
        .ok ⟨found.toList ++ exprs, last :: rest, shorter⟩
  | _, _, .none, depth, bound, terminator, last, tokens, rest, found, fits, whole, _, ends, _ => by
    subst whole
    rw [List.append_nil]
    exact statements_end fits ends
  | _, _, .last only, depth, bound, terminator, last, tokens, rest, found, fits, whole, enough,
      ends, closing => by
    subst whole
    have apart : attaches last = false := by
      rcases closing with rfl | rfl <;> simp [attaches_eq_false_iff, ends]
    exact statements_last only closing fits ends
      (only.read rfl enough (follows_cons apart))
  | _, _, @DerivesBlock.more _ front back _ _ _ first separated others, depth, bound, terminator,
      last, tokens, rest, found, fits, whole, enough, ends, closing => by
    rw [List.append_assoc, List.cons_append] at whole
    simp only [List.length_append, List.length_cons] at enough
    have enoughFront : 2 * front.length ≤ depth := by omega
    have enoughBack : 2 * back.length ≤ depth := by omega
    subst whole
    obtain ⟨left, next⟩ := statements_next first closing fits separated
      (first.read rfl enoughFront (follows_cons (by simp [attaches, separated])))
    obtain ⟨shorter, done⟩ := others.read left rfl enoughBack ends closing
    refine ⟨shorter, ?_⟩
    rw [next, done]
    simp

end

theorem program_sound {depth : Nat} {tokens : List Token} {reading}
    (read : program depth tokens = .ok reading) :
    ∃ front ending, tokens = front ++ ending :: reading.rest ∧ ending.lexeme = .endOfScript ∧
      DerivesBlock true front reading.value := by
  unfold program at read
  split at read
  · cases read
  · rename_i body rest shorter within
    obtain ⟨front, last, after, taken, stops, ends, derived⟩ := (soundAt depth).block within
    dsimp only at stops derived
    subst stops
    simp only [if_pos ends] at read
    cases read
    exact ⟨front, last, taken, (Lexeme.kind_eq_iff .endOfScript rfl).mp ends, derived⟩

theorem program_read {depth : Nat} {front rest : List Token} {ending : Token} {body : Block}
    (derived : DerivesBlock true front body) (ends : ending.lexeme = .endOfScript)
    (enough : 2 * (front.length + 1) ≤ depth) :
    ∃ shorter, program depth (front ++ ending :: rest) = .ok ⟨body, rest, shorter⟩ := by
  obtain ⟨depth, rfl⟩ : ∃ less, depth = less + 1 := ⟨depth - 1, by omega⟩
  have kind : ending.kind = .endOfScript := Lexeme.kind_of_eq ends
  have deep : 2 * front.length ≤ depth := by omega
  obtain ⟨shorter, done⟩ := @DerivesBlock.read _ _ derived _ _ _ _ _ _ #[]
    (Nat.lt_succ_self (front ++ ending :: rest).length) rfl deep kind (.inr rfl)
  change block (depth + 1) .endOfScript (front ++ ending :: rest) = _ at done
  refine ⟨by simp; omega, ?_⟩
  simp only [program, done, if_pos kind, List.nil_append]

/-- From `start` on, the tokens begin with a program of `count` tokens: those of a block, and the end
of the script. -/
def StartsProgram (tokens : List Token) (start : Nat) (body : Block) (count : Nat) : Prop :=
  ∃ length, count = length + 1 ∧
    tokens[start + length]?.map Token.lexeme = some .endOfScript ∧
    DerivesBlock true ((tokens.drop start).take length) body

theorem startsProgram_iff {tokens : List Token} {start count : Nat} {body : Block} :
    StartsProgram tokens start body count ↔
      ∃ front ending rest, tokens.drop start = front ++ ending :: rest ∧
        ending.lexeme = .endOfScript ∧ DerivesBlock true front body ∧ count = front.length + 1 := by
  constructor
  · rintro ⟨length, counted, ends, derived⟩
    obtain ⟨ending, found, ends⟩ := Option.map_eq_some_iff.mp ends
    rw [← List.getElem?_drop] at found
    obtain ⟨inside, here⟩ := List.getElem?_eq_some_iff.mp found
    refine ⟨(tokens.drop start).take length, ending, (tokens.drop start).drop (length + 1), ?_, ends,
      derived, ?_⟩
    · rw [← here, List.getElem_cons_drop, List.take_append_drop]
    · rw [counted, List.length_take_of_le (Nat.le_of_lt inside)]
  · rintro ⟨front, ending, rest, whole, ends, derived, counted⟩
    refine ⟨front.length, counted, ?_, ?_⟩
    · rw [← List.getElem?_drop, whole, List.getElem?_append_right (Nat.le_refl _)]
      simp [ends]
    · rw [whole, List.take_left]
      exact derived

end Grammar

open Grammar

theorem parse_sound {depth : Nat} {tokens : List Token} {start count : Nat} {body : Block}
    (read : parse depth tokens start = .ok (body, count)) :
    StartsProgram tokens start body count := by
  unfold parse at read
  cases within : program depth (tokens.drop start) with
  | error stop => simp only [within] at read; cases read
  | ok reading =>
    simp only [within] at read
    cases read
    obtain ⟨front, ending, whole, ends, derived⟩ := program_sound within
    refine startsProgram_iff.mpr ⟨front, ending, reading.rest, whole, ends, derived, ?_⟩
    have size := congrArg List.length whole
    simp only [List.length_append, List.length_cons] at size
    omega

theorem parse_of_startsProgram {depth : Nat} {tokens : List Token} {start count : Nat}
    {body : Block} (starts : StartsProgram tokens start body count) (enough : 2 * count ≤ depth) :
    parse depth tokens start = .ok (body, count) := by
  obtain ⟨front, ending, rest, whole, ends, derived, rfl⟩ := startsProgram_iff.mp starts
  obtain ⟨shorter, done⟩ := @program_read _ front rest ending body derived ends enough
  unfold parse
  generalize tokens.drop start = remaining at whole ⊢
  subst whole
  simp only [done, Except.map, List.length_append, List.length_cons]
  congr 2
  omega

theorem startsProgram_append {front : List Token} {ending : Token} {body : Block}
    (derived : DerivesBlock true front body) (ends : ending.lexeme = .endOfScript) :
    StartsProgram (front ++ [ending]) 0 body (front.length + 1) :=
  startsProgram_iff.mpr ⟨front, ending, [], rfl, ends, derived, rfl⟩

theorem Grammar.DerivesBlock.unique {front : List Token} {one other : Block}
    (first : DerivesBlock true front one) (second : DerivesBlock true front other) :
    one = other := by
  let ending : Token := ⟨.endOfScript, 0, ""⟩
  have read := parse_of_startsProgram (startsProgram_append first (rfl : ending.lexeme = _))
    (Nat.le_refl _)
  have again := parse_of_startsProgram (startsProgram_append second (rfl : ending.lexeme = _))
    (Nat.le_refl _)
  have same := read.symm.trans again
  exact congrArg Prod.fst (Except.ok.inj same)

/-- Parsing accepts exactly the grammar and builds exactly its trees. Whatever the depth, a parse
that is not cut off succeeds just when a program starts there, with its tree and its number of
tokens, and twice that number is depth enough. A tied derivation has one tree, and what can be
derived without ties is accepted as well. -/
theorem parse_iff_derives (tokens : List Token) (start : Nat) :
    (∀ depth, parse depth tokens start ≠ .error .tooDeep → ∀ body count,
      (parse depth tokens start = .ok (body, count) ↔ StartsProgram tokens start body count)) ∧
    (∀ body count, StartsProgram tokens start body count → ∀ depth, 2 * count ≤ depth →
      parse depth tokens start = .ok (body, count)) ∧
    (∀ front one other, DerivesBlock true front one → DerivesBlock true front other →
      one = other) ∧
    ∀ front body ending, DerivesBlock false front body → ending.lexeme = .endOfScript →
      ∀ depth, 2 * (front.length + 1) ≤ depth →
        ∃ tied, parse depth (front ++ [ending]) = .ok (tied, front.length + 1) := by
  refine ⟨?_, ?_, ?_, ?_⟩
  · intro depth uncut body count
    refine ⟨parse_sound, fun starts => ?_⟩
    have deep := parse_of_startsProgram starts (Nat.le_max_right depth (2 * count))
    rcases parse_settles (Nat.le_max_left depth (2 * count)) tokens start with cut | same
    · contradiction
    · rw [← same, deep]
  · intro body count starts depth enough
    exact parse_of_startsProgram starts enough
  · intro front one other first second
    exact first.unique second
  · intro front body ending derived ends depth enough
    obtain ⟨tied, derived⟩ := derived.tie
    exact ⟨tied, parse_of_startsProgram (startsProgram_append derived ends) enough⟩

end CurryScript
