import CurryScript.Proofs.Lines
import CurryScript.Proofs.Output
import CurryScript.Proofs.Parsing

/-!
The places of syntax errors. No production takes the token that ends the script, so none runs out of
tokens, and all that is complained about is a token of the script.
-/
namespace CurryScript

namespace Grammar

def Ended (tokens : List Token) : Prop := ∃ last ∈ tokens.getLast?, last.lexeme = .endOfScript

theorem not_ended_nil : ¬ Ended [] := by simp [Ended]

theorem Ended.rest {front rest : List Token} (ended : Ended (front ++ rest))
    (goesOn : ∃ last ∈ front.getLast?, last.lexeme ≠ .endOfScript) : Ended rest := by
  obtain ⟨last, final, ends⟩ := ended
  obtain ⟨before, inside, apart⟩ := goesOn
  rw [Option.mem_def, List.getLast?_append] at final
  cases left : rest.getLast? with
  | none =>
    rw [left, Option.mem_def.mp inside] at final
    cases final
    exact absurd ends apart
  | some other =>
    rw [left] at final
    cases final
    exact ⟨last, left, ends⟩

theorem Ended.tail {token : Token} {rest : List Token} (ended : Ended (token :: rest))
    (apart : token.lexeme ≠ .endOfScript) : Ended rest := by
  have appended : Ended ([token] ++ rest) := ended
  exact appended.rest ⟨token, rfl, apart⟩

theorem Ended.drop {tokens : List Token} {start : Nat} (ended : Ended tokens)
    (inside : start < tokens.length) : Ended (tokens.drop start) := by
  rw [Ended, List.getLast?_drop, if_neg (by omega)]
  exact ended

theorem Derives.goesOn {tied : Bool} {tokens : List Token} {expr : Expr}
    (derived : Derives tied tokens expr) :
    ∃ last ∈ tokens.getLast?, last.lexeme ≠ .endOfScript := by
  cases derived with
  | literal written => exact ⟨_, rfl, by simp [written]⟩
  | bare named => exact ⟨_, rfl, by simp [named]⟩
  | list _ _ closed | lambda _ _ _ closed | define _ _ _ _ closed | call _ _ _ closed =>
    simp [List.getLast?_cons, closed]

theorem Taken.ended {tokens rest : List Token} {expr : Expr} (taken : Taken tokens expr rest)
    (ended : Ended tokens) : Ended rest := by
  obtain ⟨front, rfl, derived, _⟩ := taken
  exact ended.rest derived.goesOn

theorem Taken.subset {tokens rest : List Token} {expr : Expr} (taken : Taken tokens expr rest) :
    rest ⊆ tokens := by
  obtain ⟨front, rfl, _⟩ := taken
  exact List.subset_append_right front rest

/-- An error that is about one of the tokens, and neither about the lack of more nor about one that
is left over. -/
structure PointsInto (tokens : List Token) (error : SyntaxError) : Prop where
  place : ∃ token ∈ tokens, error.place = some token.place
  complete : error.complaint ≠ .unterminatedStatement
  exhausted : error.complaint ≠ .unexpectedToken

def Placed {α : Type} (tokens : List Token) (answer : Except ParseStop α) : Prop :=
  ∀ error, answer = .error (.syntaxError error) → PointsInto tokens error

section

variable {α β : Type} {tokens : List Token} {answer : Except ParseStop α}

theorem placed_ok (value : α) : Placed tokens (.ok value : Except ParseStop α) := nofun

theorem placed_complain {complaint : Complaint} {token : Token} (member : token ∈ tokens)
    (complete : complaint ≠ .unterminatedStatement) (exhausted : complaint ≠ .unexpectedToken) :
    Placed tokens (complain complaint token : Except ParseStop α) := by
  intro error complained
  cases complained
  exact ⟨⟨token, member, rfl⟩, complete, exhausted⟩

theorem Placed.map (placed : Placed tokens answer) (f : α → β) : Placed tokens (answer.map f) := by
  intro error stopped
  cases answer with
  | ok value => cases stopped
  | error stop =>
    cases stopped
    exact placed error rfl

theorem Placed.mono {more : List Token} (placed : Placed tokens answer) (within : tokens ⊆ more) :
    Placed more answer := by
  intro error stopped
  obtain ⟨⟨token, member, place⟩, complete, exhausted⟩ := placed error stopped
  exact ⟨⟨token, within member, place⟩, complete, exhausted⟩

theorem Placed.error {stop : ParseStop} (placed : Placed tokens answer)
    (stopped : answer = .error stop) : Placed tokens (.error stop : Except ParseStop β) := by
  rintro error ⟨⟩
  exact placed error stopped

end

def Places (item : (tokens : List Token) → Attempt tokens) : Prop :=
  ∀ {tokens : List Token}, Ended tokens → Placed tokens (item tokens)

theorem noStatement_cases (token : Token) :
    noStatement token ∈ [Complaint.unterminatedBlock, .unmatchedClose, .expressionExpected] := by
  unfold noStatement
  split <;> simp

section

variable {item : (tokens : List Token) → Attempt tokens} (sound : Sound item) (places : Places item)

include sound places

theorem items_placed {opener : Token} {bound : Nat} {found : Array Expr} {tokens : List Token}
    {inside : tokens.length ≤ bound} (ended : Ended tokens) :
    Placed (opener :: tokens) (items item opener bound found tokens inside) := by
  fun_induction items item opener bound found tokens inside with
  | case1 => exact absurd ended not_ended_nil
  | case2 => exact placed_ok _
  | case3 => exact placed_complain List.mem_cons_self (by simp) (by simp)
  | case4 found token rest inside closes ends stop stopped =>
    exact ((places ended).error stopped).mono (List.subset_cons_self _ _)
  | case5 => exact placed_complain (by simp) (by simp) (by simp)
  | case6 found token rest inside closes ends reading read fits ih =>
    have taken := sound read
    exact (ih (taken.ended ended)).mono (List.cons_subset_cons _ taken.subset)

theorem statements_placed {terminator : Lexeme.Kind} {bound : Nat} {found : Array Expr}
    {tokens : List Token} {inside : tokens.length < bound} (ended : Ended tokens) :
    Placed tokens (statements item terminator bound found tokens inside) := by
  fun_induction statements item terminator bound found tokens inside with
  | case1 => exact absurd ended not_ended_nil
  | case2 => exact placed_ok _
  | case3 found token rest inside ends stop stopped => exact (places ended).error stopped
  | case4 found token rest inside ends read =>
    have known := noStatement_cases token
    refine placed_complain List.mem_cons_self ?_ ?_ <;> intro same <;> simp [same] at known
  | case5 found token rest inside ends expr _ _ shorter read =>
    exact absurd ((sound read).ended ended) not_ended_nil
  | case6 found token rest inside ends expr check next _ separated _ shorter read ih =>
    have taken := sound read
    have apart : check.lexeme = .semicolon := (Lexeme.kind_eq_iff .semicolon rfl).mp separated
    refine (ih ((taken.ended ended).tail (by simp [apart]))).mono ?_
    exact List.Subset.trans (List.subset_cons_self _ _) taken.subset
  | case7 => exact placed_ok _
  | case8 found token rest inside ends expr check next _ separated closes _ shorter read =>
    exact placed_complain ((sound read).subset List.mem_cons_self) (by simp) (by simp)

end

theorem body_placed
    {block : (tokens : List Token) → Except ParseStop (Reading Block (tokens.length + 1))}
    (placed : ∀ {tokens}, Ended tokens → Placed tokens (block tokens)) {colon : Token}
    {tokens : List Token} (ended : Ended tokens) :
    Placed (colon :: tokens) (body block colon tokens) := by
  cases tokens with
  | nil => exact absurd ended not_ended_nil
  | cons opener rest =>
    unfold body
    dsimp only
    split
    · next opened =>
      have bracket : opener.lexeme = .openBracket := (Lexeme.kind_eq_iff .openBracket rfl).mp opened
      refine ((placed (ended.tail (by simp [bracket]))).map _).mono ?_
      exact List.Subset.trans (List.subset_cons_self _ _) (List.subset_cons_self _ _)
    · exact placed_complain List.mem_cons_self (by simp) (by simp)

structure PlacedAt (depth : Nat) : Prop where
  expression : Places (expression depth)
  definition : Places (definition depth)
  call : ∀ {callee : Token} {rest : List Token}, Ended rest →
    Placed (callee :: rest) (call depth (callee :: rest))
  list : ∀ {opener : Token} {rest : List Token}, Ended rest →
    Placed (opener :: rest) (list depth (opener :: rest))
  block : ∀ {terminator : Lexeme.Kind} {tokens : List Token}, Ended tokens →
    Placed tokens (block depth terminator tokens)

theorem placedAt_zero : PlacedAt 0 :=
  ⟨nofun, nofun, nofun, nofun, nofun⟩

theorem definition_colon {depth : Nat} {token : Token} {rest : List Token}
    (marked : token.lexeme = .colon) : definition depth (token :: rest) ≠ .ok none := by
  intro unread
  cases depth with
  | zero => cases unread
  | succ depth =>
    simp only [definition, marked] at unread
    cases inner : body (block depth .closeBracket) token rest with
    | error stop =>
      rw [inner] at unread
      cases unread
    | ok reading =>
      rw [inner] at unread
      cases unread

section

variable {depth : Nat} (placed : PlacedAt depth)

include placed

theorem list_placed {opener : Token} {rest : List Token} (ended : Ended rest) :
    Placed (opener :: rest) (list (depth + 1) (opener :: rest)) :=
  items_placed (soundAt depth).expression placed.expression ended

theorem block_placed {terminator : Lexeme.Kind} {tokens : List Token} (ended : Ended tokens) :
    Placed tokens (block (depth + 1) terminator tokens) :=
  statements_placed (soundAt depth).expression placed.expression ended

theorem call_placed {callee : Token} {rest : List Token} (ended : Ended rest) :
    Placed (callee :: rest) (call (depth + 1) (callee :: rest)) := by
  cases rest with
  | nil => exact absurd ended not_ended_nil
  | cons next rest =>
    unfold call
    dsimp only
    split
    · next opened =>
      have bracket : next.lexeme = .openBracket := (Lexeme.kind_eq_iff .openBracket rfl).mp opened
      exact ((placed.list (ended.tail (by simp [bracket]))).map _).mono (List.subset_cons_self _ _)
    · exact placed_ok _

theorem definition_placed : Places (definition (depth + 1)) := by
  intro tokens ended
  unfold definition
  cases tokens with
  | nil => exact absurd ended not_ended_nil
  | cons token rest =>
    dsimp only
    split
    · next name named =>
      have more : Ended rest := ended.tail (by simp [named])
      cases rest with
      | nil => exact absurd more not_ended_nil
      | cons colon rest =>
        dsimp only
        split
        · next marked =>
          have mark : colon.lexeme = .colon := (Lexeme.kind_eq_iff .colon rfl).mp marked
          refine ((body_placed placed.block (more.tail (by simp [mark]))).map _).mono ?_
          exact List.subset_cons_self _ _
        · exact placed_ok _
    · next marked => exact (body_placed placed.block (ended.tail (by simp [marked]))).map _
    · exact placed_ok _

theorem expression_placed : Places (expression (depth + 1)) := by
  intro tokens ended
  unfold expression
  cases tokens with
  | nil => exact absurd ended not_ended_nil
  | cons token rest =>
    dsimp only
    split
    · exact placed_ok _
    · next opened => exact (placed.list (ended.tail (by simp [opened]))).map _
    · next marked =>
      split
      · next unread => exact absurd unread (definition_colon marked)
      · exact placed.definition ended
    · next name named =>
      split
      · exact (placed.call (ended.tail (by simp [named]))).map _
      · exact placed.definition ended
    · exact placed_ok _

end

theorem placedAt (depth : Nat) : PlacedAt depth := by
  induction depth with
  | zero => exact placedAt_zero
  | succ depth ih =>
    exact ⟨expression_placed ih, definition_placed ih, call_placed ih, list_placed ih,
      block_placed ih⟩

theorem program_placed {depth : Nat} {tokens : List Token} (ended : Ended tokens) :
    Placed tokens (program depth tokens) := by
  unfold program
  split
  · next stop stopped => exact ((placedAt depth).block ended).error stopped
  · next statements rest shorter read =>
    -- The block stops before the end of the script, so nothing is left over.
    obtain ⟨front, last, after, _, stops, closes, _⟩ := (soundAt depth).block read
    cases stops
    dsimp only
    rw [if_pos closes]
    exact placed_ok _

theorem parse_placed {depth : Nat} {tokens : List Token} {start : Nat} (ended : Ended tokens)
    (inside : start < tokens.length) : Placed (tokens.drop start) (parse depth tokens start) :=
  (program_placed (ended.drop inside)).map _

end Grammar

theorem Cursor.ended_of_scanAll {table : LineTable} {found : Array Token} {cursor : Cursor}
    {tokens : List Token} (ok : cursor.scanAll table found = .ok tokens) :
    Grammar.Ended tokens := by
  fun_induction scanAll table found cursor with
  | case1 found cursor start ended =>
    cases ok
    simp [Grammar.Ended]
  | case2 => cases ok
  | case3 found cursor start inside token after read ih => exact ih ok

namespace Session

theorem hasLine_of_readProgram {depth : Nat} {source : String} {error : SyntaxError}
    (stopped : readProgram depth source = .error (.syntaxError error)) :
    ∃ place, error.place = some place ∧ Text.HasLine source place.line := by
  unfold readProgram at stopped
  split at stopped
  · cases stopped
  · next scanned =>
    cases stopped
    exact hasLine_of_tokenize_error scanned
  · next tokens scanned =>
    have ended := Cursor.ended_of_scanAll scanned
    have inside : 0 < tokens.length := by
      rw [List.length_pos_iff]
      rintro rfl
      exact Grammar.not_ended_nil ended
    split at stopped
    · next parsed =>
      cases stopped
      obtain ⟨token, member, place⟩ := (Grammar.parse_placed ended inside error parsed).place
      exact ⟨_, place, hasLine_of_tokenize scanned token (List.mem_of_mem_drop member)⟩
    · cases stopped
    · cases stopped

end Session

/-- Parsing complains about tokens from the start on, and never about their end or what is left over
after a program; a colon always begins a definition or an error. The syntax errors of a session are
on lines that the script has. -/
theorem syntax_errors_point_at_tokens :
    (∀ depth tokens start error, Grammar.Ended tokens → start < tokens.length →
      parse depth tokens start = .error (.syntaxError error) →
        error.complaint ≠ .unterminatedStatement ∧ error.complaint ≠ .unexpectedToken ∧
          ∃ token ∈ tokens.drop start, error.place = some token.place) ∧
    (∀ depth token rest, token.lexeme = .colon →
      Grammar.definition depth (token :: rest) ≠ .ok none) ∧
    ∀ (session : Session) source report error, (session.execute source).1 = .ok report →
      report.ending = .syntaxError error →
        ∃ place, error.place = some place ∧ 1 ≤ place.line ∧
          place.line ≤ 1 + Text.lineBreaks source.toList := by
  refine ⟨fun depth tokens start error ended inside stopped => ?_,
    fun depth token rest marked => Grammar.definition_colon marked,
    fun session source report error ok ended => ?_⟩
  · have points := Grammar.parse_placed ended inside error stopped
    exact ⟨points.complete, points.exhausted, points.place⟩
  · have ending := (Session.execute_ok ok).1
    rw [ended] at ending
    exact Session.hasLine_of_readProgram (Session.readProgram_of_syntaxError ending)

/-- A bracket is open at the end of a script, and a colon stands at the end of another. -/
theorem open_bracket_and_last_colon_placed :
    (∃ tokens error, tokenize "f\r\n[1" = .ok tokens ∧ Grammar.Ended tokens ∧
      parse 9 tokens 1 = .error (.syntaxError error) ∧ error.complaint = .unmatchedOpen ∧
      ∃ token ∈ tokens.drop 1, error.place = some token.place) ∧
    ∃ report error, ((Session.start {}).execute "1;\r\n:").1 = .ok report ∧
      report.ending = .syntaxError error ∧ error.complaint = .bodyExpected ∧
      ∃ place, error.place = some place ∧ 1 ≤ place.line ∧
        place.line ≤ 1 + Text.lineBreaks "1;\r\n:".toList := by
  obtain ⟨placed, -, reported⟩ := syntax_errors_point_at_tokens
  have scanned : tokenize "f\r\n[1" =
      .ok [⟨.identifier "f", 1, "f"⟩, ⟨.openBracket, 2, "[1"⟩, ⟨.literal (.int 1), 2, "[1"⟩,
        ⟨.endOfScript, 2, "[1"⟩] := by
    with_unfolding_all rfl
  have stopped : parse 9 [⟨.identifier "f", 1, "f"⟩, ⟨.openBracket, 2, "[1"⟩,
      ⟨.literal (.int 1), 2, "[1"⟩, ⟨.endOfScript, 2, "[1"⟩] 1 =
        .error (.syntaxError ⟨.unmatchedOpen, some ⟨2, "[1"⟩⟩) := by
    with_unfolding_all rfl
  have ended : ((Session.start {}).execute "1;\r\n:").1 =
      .ok ⟨.syntaxError ⟨.bodyExpected, some ⟨2, ":"⟩⟩, []⟩ := by
    with_unfolding_all rfl
  have final := Cursor.ended_of_scanAll scanned
  exact ⟨⟨_, _, scanned, final, stopped, rfl, (placed _ _ _ _ final (by decide) stopped).2.2⟩,
    _, _, ended, rfl, rfl, reported _ _ _ _ ended rfl⟩

end CurryScript
