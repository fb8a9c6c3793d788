import CurryScript.Token.Scan

/-!
The lines of a script as the scanner counts them. All that scanning does to a cursor is to advance
it, and an advance moves a line break from the text that is left to the number of the line.
-/
namespace CurryScript

namespace Text

/-- The number of line breaks in a text: line feeds, and carriage returns without one. -/
def lineBreaks (text : List Char) : Nat := (normalizeLineFeeds text).count '\n'

theorem lineBreaks_cons (c : Char) (rest : List Char) :
    lineBreaks (c :: rest) = lineBreaks rest + if breaksLine c rest then 1 else 0 := by
  unfold lineBreaks
  by_cases carriage : c = '\r'
  · subst carriage
    cases rest with
    | nil => rfl
    | cons next rest =>
      by_cases feed : next = '\n'
      · subst feed
        simp [normalizeLineFeeds, breaksLine]
      · simp [normalizeLineFeeds, breaksLine, feed]
  · have kept : normalizeLineFeeds (c :: rest) = c :: normalizeLineFeeds rest := by
      rw [normalizeLineFeeds]
      · simp [carriage]
      · simp [carriage]
    rw [kept, List.count_cons]
    simp [breaksLine, carriage]

end Text

namespace Cursor

inductive Reaches : Cursor → Cursor → Prop
  | refl (cursor : Cursor) : Reaches cursor cursor
  | step {cursor after : Cursor} (rest : Reaches cursor.advance after) : Reaches cursor after

theorem Reaches.trans {cursor middle after : Cursor} (one : Reaches cursor middle)
    (two : Reaches middle after) : Reaches cursor after := by
  induction one with
  | refl => exact two
  | step _ ih => exact .step (ih two)

theorem reaches_advance (cursor : Cursor) : Reaches cursor cursor.advance :=
  .step (.refl _)

theorem reaches_skipWhile (p : Char → Bool) (cursor : Cursor) :
    Reaches cursor (cursor.skipWhile p) := by
  fun_induction skipWhile p cursor with
  | case1 | case3 => exact .refl _
  | case2 cursor c tail found holds ih => exact .step ih

theorem reaches_skipGap (cursor : Cursor) : Reaches cursor cursor.skipGap := by
  fun_induction skipGap cursor with
  | case1 | case4 => exact .refl _
  | case2 cursor c tail found blank ih => exact .step ih
  | case3 cursor c tail found blank comment ih =>
    exact .step ((reaches_skipWhile _ _).trans ih)

theorem Reaches.line {cursor after : Cursor} (reached : Reaches cursor after) :
    cursor.line ≤ after.line ∧
      after.line + Text.lineBreaks after.rest = cursor.line + Text.lineBreaks cursor.rest := by
  induction reached with
  | refl => exact ⟨Nat.le_refl _, rfl⟩
  | @step cursor after _ ih =>
    have moved : cursor.line ≤ cursor.advance.line ∧
        cursor.advance.line + Text.lineBreaks cursor.advance.rest =
          cursor.line + Text.lineBreaks cursor.rest := by
      unfold advance
      split
      · exact ⟨Nat.le_refl _, rfl⟩
      · next c rest here =>
        rw [here, Text.lineBreaks_cons]
        dsimp only
        split <;> omega
    omega

def place (table : LineTable) (cursor : Cursor) : Place := ⟨cursor.line, table.get cursor.line⟩

/-- One lexeme read: the cursor has been advanced, and a token or a complaint carries the line it
was on. -/
inductive Scans (table : LineTable) (cursor : Cursor) : Except ScanError Token × Cursor → Prop
  | token (lexeme : Lexeme) {after : Cursor} (reached : Reaches cursor after) :
      Scans table cursor (.ok ⟨lexeme, cursor.line, table.get cursor.line⟩, after)
  | complaint (complaint : Complaint) {after : Cursor} (reached : Reaches cursor after) :
      Scans table cursor (.error (.syntaxError ⟨complaint, some (cursor.place table)⟩), after)
  | numeral (failure : Numeral.Failure) {after : Cursor} (reached : Reaches cursor after) :
      Scans table cursor (.error (.numeral failure), after)

theorem scans_scanLexeme (table : LineTable) (cursor : Cursor) :
    Scans table cursor (cursor.scanLexeme table) := by
  have passed (p : Char → Bool) : Reaches cursor (cursor.advance.skipWhile p) :=
    .step (reaches_skipWhile p _)
  unfold scanLexeme
  split
  · exact .token _ (.refl cursor)
  · split
    · exact .token _ (reaches_advance cursor)
    · split
      · dsimp only
        split
        · exact .complaint _ (passed _)
        · exact .token _ ((passed _).trans (reaches_advance _))
      · dsimp only
        split
        · exact .token _ (passed _)
        · exact .numeral _ (passed _)

theorem Scans.reached {table : LineTable} {cursor : Cursor}
    {outcome : Except ScanError Token × Cursor} (scanned : Scans table cursor outcome) :
    Reaches cursor outcome.2 := by
  cases scanned <;> assumption

theorem reaches_next (table : LineTable) (cursor : Cursor) : Reaches cursor (cursor.next table).2 :=
  (reaches_skipGap cursor).trans (scans_scanLexeme table cursor.skipGap).reached

theorem place_of_scanAll {table : LineTable} {found : Array Token} {cursor : Cursor}
    {tokens : List Token} (ok : cursor.scanAll table found = .ok tokens) :
    ∀ token ∈ tokens, token ∈ found ∨ ∃ after, Reaches cursor after ∧
      token.place = after.place table := by
  fun_induction scanAll table found cursor with
  | case1 found cursor start ended =>
    cases ok
    intro token member
    rw [Array.mem_toList_iff, Array.mem_push] at member
    refine member.imp_right ?_
    rintro rfl
    exact ⟨start, reaches_skipGap cursor, rfl⟩
  | case2 => cases ok
  | case3 found cursor start inside token after read ih =>
    have first : Reaches cursor start := reaches_skipGap cursor
    have scanned := scans_scanLexeme table start
    rw [read] at scanned
    cases scanned with
    | token lexeme next =>
      intro other member
      rcases ih ok other member with earlier | ⟨last, later, same⟩
      · refine (Array.mem_push.mp earlier).imp_right ?_
        rintro rfl
        exact ⟨start, first, rfl⟩
      · exact .inr ⟨last, (first.trans next).trans later, same⟩

theorem place_of_scanAll_error {table : LineTable} {found : Array Token} {cursor : Cursor}
    {error : SyntaxError} (stopped : cursor.scanAll table found = .error (.syntaxError error)) :
    ∃ after, Reaches cursor after ∧ error.place = some (after.place table) := by
  fun_induction scanAll table found cursor with
  | case1 => cases stopped
  | case2 found cursor start inside stop after read =>
    cases stopped
    have scanned := scans_scanLexeme table start
    rw [read] at scanned
    cases scanned with
    | complaint => exact ⟨start, reaches_skipGap cursor, rfl⟩
  | case3 found cursor start inside token after read ih =>
    have scanned := scans_scanLexeme table start
    rw [read] at scanned
    cases scanned with
    | token lexeme next =>
      obtain ⟨last, later, same⟩ := ih stopped
      exact ⟨last, ((reaches_skipGap cursor).trans next).trans later, same⟩

end Cursor

def Text.HasLine (source : String) (line : Nat) : Prop :=
  1 ≤ line ∧ line ≤ 1 + Text.lineBreaks source.toList

theorem hasLine_of_reaches {source : String} {after : Cursor}
    (reached : Cursor.Reaches ⟨source.toList, 0, 1⟩ after) : Text.HasLine source after.line := by
  obtain ⟨later, total⟩ := reached.line
  dsimp only at later total
  exact ⟨later, by omega⟩

theorem hasLine_of_tokenize {source : String} {tokens : List Token}
    (ok : tokenize source = .ok tokens) : ∀ token ∈ tokens, Text.HasLine source token.line := by
  intro token member
  rcases Cursor.place_of_scanAll ok token member with none | ⟨after, reached, same⟩
  · simp at none
  · have line : token.line = after.line := congrArg Place.line same
    rw [line]
    exact hasLine_of_reaches reached

theorem hasLine_of_tokenize_error {source : String} {error : SyntaxError}
    (stopped : tokenize source = .error (.syntaxError error)) :
    ∃ place, error.place = some place ∧ Text.HasLine source place.line := by
  obtain ⟨after, reached, same⟩ := Cursor.place_of_scanAll_error stopped
  exact ⟨_, same, hasLine_of_reaches reached⟩

end CurryScript
