import Mathlib.Data.List.Forall2
import CurryScript.Proofs.TextLines

/-!
Where tokens stand. The number of a token's line counts the line breaks before its first character,
and its text is the line around that character.
-/
namespace CurryScript

namespace Spelling

/-- The pieces of a text that comes after `front`: the lexeme of each with all that stands before.
What stands before the end of the text, or before a quote without an end, comes apart. -/
inductive Located : List Char → List Char → List (List Char × Lexeme) → List Char →
    Option (List Char) → Prop
  | complete {front gap : List Char} (between : Gap true gap) :
      Located front gap [] (front ++ gap) none
  | unclosed {front gap rest : List Char} (between : Gap false gap) (endless : '"' ∉ rest) :
      Located front (gap ++ '"' :: rest) [] (front ++ gap) (some rest)
  | next {front gap text last : List Char} {piece : Piece} {lexeme : Lexeme}
      {starts : List (List Char × Lexeme)} {tail : Option (List Char)} (between : Gap false gap)
      (spelled : piece.WellSpelled) (stands : piece.lexeme = .ok lexeme)
      (apart : piece.isWord = true → ∀ c ∈ text.head?, isWordChar c = false)
      (rest : Located (front ++ (gap ++ piece.chars)) text starts last tail) :
      Located front (gap ++ (piece.chars ++ text)) ((front ++ gap, lexeme) :: starts) last tail

theorem Arranged.located {gap text : List Char} {pieces : List Piece} {tail : Option (List Char)}
    {lexemes : List Lexeme} (arranged : Arranged gap pieces tail text)
    (stand : StandFor pieces lexemes) (front : List Char) :
    ∃ starts last, Located front text starts last tail := by
  induction arranged generalizing lexemes front with
  | complete between => exact ⟨[], _, .complete between⟩
  | unclosed between endless => exact ⟨[], _, .unclosed between endless⟩
  | @next gap after text piece pieces tail between spelled rest apart ih =>
    cases lexemes with
    | nil => simp [StandFor] at stand
    | cons lexeme lexemes =>
      obtain ⟨first, others⟩ := List.cons.inj stand
      obtain ⟨starts, last, located⟩ := ih others (front ++ (gap ++ piece.chars))
      exact ⟨_, last, .next between spelled first (fun word => rest.starts (apart word)) located⟩

theorem Located.last {front text last : List Char} {starts : List (List Char × Lexeme)}
    {tail : Option (List Char)} (located : Located front text starts last tail) :
    front ++ text = last ++ (tail.map ('"' :: ·)).getD [] := by
  induction located with
  | complete | unclosed => simp
  | next _ _ _ _ _ ih => simpa using ih

end Spelling

/-- The place of the first character after `front`: its number counts the breaks before, and if
there are no other line ends, its text is the line around. -/
def PlaceAfter (source : String) (front : List Char) (place : Place) : Prop :=
  place.line = 1 + Text.lineBreaks front ∧
    (Text.PlainlyBroken source.toList → ∃ rest, source.toList = front ++ rest ∧
      Text.LineAround front rest place.text.toList)

def StandsAfter (source : String) (start : List Char × Lexeme) (token : Token) : Prop :=
  token.lexeme = start.2 ∧ PlaceAfter source start.1 token.place

def Place.after (table : LineTable) (front : List Char) : Place :=
  ⟨1 + Text.lineBreaks front, table.get (1 + Text.lineBreaks front)⟩

theorem placeAfter_of_split {source : String} {front rest : List Char}
    (split : source.toList = front ++ rest) (apart : ∀ c ∈ rest.head?, c ≠ '\n') :
    PlaceAfter source front (.after (.ofText source.toList) front) := by
  refine ⟨rfl, fun plain => ⟨rest, split, ?_⟩⟩
  rw [split] at plain
  have around := Text.lineAround_lines plain apart
  simpa [Place.after, LineTable.get_ofText, split] using around

namespace Spelling

def tokenAfter (table : LineTable) (start : List Char × Lexeme) : Token :=
  ⟨start.2, (Place.after table start.1).line, (Place.after table start.1).text⟩

def placedReading (table : LineTable) (starts : List (List Char × Lexeme)) (last : List Char) :
    Option (List Char) → Except ScanError (List Token)
  | none => .ok ((starts ++ [(last, Lexeme.endOfScript)]).map (tokenAfter table))
  | some rest => .error (.syntaxError
      ⟨.unterminatedString (String.ofList rest), some (Place.after table last)⟩)

theorem Piece.WellSpelled.starts_in_line {piece : Piece} (spelled : piece.WellSpelled)
    (text : List Char) : ∀ c ∈ (piece.chars ++ text).head?, c ≠ '\n' := by
  obtain ⟨c, more, chars, solid, _⟩ := spelled.starts
  rw [chars]
  rintro _ ⟨⟩ rfl
  exact absurd solid (by decide)

end Spelling

open Spelling

namespace Cursor

theorem line_of_reaches {text : List Char} {cursor : Cursor} (front : List Char)
    (reached : Reaches ⟨text, 0, 1⟩ cursor) (split : text = front ++ cursor.rest)
    (apart : ∀ c ∈ cursor.rest.head?, c ≠ '\n') : cursor.line = 1 + Text.lineBreaks front := by
  have total := reached.line.2
  have parts := Text.lineBreaks_append front apart
  dsimp only at total
  rw [← split] at parts
  omega

theorem scanAll_located (table : LineTable) {source front text last : List Char}
    {starts : List (List Char × Lexeme)} {tail : Option (List Char)}
    (ahead : Located front text starts last tail) (split : source = front ++ text)
    (found : Array Token) (cursor : Cursor) (reached : Reaches ⟨source, 0, 1⟩ cursor)
    (left : cursor.rest = text) :
    cursor.scanAll table found =
      (placedReading table starts last tail).map (found.toList ++ ·) := by
  induction ahead generalizing found cursor with
  | @complete front gap between =>
    have started := reached.trans (reaches_skipGap cursor)
    have ended := rest_skipGap_final cursor (left ▸ between)
    have here :=
      line_of_reaches (front ++ gap) started (by simp [ended, split]) (by simp [ended])
    rw [scanAll, dif_pos ended, here]
    simp [placedReading, tokenAfter, Place.after, Except.map]
  | @unclosed front gap rest between endless =>
    have started := reached.trans (reaches_skipGap cursor)
    have at_quote := rest_skipGap_quote cursor between left
    have here := line_of_reaches (front ++ gap) started (by simp [at_quote, split])
      (by simp [at_quote])
    have stops := scanLexeme_unclosed table cursor.skipGap at_quote endless
    rw [scanAll_error table found cursor (by simp [at_quote]) stops, here]
    rfl
  | @next front gap text last piece lexeme starts tail between spelled stands apart rest ih =>
    have started := reached.trans (reaches_skipGap cursor)
    obtain ⟨at_piece, inside, reads, onward⟩ :=
      scanLexeme_after_gap table cursor between spelled left apart
    have here := line_of_reaches (front ++ gap) started (by simp [at_piece, split])
      (at_piece ▸ spelled.starts_in_line text)
    rw [stands] at reads
    have after := started.trans (scans_scanLexeme table cursor.skipGap).reached
    rw [scanAll_token table found cursor inside reads, ih (by simp [split]) _ _ after onward]
    cases tail with
    | none => simp [placedReading, tokenAfter, Place.after, Except.map, here]
    | some rest => rfl

end Cursor

theorem tokenize_located {source : String} {starts : List (List Char × Lexeme)} {last : List Char}
    {tail : Option (List Char)} (ahead : Located [] source.toList starts last tail) :
    tokenize source = placedReading (.ofText source.toList) starts last tail := by
  have whole := Cursor.scanAll_located (.ofText source.toList) ahead rfl #[] _ (.refl _) rfl
  cases tail <;> exact whole

namespace Spelling

theorem Located.fronts {front text last : List Char} {starts : List (List Char × Lexeme)}
    {tail : Option (List Char)} (located : Located front text starts last tail) :
    ∀ start ∈ starts, ∃ rest, front ++ text = start.1 ++ rest ∧ ∀ c ∈ rest.head?, c ≠ '\n' := by
  induction located with
  | complete | unclosed => simp
  | @next front gap text last piece lexeme starts tail between spelled stands apart rest ih =>
    intro start member
    rcases List.mem_cons.mp member with rfl | later
    · exact ⟨piece.chars ++ text, by simp, spelled.starts_in_line text⟩
    · simpa using ih start later

end Spelling

theorem exists_located_of_ok {source : String} {tokens : List Token}
    (read : tokenize source = .ok tokens) :
    ∃ starts, Located [] source.toList starts source.toList none := by
  obtain ⟨gap, pieces, lexemes, arranged, stand, _⟩ := arranged_of_tokenize read
  obtain ⟨starts, last, located⟩ := arranged.located stand []
  obtain rfl : source.toList = last := by simpa using located.last
  exact ⟨starts, located⟩

theorem exists_located_of_syntaxError {source : String} {error : SyntaxError}
    (stopped : tokenize source = .error (.syntaxError error)) :
    ∃ starts front rest, Located [] source.toList starts front (some rest) := by
  have scanned := scannedLexemes_eq_syntaxError_iff.mpr ⟨error.place, stopped⟩
  obtain ⟨gap, pieces, lexemes, rest, arranged, stand, _⟩ :=
    (scanned_eq_syntaxError_iff source error.complaint).mp scanned
  obtain ⟨starts, front, located⟩ := arranged.located stand []
  exact ⟨starts, front, rest, located⟩

/-- The line and the text of each token are those of its first character, and of the last token
those of the end. The complaint about a quote without an end carries those of the quote. -/
theorem tokens_stand_on_their_lines (source : String) :
    (∀ tokens, tokenize source = .ok tokens →
      (∃ starts, Located [] source.toList starts source.toList none) ∧
      ∀ starts last, Located [] source.toList starts last none →
        List.Forall₂ (StandsAfter source) (starts ++ [(source.toList, .endOfScript)]) tokens) ∧
    ∀ error, tokenize source = .error (.syntaxError error) →
      (∃ starts front rest, Located [] source.toList starts front (some rest)) ∧
      ∀ starts front rest, Located [] source.toList starts front (some rest) →
        source.toList = front ++ '"' :: rest ∧
          ∃ place, error = ⟨.unterminatedString (String.ofList rest), some place⟩ ∧
            PlaceAfter source front place := by
  refine ⟨fun tokens read => ⟨exists_located_of_ok read, fun starts last ahead => ?_⟩,
    fun error stopped => ⟨exists_located_of_syntaxError stopped, fun starts front rest ahead => ?_⟩⟩
  · obtain rfl : source.toList = last := by simpa using ahead.last
    rw [tokenize_located ahead] at read
    cases read
    rw [List.forall₂_map_right_iff, List.forall₂_same]
    intro start member
    refine ⟨rfl, ?_⟩
    rcases List.mem_append.mp member with inside | final
    · obtain ⟨rest, split, apart⟩ := ahead.fronts start inside
      exact placeAfter_of_split split apart
    · obtain rfl := List.mem_singleton.mp final
      have whole : source.toList = source.toList ++ [] := by simp
      exact placeAfter_of_split whole (by simp)
  · have split : source.toList = front ++ '"' :: rest := ahead.last
    rw [tokenize_located ahead] at stopped
    cases stopped
    exact ⟨split, _, rfl, placeAfter_of_split split (by simp)⟩

/-- The breaks of a script are of three styles, one of them in a quoted text and one at the end. In
another script the second line opens a quote. -/
theorem mixed_breaks_and_open_quote_placed :
    (∃ source tokens starts, source = "a\r\n\"x\ry\" #c\n\r" ∧ tokenize source = .ok tokens ∧
      tokens.map Token.place = [⟨1, "a"⟩, ⟨2, "\"x"⟩, ⟨5, ""⟩] ∧
      Located [] source.toList starts source.toList none ∧
      List.Forall₂ (StandsAfter source) (starts ++ [(source.toList, .endOfScript)]) tokens) ∧
    ∃ source error starts front rest place, source = "1;\r \"b" ∧
      tokenize source = .error (.syntaxError error) ∧ error.place = some ⟨2, " \"b"⟩ ∧
      Located [] source.toList starts front (some rest) ∧
      error = ⟨.unterminatedString (String.ofList rest), some place⟩ ∧
      PlaceAfter source front place := by
  have scanned : tokenize "a\r\n\"x\ry\" #c\n\r" =
      .ok [⟨.identifier "a", 1, "a"⟩, ⟨.literal (.text "x\ry"), 2, "\"x"⟩,
        ⟨.endOfScript, 5, ""⟩] := by
    with_unfolding_all rfl
  have stopped : tokenize "1;\r \"b" =
      .error (.syntaxError ⟨.unterminatedString "b", some ⟨2, " \"b"⟩⟩) := by
    with_unfolding_all rfl
  obtain ⟨⟨starts, located⟩, placed⟩ := (tokens_stand_on_their_lines _).1 _ scanned
  obtain ⟨⟨before, front, rest, ahead⟩, quoted⟩ := (tokens_stand_on_their_lines _).2 _ stopped
  obtain ⟨_, place, complaint, there⟩ := quoted _ _ _ ahead
  exact ⟨⟨_, _, starts, rfl, scanned, rfl, located, placed _ _ located⟩,
    _, _, before, front, rest, place, rfl, stopped, rfl, ahead, complaint, there⟩

end CurryScript
