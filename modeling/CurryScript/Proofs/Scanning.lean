import CurryScript.Proofs.WordClasses

/-!
Scanning reads the pieces of a script in the order in which they stand. Which arrangement of the
text is taken makes no difference, so the lexemes found do not depend on the gaps.
-/
namespace CurryScript

namespace Cursor
open Spelling

theorem rest_advance (cursor : Cursor) : cursor.advance.rest = cursor.rest.tail := by
  unfold advance
  split <;> simp [*]

theorem rest_skipWhile (p : Char → Bool) (cursor : Cursor) :
    (cursor.skipWhile p).rest = cursor.rest.dropWhile p := by
  fun_induction skipWhile p cursor with
  | case1 cursor found => simp [found]
  | case2 cursor c tail found holds ih =>
    rw [ih, rest_advance, found, List.dropWhile_cons_of_pos holds, List.tail_cons]
  | case3 cursor c tail found fails => simp [found, fails]

theorem skipGap_of_solid (cursor : Cursor)
    (solid : ∀ c ∈ cursor.rest.head?, Text.isBlank c = false ∧ c ≠ '#') :
    cursor.skipGap = cursor := by
  unfold skipGap
  split
  · rfl
  · next c _ found =>
    obtain ⟨notBlank, noComment⟩ := solid c (by rw [found]; rfl)
    simp [notBlank, noComment]

theorem skipGap_of_blank (cursor : Cursor) {c : Char} {rest : List Char}
    (found : cursor.rest = c :: rest) (empty : Text.isBlank c = true) :
    cursor.skipGap = cursor.advance.skipGap := by
  rw [skipGap]
  split
  · simp_all
  · next found' =>
    cases found.symm.trans found'
    rw [if_pos empty]

theorem skipGap_of_comment (cursor : Cursor) {rest : List Char}
    (found : cursor.rest = '#' :: rest) :
    cursor.skipGap = (cursor.advance.skipWhile (!endsComment ·)).skipGap := by
  rw [skipGap]
  split
  · simp_all
  · next found' =>
    cases found.symm.trans found'
    rw [if_neg (by decide), if_pos (by decide)]

/-- A gap is passed as a whole, and no more than the gap. -/
theorem rest_skipGap {final : Bool} {gap rest : List Char} (between : Gap final gap)
    (solid : ∀ c ∈ rest.head?, Text.isBlank c = false ∧ c ≠ '#')
    (last : final = true → rest = []) (cursor : Cursor) (split : cursor.rest = gap ++ rest) :
    cursor.skipGap.rest = rest := by
  induction between generalizing cursor with
  | none =>
    rw [List.nil_append] at split
    rw [skipGap_of_solid cursor (by rwa [split]), split]
  | blank empty more ih =>
    rw [skipGap_of_blank cursor split empty]
    exact ih _ (by rw [rest_advance, split]; rfl)
  | @comment c text after inLine ends more ih =>
    have inside : ∀ d ∈ text, (!endsComment d) = true := fun d member => by
      simpa [endsComment] using inLine d member
    have stops : ∀ d ∈ (c :: (after ++ rest)).head?, (!endsComment d) = false := by
      rintro d ⟨⟩
      rw [(endsComment_iff c).mpr ends, Bool.not_true]
    rw [skipGap_of_comment cursor split]
    refine ih _ ?_
    rw [rest_skipWhile, rest_advance, split]
    simpa using (span_run inside stops).2
  | @lastComment text isLast inLine =>
    have inside : ∀ d ∈ text, (!endsComment d) = true := fun d member => by
      simpa [endsComment] using inLine d member
    have ended : (cursor.advance.skipWhile (!endsComment ·)).rest = rest := by
      rw [rest_skipWhile, rest_advance, split, last isLast]
      exact (span_run inside (by simp)).2
    rw [skipGap_of_comment cursor split, skipGap_of_solid _ (by rwa [ended]), ended]

theorem scanLexeme_mark (table : LineTable) (cursor : Cursor) {c : Char} {lexeme : Lexeme}
    {text : List Char} (known : punctuation? c = some lexeme) (split : cursor.rest = c :: text) :
    cursor.scanLexeme table =
      (.ok ⟨lexeme, cursor.line, table.get cursor.line⟩, cursor.advance) := by
  simp only [scanLexeme, split, known]

theorem scanLexeme_quoted (table : LineTable) (cursor : Cursor) {content text : List Char}
    (endless : '"' ∉ content) (split : cursor.rest = '"' :: (content ++ '"' :: text)) :
    (cursor.scanLexeme table).1 = .ok ⟨.literal (.text (String.ofList content)), cursor.line,
        table.get cursor.line⟩ ∧
      (cursor.scanLexeme table).2.rest = text := by
  have inside : ∀ c ∈ content, (c != '"') = true := fun c member => by
    simpa using fun same : c = '"' => endless (same ▸ member)
  have stops : ∀ c ∈ ('"' :: text).head?, (c != '"') = false := by
    rintro c ⟨⟩
    rfl
  obtain ⟨front, back⟩ := span_run inside stops
  have closing : (cursor.advance.skipWhile (· != '"')).rest = '"' :: text := by
    rw [rest_skipWhile, rest_advance, split]
    exact back
  simp [scanLexeme, split, punctuation?, closing, front, rest_advance]

theorem scanLexeme_unclosed (table : LineTable) (cursor : Cursor) {rest : List Char}
    (split : cursor.rest = '"' :: rest) (endless : '"' ∉ rest) :
    (cursor.scanLexeme table).1 = .error (.syntaxError
      ⟨.unterminatedString (String.ofList rest), some ⟨cursor.line, table.get cursor.line⟩⟩) := by
  have inside : ∀ c ∈ rest, (c != '"') = true := fun c member => by
    simpa using fun same : c = '"' => endless (same ▸ member)
  have closing : (cursor.advance.skipWhile (· != '"')).rest = [] := by
    rw [rest_skipWhile, rest_advance, split, ← List.append_nil rest]
    exact (span_run inside (by simp)).2
  simp [scanLexeme, split, punctuation?, closing]

theorem scanLexeme_word (table : LineTable) (cursor : Cursor) {word text : List Char}
    (nonempty : word ≠ []) (inside : ∀ c ∈ word, isWordChar c = true)
    (stops : ∀ c ∈ text.head?, isWordChar c = false) (split : cursor.rest = word ++ text) :
    (cursor.scanLexeme table).1 = ((classify (String.ofList word)).mapError .numeral).map
        (⟨·, cursor.line, table.get cursor.line⟩) ∧
      (cursor.scanLexeme table).2.rest = text := by
  cases word with
  | nil => contradiction
  | cons c more =>
    have first := (isWordChar_iff c).mp (inside c List.mem_cons_self)
    have plain : punctuation? c = none := by
      unfold punctuation?
      split <;> simp_all
    have noQuote : (c == '"') = false := by
      simpa using fun same : c = '"' => first.2 (by simp [same])
    obtain ⟨front, back⟩ :=
      span_run (fun d member => inside d (List.mem_cons_of_mem c member)) stops
    have after : (cursor.advance.skipWhile isWordChar).rest = text := by
      rw [rest_skipWhile, rest_advance, split]
      exact back
    simp only [scanLexeme, split, List.cons_append, plain, noQuote, front]
    cases classify (String.ofList (c :: more)) <;> exact ⟨rfl, after⟩

theorem scanLexeme_piece (table : LineTable) (cursor : Cursor) {piece : Piece} {text : List Char}
    (spelled : piece.WellSpelled) (split : cursor.rest = piece.chars ++ text)
    (apart : piece.isWord = true → ∀ c ∈ text.head?, isWordChar c = false) :
    (cursor.scanLexeme table).1 = (piece.lexeme.mapError .numeral).map
        (⟨·, cursor.line, table.get cursor.line⟩) ∧
      (cursor.scanLexeme table).2.rest = text := by
  cases piece with
  | mark c lexeme =>
    rw [scanLexeme_mark table cursor (punctuation_eq_some_iff.mpr spelled) split]
    exact ⟨rfl, by rw [rest_advance, split]; rfl⟩
  | quoted content =>
    exact scanLexeme_quoted table cursor spelled (by simpa [Piece.chars] using split)
  | word word =>
    exact scanLexeme_word table cursor spelled.1
      (fun c member => (isWordChar_iff c).mpr (spelled.2 c member)) (apart rfl) split

/-- One step of scanning: the gap before a piece is passed and the piece is read. -/
theorem scanLexeme_after_gap (table : LineTable) (cursor : Cursor) {gap text : List Char}
    {piece : Piece} (between : Gap false gap) (spelled : piece.WellSpelled)
    (ahead : cursor.rest = gap ++ (piece.chars ++ text))
    (apart : piece.isWord = true → ∀ c ∈ text.head?, isWordChar c = false) :
    cursor.skipGap.rest = piece.chars ++ text ∧ cursor.skipGap.rest ≠ [] ∧
      (cursor.skipGap.scanLexeme table).1 = (piece.lexeme.mapError .numeral).map
        (⟨·, cursor.skipGap.line, table.get cursor.skipGap.line⟩) ∧
      (cursor.skipGap.scanLexeme table).2.rest = text := by
  obtain ⟨c, more, chars, solid, noComment, _⟩ := spelled.starts
  have at_piece : cursor.skipGap.rest = piece.chars ++ text := by
    refine rest_skipGap between ?_ (by simp) cursor ahead
    rw [chars]
    rintro d ⟨⟩
    exact ⟨solid, noComment⟩
  have inside : cursor.skipGap.rest ≠ [] := by simp [at_piece, chars]
  exact ⟨at_piece, inside, scanLexeme_piece table cursor.skipGap spelled at_piece apart⟩

theorem rest_skipGap_quote (cursor : Cursor) {gap rest : List Char} (between : Gap false gap)
    (ahead : cursor.rest = gap ++ '"' :: rest) : cursor.skipGap.rest = '"' :: rest :=
  rest_skipGap between (by rintro c ⟨⟩; decide) (by simp) cursor ahead

theorem rest_skipGap_final (cursor : Cursor) (between : Gap true cursor.rest) :
    cursor.skipGap.rest = [] :=
  rest_skipGap between (by simp) (fun _ => rfl) cursor (by simp)

theorem scanAll_error (table : LineTable) (found : Array Token) (cursor : Cursor)
    {error : ScanError} (inside : cursor.skipGap.rest ≠ [])
    (stops : (cursor.skipGap.scanLexeme table).1 = .error error) :
    cursor.scanAll table found = .error error := by
  rw [scanAll, dif_neg inside]
  split
  · simp_all
  · simp_all

theorem scanAll_token (table : LineTable) (found : Array Token) (cursor : Cursor) {token : Token}
    (inside : cursor.skipGap.rest ≠ [])
    (reads : (cursor.skipGap.scanLexeme table).1 = .ok token) :
    cursor.scanAll table found =
      (cursor.skipGap.scanLexeme table).2.scanAll table (found.push token) := by
  rw [scanAll, dif_neg inside]
  split
  · simp_all
  · simp_all

end Cursor

def ScanError.unplaced : ScanError → ScanError
  | .syntaxError error => .syntaxError ⟨error.complaint, none⟩
  | .numeral failure => .numeral failure

/-- The kinds and values in an outcome of scanning, without any places. -/
def scannedLexemes : Except ScanError (List Token) → Except ScanError (List Lexeme)
  | .ok tokens => .ok (tokens.map Token.lexeme)
  | .error error => .error error.unplaced

theorem scannedLexemes_eq_ok_iff {outcome : Except ScanError (List Token)}
    {lexemes : List Lexeme} : scannedLexemes outcome = .ok lexemes ↔
      ∃ tokens, outcome = .ok tokens ∧ tokens.map Token.lexeme = lexemes := by
  cases outcome <;> simp [scannedLexemes]

theorem scannedLexemes_eq_syntaxError_iff {outcome : Except ScanError (List Token)}
    {complaint : Complaint} : scannedLexemes outcome = .error (.syntaxError ⟨complaint, none⟩) ↔
      ∃ place, outcome = .error (.syntaxError ⟨complaint, place⟩) := by
  rcases outcome with (⟨_, _⟩ | _) | _ <;>
    simp [scannedLexemes, ScanError.unplaced]

theorem scannedLexemes_eq_numeral_iff {outcome : Except ScanError (List Token)}
    {failure : Numeral.Failure} : scannedLexemes outcome = .error (.numeral failure) ↔
      outcome = .error (.numeral failure) := by
  rcases outcome with (_ | _) | _ <;>
    simp [scannedLexemes, ScanError.unplaced]

namespace Spelling

/-- The lexemes of pieces in order, with the end of the script after them. A word that stands for
nothing comes before all that follows it. -/
def reading (tail : Option (List Char)) : List Piece → Except ScanError (List Lexeme)
  | [] =>
    match tail with
    | none => .ok [.endOfScript]
    | some rest => .error (.syntaxError ⟨.unterminatedString (String.ofList rest), none⟩)
  | piece :: pieces =>
    match piece.lexeme with
    | .ok lexeme => (reading tail pieces).map (lexeme :: ·)
    | .error failure => .error (.numeral failure)

def StandFor (pieces : List Piece) (lexemes : List Lexeme) : Prop :=
  pieces.map Piece.lexeme = lexemes.map .ok

theorem reading_append (tail : Option (List Char)) {front : List Piece} {lexemes : List Lexeme}
    (stand : StandFor front lexemes) (pieces : List Piece) :
    reading tail (front ++ pieces) = (reading tail pieces).map (lexemes ++ ·) := by
  induction front generalizing lexemes with
  | nil =>
    obtain rfl : lexemes = [] := by simpa [StandFor] using stand.symm
    rw [List.nil_append]
    cases reading tail pieces <;> rfl
  | cons piece front ih =>
    cases lexemes with
    | nil => simp [StandFor] at stand
    | cons lexeme lexemes =>
      obtain ⟨first, others⟩ := List.cons.inj stand
      simp only [List.cons_append, reading, first, ih others]
      cases reading tail pieces <;> rfl

theorem reading_of_standFor {tail : Option (List Char)} {pieces : List Piece}
    {lexemes : List Lexeme} (stand : StandFor pieces lexemes) :
    reading tail pieces = (reading tail []).map (lexemes ++ ·) := by
  rw [← reading_append tail stand [], List.append_nil]

theorem reading_of_failure {tail : Option (List Char)} {front more : List Piece} {word : List Char}
    {lexemes : List Lexeme} {failure : Numeral.Failure} (stand : StandFor front lexemes)
    (fails : classify (String.ofList word) = .error failure) :
    reading tail (front ++ .word word :: more) = .error (.numeral failure) := by
  rw [reading_append tail stand]
  simp only [reading, Piece.lexeme, fails]
  rfl

theorem standFor_or_failure (pieces : List Piece) :
    (∃ lexemes, StandFor pieces lexemes) ∨
      ∃ front word more lexemes failure, pieces = front ++ .word word :: more ∧
        StandFor front lexemes ∧ classify (String.ofList word) = .error failure := by
  induction pieces with
  | nil => exact .inl ⟨[], rfl⟩
  | cons piece pieces ih =>
    cases stands : piece.lexeme with
    | error failure =>
      cases piece with
      | mark | quoted => cases stands
      | word word => exact .inr ⟨[], word, pieces, [], failure, rfl, rfl, stands⟩
    | ok lexeme =>
      rcases ih with ⟨lexemes, stand⟩ | ⟨front, word, more, lexemes, failure, rfl, stand, fails⟩
      · exact .inl ⟨lexeme :: lexemes, List.cons_eq_cons.mpr ⟨stands, stand⟩⟩
      · exact .inr ⟨piece :: front, word, more, lexeme :: lexemes, failure, rfl,
          List.cons_eq_cons.mpr ⟨stands, stand⟩, fails⟩

end Spelling

open Spelling

theorem Cursor.scanAll_arranged (table : LineTable) {gap text : List Char} {pieces : List Piece}
    {tail : Option (List Char)} (arranged : Arranged gap pieces tail text) (found : Array Token)
    (cursor : Cursor) (ahead : cursor.rest = text) :
    scannedLexemes (cursor.scanAll table found) =
      (reading tail pieces).map (found.toList.map Token.lexeme ++ ·) := by
  induction arranged generalizing found cursor with
  | complete between =>
    have ended := rest_skipGap_final cursor (ahead ▸ between)
    rw [scanAll, dif_pos ended]
    simp [scannedLexemes, reading, Except.map]
  | @unclosed gap rest between endless =>
    have at_quote := rest_skipGap_quote cursor between ahead
    have stops := scanLexeme_unclosed table cursor.skipGap at_quote endless
    rw [scanAll_error table found cursor (by simp [at_quote]) stops]
    rfl
  | @next gap after text piece pieces tail between spelled rest apart ih =>
    obtain ⟨_, inside, reads, onward⟩ := scanLexeme_after_gap table cursor between spelled ahead
      (fun word => rest.starts (apart word))
    cases stands : piece.lexeme with
    | error failure =>
      rw [stands] at reads
      rw [scanAll_error table found cursor inside reads]
      simp only [reading, stands]
      rfl
    | ok lexeme =>
      rw [stands] at reads
      rw [scanAll_token table found cursor inside reads, ih _ _ onward]
      simp only [reading, stands]
      cases reading tail pieces <;> simp [Except.map]

theorem tokenize_arranged {source : String} {gap : List Char} {pieces : List Piece}
    {tail : Option (List Char)} (arranged : Arranged gap pieces tail source.toList) :
    scannedLexemes (tokenize source) = reading tail pieces := by
  have whole :=
    Cursor.scanAll_arranged (.ofText source.toList) arranged #[] ⟨source.toList, 0, 1⟩ rfl
  cases outcome : reading tail pieces <;> rw [outcome] at whole <;> exact whole

theorem Spelling.Piece.WellSpelled.lexeme_ne_endOfScript {piece : Piece}
    (spelled : piece.WellSpelled) : piece.lexeme ≠ .ok .endOfScript := by
  cases piece with
  | mark c lexeme =>
    rintro ⟨⟩
    simp [WellSpelled, marks] at spelled
  | quoted text =>
    intro same
    cases same
  | word word => exact classify_ne_endOfScript _

theorem Spelling.Piece.WellSpelled.identifier {piece : Piece} {name : String}
    (spelled : piece.WellSpelled) (named : piece.lexeme = .ok (.identifier name)) :
    piece = .word name.toList := by
  cases piece with
  | mark c lexeme =>
    cases named
    simp [WellSpelled, marks] at spelled
  | quoted text => cases named
  | word text => rw [eq_of_classify_identifier named, String.toList_ofList]

theorem Spelling.Arranged.endOfScript_not_mem {gap text : List Char} {pieces : List Piece}
    {tail : Option (List Char)} {lexemes : List Lexeme} (arranged : Arranged gap pieces tail text)
    (stand : StandFor pieces lexemes) : .endOfScript ∉ lexemes := by
  induction arranged generalizing lexemes with
  | complete | unclosed =>
    obtain rfl : lexemes = [] := by simpa [StandFor] using stand.symm
    exact List.not_mem_nil
  | next between spelled rest apart ih =>
    cases lexemes with
    | nil => exact List.not_mem_nil
    | cons lexeme lexemes =>
      obtain ⟨first, others⟩ := List.cons.inj stand
      rw [List.mem_cons, not_or]
      exact ⟨fun same => spelled.lexeme_ne_endOfScript (same ▸ first), ih others⟩

theorem scanned_ok {source : String} {gap : List Char} {pieces : List Piece}
    {lexemes : List Lexeme} (arranged : Arranged gap pieces none source.toList)
    (stand : StandFor pieces lexemes) :
    scannedLexemes (tokenize source) = .ok (lexemes ++ [.endOfScript]) := by
  rw [tokenize_arranged arranged, reading_of_standFor stand]
  rfl

theorem scanned_unterminated {source : String} {gap rest : List Char} {pieces : List Piece}
    {lexemes : List Lexeme} (arranged : Arranged gap pieces (some rest) source.toList)
    (stand : StandFor pieces lexemes) : scannedLexemes (tokenize source) =
      .error (.syntaxError ⟨.unterminatedString (String.ofList rest), none⟩) := by
  rw [tokenize_arranged arranged, reading_of_standFor stand]
  rfl

theorem scanned_numeral {source : String} {gap word : List Char} {front more : List Piece}
    {tail : Option (List Char)} {lexemes : List Lexeme} {failure : Numeral.Failure}
    (arranged : Arranged gap (front ++ .word word :: more) tail source.toList)
    (stand : StandFor front lexemes) (fails : classify (String.ofList word) = .error failure) :
    scannedLexemes (tokenize source) = .error (.numeral failure) := by
  rw [tokenize_arranged arranged, reading_of_failure stand fails]

theorem scanned_cases (source : String) :
    (∃ gap pieces lexemes, Arranged gap pieces none source.toList ∧ StandFor pieces lexemes ∧
      scannedLexemes (tokenize source) = .ok (lexemes ++ [.endOfScript])) ∨
    (∃ gap pieces lexemes rest, Arranged gap pieces (some rest) source.toList ∧
      StandFor pieces lexemes ∧ scannedLexemes (tokenize source) =
        .error (.syntaxError ⟨.unterminatedString (String.ofList rest), none⟩)) ∨
    (∃ gap front word more lexemes tail failure,
      Arranged gap (front ++ .word word :: more) tail source.toList ∧ StandFor front lexemes ∧
        classify (String.ofList word) = .error failure ∧
        scannedLexemes (tokenize source) = .error (.numeral failure)) := by
  obtain ⟨gap, pieces, tail, arranged⟩ := exists_arranged source.toList
  rcases standFor_or_failure pieces with
    ⟨lexemes, stand⟩ | ⟨front, word, more, lexemes, failure, rfl, stand, fails⟩
  · cases tail with
    | none => exact .inl ⟨gap, pieces, lexemes, arranged, stand, scanned_ok arranged stand⟩
    | some rest =>
      exact .inr (.inl ⟨gap, pieces, lexemes, rest, arranged, stand,
        scanned_unterminated arranged stand⟩)
  · exact .inr (.inr ⟨gap, front, word, more, lexemes, tail, failure, arranged, stand, fails,
      scanned_numeral arranged stand fails⟩)

theorem arranged_of_tokenize {source : String} {tokens : List Token}
    (read : tokenize source = .ok tokens) :
    ∃ gap pieces lexemes, Arranged gap pieces none source.toList ∧ StandFor pieces lexemes ∧
      tokens.map Token.lexeme = lexemes ++ [.endOfScript] := by
  rcases scanned_cases source with ⟨gap, pieces, lexemes, arranged, stand, scanned⟩ |
      ⟨_, _, _, _, _, _, scanned⟩ | ⟨_, _, _, _, _, _, _, _, _, _, scanned⟩
  · rw [read] at scanned
    exact ⟨gap, pieces, lexemes, arranged, stand, Except.ok.inj scanned⟩
  · rw [read] at scanned
    cases scanned
  · rw [read] at scanned
    cases scanned

namespace Spelling

/-- What a piece stands for by its form. -/
inductive Piece.Means : Piece → Lexeme → Prop
  | mark (c : Char) (lexeme : Lexeme) : Means (.mark c lexeme) lexeme
  | quoted (text : List Char) : Means (.quoted text) (.literal (.text (String.ofList text)))
  | word {text : List Char} {lexeme : Lexeme} (form : WordForm (String.ofList text) (.ok lexeme)) :
      Means (.word text) lexeme

theorem Piece.means_iff {piece : Piece} {lexeme : Lexeme} :
    piece.Means lexeme ↔ piece.lexeme = .ok lexeme := by
  constructor
  · intro means
    cases means with
    | mark | quoted => rfl
    | word form => exact classify_eq_iff_form.mpr form
  · intro stands
    cases piece with
    | mark | quoted =>
      cases stands
      constructor
    | word => exact .word (classify_eq_iff_form.mp stands)

theorem means_iff_standFor {pieces : List Piece} {lexemes : List Lexeme} :
    List.Forall₂ Piece.Means pieces lexemes ↔ StandFor pieces lexemes := by
  induction pieces generalizing lexemes with
  | nil => cases lexemes <;> simp [StandFor]
  | cons piece pieces ih =>
    cases lexemes with
    | nil => simp [StandFor]
    | cons lexeme lexemes =>
      rw [List.forall₂_cons, Piece.means_iff, ih]
      simp [StandFor]

end Spelling

theorem scanned_eq_ok_iff (source : String) (lexemes : List Lexeme) :
    scannedLexemes (tokenize source) = .ok (lexemes ++ [.endOfScript]) ↔
      ∃ gap pieces, Arranged gap pieces none source.toList ∧ StandFor pieces lexemes := by
  constructor
  · intro read
    rcases scanned_cases source with ⟨gap, pieces, found, arranged, stand, scanned⟩ |
        ⟨_, _, _, _, _, _, scanned⟩ | ⟨_, _, _, _, _, _, _, _, _, _, scanned⟩
    · obtain rfl : lexemes = found :=
        List.append_cancel_right (Except.ok.inj (read.symm.trans scanned))
      exact ⟨gap, pieces, arranged, stand⟩
    · cases read.symm.trans scanned
    · cases read.symm.trans scanned
  · rintro ⟨gap, pieces, arranged, stand⟩
    exact scanned_ok arranged stand

theorem scanned_eq_syntaxError_iff (source : String) (complaint : Complaint) :
    scannedLexemes (tokenize source) = .error (.syntaxError ⟨complaint, none⟩) ↔
      ∃ gap pieces lexemes rest, Arranged gap pieces (some rest) source.toList ∧
        StandFor pieces lexemes ∧ complaint = .unterminatedString (String.ofList rest) := by
  constructor
  · intro read
    rcases scanned_cases source with ⟨_, _, _, _, _, scanned⟩ |
        ⟨gap, pieces, found, rest, arranged, stand, scanned⟩ |
        ⟨_, _, _, _, _, _, _, _, _, _, scanned⟩
    · cases read.symm.trans scanned
    · cases read.symm.trans scanned
      exact ⟨gap, pieces, found, rest, arranged, stand, rfl⟩
    · cases read.symm.trans scanned
  · rintro ⟨gap, pieces, lexemes, rest, arranged, stand, rfl⟩
    exact scanned_unterminated arranged stand

theorem scanned_eq_numeral_iff (source : String) (failure : Numeral.Failure) :
    scannedLexemes (tokenize source) = .error (.numeral failure) ↔
      ∃ gap front word more lexemes tail,
        Arranged gap (front ++ .word word :: more) tail source.toList ∧ StandFor front lexemes ∧
          classify (String.ofList word) = .error failure := by
  constructor
  · intro read
    rcases scanned_cases source with ⟨_, _, _, _, _, scanned⟩ | ⟨_, _, _, _, _, _, scanned⟩ |
        ⟨gap, front, word, more, found, tail, cause, arranged, stand, fails, scanned⟩
    · cases read.symm.trans scanned
    · cases read.symm.trans scanned
    · cases read.symm.trans scanned
      exact ⟨gap, front, word, more, found, tail, arranged, stand, fails⟩
  · rintro ⟨gap, front, word, more, lexemes, tail, arranged, stand, fails⟩
    exact scanned_numeral arranged stand fails

/-- Scanning follows the spelling of its text. It finds what the pieces stand for by their forms and
then the end of the script, or it stops at the first piece that stands for nothing: a word, or a
quote without an end. The gaps make no difference. -/
theorem tokenize_iff_spelled (source : String) :
    (∀ lexemes,
      (∃ tokens, tokenize source = .ok tokens ∧
        tokens.map Token.lexeme = lexemes ++ [.endOfScript]) ↔
      ∃ gap pieces, Arranged gap pieces none source.toList ∧
        List.Forall₂ Piece.Means pieces lexemes) ∧
    (∀ tokens, tokenize source = .ok tokens →
      ∃ lexemes, tokens.map Token.lexeme = lexemes ++ [.endOfScript] ∧ .endOfScript ∉ lexemes) ∧
    (∀ complaint,
      (∃ place, tokenize source = .error (.syntaxError ⟨complaint, place⟩)) ↔
      ∃ gap pieces lexemes rest, Arranged gap pieces (some rest) source.toList ∧
        List.Forall₂ Piece.Means pieces lexemes ∧
          complaint = .unterminatedString (String.ofList rest)) ∧
    (∀ failure,
      tokenize source = .error (.numeral failure) ↔
      ∃ gap front word more lexemes tail,
        Arranged gap (front ++ .word word :: more) tail source.toList ∧
          List.Forall₂ Piece.Means front lexemes ∧ WordForm (String.ofList word) (.error failure)) ∧
    (∀ gap gap' pieces tail other,
      Arranged gap pieces tail source.toList → Arranged gap' pieces tail other.toList →
        scannedLexemes (tokenize source) = scannedLexemes (tokenize other)) := by
  simp only [means_iff_standFor, ← classify_eq_iff_form]
  refine ⟨?_, ?_, ?_, ?_, ?_⟩
  · intro lexemes
    rw [← scannedLexemes_eq_ok_iff]
    exact scanned_eq_ok_iff source lexemes
  · intro tokens read
    obtain ⟨_, _, lexemes, arranged, stand, found⟩ := arranged_of_tokenize read
    exact ⟨lexemes, found, arranged.endOfScript_not_mem stand⟩
  · intro complaint
    rw [← scannedLexemes_eq_syntaxError_iff]
    exact scanned_eq_syntaxError_iff source complaint
  · intro failure
    rw [← scannedLexemes_eq_numeral_iff]
    exact scanned_eq_numeral_iff source failure
  · intro gap gap' pieces tail other here there
    rw [tokenize_arranged here, tokenize_arranged there]

end CurryScript
