import CurryScript.Token.Scan

/-!
The spelling of scripts, apart from any way of scanning. A script is an arrangement of pieces with
gaps around them: marks, quoted texts and words, parted by blanks and comments. Every text is such
an arrangement, but for a last quote that may have no end.
-/
namespace CurryScript.Spelling

/-- Blanks and comments. A comment runs up to a line break or, in the gap that ends a script, up to
the end. -/
inductive Gap (final : Bool) : List Char → Prop
  | none : Gap final []
  | blank {c : Char} {rest : List Char} (empty : Text.isBlank c = true) (more : Gap final rest) :
      Gap final (c :: rest)
  | comment {c : Char} {text rest : List Char} (inLine : ∀ d ∈ text, d ≠ '\r' ∧ d ≠ '\n')
      (ends : c = '\r' ∨ c = '\n') (more : Gap final (c :: rest)) :
      Gap final ('#' :: (text ++ c :: rest))
  | lastComment {text : List Char} (last : final = true)
      (inLine : ∀ d ∈ text, d ≠ '\r' ∧ d ≠ '\n') : Gap final ('#' :: text)

def marks : List (Char × Lexeme) :=
  [(':', .colon), (';', .semicolon), ('[', .openBracket), (']', .closeBracket)]

inductive Piece where
  | mark (c : Char) (lexeme : Lexeme)
  | quoted (text : List Char)
  | word (text : List Char)

namespace Piece

def chars : Piece → List Char
  | .mark c _ => [c]
  | .quoted text => '"' :: (text ++ ['"'])
  | .word text => text

def WellSpelled : Piece → Prop
  | .mark c lexeme => (c, lexeme) ∈ marks
  | .quoted text => '"' ∉ text
  | .word text =>
    text ≠ [] ∧ ∀ c ∈ text, Text.isBlank c = false ∧ c ∉ [':', ';', '[', ']', '"', '#']

def isWord : Piece → Bool
  | .word _ => true
  | _ => false

/-- What a piece stands for. Only a word can fail to stand for anything. -/
def lexeme : Piece → Except Numeral.Failure Lexeme
  | .mark _ lexeme => .ok lexeme
  | .quoted text => .ok (.literal (.text (String.ofList text)))
  | .word text => classify (String.ofList text)

end Piece

def startsWithWord (pieces : List Piece) : Bool := pieces.head?.any Piece.isWord

/-- A text as pieces with gaps around them, of which the first is told apart. Two words next to each
other have a gap between them that is not empty. After the last gap there may be a quote without an
end, with all that follows it. -/
inductive Arranged : List Char → List Piece → Option (List Char) → List Char → Prop
  | complete {gap : List Char} (between : Gap true gap) : Arranged gap [] none gap
  | unclosed {gap rest : List Char} (between : Gap false gap) (endless : '"' ∉ rest) :
      Arranged gap [] (some rest) (gap ++ '"' :: rest)
  | next {gap after text : List Char} {piece : Piece} {pieces : List Piece}
      {tail : Option (List Char)} (between : Gap false gap) (spelled : piece.WellSpelled)
      (rest : Arranged after pieces tail text)
      (apart : piece.isWord = true → startsWithWord pieces = true → after ≠ []) :
      Arranged gap (piece :: pieces) tail (gap ++ (piece.chars ++ text))

theorem isWordChar_iff (c : Char) : isWordChar c = true ↔
    Text.isBlank c = false ∧ c ∉ [':', ';', '[', ']', '"', '#'] := by
  simp [isWordChar, reserved]

theorem isBlank_of_break {c : Char} (ends : c = '\r' ∨ c = '\n') : Text.isBlank c = true := by
  rcases ends with rfl | rfl <;> decide

theorem endsComment_iff (c : Char) : endsComment c = true ↔ c = '\r' ∨ c = '\n' := by
  simp [endsComment]

theorem Gap.starts {final : Bool} {c : Char} {rest : List Char} (gap : Gap final (c :: rest)) :
    isWordChar c = false := by
  cases gap with
  | blank empty => simp [isWordChar, empty]
  | comment | lastComment => decide

theorem Piece.WellSpelled.starts {piece : Piece} (spelled : piece.WellSpelled) :
    ∃ c rest, piece.chars = c :: rest ∧ Text.isBlank c = false ∧ c ≠ '#' ∧
      isWordChar c = piece.isWord := by
  cases piece with
  | mark c lexeme =>
    have known : c ∈ marks.map (·.1) := List.mem_map_of_mem spelled
    simp only [marks, List.map_cons, List.map_nil, List.mem_cons, List.not_mem_nil,
      or_false] at known
    rcases known with rfl | rfl | rfl | rfl <;> exact ⟨_, _, rfl, by decide, by decide, rfl⟩
  | quoted text => exact ⟨_, _, rfl, by decide, by decide, rfl⟩
  | word text =>
    obtain ⟨nonempty, each⟩ := spelled
    cases text with
    | nil => contradiction
    | cons c rest =>
      have first := each c (List.mem_cons_self ..)
      refine ⟨c, rest, rfl, first.1, ?_, (isWordChar_iff c).mpr first⟩
      rintro rfl
      simp at first

theorem Arranged.starts_word {text : List Char} {pieces : List Piece} {tail : Option (List Char)}
    (arranged : Arranged [] pieces tail text) (word : startsWithWord pieces = true) :
    ∃ c rest, text = c :: rest ∧ isWordChar c = true := by
  cases arranged with
  | complete | unclosed => contradiction
  | @next _ after text piece pieces _ between spelled rest =>
    obtain ⟨c, more, chars, _, _, kind⟩ := spelled.starts
    exact ⟨c, more ++ text, by simp [chars], kind.trans word⟩

theorem Arranged.starts {gap text : List Char} {pieces : List Piece} {tail : Option (List Char)}
    (arranged : Arranged gap pieces tail text) (apart : startsWithWord pieces = true → gap ≠ []) :
    ∀ c ∈ text.head?, isWordChar c = false := by
  intro c first
  cases gap with
  | cons d more =>
    cases arranged with
    | complete between | unclosed between | next between =>
      cases Option.some.inj first
      exact between.starts
  | nil =>
    cases arranged with
    | complete => contradiction
    | unclosed =>
      cases Option.some.inj first
      decide
    | @next _ after text piece pieces _ between spelled rest =>
      obtain ⟨d, more, chars, _, _, kind⟩ := spelled.starts
      rw [chars] at first
      cases Option.some.inj first
      rw [kind]
      cases word : piece.isWord with
      | false => rfl
      | true => exact absurd rfl (apart (by simp [startsWithWord, word]))

theorem span_run {p : Char → Bool} {front back : List Char} (inside : ∀ c ∈ front, p c = true)
    (stops : ∀ c ∈ back.head?, p c = false) :
    (front ++ back).takeWhile p = front ∧ (front ++ back).dropWhile p = back := by
  rw [List.takeWhile_append_of_pos inside, List.dropWhile_append_of_pos inside]
  cases back with
  | nil => simp
  | cons c rest => simp [stops c rfl]

theorem exists_run (p : Char → Bool) (text : List Char) : ∃ front back, text = front ++ back ∧
    (∀ c ∈ front, p c = true) ∧
      (back = [] ∨ ∃ c more, back = c :: more ∧ p c = false) := by
  refine ⟨text.takeWhile p, text.dropWhile p, List.takeWhile_append_dropWhile.symm,
    List.all_eq_true.mp List.all_takeWhile, ?_⟩
  have stops := List.head?_dropWhile_not p text
  cases back : text.dropWhile p with
  | nil => exact .inl rfl
  | cons c more =>
    rw [back] at stops
    exact .inr ⟨c, more, rfl, stops⟩

theorem exists_gap (text : List Char) : ∃ gap rest, text = gap ++ rest ∧
    ((rest = [] ∧ Gap true gap) ∨
      (Gap false gap ∧ ∃ c more, rest = c :: more ∧ Text.isBlank c = false ∧ c ≠ '#')) := by
  induction size : text.length using Nat.strongRecOn generalizing text with
  | ind _ ih =>
    subst size
    cases text with
    | nil => exact ⟨[], [], rfl, .inl ⟨rfl, .none⟩⟩
    | cons c more =>
      cases empty : Text.isBlank c with
      | true =>
        obtain ⟨gap, rest, rfl, outcome⟩ := ih more.length (by simp) more rfl
        exact ⟨c :: gap, rest, rfl, outcome.imp (fun final => ⟨final.1, .blank empty final.2⟩)
          (fun inner => ⟨.blank empty inner.1, inner.2⟩)⟩
      | false =>
        by_cases comment : c = '#'
        · subst comment
          obtain ⟨text, back, rfl, inside, stops⟩ := exists_run (!endsComment ·) more
          have inLine : ∀ d ∈ text, d ≠ '\r' ∧ d ≠ '\n' := fun d member => by
            simpa [endsComment] using inside d member
          rcases stops with rfl | ⟨c, more, rfl, ends⟩
          · exact ⟨'#' :: text, [], by simp, .inl ⟨rfl, .lastComment rfl inLine⟩⟩
          · have ends : c = '\r' ∨ c = '\n' := (endsComment_iff c).mp (by simpa using ends)
            -- The line break is a blank of the gap that goes on after the comment.
            have empty := isBlank_of_break ends
            obtain ⟨gap, rest, rfl, outcome⟩ := ih more.length (by simp; omega) more rfl
            refine ⟨'#' :: (text ++ c :: gap), rest, by simp, outcome.imp ?_ ?_⟩
            · rintro ⟨final, between⟩
              exact ⟨final, .comment inLine ends (.blank empty between)⟩
            · rintro ⟨between, inner⟩
              exact ⟨.comment inLine ends (.blank empty between), inner⟩
        · exact ⟨[], c :: more, rfl, .inr ⟨.none, c, more, rfl, empty, comment⟩⟩

theorem punctuation_eq_some_iff {c : Char} {lexeme : Lexeme} :
    punctuation? c = some lexeme ↔ (c, lexeme) ∈ marks := by
  constructor
  · intro known
    unfold punctuation? at known
    split at known <;> simp_all [marks]
  · intro member
    simp only [marks, List.mem_cons, Prod.mk.injEq, List.not_mem_nil, or_false] at member
    rcases member with ⟨rfl, rfl⟩ | ⟨rfl, rfl⟩ | ⟨rfl, rfl⟩ | ⟨rfl, rfl⟩ <;> rfl

theorem isWordChar_of_plain {c : Char} (solid : Text.isBlank c = false) (noComment : c ≠ '#')
    (plain : punctuation? c = none) (noQuote : c ≠ '"') : isWordChar c = true := by
  refine (isWordChar_iff c).mpr ⟨solid, fun listed => ?_⟩
  simp only [List.mem_cons, List.not_mem_nil, or_false] at listed
  rcases listed with rfl | rfl | rfl | rfl | rfl | rfl <;> simp_all [punctuation?]

theorem exists_arranged (text : List Char) :
    ∃ gap pieces tail, Arranged gap pieces tail text := by
  induction size : text.length using Nat.strongRecOn generalizing text with
  | ind _ ih =>
    subst size
    obtain ⟨gap, rest, rfl, ⟨rfl, between⟩ | ⟨between, c, more, rfl, solid, noComment⟩⟩ :=
      exists_gap text
    · rw [List.append_nil]
      exact ⟨gap, [], none, .complete between⟩
    · have shorter (front back : List Char) (split : more = front ++ back) :
          back.length < (gap ++ c :: more).length := by
        simp only [split, List.length_append, List.length_cons]
        omega
      -- The character at the end of the gap tells which piece follows it.
      cases plain : punctuation? c with
      | some lexeme =>
        obtain ⟨after, pieces, tail, arranged⟩ := ih _ (shorter [] more rfl) more rfl
        have known := punctuation_eq_some_iff.mp plain
        exact ⟨gap, .mark c lexeme :: pieces, tail, .next between known arranged nofun⟩
      | none =>
        by_cases quote : c = '"'
        · subst quote
          obtain ⟨text, back, split, inside, stops⟩ := exists_run (· != '"') more
          have endless : '"' ∉ text := fun member => by simpa using inside _ member
          rcases stops with rfl | ⟨d, back, rfl, ends⟩
          · rw [split, List.append_nil]
            exact ⟨gap, [], some text, .unclosed between endless⟩
          · obtain rfl : d = '"' := by simpa using ends
            have split : more = (text ++ ['"']) ++ back := by simp [split]
            obtain ⟨after, pieces, tail, arranged⟩ := ih _ (shorter _ _ split) back rfl
            have spelled : (Piece.quoted text).WellSpelled := endless
            rw [split]
            exact ⟨gap, .quoted text :: pieces, tail, .next between spelled arranged nofun⟩
        · obtain ⟨text, back, split, inside, stops⟩ := exists_run isWordChar more
          obtain ⟨after, pieces, tail, arranged⟩ := ih _ (shorter _ _ split) back rfl
          have spelled : (Piece.word (c :: text)).WellSpelled := by
            refine ⟨List.cons_ne_nil c text, fun d member => (isWordChar_iff d).mp ?_⟩
            rcases List.mem_cons.mp member with rfl | member
            · exact isWordChar_of_plain solid noComment plain quote
            · exact inside d member
          rw [split]
          refine ⟨gap, .word (c :: text) :: pieces, tail, .next between spelled arranged ?_⟩
          rintro - word rfl
          obtain ⟨d, more, starts, wordStart⟩ := arranged.starts_word word
          rcases stops with rfl | ⟨d', more', rfl, stop⟩ <;> simp_all

end CurryScript.Spelling
