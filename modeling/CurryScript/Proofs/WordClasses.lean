import Mathlib.Data.Nat.Digits.Defs
import CurryScript.Proofs.NumeralForms
import CurryScript.Proofs.Spelling

/-!
The classes of words. Numerals are those texts that the grammar of numbers derives, integers with
the value that their digits have by place. A word is an integer, a float, a truth value or an
identifier, in this order.
-/
namespace CurryScript

namespace Numeral

def placeValue (digits : List Char) : Nat := Nat.ofDigits 10 (digits.reverse.map digitValue)

theorem natValue_eq_placeValue (digits : List Char) : natValue digits = placeValue digits := by
  rw [natValue, placeValue, Nat.ofDigits_eq_foldr, List.foldr_map, List.foldr_reverse]
  simp [Nat.add_comm]

/-- The signs that may stand before digits. None counts as plus. -/
def signs : List (List Char × Sign) := [([], .plus), (['+'], .plus), (['-'], .minus)]

theorem sign_of_splitSign (text : List Char) :
    ∃ mark, (mark, (splitSign text).1) ∈ signs ∧ text = mark ++ (splitSign text).2 := by
  unfold splitSign
  split
  · exact ⟨['+'], by simp [signs], rfl⟩
  · exact ⟨['-'], by simp [signs], rfl⟩
  · exact ⟨[], by simp [signs], rfl⟩

theorem splitSign_of_sign {mark body : List Char} {sign : Sign} (known : (mark, sign) ∈ signs)
    (unsigned : ∀ c ∈ body.head?, c ≠ '+' ∧ c ≠ '-') : splitSign (mark ++ body) = (sign, body) := by
  simp only [signs, List.mem_cons, Prod.mk.injEq, List.not_mem_nil, or_false] at known
  rcases known with ⟨rfl, rfl⟩ | ⟨rfl, rfl⟩ | ⟨rfl, rfl⟩
  · rw [List.nil_append]
    unfold splitSign
    split
    · exact absurd rfl (unsigned _ rfl).1
    · exact absurd rfl (unsigned _ rfl).2
    · rfl
  · rfl
  · rfl

theorem signed_of_sign {mark : List Char} {sign : Sign} (known : (mark, sign) ∈ signs)
    (body : List Char) : Signed body (mark ++ body) := by
  simp only [signs, List.mem_cons, Prod.mk.injEq, List.not_mem_nil, or_false] at known
  rcases known with ⟨rfl, _⟩ | ⟨rfl, _⟩ | ⟨rfl, _⟩
  · exact .unsigned
  · exact .plus
  · exact .minus

theorem unsigned_digits {digits : List Char} (each : ∀ c ∈ digits, isDigit c = true) :
    ∀ c ∈ digits.head?, c ≠ '+' ∧ c ≠ '-' :=
  fun c first => ne_sign_of_isDigit (each c (List.mem_of_mem_head? first))

/-- A text is an optional sign and no more digits than are converted, and these have the value. -/
def Denotes (text : String) (n : Int) : Prop :=
  ∃ mark sign digits, (mark, sign) ∈ signs ∧ text.toList = mark ++ digits ∧
    (∀ c ∈ digits, isDigit c = true) ∧ 1 ≤ digits.length ∧ digits.length ≤ digitLimit ∧
      n = sign.apply (placeValue digits)

theorem Denotes.integer? {text : String} {n : Int} (denoted : Denotes text n) :
    integer? text = .ok (if Word64.InRange n then some n else none) := by
  obtain ⟨mark, sign, digits, known, spelled, each, filled, short, rfl⟩ := denoted
  have split := splitSign_of_sign known (unsigned_digits each)
  have nonempty : digits ≠ [] := List.length_pos_iff.mp filled
  simp [Numeral.integer?, spelled, split, nonempty, List.all_eq_true.mpr each, Nat.not_lt.mpr short,
    natValue_eq_placeValue]

theorem integer?_eq_some_iff {text : String} {n : Int} :
    integer? text = .ok (some n) ↔ Denotes text n ∧ Word64.InRange n := by
  constructor
  · intro read
    have inRange := inRange_of_integer? read
    obtain ⟨mark, known, spelled⟩ := sign_of_splitSign text.toList
    unfold integer? at read
    generalize splitSign text.toList = parts at read known spelled
    dsimp only at read
    split at read
    · cases read
    · next shaped =>
      simp only [Bool.or_eq_true, Bool.not_eq_true', not_or, Bool.not_eq_false,
        List.isEmpty_iff] at shaped
      split at read
      · cases read
      · next short =>
        split at read
        · cases read
          refine ⟨⟨mark, parts.1, parts.2, known, spelled, List.all_eq_true.mp shaped.2, ?_,
            Nat.not_lt.mp short, by rw [natValue_eq_placeValue]⟩, inRange⟩
          exact List.length_pos_iff.mpr shaped.1
        · cases read
  · rintro ⟨denoted, inRange⟩
    rw [denoted.integer?, if_pos inRange]

theorem integer?_eq_none_iff {text : String} :
    integer? text = .ok none ↔
      (∀ n, Denotes text n → ¬ Word64.InRange n) ∧ ∀ count, ¬ Overlong text count := by
  constructor
  · intro read
    refine ⟨fun n denoted inRange => ?_, fun count overlong => ?_⟩
    · cases read.symm.trans (integer?_eq_some_iff.mpr ⟨denoted, inRange⟩)
    · cases read.symm.trans (integer?_eq_error_iff.mpr ⟨count, rfl, overlong⟩)
  · rintro ⟨outside, short⟩
    cases read : integer? text with
    | error failure =>
      obtain ⟨count, _, overlong⟩ := integer?_eq_error_iff.mp read
      exact absurd overlong (short count)
    | ok found =>
      cases found with
      | none => rfl
      | some n =>
        obtain ⟨denoted, inRange⟩ := integer?_eq_some_iff.mp read
        exact absurd inRange (outside n denoted)

/-- What may close a decimal, and its value: nothing, or a mark and digits with an optional sign. -/
inductive ExponentForm : List Char → Int → Prop
  | absent : ExponentForm [] 0
  | marked {mark : Char} {front digits : List Char} {sign : Sign} (known : mark = 'e' ∨ mark = 'E')
      (signed : (front, sign) ∈ signs) (filled : digits ≠ [])
      (each : ∀ c ∈ digits, isDigit c = true) :
      ExponentForm (mark :: (front ++ digits)) (sign.apply (placeValue digits))

/-- Digits, an optional point and more digits, or a point and digits, and the decimal they make. An
exponent may follow. -/
inductive DecimalForm : List Char → Decimal → Prop
  | whole {digits exponent : List Char} {e : Int} (filled : digits ≠ [])
      (each : ∀ c ∈ digits, isDigit c = true) (closed : ExponentForm exponent e) :
      DecimalForm (digits ++ exponent) ⟨digits, e⟩
  | point {whole fraction exponent : List Char} {e : Int} (filled : whole ≠ [])
      (each : ∀ c ∈ whole, isDigit c = true) (more : ∀ c ∈ fraction, isDigit c = true)
      (closed : ExponentForm exponent e) :
      DecimalForm (whole ++ '.' :: (fraction ++ exponent)) ⟨whole ++ fraction, e - fraction.length⟩
  | fraction {fraction exponent : List Char} {e : Int} (filled : fraction ≠ [])
      (each : ∀ c ∈ fraction, isDigit c = true) (closed : ExponentForm exponent e) :
      DecimalForm ('.' :: (fraction ++ exponent)) ⟨fraction, e - fraction.length⟩

def FloatForm (text : String) : Prop :=
  ∃ body, Signed body text.toList ∧ ((∃ decimal, DecimalForm body decimal) ∨ Names true body)

theorem ExponentForm.stops {text : List Char} {e : Int} (form : ExponentForm text e) :
    ∀ c ∈ text.head?, isDigit c = false ∧ c ≠ '.' := by
  cases form with
  | absent => simp
  | marked known =>
    rintro c ⟨⟩
    rcases known with rfl | rfl <;> decide

theorem exponent?_eq_some_iff {text : List Char} {e : Int} :
    exponent? text = some e ↔ ExponentForm text e := by
  constructor
  · intro read
    cases text with
    | nil =>
      cases read
      exact .absent
    | cons mark rest =>
      obtain ⟨front, signed, spelled⟩ := sign_of_splitSign rest
      simp only [exponent?] at read
      generalize splitSign rest = parts at read signed spelled
      subst spelled
      split at read
      · next marked =>
        simp only [Bool.and_eq_true, Bool.or_eq_true, beq_iff_eq, Bool.not_eq_true',
          List.isEmpty_eq_false_iff] at marked
        obtain ⟨⟨known, filled⟩, each⟩ := marked
        cases read
        rw [natValue_eq_placeValue]
        exact .marked known signed filled (List.all_eq_true.mp each)
      · cases read
  · intro form
    cases form with
    | absent => rfl
    | marked known signed filled each =>
      have split := splitSign_of_sign signed (unsigned_digits each)
      simp [exponent?, split, known, filled, List.all_eq_true.mpr each, natValue_eq_placeValue]

theorem decimal?_of_digits {digits rest : List Char} (each : ∀ c ∈ digits, isDigit c = true)
    (stops : ∀ c ∈ rest.head?, isDigit c = false ∧ c ≠ '.') :
    decimal? (digits ++ rest) =
      if digits.isEmpty then none else (exponent? rest).map (⟨digits, ·⟩) := by
  obtain ⟨front, back⟩ := Spelling.span_run each fun c first => (stops c first).1
  unfold decimal?
  rw [front, back]
  split
  · exact absurd rfl (stops _ rfl).2
  · rfl

theorem decimal?_of_point {whole fraction rest : List Char}
    (each : ∀ c ∈ whole, isDigit c = true) (more : ∀ c ∈ fraction, isDigit c = true)
    (stops : ∀ c ∈ rest.head?, isDigit c = false) :
    decimal? (whole ++ '.' :: (fraction ++ rest)) =
      if whole.isEmpty && fraction.isEmpty then none
      else (exponent? rest).map fun e => ⟨whole ++ fraction, e - fraction.length⟩ := by
  have point : ∀ c ∈ ('.' :: (fraction ++ rest)).head?, isDigit c = false := by
    rintro c ⟨⟩
    rfl
  obtain ⟨front, back⟩ := Spelling.span_run each point
  obtain ⟨middle, last⟩ := Spelling.span_run more stops
  simp only [decimal?, front, back, middle, last]

theorem head?_not_digit {rest : List Char}
    (after : rest = [] ∨ ∃ c more, rest = c :: more ∧ isDigit c = false) :
    ∀ c ∈ rest.head?, isDigit c = false := by
  rcases after with rfl | ⟨c, more, rfl, stop⟩
  · simp
  · simpa using stop

theorem decimalForm_of_decimal? {text : List Char} {decimal : Decimal}
    (read : decimal? text = some decimal) : DecimalForm text decimal := by
  obtain ⟨whole, rest, rfl, each, after⟩ := Spelling.exists_run isDigit text
  by_cases pointed : rest.head? = some '.'
  · obtain ⟨rest, rfl⟩ := List.head?_eq_some_iff.mp pointed
    obtain ⟨fraction, rest, rfl, more, after⟩ := Spelling.exists_run isDigit rest
    rw [decimal?_of_point each more (head?_not_digit after)] at read
    split at read
    · cases read
    · next filled =>
      obtain ⟨e, last, rfl⟩ := Option.map_eq_some_iff.mp read
      have closed := exponent?_eq_some_iff.mp last
      by_cases absent : whole = []
      · subst absent
        exact .fraction (by simpa using filled) more closed
      · exact .point absent each more closed
  · have stops : ∀ c ∈ rest.head?, isDigit c = false ∧ c ≠ '.' := by
      intro c first
      refine ⟨head?_not_digit after c first, ?_⟩
      rintro rfl
      exact pointed first
    rw [decimal?_of_digits each stops] at read
    split at read
    · cases read
    · next filled =>
      obtain ⟨e, last, rfl⟩ := Option.map_eq_some_iff.mp read
      exact .whole (by simpa using filled) each (exponent?_eq_some_iff.mp last)

theorem decimal?_eq_some_iff {text : List Char} {decimal : Decimal} :
    decimal? text = some decimal ↔ DecimalForm text decimal := by
  refine ⟨decimalForm_of_decimal?, fun form => ?_⟩
  cases form with
  | whole filled each closed =>
    rw [decimal?_of_digits each closed.stops]
    simp [filled, exponent?_eq_some_iff.mpr closed]
  | point filled each more closed =>
    rw [decimal?_of_point each more fun c first => (closed.stops c first).1]
    simp [filled, exponent?_eq_some_iff.mpr closed]
  | fraction filled each closed =>
    have none : ∀ c ∈ ([] : List Char), isDigit c = true := by simp
    have pointed := decimal?_of_point none each fun c first => (closed.stops c first).1
    rw [List.nil_append] at pointed
    simp [pointed, filled, exponent?_eq_some_iff.mpr closed]

theorem DecimalForm.unsigned {text : List Char} {decimal : Decimal}
    (form : DecimalForm text decimal) : ∀ c ∈ text.head?, c ≠ '+' ∧ c ≠ '-' := by
  cases form with
  | whole filled each | point filled each =>
    rw [List.head?_append_of_ne_nil _ filled]
    exact unsigned_digits each
  | fraction =>
    rintro c ⟨⟩
    decide

theorem floatForm_iff {text : String} :
    FloatForm text ↔ (decimal? (splitSign text.toList).2).isSome = true ∨
      (special? (splitSign text.toList).2).isSome = true := by
  rw [← names_iff_special?, Option.isSome_iff_exists]
  constructor
  · rintro ⟨body, signed, ⟨decimal, form⟩ | named⟩
    · rw [splitSign_of_signed signed form.unsigned]
      exact .inl ⟨decimal, decimal?_eq_some_iff.mpr form⟩
    · exact .inr (specialName_iff.mp ⟨body, signed, named⟩)
  · rintro (⟨decimal, read⟩ | named)
    · exact ⟨_, signed_splitSign _, .inl ⟨decimal, decimalForm_of_decimal? read⟩⟩
    · exact ⟨_, signed_splitSign _, .inr named⟩

theorem decimalForm_of_digits {digits : List Char} (filled : digits ≠ [])
    (each : ∀ c ∈ digits, isDigit c = true) : DecimalForm digits ⟨digits, 0⟩ := by
  have form : DecimalForm (digits ++ []) ⟨digits, 0⟩ := .whole filled each .absent
  rwa [List.append_nil] at form

theorem floatForm_of_digits {text : String} {digits : List Char}
    (signed : Signed digits text.toList) (filled : digits ≠ [])
    (each : ∀ c ∈ digits, isDigit c = true) : FloatForm text :=
  ⟨digits, signed, .inl ⟨_, decimalForm_of_digits filled each⟩⟩

theorem Denotes.floatForm {text : String} {n : Int} (denoted : Denotes text n) :
    FloatForm text := by
  obtain ⟨mark, sign, digits, known, spelled, each, filled, _⟩ := denoted
  exact floatForm_of_digits (spelled ▸ signed_of_sign known digits) (List.length_pos_iff.mp filled)
    each

theorem Overlong.floatForm {text : String} {count : Nat} (long : Overlong text count) :
    FloatForm text := by
  obtain ⟨digits, signed, each, rfl, many⟩ := long
  refine floatForm_of_digits signed ?_ each
  rintro rfl
  exact absurd many (Nat.not_lt_zero _)

theorem float?_eq_none_iff {text : String} : float? text = .ok none ↔ ¬ FloatForm text := by
  rw [floatForm_iff, not_or]
  unfold float?
  generalize splitSign text.toList = parts
  dsimp only
  split
  · next read => simp [read]
  · next special none named =>
    split <;> simp [named]
  · next noDecimal noName => simp [noDecimal, noName]

inductive SizeForm : List Char → Float → Prop
  | decimal {body : List Char} {decimal : Decimal} (form : DecimalForm body decimal) :
      SizeForm body decimal.toFloat
  | special {body : List Char} {name : String} {special : Special}
      (known : (name, special) ∈ specials)
      (spelled : List.Forall₂ (Spells false) body name.toList) : SizeForm body special.toFloat

/-- A text is an optional sign and a float numeral, and these have the value. -/
def Measures (text : String) (x : Float) : Prop :=
  ∃ mark sign body size, (mark, sign) ∈ signs ∧ text.toList = mark ++ body ∧ SizeForm body size ∧
    x = sign.applyFloat size

theorem SizeForm.read {body : List Char} {size : Float} (form : SizeForm body size) :
    (∀ c ∈ body.head?, c ≠ '+' ∧ c ≠ '-') ∧
      ∀ text sign, splitSign (String.toList text) = (sign, body) →
        float? text = .ok (some (sign.applyFloat size)) := by
  cases form with
  | decimal form =>
    refine ⟨form.unsigned, fun text sign split => ?_⟩
    simp [float?, split, decimal?_eq_some_iff.mpr form]
  | @special name special known spelled =>
    have listed := mem_specialNames.mpr ⟨special, known⟩
    obtain ⟨wide, plain⟩ := (namedPlainly_iff listed).mp spelled
    have found := special?_eq_some_iff.mpr ⟨name, known, wide⟩
    have named : Names true _ := ⟨name, listed, wide⟩
    obtain ⟨c, rest, rfl, plus, minus, _⟩ := named.head
    refine ⟨by simp [plus, minus], fun text sign split => ?_⟩
    simp [float?, split, decimal?_of_names named, found, plain]

theorem float?_eq_some_iff {text : String} {x : Float} :
    float? text = .ok (some x) ↔ Measures text x := by
  constructor
  · intro read
    obtain ⟨mark, known, spelled⟩ := sign_of_splitSign text.toList
    unfold float? at read
    generalize splitSign text.toList = parts at read known spelled
    dsimp only at read
    split at read
    · next decimal found =>
      cases read
      have form := decimalForm_of_decimal? found
      exact ⟨mark, parts.1, parts.2, _, known, spelled, .decimal form, rfl⟩
    · next special _ found =>
      split at read
      · cases read
      · next plain =>
        cases read
        obtain ⟨name, listed, wide⟩ := special?_eq_some_iff.mp found
        have narrow := (namedPlainly_iff (mem_specialNames.mpr ⟨special, listed⟩)).mpr
          ⟨wide, Bool.eq_false_iff.mpr plain⟩
        exact ⟨mark, parts.1, parts.2, _, known, spelled, .special listed narrow, rfl⟩
    · cases read
  · rintro ⟨mark, sign, body, size, known, spelled, form, rfl⟩
    obtain ⟨unsigned, reads⟩ := form.read
    exact reads text sign (spelled ▸ splitSign_of_sign known unsigned)

/-- An integer out of range is a decimal all the same. -/
theorem Denotes.float? {text : String} {n : Int} (denoted : Denotes text n) :
    ∃ x, float? text = .ok (some x) := by
  obtain ⟨mark, sign, digits, known, spelled, each, filled, _⟩ := denoted
  have form := decimalForm_of_digits (List.length_pos_iff.mp filled) each
  exact ⟨_, float?_eq_some_iff.mpr ⟨mark, sign, digits, _, known, spelled, .decimal form, rfl⟩⟩

theorem integer?_of_specialName {text : String} (named : SpecialName true text) :
    integer? text = .ok none := by
  obtain ⟨body, signed, names⟩ := named
  obtain ⟨c, rest, rfl, plus, minus, _, digit⟩ := names.head
  have member : c ∈ text.toList := by
    generalize text.toList = chars at signed
    cases signed <;> simp
  exact integer?_eq_none member ⟨plus, minus⟩ digit

end Numeral

open Numeral

/-- What a word stands for, by the readings that are tried in turn. -/
inductive Classified (word : String) : Except Failure Lexeme → Prop
  | integer {n : Int} (read : integer? word = .ok (some n)) :
      Classified word (.ok (.literal (.int n)))
  | integerFailure {failure : Failure} (failed : integer? word = .error failure) :
      Classified word (.error failure)
  | float {x : Float} (noInteger : integer? word = .ok none)
      (read : float? word = .ok (some x)) : Classified word (.ok (.literal (.float x)))
  | floatFailure {failure : Failure} (noInteger : integer? word = .ok none)
      (failed : float? word = .error failure) : Classified word (.error failure)
  | bool {value : Bool} (noInteger : integer? word = .ok none)
      (noFloat : float? word = .ok none) (spelled : word = toString value) :
      Classified word (.ok (.literal (.bool value)))
  | identifier (noInteger : integer? word = .ok none)
      (noFloat : float? word = .ok none) (noBool : ∀ value : Bool, word ≠ toString value) :
      Classified word (.ok (.identifier word))

theorem classified (word : String) : Classified word (classify word) := by
  simp only [classify, bind, Except.bind, pure, Except.pure]
  cases first : integer? word with
  | error failure => exact .integerFailure first
  | ok integer =>
    cases integer with
    | some n => exact .integer first
    | none =>
      cases second : float? word with
      | error failure => exact .floatFailure first second
      | ok float =>
        cases float with
        | some x => exact .float first second
        | none =>
          dsimp only
          split
          · next same => exact .bool first second same
          · next notTrue =>
            split
            · next same => exact .bool first second same
            · next notFalse =>
              exact .identifier first second (Bool.forall_bool.mpr ⟨notFalse, notTrue⟩)

theorem eq_of_classify_identifier {word name : String}
    (known : classify word = .ok (.identifier name)) : name = word := by
  have found := classified word
  rw [known] at found
  cases found
  rfl

theorem classify_ne_endOfScript (word : String) : classify word ≠ .ok .endOfScript := by
  intro same
  have found := classified word
  rw [same] at found
  cases found

theorem classify_eq_iff {word : String} {outcome : Except Failure Lexeme} :
    classify word = outcome ↔ Classified word outcome := by
  constructor
  · rintro rfl
    exact classified word
  · intro found
    cases found with
    | integer read => simp [classify, read, bind, Except.bind, pure, Except.pure]
    | integerFailure failed => simp [classify, failed, bind, Except.bind]
    | float noInteger read => simp [classify, noInteger, read, bind, Except.bind, pure, Except.pure]
    | floatFailure noInteger failed => simp [classify, noInteger, failed, bind, Except.bind]
    | @bool value noInteger noFloat spelled =>
      subst spelled
      cases value <;> rfl
    | identifier noInteger noFloat noBool =>
      have notTrue : word ≠ "true" := noBool true
      have notFalse : word ≠ "false" := noBool false
      simp [classify, noInteger, noFloat, notTrue, notFalse, bind, Except.bind, pure, Except.pure]

theorem classify_eq_int_iff {word : String} {n : Int} :
    classify word = .ok (.literal (.int n)) ↔ integer? word = .ok (some n) := by
  rw [classify_eq_iff]
  refine ⟨fun found => ?_, .integer⟩
  cases found
  assumption

theorem classify_eq_float_iff {word : String} {x : Float} :
    classify word = .ok (.literal (.float x)) ↔
      integer? word = .ok none ∧ float? word = .ok (some x) := by
  rw [classify_eq_iff]
  refine ⟨fun found => ?_, fun read => .float read.1 read.2⟩
  cases found with
  | float noInteger read => exact ⟨noInteger, read⟩

theorem classify_eq_bool_iff {word : String} {value : Bool} :
    classify word = .ok (.literal (.bool value)) ↔ word = toString value := by
  constructor
  · intro known
    cases classify_eq_iff.mp known
    assumption
  · rintro rfl
    cases value <;> rfl

theorem classify_eq_identifier_iff {word name : String} :
    classify word = .ok (.identifier name) ↔ name = word ∧ integer? word = .ok none ∧
      float? word = .ok none ∧ word ≠ "true" ∧ word ≠ "false" := by
  rw [classify_eq_iff]
  constructor
  · intro found
    cases found with
    | identifier noInteger noFloat noBool =>
      exact ⟨rfl, noInteger, noFloat, noBool true, noBool false⟩
  · rintro ⟨rfl, noInteger, noFloat, notTrue, notFalse⟩
    exact .identifier noInteger noFloat (Bool.forall_bool.mpr ⟨notFalse, notTrue⟩)

theorem classify_eq_error_iff {word : String} {failure : Failure} :
    classify word = .error failure ↔
      (∃ count, failure = .tooManyDigits count ∧ Overlong word count) ∨
        failure = .notAFloat word ∧ SpecialName true word ∧ ¬ SpecialName false word := by
  rw [classify_eq_iff, ← integer?_eq_error_iff, ← float?_eq_error_iff]
  constructor
  · intro found
    cases found with
    | integerFailure failed => exact .inl failed
    | floatFailure _ failed => exact .inr failed
  · rintro (failed | failed)
    · exact .integerFailure failed
    · have named := (float?_eq_error_iff.mp failed).2.1
      exact .floatFailure (integer?_of_specialName named) failed

/-- What a word stands for by its form. -/
inductive WordForm (word : String) : Except Failure Lexeme → Prop
  | integer {n : Int} (denoted : Denotes word n) (inRange : Word64.InRange n) :
      WordForm word (.ok (.literal (.int n)))
  | overlong {count : Nat} (long : Overlong word count) :
      WordForm word (.error (.tooManyDigits count))
  | float {x : Float} (measured : Measures word x)
      (outside : ∀ n, Denotes word n → ¬ Word64.InRange n)
      (short : ∀ count, ¬ Overlong word count) : WordForm word (.ok (.literal (.float x)))
  | misnamed (named : SpecialName true word) (notPlainly : ¬ SpecialName false word) :
      WordForm word (.error (.notAFloat word))
  | bool {value : Bool} (spelled : word = toString value) :
      WordForm word (.ok (.literal (.bool value)))
  | identifier (noNumber : ¬ FloatForm word) (noBool : ∀ value : Bool, word ≠ toString value) :
      WordForm word (.ok (.identifier word))

theorem Classified.form {word : String} {outcome : Except Failure Lexeme}
    (found : Classified word outcome) : WordForm word outcome := by
  cases found with
  | integer read =>
    obtain ⟨denoted, inRange⟩ := integer?_eq_some_iff.mp read
    exact .integer denoted inRange
  | integerFailure failed =>
    obtain ⟨count, rfl, long⟩ := integer?_eq_error_iff.mp failed
    exact .overlong long
  | float noInteger read =>
    obtain ⟨outside, short⟩ := integer?_eq_none_iff.mp noInteger
    exact .float (float?_eq_some_iff.mp read) outside short
  | floatFailure _ failed =>
    obtain ⟨rfl, named, notPlainly⟩ := float?_eq_error_iff.mp failed
    exact .misnamed named notPlainly
  | bool _ _ spelled => exact .bool spelled
  | identifier _ noFloat noBool => exact .identifier (float?_eq_none_iff.mp noFloat) noBool

theorem classify_eq_iff_form {word : String} {outcome : Except Failure Lexeme} :
    classify word = outcome ↔ WordForm word outcome := by
  rw [classify_eq_iff]
  constructor
  · exact Classified.form
  · intro form
    cases form with
    | integer denoted inRange => exact .integer (integer?_eq_some_iff.mpr ⟨denoted, inRange⟩)
    | overlong long => exact .integerFailure (integer?_eq_error_iff.mpr ⟨_, rfl, long⟩)
    | float measured outside short =>
      exact .float (integer?_eq_none_iff.mpr ⟨outside, short⟩) (float?_eq_some_iff.mpr measured)
    | misnamed named notPlainly =>
      exact .floatFailure (integer?_of_specialName named)
        (float?_eq_error_iff.mpr ⟨rfl, named, notPlainly⟩)
    | bool spelled => exact classify_eq_iff.mp (classify_eq_bool_iff.mpr spelled)
    | identifier noNumber noBool =>
      have noInteger : integer? word = .ok none := by
        rw [integer?_eq_none_iff]
        exact ⟨fun n denoted => absurd denoted.floatForm noNumber,
          fun count long => absurd long.floatForm noNumber⟩
      exact .identifier noInteger (float?_eq_none_iff.mpr noNumber) noBool

/-- Integers and floats are recognised by their forms, and words are classified by them: a word is
an integer, else a float, else a truth value, else an identifier, unless it is one of those that
look like a number and have no value. -/
theorem words_classified_by_form (text : String) :
    (∀ n, integer? text = .ok (some n) ↔ Denotes text n ∧ Word64.InRange n) ∧
    (∀ failure, integer? text = .error failure ↔
      ∃ count, failure = .tooManyDigits count ∧ Overlong text count) ∧
    (integer? text = .ok none ↔
      (∀ n, Denotes text n → ¬ Word64.InRange n) ∧ ∀ count, ¬ Overlong text count) ∧
    (float? text = .ok none ↔ ¬ FloatForm text) ∧
    (∀ n, classify text = .ok (.literal (.int n)) ↔ integer? text = .ok (some n)) ∧
    (∀ x, classify text = .ok (.literal (.float x)) ↔
      integer? text = .ok none ∧ float? text = .ok (some x)) ∧
    (∀ n, Denotes text n → ¬ Word64.InRange n → ∃ x, classify text = .ok (.literal (.float x))) ∧
    (classify text = .ok (.literal (.bool true)) ↔ text = "true") ∧
    (classify text = .ok (.literal (.bool false)) ↔ text = "false") ∧
    (∀ name, classify text = .ok (.identifier name) ↔ name = text ∧ integer? text = .ok none ∧
      float? text = .ok none ∧ text ≠ "true" ∧ text ≠ "false") ∧
    ∀ failure, classify text = .error failure ↔
      (∃ count, failure = .tooManyDigits count ∧ Overlong text count) ∨
        failure = .notAFloat text ∧ SpecialName true text ∧ ¬ SpecialName false text := by
  refine ⟨fun n => integer?_eq_some_iff, fun failure => integer?_eq_error_iff, integer?_eq_none_iff,
    float?_eq_none_iff, fun n => classify_eq_int_iff, fun x => classify_eq_float_iff,
    fun n denoted outside => ?_, classify_eq_bool_iff, classify_eq_bool_iff,
    fun name => classify_eq_identifier_iff, fun failure => classify_eq_error_iff⟩
  obtain ⟨x, read⟩ := denoted.float?
  refine ⟨x, classify_eq_float_iff.mpr ⟨?_, read⟩⟩
  rw [denoted.integer?, if_neg outside]

/-- The integer after the greatest is read as a float. -/
theorem integer_after_greatest_is_float :
    Denotes "9223372036854775808" (Word64.greatest + 1) ∧
      ¬ Word64.InRange (Word64.greatest + 1) ∧
      ∃ x, classify "9223372036854775808" = .ok (.literal (.float x)) := by
  have denoted : Denotes "9223372036854775808" (Word64.greatest + 1) :=
    ⟨[], .plus, "9223372036854775808".toList, by simp [signs], rfl, by simp [isDigit], by decide,
      by decide, by decide⟩
  have outside : ¬ Word64.InRange (Word64.greatest + 1) := by decide
  obtain ⟨_, _, _, _, _, _, becomes, _⟩ := words_classified_by_form "9223372036854775808"
  exact ⟨denoted, outside, becomes _ denoted outside⟩

/-- A word that is no integer, of which no float is read, and that is no identifier either. -/
theorem dotless_name_stands_for_nothing :
    "ınf" ≠ "" ∧ (∀ c ∈ "ınf".toList, isWordChar c = true) ∧ integer? "ınf" = .ok none ∧
      (∀ x, float? "ınf" ≠ .ok (some x)) ∧ ∀ lexeme, classify "ınf" ≠ .ok lexeme := by
  have unread : float? "ınf" = .error (.notAFloat "ınf") := rfl
  have unknown : classify "ınf" = .error (.notAFloat "ınf") := rfl
  refine ⟨by simp, ?_, rfl, by simp [unread], by simp [unknown]⟩
  simp [isWordChar, Text.isBlank, Text.blankRanges, reserved]

end CurryScript
