import Mathlib.Data.List.Forall2
import CurryScript.Proofs.Numerals

/-!
The forms of numerals that cannot be converted, said without reading them: integers with too many
digits, and names of special floats that are spelled with a dotted capital or a dotless small `i`.
-/
namespace CurryScript.Numeral

inductive Signed (body : List Char) : List Char → Prop
  | unsigned : Signed body body
  | plus : Signed body ('+' :: body)
  | minus : Signed body ('-' :: body)

theorem signed_splitSign (text : List Char) : Signed (splitSign text).2 text := by
  unfold splitSign
  split
  · exact .plus
  · exact .minus
  · exact .unsigned

theorem splitSign_of_signed {body text : List Char} (signed : Signed body text)
    (unsigned : ∀ c ∈ body.head?, c ≠ '+' ∧ c ≠ '-') : (splitSign text).2 = body := by
  cases signed with
  | plus | minus => rfl
  | unsigned =>
    unfold splitSign
    split
    · exact absurd rfl (unsigned _ rfl).1
    · exact absurd rfl (unsigned _ rfl).2
    · rfl

theorem ne_sign_of_isDigit {c : Char} (digit : isDigit c = true) : c ≠ '+' ∧ c ≠ '-' := by
  constructor <;> rintro rfl <;> contradiction

/-- A text is an optional sign and more digits than are converted. -/
def Overlong (text : String) (count : Nat) : Prop :=
  ∃ digits, Signed digits text.toList ∧ (∀ c ∈ digits, isDigit c = true) ∧
    digits.length = count ∧ digitLimit < count

theorem integer?_eq_error_iff {text : String} {failure : Failure} :
    integer? text = .error failure ↔
      ∃ count, failure = .tooManyDigits count ∧ Overlong text count := by
  constructor
  · intro failed
    have signed := signed_splitSign text.toList
    unfold integer? at failed
    generalize splitSign text.toList = parts at failed signed
    dsimp only at failed
    split at failed
    · cases failed
    · next shaped =>
      split at failed
      · next many =>
        cases failed
        simp only [Bool.or_eq_true, Bool.not_eq_true', not_or, Bool.not_eq_false] at shaped
        exact ⟨_, rfl, parts.2, signed, List.all_eq_true.mp shaped.2, rfl, many⟩
      · cases failed
  · rintro ⟨count, rfl, digits, signed, each, rfl, many⟩
    have split : (splitSign text.toList).2 = digits := by
      refine splitSign_of_signed signed fun c first => ?_
      exact ne_sign_of_isDigit (each c (List.mem_of_mem_head? first))
    have filled : digits.isEmpty = false := by
      cases digits with
      | nil => exact absurd many (Nat.not_lt_zero _)
      | cons => rfl
    simp [integer?, split, filled, List.all_eq_true.mpr each, many]

theorem toNat_toLower (c : Char) :
    c.toLower.toNat = if 65 ≤ c.toNat ∧ c.toNat ≤ 90 then c.toNat + 32 else c.toNat := by
  unfold Char.toLower
  split
  · next capital =>
    have bounds : 65 ≤ c.toNat ∧ c.toNat ≤ 90 := capital
    have most : c.val.toNat ≤ 90 := bounds.2
    have step : ('a'.val - 'A'.val).toNat = 32 := rfl
    rw [if_pos bounds]
    change (c.val + ('a'.val - 'A'.val)).toNat = c.val.toNat + 32
    rw [UInt32.toNat_add]
    omega
  · next other =>
    have bounds : ¬ (65 ≤ c.toNat ∧ c.toNat ≤ 90) := other
    rw [if_neg bounds]

theorem toNat_toUpper {c : Char} (small : 97 ≤ c.toNat ∧ c.toNat ≤ 122) :
    c.toUpper.toNat = c.toNat - 32 := by
  have inside : 'a'.val ≤ c.val ∧ c.val ≤ 'z'.val := small
  have least : 97 ≤ c.val.toNat := small.1
  have most : c.val.toNat ≤ 122 := small.2
  have step : ('A'.val - 'a'.val).toNat = 4294967264 := rfl
  unfold Char.toUpper
  rw [dif_pos inside]
  change (c.val + ('A'.val - 'a'.val)).toNat = c.val.toNat - 32
  rw [UInt32.toNat_add]
  omega

theorem toLower_eq_iff {c letter : Char} (small : 97 ≤ letter.toNat ∧ letter.toNat ≤ 122) :
    c.toLower = letter ↔ c = letter ∨ c = letter.toUpper := by
  simp only [← Char.toNat_inj, toNat_toLower, toNat_toUpper small]
  split <;> omega

/-- A character stands for a small letter without regard to case. If `turkish` is set, the dotless
small and the dotted capital `i` stand for that letter as well. -/
def Spells (turkish : Bool) (c letter : Char) : Prop :=
  c = letter ∨ c = letter.toUpper ∨ turkish = true ∧ letter = 'i' ∧ isTurkish c = true

def specialNames : List String := ["inf", "infinity", "nan"]

def specials : List (String × Special) :=
  [("inf", .infinity), ("infinity", .infinity), ("nan", .notANumber)]

def Names (turkish : Bool) (body : List Char) : Prop :=
  ∃ name ∈ specialNames, List.Forall₂ (Spells turkish) body name.toList

def SpecialName (turkish : Bool) (text : String) : Prop :=
  ∃ body, Signed body text.toList ∧ Names turkish body

theorem mem_specialNames {name : String} :
    name ∈ specialNames ↔ ∃ special, (name, special) ∈ specials := by
  simp [specialNames, specials, exists_or]

theorem small_of_special {name : String} (special : name ∈ specialNames) {letter : Char}
    (member : letter ∈ name.toList) : 97 ≤ letter.toNat ∧ letter.toNat ≤ 122 := by
  simp only [specialNames, List.mem_cons, List.not_mem_nil, or_false] at special
  rcases special with rfl | rfl | rfl <;> fin_cases member <;> decide

theorem spells_false_iff {c letter : Char} (small : 97 ≤ letter.toNat ∧ letter.toNat ≤ 122) :
    Spells false c letter ↔ Spells true c letter ∧ isTurkish c = false := by
  have ascii (turkish : isTurkish c = true) : 122 < c.toNat := by
    simp only [isTurkish, Bool.or_eq_true, beq_iff_eq] at turkish
    rcases turkish with rfl | rfl <;> decide
  have upper := toNat_toUpper small
  cases turkish : isTurkish c with
  | false => simp [Spells, turkish]
  | true =>
    have large := ascii turkish
    simp only [Spells, Bool.false_eq_true, false_and, or_false, Bool.true_eq_false, and_false,
      iff_false, not_or]
    constructor <;> rintro rfl <;> omega

theorem foldCase_eq_iff {c letter : Char} (small : 97 ≤ letter.toNat ∧ letter.toNat ≤ 122) :
    foldCase c = letter ↔ Spells true c letter := by
  have apart := spells_false_iff (c := c) small
  unfold foldCase
  cases turkish : isTurkish c with
  | false => simp [toLower_eq_iff small, Spells, turkish]
  | true =>
    simp only [turkish, Bool.true_eq_false, and_false, iff_false] at apart
    simp only [Spells, Bool.false_eq_true, false_and, or_false, not_or] at apart
    simp [Spells, turkish, apart, eq_comm]

section

variable {body letters : List Char}
  (small : ∀ letter ∈ letters, 97 ≤ letter.toNat ∧ letter.toNat ≤ 122)

include small

theorem map_foldCase_eq_iff :
    body.map foldCase = letters ↔ List.Forall₂ (Spells true) body letters := by
  induction body generalizing letters with
  | nil => cases letters <;> simp
  | cons c body ih =>
    cases letters with
    | nil => simp
    | cons letter letters =>
      rw [List.forall_mem_cons] at small
      simp [foldCase_eq_iff small.1, ih small.2]

theorem spelledPlainly_iff :
    List.Forall₂ (Spells false) body letters ↔
      List.Forall₂ (Spells true) body letters ∧ body.any isTurkish = false := by
  induction body generalizing letters with
  | nil => cases letters <;> simp
  | cons c body ih =>
    cases letters with
    | nil => simp
    | cons letter letters =>
      rw [List.forall_mem_cons] at small
      rw [List.forall₂_cons, List.forall₂_cons, List.any_cons, Bool.or_eq_false_iff,
        spells_false_iff small.1, ih small.2]
      exact and_and_and_comm

end

theorem special?_eq_some_iff {body : List Char} {special : Special} :
    special? body = some special ↔
      ∃ name, (name, special) ∈ specials ∧ List.Forall₂ (Spells true) body name.toList := by
  have spelled {name : String} (known : name ∈ specialNames) :
      body.map foldCase = name.toList ↔ List.Forall₂ (Spells true) body name.toList :=
    map_foldCase_eq_iff fun _ => small_of_special known
  constructor
  · intro read
    unfold special? at read
    dsimp only at read
    split at read
    · next infinite =>
      cases read
      rcases infinite with folded | folded
      · exact ⟨"inf", by simp [specials], (spelled (by simp [specialNames])).mp folded⟩
      · exact ⟨"infinity", by simp [specials], (spelled (by simp [specialNames])).mp folded⟩
    · split at read
      · next folded =>
        cases read
        exact ⟨"nan", by simp [specials], (spelled (by simp [specialNames])).mp folded⟩
      · cases read
  · rintro ⟨name, known, stands⟩
    have folded := (spelled (mem_specialNames.mpr ⟨special, known⟩)).mpr stands
    simp only [specials, List.mem_cons, Prod.mk.injEq, List.not_mem_nil, or_false] at known
    rcases known with ⟨rfl, rfl⟩ | ⟨rfl, rfl⟩ | ⟨rfl, rfl⟩ <;> simp [special?, folded]

theorem names_iff_special? {body : List Char} :
    Names true body ↔ (special? body).isSome = true := by
  rw [Option.isSome_iff_exists]
  constructor
  · rintro ⟨name, known, stands⟩
    obtain ⟨special, listed⟩ := mem_specialNames.mp known
    exact ⟨special, special?_eq_some_iff.mpr ⟨name, listed, stands⟩⟩
  · rintro ⟨special, read⟩
    obtain ⟨name, listed, stands⟩ := special?_eq_some_iff.mp read
    exact ⟨name, mem_specialNames.mpr ⟨special, listed⟩, stands⟩

theorem namedPlainly_iff {body : List Char} {name : String} (special : name ∈ specialNames) :
    List.Forall₂ (Spells false) body name.toList ↔
      List.Forall₂ (Spells true) body name.toList ∧ body.any isTurkish = false :=
  spelledPlainly_iff fun _ => small_of_special special

theorem names_false_iff {body : List Char} :
    Names false body ↔ Names true body ∧ body.any isTurkish = false := by
  constructor
  · rintro ⟨name, special, spelled⟩
    obtain ⟨wide, absent⟩ := (namedPlainly_iff special).mp spelled
    exact ⟨⟨name, special, wide⟩, absent⟩
  · rintro ⟨⟨name, special, wide⟩, absent⟩
    exact ⟨name, special, (namedPlainly_iff special).mpr ⟨wide, absent⟩⟩

theorem Names.head {body : List Char} (named : Names true body) :
    ∃ c rest, body = c :: rest ∧ c ≠ '+' ∧ c ≠ '-' ∧ c ≠ '.' ∧ isDigit c = false := by
  obtain ⟨name, special, spelled⟩ := named
  have first : ∃ letter letters, name.toList = letter :: letters ∧ (letter = 'i' ∨ letter = 'n') := by
    simp only [specialNames, List.mem_cons, List.not_mem_nil, or_false] at special
    rcases special with rfl | rfl | rfl <;> exact ⟨_, _, rfl, by decide⟩
  obtain ⟨letter, letters, whole, either⟩ := first
  rw [whole, List.forall₂_cons_right_iff] at spelled
  obtain ⟨c, rest, stands, -, rfl⟩ := spelled
  have known : c ∈ ['i', 'I', 'n', 'N', 'ı', 'İ'] := by
    simp only [Spells, isTurkish, Bool.or_eq_true, beq_iff_eq] at stands
    rcases either with rfl | rfl <;> rcases stands with rfl | rfl | ⟨-, same, rfl | rfl⟩ <;> decide
  exact ⟨c, rest, rfl, by fin_cases known <;> decide⟩

theorem specialName_iff {turkish : Bool} {text : String} :
    SpecialName turkish text ↔ Names turkish (splitSign text.toList).2 := by
  constructor
  · rintro ⟨body, signed, named⟩
    have wide : Names true body := by
      cases turkish with
      | true => exact named
      | false => exact (names_false_iff.mp named).1
    obtain ⟨c, rest, rfl, plus, minus, -⟩ := wide.head
    have split : (splitSign text.toList).2 = c :: rest := by
      refine splitSign_of_signed signed ?_
      rintro _ ⟨⟩
      exact ⟨plus, minus⟩
    rwa [split]
  · intro named
    exact ⟨_, signed_splitSign _, named⟩

theorem decimal?_of_names {body : List Char} (named : Names true body) : decimal? body = none := by
  obtain ⟨c, rest, rfl, -, -, point, digit⟩ := named.head
  simp [decimal?, digit, point]

theorem float?_eq_error_iff {text : String} {failure : Failure} :
    float? text = .error failure ↔
      failure = .notAFloat text ∧ SpecialName true text ∧ ¬ SpecialName false text := by
  rw [specialName_iff, specialName_iff, names_false_iff]
  unfold float?
  generalize splitSign text.toList = parts
  dsimp only
  constructor
  · intro failed
    split at failed
    · cases failed
    · next special _ named =>
      split at failed
      · next turkish =>
        cases failed
        exact ⟨rfl, names_iff_special?.mpr (by rw [named]; rfl), by simp [turkish]⟩
      · cases failed
    · cases failed
  · rintro ⟨rfl, named, unplain⟩
    have turkish : parts.2.any isTurkish = true := by
      by_contra plain
      exact unplain ⟨named, Bool.eq_false_iff.mpr plain⟩
    obtain ⟨special, found⟩ := Option.isSome_iff_exists.mp (names_iff_special?.mp named)
    rw [decimal?_of_names named, found]
    simp [turkish]

end CurryScript.Numeral
