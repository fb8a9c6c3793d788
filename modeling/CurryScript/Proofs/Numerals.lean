import Mathlib.Tactic.FinCases
import CurryScript.Token.Scan

/-!
The texts of numbers. An integer of 64 bits is what its decimal text denotes. The text of a float is
one word and never has the shape of an integer.
-/
namespace CurryScript

namespace Numeral

theorem isDigit_of_mem_toDigits {n : Nat} {c : Char} (member : c ∈ Nat.toDigits 10 n) :
    isDigit c = true :=
  Nat.isDigit_of_mem_toDigits (by decide) (by decide) member

theorem natValue_toDigits (n : Nat) : natValue (Nat.toDigits 10 n) = n :=
  Nat.ofDigitChars_toDigits (by decide) (by decide)

theorem isWordChar_of_isDigit {c : Char} (digit : isDigit c = true) : isWordChar c = true := by
  have bounds : 48 ≤ c.toNat ∧ c.toNat ≤ 57 := by
    simpa [isDigit, Char.le_def, UInt32.le_iff_toNat_le] using digit
  have solid : Text.isBlank c = false := by
    simp [Text.isBlank, Text.blankRanges]
    omega
  have free : c ∉ reserved := by
    simp only [reserved, List.mem_cons, List.not_mem_nil, or_false]
    rintro (rfl | rfl | rfl | rfl | rfl | rfl) <;> exact absurd bounds (by decide)
  simp [isWordChar, solid, free]

theorem splitSign_of_digit {c : Char} (digit : isDigit c = true) (rest : List Char) :
    splitSign (c :: rest) = (.plus, c :: rest) := by
  unfold splitSign
  split
  · simp_all [isDigit]
  · simp_all [isDigit]
  · rfl

theorem length_toDigits_le {n : Nat} {sign : Sign} (inRange : Word64.InRange (sign.apply n)) :
    (Nat.toDigits 10 n).length ≤ digitLimit := by
  have small : n < 10 ^ 19 := by
    cases sign <;> simp only [Word64.InRange, Word64.least, Word64.greatest, Sign.apply] at inRange <;>
      omega
  have short : (Nat.toDigits 10 n).length ≤ 19 :=
    (Nat.length_toDigits_le_iff (by decide) (by decide)).mpr small
  exact Nat.le_trans short (by decide)

theorem integer?_of_split {text : String} {sign : Sign} {n : Nat}
    (split : splitSign text.toList = (sign, Nat.toDigits 10 n))
    (inRange : Word64.InRange (sign.apply n)) : integer? text = .ok (some (sign.apply n)) := by
  have nonempty : (Nat.toDigits 10 n).isEmpty = false := by
    simp [Nat.toDigits_ne_nil]
  have digits : (Nat.toDigits 10 n).all isDigit = true :=
    List.all_eq_true.mpr fun _ => isDigit_of_mem_toDigits
  have short := Nat.not_lt.mpr (length_toDigits_le inRange)
  simp only [integer?, split, nonempty, digits, natValue_toDigits]
  simp [short, inRange]

theorem toList_toString (n : Int) :
    (toString n).toList = (if n < 0 then ['-'] else []) ++ Nat.toDigits 10 n.natAbs := by
  cases n with
  | ofNat n =>
    rw [if_neg (by simp)]
    exact Nat.toList_repr
  | negSucc n =>
    have written : toString (Int.negSucc n) = "-" ++ (n + 1).repr := rfl
    rw [written, String.toList_append, Nat.toList_repr, if_pos (Int.negSucc_lt_zero n)]
    rfl

theorem isWordChar_of_mem_toString {n : Int} {c : Char} (member : c ∈ (toString n).toList) :
    isWordChar c = true := by
  rw [toList_toString, List.mem_append] at member
  rcases member with sign | digit
  · split at sign
    · obtain rfl := List.mem_singleton.mp sign
      decide
    · contradiction
  · exact isWordChar_of_isDigit (isDigit_of_mem_toDigits digit)

theorem integer?_toString {n : Int} (inRange : Word64.InRange n) :
    integer? (toString n) = .ok (some n) := by
  by_cases negative : n < 0
  · have split : splitSign (toString n).toList = (.minus, Nat.toDigits 10 n.natAbs) := by
      rw [toList_toString, if_pos negative]
      rfl
    have same : Sign.minus.apply n.natAbs = n := by
      simp only [Sign.apply]
      omega
    have read := integer?_of_split split (same.symm ▸ inRange)
    rwa [same] at read
  · have split : splitSign (toString n).toList = (.plus, Nat.toDigits 10 n.natAbs) := by
      rw [toList_toString, if_neg negative, List.nil_append]
      cases digits : Nat.toDigits 10 n.natAbs with
      | nil => exact absurd digits Nat.toDigits_ne_nil
      | cons c rest =>
        have member : c ∈ Nat.toDigits 10 n.natAbs := digits ▸ List.mem_cons_self
        exact splitSign_of_digit (isDigit_of_mem_toDigits member) rest
    have same : Sign.plus.apply n.natAbs = n := by
      simp only [Sign.apply]
      omega
    have read := integer?_of_split split (same.symm ▸ inRange)
    rwa [same] at read

theorem mem_splitSign {text : List Char} {c : Char} (member : c ∈ text)
    (unsigned : c ≠ '+' ∧ c ≠ '-') : c ∈ (splitSign text).2 := by
  unfold splitSign
  split
  · exact (List.mem_cons.mp member).resolve_left unsigned.1
  · exact (List.mem_cons.mp member).resolve_left unsigned.2
  · exact member

theorem integer?_eq_none {text : String} {c : Char} (member : c ∈ text.toList)
    (unsigned : c ≠ '+' ∧ c ≠ '-') (other : isDigit c = false) : integer? text = .ok none := by
  have inside := mem_splitSign member unsigned
  have mixed : (splitSign text.toList).2.all isDigit = false :=
    List.all_eq_false.mpr ⟨c, inside, by simp [other]⟩
  simp [integer?, mixed]

end Numeral

namespace Decimal
open Numeral

/-- A text made of what floats are written with. At least one of its characters shows that it is not
an integer. -/
structure FloatText (text : List Char) : Prop where
  chars : ∀ c ∈ text, isDigit c = true ∨ c ∈ ['.', 'e', '+', '-', 'i', 'n', 'f', 'a']
  marked : ∃ c ∈ text, c ∈ ['.', 'e', 'i', 'n']

namespace FloatText

theorem of_digits {front back : List Char} {mark : Char} (known : mark ∈ ['.', 'e', 'i', 'n'])
    (before : ∀ c ∈ front, isDigit c = true ∨ c = '.')
    (after : ∀ c ∈ back, isDigit c = true ∨ c = '+' ∨ c = '-') :
    FloatText (front ++ mark :: back) := by
  refine ⟨?_, mark, by simp, known⟩
  intro c member
  rw [List.mem_append, List.mem_cons] at member
  rcases member with early | rfl | late
  · exact (before c early).imp_right fun same => by simp [same]
  · refine .inr ?_
    fin_cases known <;> simp
  · refine (after c late).imp_right ?_
    rintro (rfl | rfl) <;> simp

theorem signed {text : List Char} (written : FloatText text) {sign : List Char}
    (signs : ∀ c ∈ sign, c = '-') : FloatText (sign ++ text) := by
  obtain ⟨chars, mark, member, known⟩ := written
  refine ⟨?_, mark, List.mem_append_right sign member, known⟩
  intro c inside
  rcases List.mem_append.mp inside with first | later
  · simp [signs c first]
  · exact chars c later

theorem isWordChar {text : List Char} (written : FloatText text) {c : Char} (member : c ∈ text) :
    isWordChar c = true := by
  rcases written.chars c member with digit | other
  · exact isWordChar_of_isDigit digit
  · fin_cases other <;> decide

theorem integer?_eq_none {text : String} (written : FloatText text.toList) :
    integer? text = .ok none := by
  obtain ⟨c, member, mark⟩ := written.marked
  have plain : (c ≠ '+' ∧ c ≠ '-') ∧ isDigit c = false := by
    fin_cases mark <;> decide
  exact Numeral.integer?_eq_none member plain.1 plain.2

end FloatText

theorem isDigit_of_mem_zeros {count : Nat} {c : Char} (member : c ∈ zeros count) :
    isDigit c = true := by
  obtain rfl := List.eq_of_mem_replicate member
  rfl

section

variable {digits : List Char} (decimal : ∀ c ∈ digits, isDigit c = true) (e : Int)

include decimal

theorem floatText_positional : FloatText (positional digits e) := by
  have padded {c : Char} {count : Nat} (member : c ∈ digits ∨ c ∈ zeros count) :
      isDigit c = true :=
    member.elim (decimal c) isDigit_of_mem_zeros
  unfold positional
  split
  · have written : FloatText (['0'] ++ '.' :: (zeros (-e - 1).toNat ++ digits)) := by
      refine .of_digits (by simp) (by simp [isDigit]) fun c member => .inl ?_
      exact padded (List.mem_append.mp member).symm
    exact written
  · dsimp only
    split
    · have written (count : Nat) : FloatText ((digits ++ zeros count) ++ '.' :: ['0']) := by
        refine .of_digits (by simp) (fun c member => .inl ?_) (by simp [isDigit])
        exact padded (List.mem_append.mp member)
      exact written _
    · refine .of_digits (by simp) (fun c member => .inl ?_) (fun c member => .inl ?_)
      · exact decimal c (List.mem_of_mem_take member)
      · exact decimal c (List.mem_of_mem_drop member)

theorem floatText_scientific (width : Nat) : FloatText (scientific width digits e) := by
  unfold scientific
  refine .of_digits (by simp) ?_ ?_
  · intro c member
    split at member
    · simp only [List.mem_cons] at member decimal
      rcases member with rfl | rfl | rest
      · exact .inl (decimal c (.inl rfl))
      · exact .inr rfl
      · exact .inl (decimal c (.inr rest))
    · exact .inl (decimal c member)
  · intro c member
    rcases List.mem_cons.mp member with sign | rest
    · rw [sign]
      split <;> simp
    · rcases List.mem_append.mp rest with zero | digit
      · exact .inl (isDigit_of_mem_zeros zero)
      · exact .inl (isDigit_of_mem_toDigits digit)

end

theorem floatText_decimal (layout : Layout) (d : Scaled) : FloatText (layout.decimal d) := by
  have decimal (n : Nat) : ∀ c ∈ Nat.toDigits 10 n, isDigit c = true := by
    intro c member
    exact isDigit_of_mem_toDigits member
  unfold Layout.decimal
  dsimp only
  split
  · exact floatText_positional (decimal d.digits) _
  · exact floatText_scientific (decimal d.digits) _ layout.exponentWidth

theorem floatText_float (x : Float) : FloatText (Layout.plain.float x).toList := by
  have special (name : List Char) (named : name = ['i', 'n', 'f'] ∨ name = ['n', 'a', 'n']) :
      FloatText name := by
    rcases named with rfl | rfl <;> constructor <;> simp
  have zero : FloatText (['0'] ++ '.' :: ['0']) :=
    .of_digits (by simp) (by simp [isDigit]) (by simp [isDigit])
  have sign (negative : Prop) [Decidable negative] :
      ∀ c ∈ (if negative then "-" else "").toList, c = '-' := by
    split <;> simp
  unfold Layout.float
  dsimp only
  split
  · exact special "nan".toList (.inr rfl)
  · split
    · rw [String.toList_append]
      exact (special "inf".toList (.inl rfl)).signed (sign _)
    · split
      · rw [String.toList_append]
        exact zero.signed (sign _)
      · rw [String.toList_append, String.toList_ofList]
        exact (floatText_decimal .plain _).signed (sign _)

end Decimal

end CurryScript
