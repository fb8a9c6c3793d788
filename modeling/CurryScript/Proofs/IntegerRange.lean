import CurryScript.Proofs.Answers
import CurryScript.Proofs.Scanning

/-!
Integers stay within 64 bits. Scripts hold no others, and the answers of primitives hold no others
when the arguments do not.
-/
namespace CurryScript

open Value

def Lexeme.InRange : Lexeme → Prop
  | .literal (.int n) => Word64.InRange n
  | _ => True

theorem inRange_of_classify {word : String} {lexeme : Lexeme}
    (known : classify word = .ok lexeme) : lexeme.InRange := by
  have found := classified word
  rw [known] at found
  cases found with
  | integer read => exact Numeral.inRange_of_integer? read
  | float | bool | identifier => trivial

theorem inRange_of_punctuation? {c : Char} {lexeme : Lexeme} (mark : punctuation? c = some lexeme) :
    lexeme.InRange := by
  unfold punctuation? at mark
  split at mark <;> cases mark <;> trivial

namespace Cursor

theorem inRange_of_scanLexeme {table : LineTable} {cursor : Cursor} {token : Token}
    (read : (cursor.scanLexeme table).1 = .ok token) : token.lexeme.InRange := by
  unfold scanLexeme at read
  split at read
  · cases read
    trivial
  · split at read
    · next mark =>
      cases read
      exact inRange_of_punctuation? mark
    · split at read
      · dsimp only at read
        split at read <;> cases read
        trivial
      · dsimp only at read
        split at read
        · next known =>
          cases read
          exact inRange_of_classify known
        · cases read

theorem inRange_of_scanAll {table : LineTable} {found : Array Token} {cursor : Cursor}
    {tokens : List Token} (before : ∀ token ∈ found, token.lexeme.InRange)
    (ok : cursor.scanAll table found = .ok tokens) : ∀ token ∈ tokens, token.lexeme.InRange := by
  fun_induction scanAll table found cursor with
  | case1 found cursor start ended =>
    cases ok
    intro token member
    rcases Array.mem_push.mp (Array.mem_toList_iff.mp member) with earlier | rfl
    · exact before token earlier
    · trivial
  | case2 => cases ok
  | case3 found cursor start inside token after read ih =>
    refine ih (fun token' member => ?_) ok
    rcases Array.mem_push.mp member with earlier | rfl
    · exact before token' earlier
    · exact inRange_of_scanLexeme (congrArg Prod.fst read)

end Cursor

def Value.InRange : Value → Prop
  | .int n => Word64.InRange n
  | _ => True

section

variable {sources : List Value} {value : Value}
  (each : ∀ source ∈ sources, source.Everywhere Value.InRange)
  (lengths : ∀ text, .text text ∈ sources → text.length < 0x8000000000000000)

include each lengths

theorem inRange_of_composed (made : value.Composed sources) :
    value.Everywhere Value.InRange := by
  induction made with
  | part member inside => exact (each _ member).of_within inside
  | int inRange => exact everywhere_atom rfl inRange
  | @length text member =>
    have short := lengths text member
    refine everywhere_atom rfl ?_
    simp only [Value.InRange, Word64.InRange, Word64.least, Word64.greatest]
    omega
  | bool | float | text => exact everywhere_atom rfl trivial
  | list _ ih => exact everywhere_list trivial ih

theorem inRange_of_answered {name : String} (answered : Answered name sources value) :
    value.Everywhere Value.InRange := by
  cases answered with
  | composed made => exact inRange_of_composed each lengths made
  | fault => exact everywhere_exception trivial (everywhere_atom rfl trivial)
  | raised member | returned member => exact everywhere_exception trivial (each _ member)

end

/-- The integers of scripts are in range, those of complete scripts and those found one at a time
from any cursor on. Calls keep the integers in range; as the length of a text becomes an integer,
no argument may be a text that is longer than the range. -/
theorem integers_stay_in_range :
    (∀ source tokens, tokenize source = .ok tokens → ∀ token ∈ tokens, token.lexeme.InRange) ∧
    (∀ table cursor token, (Cursor.next table cursor).1 = .ok token → token.lexeme.InRange) ∧
    ∀ name args reply, (∀ arg ∈ args, arg.Everywhere Value.InRange) →
      (∀ text, .text text ∈ args → text.length < 0x8000000000000000) →
      dispatch name args = .ok reply → reply.value.Everywhere Value.InRange := by
  refine ⟨fun source tokens ok => ?_, fun table cursor token read => ?_,
    fun name args reply each lengths ok => ?_⟩
  · exact Cursor.inRange_of_scanAll (by simp) ok
  · exact Cursor.inRange_of_scanLexeme read
  · exact inRange_of_answered each lengths (answered_dispatch ok)

/-- The least integer, read from a script, and caught as the payload of an exception. -/
theorem least_integer_read_and_caught :
    (∃ tokens, tokenize "-9223372036854775808" = .ok tokens ∧
      Lexeme.literal (.int Word64.least) ∈ tokens.map Token.lexeme ∧
      ∀ token ∈ tokens, token.lexeme.InRange) ∧
    ∃ reply, dispatch "catch" [.exception .error (.int Word64.least) ["f"]] = .ok reply ∧
      reply.value = .list [.text "error", .int Word64.least, .list [.text "f"]] ∧
      reply.value.Everywhere Value.InRange := by
  obtain ⟨scanned, -, called⟩ := integers_stay_in_range
  have read : tokenize "-9223372036854775808" =
      .ok [⟨.literal (.int Word64.least), 1, "-9223372036854775808"⟩,
        ⟨.endOfScript, 1, "-9223372036854775808"⟩] := by
    with_unfolding_all rfl
  have taken : dispatch "catch" [.exception .error (.int Word64.least) ["f"]] =
      .ok ⟨.list [.text "error", .int Word64.least, .list [.text "f"]], []⟩ := rfl
  have raised : (Value.exception .error (.int Word64.least) ["f"]).Everywhere Value.InRange :=
    everywhere_exception trivial (everywhere_atom rfl (by decide : Word64.InRange Word64.least))
  exact ⟨⟨_, read, by simp, scanned _ _ read⟩, _, taken, rfl,
    called _ _ _ (by simpa using raised) (by simp) taken⟩

end CurryScript
