/-!
Cursors over the text of a script. A cursor counts characters and lines as it goes.
-/
namespace CurryScript

structure Cursor where
  rest : List Char
  position : Nat := 0
  line : Nat := 1
  deriving DecidableEq, Repr

/-- Whether the line number grows with a character. A carriage return before a line feed leaves the
break to the line feed. -/
def breaksLine (c : Char) (following : List Char) : Bool :=
  c == '\n' || (c == '\r' && following.head? != some '\n')

namespace Cursor

def advance (cursor : Cursor) : Cursor :=
  match cursor.rest with
  | [] => cursor
  | c :: rest =>
    { rest
      position := cursor.position + 1
      line := if breaksLine c rest then cursor.line + 1 else cursor.line }

theorem length_advance (cursor : Cursor) :
    cursor.advance.rest.length = cursor.rest.length - 1 := by
  unfold advance
  split <;> simp [*]

def skipWhile (p : Char → Bool) (cursor : Cursor) : Cursor :=
  match _ : cursor.rest with
  | [] => cursor
  | c :: _ => if p c then cursor.advance.skipWhile p else cursor
termination_by cursor.rest.length
decreasing_by simp [length_advance, *]

theorem length_skipWhile_le (p : Char → Bool) (cursor : Cursor) :
    (cursor.skipWhile p).rest.length ≤ cursor.rest.length := by
  fun_induction skipWhile p cursor with
  | case1 => omega
  | case2 cursor c tail found holds ih => rw [length_advance] at ih; omega
  | case3 => omega

end Cursor

end CurryScript
