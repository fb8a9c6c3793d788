import CurryScript.Halt
import CurryScript.Value

/-!
Two equalities of values. `same` compares everything a value holds; `equal` is what scripts see.
They agree on values without functions and exceptions.
-/
namespace CurryScript.Value

mutual

/-- Structural equality that keeps variants apart. Functions are equal when they share a body. -/
def same : Value → Value → Bool
  | .bool a, .bool b => a = b
  | .int a, .int b => a = b
  | .float a, .float b => a == b
  | .text a, .text b => a = b
  | .list a, .list b => sameAll a b
  | .function f, .function g => f.same g
  | .exception flavor a stack, .exception flavor' b stack' =>
    flavor = flavor' && same a b && stack = stack'
  | .void, .void => true
  | _, _ => false

def sameAll : List Value → List Value → Bool
  | [], [] => true
  | a :: as, b :: bs => same a b && sameAll as bs
  | _, _ => false

end

mutual

/-- Equality as scripts see it. Functions and exceptions equal nothing, themselves included. -/
def equal : Value → Value → Except Halt Bool
  | .void, _ | _, .void => .error .notAValue
  | .bool a, .bool b => .ok (a = b)
  | .int a, .int b => .ok (a = b)
  | .float a, .float b => .ok (a == b)
  | .text a, .text b => .ok (a = b)
  | .list a, .list b => if a.length = b.length then equalAll a b else .ok false
  | _, _ => .ok false

def equalAll : List Value → List Value → Except Halt Bool
  | a :: as, b :: bs =>
    -- An exception differs from everything, so the comparison that could halt is not made.
    if a.isException || b.isException then
      .ok false
    else
      match equal a b with
      | .ok true => equalAll as bs
      | outcome => outcome
  | _, _ => .ok true

end

end CurryScript.Value
