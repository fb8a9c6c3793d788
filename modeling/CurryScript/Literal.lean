import CurryScript.Decimal.Layout
import CurryScript.Text.Quoted

/-!
Literals: the values that a script writes down directly.
-/
namespace CurryScript

inductive Literal where
  | bool (value : Bool)
  | int (value : Int)
  | float (value : Float)
  | text (value : String)
  deriving DecidableEq, Repr

namespace Literal

/-- Literals of different variants differ. Floats are compared as numbers, so what is not a number
differs from itself and both zeros are equal. -/
def equal : Literal → Literal → Bool
  | .bool a, .bool b => a == b
  | .int a, .int b => a == b
  | .float a, .float b => a == b
  | .text a, .text b => a == b
  | _, _ => false

def dump : Literal → String
  | .bool true => "True"
  | .bool false => "False"
  | .int n => toString n
  | .float x => Decimal.Layout.plain.float x
  | .text s => Text.quoted s

end Literal

end CurryScript
