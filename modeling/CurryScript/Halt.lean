import CurryScript.Numeral

/-!
Halts: the ways in which evaluation stops without a value. A script cannot catch them.
-/
namespace CurryScript

inductive Halt where
  | numeral (failure : Numeral.Failure)
  /-- A comparison met the absence of a value. -/
  | notAValue
  | blockNode
  | definitionOutsideFrame
  | framesActive
  | tooDeep
  deriving DecidableEq, Repr

def Halt.message : Halt → String
  | .numeral failure => failure.message
  | .notAValue => "not a Curry value: NoneType"
  | .blockNode => "cannot evaluate Block node"
  | .definitionOutsideFrame => "definition evaluated outside of any frame"
  | .framesActive => "run() called while frames are active"
  | .tooDeep => "maximum recursion depth exceeded"

end CurryScript
