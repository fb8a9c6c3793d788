import CurryScript.Value

/-!
Texts of values: the display form that scripts and reports use, and the form used in dumps. The
display form of a value without functions and exceptions is a script for that value, as long as none
of its texts holds a quote.
-/
namespace CurryScript

namespace Value

def wordOfBool (b : Bool) : String := if b then "true" else "false"

mutual

/-- The display form. Texts stand between quotes as they are. -/
def display : Value → String
  | .bool b => wordOfBool b
  | .int n => toString n
  | .float x => Decimal.Layout.plain.float x
  | .text s => "\"" ++ s ++ "\""
  | .list items => "[" ++ " ".intercalate (displayEach items) ++ "]"
  | .function _ => ":<...>"
  | .exception flavor payload _ => "<" ++ flavor.label ++ ": " ++ display payload ++ ">"
  | .void => "None"

def displayEach : List Value → List String
  | [] => []
  | item :: rest => display item :: displayEach rest

end

mutual

def dump : Value → String
  | .bool b => (Literal.bool b).dump
  | .int n => (Literal.int n).dump
  | .float x => (Literal.float x).dump
  | .text s => (Literal.text s).dump
  | .list items => Text.commaList (dumpEach items)
  | .function f => s!"<CurryFunction {f.displayName}>"
  | .exception flavor payload stack =>
    s!"ExceptionValue({flavor.name}, {dump payload}, {Text.commaList (stack.map Text.quoted)})"
  | .void => "None"

def dumpEach : List Value → List String
  | [] => []
  | item :: rest => dump item :: dumpEach rest

end

end Value

namespace Fault

def stackLines : List String → List String
  | [] => []
  | name :: rest => s!"   -- called from function {rest.length}: {name}" :: stackLines rest

def report (fault : Fault) : String :=
  let heading :=
    ["", "RUNTIME EXCEPTION: " ++ fault.flavor.label.toUpper, fault.payload.display ++ ":", "",
      "  calling context:"]
  "\n".intercalate (heading ++ stackLines fault.stack) ++ "\n"

end Fault

end CurryScript
