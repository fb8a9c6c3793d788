import CurryScript.Value

/-!
Traces: what an evaluation tells about itself when debugging is on.
-/
namespace CurryScript

inductive TraceEvent where
  | push (name : String) (depth argc : Nat)
  | pop (name : String) (depth : Nat)
  | define (name frame : String)
  | primitive (name : String) (argc : Nat)
  | parsed (expressions tokens : Nat)
  | limitHit (limit : Int)
  | uncaught (flavor : Flavor) (stack : List String)
  deriving DecidableEq, Repr

namespace TraceEvent

def text : TraceEvent → String
  | .push name depth argc => s!"push {name} depth {depth} argc {argc}"
  | .pop name depth => s!"pop {name} depth {depth}"
  | .define name frame => s!"define {name} in {frame}"
  | .primitive name argc => s!"primitive {name} argc {argc}"
  | .parsed expressions tokens => s!"parsed {expressions} expressions from {tokens} tokens"
  | .limitHit limit => s!"recursion limit hit at {limit}"
  | .uncaught flavor stack =>
    s!"uncaught {flavor.name} stack {Text.commaList (stack.map Text.quoted)}"

def line (event : TraceEvent) : String := "[DBG] " ++ event.text ++ "\n"

end TraceEvent

end CurryScript
