/-!
Primitives: the functions that every script can call, with their names and numbers of arguments.
-/
namespace CurryScript

inductive Primitive where
  | negate
  | remainder
  | both
  | multiply
  | add
  | subtract
  | divide
  | less
  | equal
  | greater
  | print
  | choose
  | head
  | inspect
  | tail
  | toFloat
  | toInt
  | raise
  | toText
  | textLength
  | textSlice
  | either
  | earlyReturn
  deriving DecidableEq, Repr

namespace Primitive

def all : List Primitive :=
  [.negate, .remainder, .both, .multiply, .add, .subtract, .divide, .less, .equal, .greater, .print,
    .choose, .head, .inspect, .tail, .toFloat, .toInt, .raise, .toText, .textLength, .textSlice,
    .either, .earlyReturn]

def name : Primitive → String
  | .negate => "!"
  | .remainder => "%"
  | .both => "&"
  | .multiply => "*"
  | .add => "+"
  | .subtract => "-"
  | .divide => "/"
  | .less => "<"
  | .equal => "="
  | .greater => ">"
  | .print => ">>"
  | .choose => "?"
  | .head => "car"
  | .inspect => "catch"
  | .tail => "cdr"
  | .toFloat => "float"
  | .toInt => "int"
  | .raise => "raise"
  | .toText => "string"
  | .textLength => "strlen"
  | .textSlice => "substr"
  | .either => "|"
  | .earlyReturn => "~"

def arity : Primitive → Nat
  | .choose | .textSlice => 3
  | .remainder | .both | .multiply | .add | .subtract | .divide | .less | .equal | .greater
  | .either => 2
  | .negate | .print | .head | .inspect | .tail | .toFloat | .toInt | .raise | .toText | .textLength
  | .earlyReturn => 1

def ofName? (name : String) : Option Primitive := all.find? (·.name == name)

/-- The primitives that look at exceptions among their arguments; the others pass them on. -/
def observesExceptions : Primitive → Bool
  | .choose | .inspect => true
  | _ => false

end Primitive

end CurryScript
