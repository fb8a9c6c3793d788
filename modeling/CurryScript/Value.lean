import CurryScript.Expr

/-!
Values: what expressions evaluate to. Functions and exceptions are values like any other; an
exception carries the names of the calls it has passed.
-/
namespace CurryScript

structure Function where
  name : Option String
  body : Block
  /-- Which body this is, for functions handed in from outside that may share one. -/
  origin : Option Nat := none
  deriving DecidableEq, Repr

def Function.displayName (f : Function) : String :=
  match f.name with
  | none | some "" => "<anonymous>"
  | some name => name

/-- Functions are the same when they share a body; their names do not matter. Functions made by
evaluation have no origin, so two equal bodies that were written apart count as one. -/
def Function.same (f g : Function) : Bool := f.origin = g.origin && f.body = g.body

inductive Flavor where
  /-- Not a fault: it ends the body of a function early. -/
  | earlyReturn
  | error
  | argumentCount
  | parse
  | type
  | mismatch
  | divisionByZero
  | runtime
  | undefined
  | redefinition
  deriving DecidableEq, Repr

namespace Flavor

def all : List Flavor :=
  [.earlyReturn, .error, .argumentCount, .parse, .type, .mismatch, .divisionByZero, .runtime,
    .undefined, .redefinition]

def label : Flavor → String
  | .earlyReturn => "return"
  | .error => "error"
  | .argumentCount => "parameter length"
  | .parse => "parse error"
  | .type => "type error"
  | .mismatch => "type mismatch"
  | .divisionByZero => "division by zero"
  | .runtime => "runtime error"
  | .undefined => "undefined function"
  | .redefinition => "redefinition error"

def ofLabel? (label : String) : Option Flavor := all.find? (·.label == label)

def name : Flavor → String
  | .earlyReturn => "RETURN"
  | .error => "ERROR"
  | .argumentCount => "ARG_ERROR"
  | .parse => "PARSE_ERROR"
  | .type => "TYPE_ERROR"
  | .mismatch => "TYPE_MISMATCH"
  | .divisionByZero => "DIV_BY_ZERO"
  | .runtime => "RUNTIME_ERROR"
  | .undefined => "UNDEF_ERROR"
  | .redefinition => "REDEF_ERROR"

end Flavor

inductive Value where
  | bool (value : Bool)
  | int (value : Int)
  | float (value : Float)
  | text (value : String)
  | list (items : List Value)
  | function (f : Function)
  /-- The stack names the calls passed so far, innermost first. -/
  | exception (flavor : Flavor) (payload : Value) (stack : List String)
  /-- The absence of a value. No script makes one, but a host may pass it in. -/
  | void
  deriving Repr

namespace Value

def ofLiteral : Literal → Value
  | .bool b => .bool b
  | .int n => .int n
  | .float x => .float x
  | .text s => .text s

def fault (flavor : Flavor) (name message : String) : Value :=
  .exception flavor (.text message) [name]

def isException : Value → Bool
  | .exception .. => true
  | _ => false

inductive Kind where
  | boolean
  | integer
  | float
  | string
  | list
  | function
  | exception
  deriving DecidableEq, Repr

def Kind.name : Kind → String
  | .boolean => "boolean"
  | .integer => "integer"
  | .float => "float"
  | .string => "string"
  | .list => "list"
  | .function => "function"
  | .exception => "exception"

def kind? : Value → Option Kind
  | .bool _ => some .boolean
  | .int _ => some .integer
  | .float _ => some .float
  | .text _ => some .string
  | .list _ => some .list
  | .function _ => some .function
  | .exception .. => some .exception
  | .void => none

end Value

structure Fault where
  flavor : Flavor
  payload : Value
  stack : List String
  deriving Repr

namespace Fault

def toValue (fault : Fault) : Value := .exception fault.flavor fault.payload fault.stack

def isReturn (fault : Fault) : Bool := fault.flavor = .earlyReturn

def traced (fault : Fault) (name : String) : Fault :=
  { fault with stack := fault.stack ++ [name] }

def toList (fault : Fault) : List Value :=
  [.text fault.flavor.label, fault.payload, .list (fault.stack.map .text)]

end Fault

def Value.fault? : Value → Option Fault
  | .exception flavor payload stack => some ⟨flavor, payload, stack⟩
  | _ => none

end CurryScript
