import CurryScript.Primitive
import CurryScript.Value.Display
import CurryScript.Value.Equality

/-!
The answers of primitives. A primitive gets evaluated arguments and answers with a value; what goes
wrong is an exception value whose stack starts with the primitive's name.
-/
namespace CurryScript

structure Reply where
  value : Value
  printed : List String := []
  deriving Repr

namespace Value

def number? : Value → Option Float
  | .int n => some (Float.ofInt n)
  | .float x => some x
  | _ => none

end Value

namespace Primitive

def typeFault (p : Primitive) (message : String) : Value := .fault .type p.name message

def countFault (name : String) (expected given : Nat) : Value :=
  .fault .argumentCount name s!"expected argument list of length {expected} but got {given}"

def onFloats (p : Primitive) (f : Float → Float → Value) (a b : Value) : Value :=
  match a.number?, b.number? with
  | some x, some y => f x y
  | _, _ => p.typeFault "numeric arguments expected"

/-- Integers stay integers and wrap; a float on either side makes both sides floats. -/
def arithmetic (p : Primitive) (onInts : Int → Int → Int) (op : Float → Float → Float) :
    Value → Value → Value
  | .int a, .int b => .int (Word64.wrap (onInts a b))
  | a, b => p.onFloats (.float <| op · ·) a b

def compare (p : Primitive) (onInts : Int → Int → Bool) (op : Float → Float → Bool) :
    Value → Value → Value
  | .int a, .int b => .bool (onInts a b)
  | a, b => p.onFloats (.bool <| op · ·) a b

def sum : Value → Value → Value
  | .text a, .text b => .text (a ++ b)
  | .text _, _ => .fault .mismatch add.name "mismatched argument types"
  | .list a, .list b => .list (a ++ b)
  | .list _, _ => .fault .mismatch add.name "can only append list to list"
  | a, b =>
    match a.number?, b.number? with
    | some _, some _ => arithmetic .add (· + ·) (· + ·) a b
    | some _, none => .fault .mismatch add.name "mismatched argument types"
    | none, _ => add.typeFault "numbers, strings, or list arguments expected"

/-- Integers are divided toward zero. Only floats can be divided by zero. -/
def quotient : Value → Value → Value
  | .int a, .int b =>
    if b = 0 then .fault .divisionByZero divide.name "attempt to divide by zero"
    else .int (Word64.wrap (Word64.divideTowardZero a b))
  | a, b => divide.onFloats (.float <| · / ·) a b

def modulus : Value → Value → Value
  | .int a, .int b =>
    if b = 0 then .fault .divisionByZero remainder.name "attempt to divide by zero"
    else .int (Word64.wrap (a - b * Word64.divideTowardZero a b))
  | _, _ => remainder.typeFault "integer arguments expected"

def parseFault (p : Primitive) (text : String) : Value :=
  .fault .parse p.name ("unable to parse string: " ++ text)

def intOf : Value → Except Halt Value
  | .float x => .ok (.int (Word64.truncate x))
  | .text s =>
    match Numeral.integer? s with
    | .ok (some n) => .ok (.int n)
    | .ok none => .ok (toInt.parseFault s)
    | .error failure => .error (.numeral failure)
  | _ => .ok (toInt.typeFault "float or string argument expected")

def floatOf : Value → Except Halt Value
  | .int n => .ok (.float (Float.ofInt n))
  | .text s =>
    match Numeral.float? s with
    | .ok (some x) => .ok (.float x)
    | .ok none => .ok (toFloat.parseFault s)
    | .error failure => .error (.numeral failure)
  | _ => .ok (toFloat.typeFault "int or string argument expected")

def slice : Value → Value → Value → Value
  | .text s, .int start, .int length =>
    if start < 0 ∨ length < 0 then
      .fault .runtime textSlice.name "start and length must not be negative"
    else
      .text (String.ofList ((s.toList.drop start.toNat).take length.toNat))
  | .text _, .int _, _ => textSlice.typeFault "third argument expects integer for length"
  | .text _, _, _ => textSlice.typeFault "second argument expects integer for start"
  | _, _, _ => textSlice.typeFault "first argument must be string"

/-- Chooses by a truth value. Both choices are evaluated already; an exception in place of the truth
value is passed on. -/
def choice : Value → Value → Value → Value
  | .bool true, chosen, _ => chosen
  | .bool false, _, chosen => chosen
  | .exception flavor payload stack, _, _ => .exception flavor payload stack
  | _, _, _ => choose.typeFault "expected boolean for first argument"

def caught : Value → Value
  | .exception flavor payload stack => .list (Fault.toList ⟨flavor, payload, stack⟩)
  | value => .list [.text "ok", value]

def apply : Primitive → List Value → Except Halt Reply
  | .toInt, [x] => (intOf x).map (⟨·, []⟩)
  | .toFloat, [x] => (floatOf x).map (⟨·, []⟩)
  | .equal, [a, b] => (a.equal b).map (⟨.bool ·, []⟩)
  | .print, [.text s] => .ok ⟨.bool false, [s]⟩
  | p, args => .ok ⟨answer p args, []⟩
where
  answer : Primitive → List Value → Value
    | .print, [_] => print.typeFault "string argument expected"
    | .toText, [x] => .text x.display
    | .add, [a, b] => sum a b
    | .subtract, [a, b] => arithmetic .subtract (· - ·) (· - ·) a b
    | .multiply, [a, b] => arithmetic .multiply (· * ·) (· * ·) a b
    | .divide, [a, b] => quotient a b
    | .remainder, [a, b] => modulus a b
    | .negate, [.bool a] => .bool !a
    | .negate, [_] => negate.typeFault "boolean argument expected"
    | .both, [.bool a, .bool b] => .bool (a && b)
    | .both, [_, _] => both.typeFault "boolean arguments expected"
    | .either, [.bool a, .bool b] => .bool (a || b)
    | .either, [_, _] => either.typeFault "boolean arguments expected"
    | .choose, [condition, a, b] => choice condition a b
    | .inspect, [x] => caught x
    | .raise, [x] => .exception .error x []
    | .earlyReturn, [x] => .exception .earlyReturn x []
    | .greater, [a, b] => compare .greater (· > ·) (· > ·) a b
    | .less, [a, b] => compare .less (· < ·) (· < ·) a b
    | .textSlice, [s, start, length] => slice s start length
    | .textLength, [.text s] => .int s.length
    | .textLength, [_] => textLength.typeFault "string argument expected"
    | .head, [.list (item :: _)] => item
    | .head, [.list []] => .fault .runtime head.name "attempt to get first item of empty list"
    | .head, [_] => head.typeFault "list argument expected"
    | .tail, [.list items] => .list items.tail
    | .tail, [_] => tail.typeFault "list argument expected"
    | p, args => countFault p.name p.arity args.length

end Primitive

/-- Answers a call of a name that no frame binds. Unless the primitive observes exceptions, the
first exception among the arguments is the answer. -/
def dispatch (name : String) (args : List Value) : Except Halt Reply :=
  let primitive := Primitive.ofName? name
  let passedOn := if primitive.any Primitive.observesExceptions then none
    else args.find? Value.isException
  match passedOn, primitive with
  | some exception, _ => .ok ⟨exception, []⟩
  | none, none => .ok ⟨.fault .undefined name "function is not defined in scope", []⟩
  | none, some p => p.apply args

end CurryScript
