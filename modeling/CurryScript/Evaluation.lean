import CurryScript.Machine
import CurryScript.Primitive.Answer

/-!
Evaluation of expressions. Arguments are evaluated first, in the frame of the caller. A name is then
looked up through all frames, innermost first, so a function sees the definitions of its callers.
Exceptions are values: a block stops at the first one, and a list keeps them as items. Evaluation
nests no deeper than a given depth.
-/
namespace CurryScript

/-- A name made of underscores stands for the arguments of a frame: one for the innermost frame, and
one more for each frame further out. -/
def isUnderscoreName (name : String) : Bool := !name.isEmpty && name.toList.all (· == '_')

namespace Eval

/-- What a block yields when its statements end with `value`. An early return is over, and a fault
has passed one more call if the block is `traced`. -/
def leave (name : String) (traced : Bool) : Value → Value
  | .exception .earlyReturn payload _ => payload
  | .exception flavor payload stack =>
    .exception flavor payload (if traced then stack ++ [name] else stack)
  | value => value

variable (evaluate : Expr → Eval Value)

def statements (last : Value) : Block → Eval Value
  | [] => pure last
  | expr :: rest => do
    let value ← evaluate expr
    if value.isException then pure value else statements value rest

def block (body : Block) (args : List Value) (name : String) (traced : Bool := true) :
    Eval Value := do
  let result ← inFrame name args (statements evaluate (.bool false) body)
  pure (leave name traced result)

def invoke (f : Function) (args : List Value) (name : String) : Eval Value :=
  block evaluate f.body args name

def define (name : String) (body : Block) : Eval Value := fun machine =>
  let f : Function := { name := some name, body }
  match machine.frames with
  | [] => .error .definitionOutsideFrame machine
  | frame :: frames =>
    match frame.bind? name f with
    | none => .ok (.exception .redefinition (.text ("attempt to redefine " ++ name)) []) machine
    | some frame =>
      .ok (.function f) ({ machine with frames := frame :: frames }.note (.define name frame.name))

/-- Applies a function value to a list of arguments. The list has to be written as one. -/
def applyComma (args : List Expr) (values : List Value) : Eval Value :=
  match args, values with
  | [_, arguments], [callee, given] =>
    match callee, arguments, given with
    | .exception .., _, _ => pure callee
    | .function f, .list _, .list items => invoke evaluate f items ","
    | .function _, _, _ => pure (.fault .type "," "list expected as second argument")
    | _, _, _ => pure (.fault .type "," "function expected as first argument")
  | _, _ => pure (Primitive.countFault "," 2 values.length)

def frameArgs (name : String) : Eval Value := fun machine =>
  match machine.frames[name.length - 1]? with
  | some frame => .ok (.list frame.args) machine
  | none => .ok (.fault .type name "attempt to reach out of main scope") machine

def primitive (name : String) (args : List Value) : Eval Value := fun machine =>
  let machine := machine.note (.primitive name args.length)
  match dispatch name args with
  | .ok reply => .ok reply.value (reply.printed.foldl Machine.emit machine)
  | .error halt => .error halt machine

def call (name : String) (args : List Expr) : Eval Value := do
  let values ← args.mapM evaluate
  match (← get).lookup name with
  -- A binding comes before the comma, the underscores and every primitive.
  | some f => invoke evaluate f values name
  | none =>
    if name = "," then applyComma evaluate args values
    else if isUnderscoreName name then frameArgs name
    else primitive name values

end Eval

def evaluate (depth : Nat) (expr : Expr) : Eval Value :=
  match depth with
  | 0 => throw .tooDeep
  | depth + 1 =>
    match expr with
    | .literal value => pure (.ofLiteral value)
    | .list items => .list <$> items.mapM (evaluate depth)
    | .bare name => Eval.call (evaluate depth) name []
    | .call name args => Eval.call (evaluate depth) name args
    | .lambda body => pure (.function { name := none, body })
    | .define name body => Eval.define name body

/-- How many evaluations may nest within a number of levels. An evaluation inside another takes at
least three: its own, that of the list it stands in, and that of the item. -/
def evaluationDepth (levels : Nat) : Nat := levels / 3

namespace Eval

def node (depth : Nat) : Node → Eval Value
  | .expr expr => evaluate depth expr
  | .block _ => throw .blockNode

/-- Evaluates a program in a first frame, which does not show in the stacks of exceptions. -/
def run (depth : Nat) (mainFrame : String) (program : Block) : Eval Value := do
  if (← get).frames.isEmpty then block (evaluate depth) program [] mainFrame false
  else throw .framesActive

end Eval

end CurryScript
