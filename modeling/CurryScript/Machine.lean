import CurryScript.Frame
import CurryScript.Halt
import CurryScript.Trace

/-!
Machines: the state of an evaluation. Frames are kept innermost first. Everything printed is
recorded as an effect and written to the stream as a line.
-/
namespace CurryScript

structure Effect where
  topics : Option (List String)
  message : String
  deriving DecidableEq, Repr

def Effect.printed (message : String) : Effect := ⟨some ["stdout"], message⟩

def Effect.output (effects : List Effect) : List String :=
  (effects.filter (·.topics = some ["stdout"])).map (·.message)

structure Machine where
  frames : List Frame := []
  effects : Array Effect := #[]
  stream : String := ""
  debug : Bool := false
  trace : Array TraceEvent := #[]
  deriving Repr

namespace Machine

def note (machine : Machine) (event : TraceEvent) : Machine :=
  if machine.debug then { machine with trace := machine.trace.push event } else machine

def emit (machine : Machine) (message : String) : Machine :=
  { machine with
    effects := machine.effects.push (.printed message)
    stream := machine.stream ++ message ++ "\n" }

def push (machine : Machine) (name : String) (args : List Value) : Machine :=
  let frames := { name, args } :: machine.frames
  { machine with frames }.note (.push name frames.length args.length)

def pop (machine : Machine) : Machine :=
  match machine.frames with
  | [] => machine
  | frame :: frames => { machine with frames }.note (.pop frame.name frames.length)

def lookup (machine : Machine) (name : String) : Option Function :=
  machine.frames.findSome? (·.get? name)

end Machine

/-- A computation on a machine that yields a value or halts. Either way the machine goes on from the
state in which it was left. -/
abbrev Eval := EStateM Halt Machine

namespace Eval

/-- Evaluates in a new frame, which is gone afterwards, whatever the outcome. -/
def inFrame {α : Type} (name : String) (args : List Value) (action : Eval α) : Eval α :=
  fun machine => match action (machine.push name args) with
  | .ok value after => .ok value after.pop
  | .error halt after => .error halt after.pop

end Eval

end CurryScript
