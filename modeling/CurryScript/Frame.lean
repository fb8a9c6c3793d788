import CurryScript.Value

/-!
Frames: one for each call that is being evaluated. A frame holds the arguments of its call and the
functions defined while it is the innermost one, in the order of their definitions.
-/
namespace CurryScript

structure Frame where
  name : String
  args : List Value := []
  bindings : List (String × Function) := []
  deriving Repr

namespace Frame

def keys (frame : Frame) : List String := frame.bindings.map (·.1)

def get? (frame : Frame) (key : String) : Option Function := frame.bindings.lookup key

def contains (frame : Frame) (key : String) : Bool := (frame.get? key).isSome

def bind? (frame : Frame) (key : String) (f : Function) : Option Frame :=
  if frame.contains key then none
  else some { frame with bindings := frame.bindings ++ [(key, f)] }

def dump (frame : Frame) : String :=
  s!"<Frame {frame.name} bindings={Text.commaList frame.keys} argc={frame.args.length}>"

end Frame

end CurryScript
