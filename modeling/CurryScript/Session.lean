import CurryScript.Evaluation
import CurryScript.Expr.Grammar
import CurryScript.Settings
import CurryScript.Token.Scan

/-!
Sessions: scripts executed one after the other on one machine. Each script starts with no frames and
no effects, so none depends on those before it.
-/
namespace CurryScript

inductive Ending where
  | value (value : Value)
  | syntaxError (error : SyntaxError)
  | uncaught (fault : Fault)
  | tooDeep
  deriving Repr

namespace Ending

def isError : Ending → Bool
  | .value _ => false
  | _ => true

def message? : Ending → Option String
  | .value _ => none
  | .syntaxError error => some error.report
  | .uncaught fault => some fault.report
  | .tooDeep => some "Fatal error: maximum recursion depth exceeded"

end Ending

structure Report where
  ending : Ending
  effects : List Effect
  deriving Repr

namespace Report

def output (report : Report) : List String := Effect.output report.effects

def errorText (isError : Bool) (message : Option String) : String :=
  if isError then
    match message with
    | none | some "" => "Unknown error"
    | some message => message
  else
    ""

def text (report : Report) : String := errorText report.ending.isError report.ending.message?

end Report

inductive Unreadable where
  | numeral (failure : Numeral.Failure)
  | syntaxError (error : SyntaxError)
  | tooDeep
  deriving DecidableEq, Repr

structure Session where
  settings : Settings
  machine : Machine
  deriving Repr

namespace Session

def start (settings : Settings) : Session := ⟨settings, { debug := settings.debug }⟩

def readProgram (depth : Nat) (source : String) : Except Unreadable (Block × Nat) :=
  match tokenize source with
  | .error (.numeral failure) => .error (.numeral failure)
  | .error (.syntaxError error) => .error (.syntaxError error)
  | .ok tokens =>
    match parse depth tokens with
    | .error (.syntaxError error) => .error (.syntaxError error)
    | .error .tooDeep => .error .tooDeep
    | .ok program => .ok program

/-- Gives up on a script that nests too deep. The machine is left without frames. -/
def giveUp (settings : Settings) (machine : Machine) : Except Halt Ending × Machine :=
  (.ok .tooDeep, { machine with frames := [] }.note (.limitHit settings.recursionLimit))

def evaluateProgram (settings : Settings) (program : Block) (machine : Machine) :
    Except Halt Ending × Machine :=
  match Eval.run (evaluationDepth settings.depth) settings.mainFrame program machine with
  | .ok value machine =>
    match value.fault? with
    | none => (.ok (.value value), machine)
    | some fault => (.ok (.uncaught fault), machine.note (.uncaught fault.flavor fault.stack))
  | .error .tooDeep machine => giveUp settings machine
  | .error halt machine => (.error halt, machine)

def executeOn (settings : Settings) (source : String) (machine : Machine) :
    Except Halt Ending × Machine :=
  match readProgram settings.depth source with
  -- A numeral without a value is no ending of the script: there is no report.
  | .error (.numeral failure) => (.error (.numeral failure), machine)
  | .error (.syntaxError error) => (.ok (.syntaxError error), machine)
  | .error .tooDeep => giveUp settings machine
  | .ok (program, tokens) =>
    evaluateProgram settings program (machine.note (.parsed program.length tokens))

def execute (session : Session) (source : String) : Except Halt Report × Session :=
  let (ending, machine) :=
    executeOn session.settings source { session.machine with effects := #[] }
  (ending.map fun ending => ⟨ending, machine.effects.toList⟩, { session with machine })

end Session

end CurryScript
