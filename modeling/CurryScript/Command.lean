import CurryScript.Session

/-!
The command: executes the script in a file. All it writes to standard output, and the lines of the
trace, are part of the result.
-/
namespace CurryScript

namespace Command

/-- What the command leaves unanswered. -/
inductive Escape where
  | halt (halt : Halt)
  | settings (error : SettingsError)
  deriving Repr

structure Outcome where
  status : Except Escape Nat
  stdout : String := ""
  trace : List TraceEvent := []
  deriving Repr

def usage : String := "Incorrect number of arguments: expecting source file as argument"

def failed (message : String) : Outcome := { status := .ok 1, stdout := message ++ "\n" }

def execute (settings : Settings) (source : String) : Outcome :=
  let (result, session) := (Session.start settings).execute source
  let stdout := session.machine.stream
  let trace := session.machine.trace.toList
  match result with
  | .error halt => { status := .error (.halt halt), stdout, trace }
  | .ok report =>
    if report.ending.isError then
      { status := .ok 1, stdout := stdout ++ report.text ++ "\n", trace }
    else
      { status := .ok 0, stdout, trace }

def runFile (surroundings : Surroundings) (path : String) : Outcome :=
  -- A script that cannot be read is reported whatever the settings are.
  match surroundings.readText path with
  | .error error => failed s!"Error: failed to read source file {path}: {error.message}"
  | .ok source =>
    match Settings.load surroundings with
    | .ok settings => execute settings source
    | .error (.keyNotText typeName) => { status := .error (.settings (.keyNotText typeName)) }
    | .error error => failed s!"Error: invalid configuration: {error.message}"

def run (surroundings : Surroundings) (args : List String) : Outcome :=
  match args with
  | [path] => runFile surroundings path
  | _ => { status := .ok 0, stdout := usage ++ "\n" }

end Command

end CurryScript
