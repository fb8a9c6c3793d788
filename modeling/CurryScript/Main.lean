import CurryScript.Command

/-!
The command line. It collects the surroundings, runs the command and writes its outcome.
-/
namespace CurryScript.CommandLine

def readBytes (path : String) : IO (Except ReadFailure (List UInt8)) := do
  try
    return .ok (← IO.FS.readBinFile path).toList
  catch error =>
    match error with
    | .permissionDenied .. => return .error .permissionDenied
    | .inappropriateType .. => return .error .isADirectory
    | _ => return .error .notFound

def collect (args : List String) : IO Surroundings := do
  let names := [Settings.fileVariable, Settings.debugVariable]
  let environment ← names.mapM fun name => return (name, ← IO.getEnv name)
  let lookupVariable (name : String) : Option String := (environment.lookup name).join
  let paths := (args ++ (lookupVariable Settings.fileVariable).toList).map canonicalPath
  let files ← paths.mapM fun path => return (path, ← readBytes path)
  let read (path : String) := (files.lookup path).getD (.error .notFound)
  return { read, lookupVariable, readYaml := Yaml.read }

end CurryScript.CommandLine

open CurryScript in
def main (args : List String) : IO UInt32 := do
  let surroundings ← CommandLine.collect args
  let outcome := Command.run surroundings args
  for event in outcome.trace do
    IO.eprint event.line
  IO.print outcome.stdout
  match outcome.status with
  | .ok status => return status.toUInt32
  | .error (.halt halt) =>
    IO.eprintln halt.message
    return 1
  | .error (.settings error) =>
    IO.eprintln error.message
    return 1
