import CurryScript.Text.Blank
import CurryScript.Text.Quoted
import CurryScript.Text.Utf8
import CurryScript.Yaml.Reader

/-!
Surroundings: what a command finds where it runs. There are files and variables, and a reader of
YAML that may be any; where none is given it is the one of this library.
-/
namespace CurryScript

inductive ReadFailure where
  | notFound
  | permissionDenied
  | notADirectory
  | isADirectory
  deriving DecidableEq, Repr

def ReadFailure.message : ReadFailure → String
  | .notFound => "[Errno 2] No such file or directory"
  | .permissionDenied => "[Errno 13] Permission denied"
  | .notADirectory => "[Errno 20] Not a directory"
  | .isADirectory => "[Errno 21] Is a directory"

structure Surroundings where
  read : String → Except ReadFailure (List UInt8)
  lookupVariable : String → Option String
  readYaml : String → Except Yaml.Failure Yaml.Datum := Yaml.read

inductive FileError where
  | unreadable (failure : ReadFailure) (path : String)
  | undecodable (error : Text.Utf8.DecodeError)
  deriving DecidableEq, Repr

def FileError.message : FileError → String
  | .unreadable failure path => s!"{failure.message}: {Text.quoted path}"
  | .undecodable error => error.message

/-- A path without empty and idle components. Two slashes at its front are kept, more are one. -/
def canonicalPath (path : String) : String :=
  let slashes := (path.toList.takeWhile (· == '/')).length
  let root := if slashes = 0 then "" else if slashes = 2 then "//" else "/"
  let components := (path.toList.splitOn '/').filter fun part => !(part.isEmpty || part == ['.'])
  let canonical := root ++ "/".intercalate (components.map String.ofList)
  if canonical.isEmpty then "." else canonical

def Surroundings.readText (surroundings : Surroundings) (path : String) :
    Except FileError String :=
  let path := canonicalPath path
  match surroundings.read path with
  | .error failure => .error (.unreadable failure path)
  | .ok bytes =>
    match Text.Utf8.decode bytes with
    | .error error => .error (.undecodable error)
    | .ok text => .ok (String.ofList (Text.normalizeLineFeeds text))

inductive Entry where
  | file (bytes : List UInt8)
  | directory
  deriving Repr

/-- Reads from a listing of entries by path. Directories are listed, or are above an entry. -/
def readEntry (entries : List (String × Entry)) (path : String) :
    Except ReadFailure (List UInt8) :=
  let above (outer inner : String) := (outer ++ "/").toList.isPrefixOf inner.toList
  match entries.lookup path with
  | some (.file bytes) => .ok bytes
  | some .directory => .error .isADirectory
  | none =>
    if path = "." || entries.any (fun (name, _) => above path name) then
      .error .isADirectory
    else if entries.any (fun (name, entry) => entry matches .file _ && above name path) then
      .error .notADirectory
    else
      .error .notFound

end CurryScript
