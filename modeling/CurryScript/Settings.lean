import CurryScript.Surroundings

/-!
Settings of a session, from a mapping of keys to data, a file and the surroundings.
-/
namespace CurryScript

open Yaml (Datum)

structure Settings where
  debug : Bool := false
  recursionLimit : Int := 10000
  mainFrame : String := "main"
  deriving DecidableEq, Repr

inductive SettingsError where
  | unknownKeys (keys : List String)
  /-- An unknown key that is not even a text. -/
  | keyNotText (typeName : String)
  | wrongType (key expected given : String)
  | limitTooSmall
  | file (error : FileError)
  | invalidFile (path : String)
  | noValue (message : String)
  | notAMapping (path : String)
  deriving DecidableEq, Repr

def Settings.leastLimit : Int := 100

def SettingsError.message : SettingsError → String
  | .unknownKeys keys => "unknown config keys: " ++ ", ".intercalate keys
  | .keyNotText typeName => s!"sequence item 0: expected str instance, {typeName} found"
  | .wrongType key expected given => s!"config key '{key}' expects {expected}, got {given}"
  | .limitTooSmall => s!"config key 'recursion_limit' must be at least {Settings.leastLimit}"
  | .file error => error.message
  | .invalidFile path => s!"config file {path} is not valid YAML"
  | .noValue message => message
  | .notAMapping path => s!"config file {path} must contain a mapping"

namespace Settings

def keys : List (String × String) :=
  [("debug", "bool"), ("recursion_limit", "int"), ("main_frame", "str")]

def isKnown : Datum → Bool
  | .text key => (keys.lookup key).isSome
  | _ => false

def assign (settings : Settings) (key : String) (value : Datum) : Except SettingsError Settings :=
  match key, value with
  | "debug", .bool debug => .ok { settings with debug }
  | "recursion_limit", .int recursionLimit => .ok { settings with recursionLimit }
  | "main_frame", .text mainFrame => .ok { settings with mainFrame }
  | _, _ => .error (.wrongType key ((keys.lookup key).getD "") value.typeName)

def assignAll (settings : Settings) (entries : List (Datum × Datum)) :
    Except SettingsError Settings :=
  entries.foldlM (fun settings (key, value) =>
    match key with
    | .text key => settings.assign key value
    | _ => .ok settings) settings

def textKey? : Datum → Option String
  | .text key => some key
  | _ => none

/-- Settings from a mapping. Unknown keys are reported first, all together and in order; then the
first key with a datum of the wrong type; then a limit that is too small. -/
def ofMapping (entries : List (Datum × Datum)) : Except SettingsError Settings :=
  let unknown := (entries.map (·.1)).filter (!isKnown ·)
  match unknown.find? (fun key => (textKey? key).isNone), unknown.filterMap textKey? with
  | some key, _ => .error (.keyNotText key.typeName)
  | none, key :: more => .error (.unknownKeys ((key :: more).mergeSort (· ≤ ·)))
  | none, [] =>
    match assignAll {} entries with
    | .error error => .error error
    | .ok settings =>
      if settings.recursionLimit < leastLimit then .error .limitTooSmall else .ok settings

def fileVariable : String := "CURRY_CONFIG"

def debugVariable : String := "CURRY_DEBUG"

/-- The words that mean yes, whatever their case and the blanks around them. No letter outside ASCII
has a letter of these words as its small form. -/
def isYes (text : String) : Bool :=
  let word := (Text.strip text.toList).map Char.toLower
  String.ofList word ∈ ["1", "true", "yes", "on"]

def readFile (surroundings : Surroundings) (path : String) :
    Except SettingsError (List (Datum × Datum)) :=
  match surroundings.readText path with
  | .error error => .error (.file error)
  | .ok text =>
    match surroundings.readYaml text with
    | .error .malformed => .error (.invalidFile path)
    | .error (.noValue message) => .error (.noValue message)
    | .ok (.mapping entries) => .ok entries
    -- A document that counts as nothing is an empty mapping.
    | .ok datum => if datum.isNothing then .ok [] else .error (.notAMapping path)

/-- The settings file to use: the one given, else the one that the surroundings name. An empty path
names none. -/
def chosenPath (surroundings : Surroundings) (path : Option String) : Option String :=
  match path with
  | none | some "" => (surroundings.lookupVariable fileVariable).filter (· ≠ "")
  | some path => some path

def load (surroundings : Surroundings) (path : Option String := none) :
    Except SettingsError Settings := do
  let entries ← match chosenPath surroundings path with
    | none => .ok []
    | some path => readFile surroundings path
  let settings ← ofMapping entries
  if (surroundings.lookupVariable debugVariable).any isYes then
    return { settings with debug := true }
  return settings

/-- The depth that is always granted, however small the limit. -/
def leastDepth : Nat := 1000

def depth (settings : Settings) : Nat := max leastDepth settings.recursionLimit.toNat

end Settings

end CurryScript
