/-!
Data: what a settings file can hold.
-/
namespace CurryScript.Yaml

/-- Why a text gives no datum: it is not well formed, or a scalar in it has the form of a value that
there is not. -/
inductive Failure where
  | malformed
  | noValue (message : String)
  deriving DecidableEq, Repr

inductive Datum where
  | null
  | bool (value : Bool)
  | int (value : Int)
  | float (value : Float)
  | text (value : String)
  | list (items : List Datum)
  | mapping (entries : List (Datum × Datum))
  /-- A datum of which only its type matters, and whether it is empty. -/
  | other (typeName : String) (empty : Bool)
  deriving Repr

namespace Datum

def typeName : Datum → String
  | .null => "NoneType"
  | .bool _ => "bool"
  | .int _ => "int"
  | .float _ => "float"
  | .text _ => "str"
  | .list _ => "list"
  | .mapping _ => "dict"
  | .other typeName _ => typeName

def isNothing : Datum → Bool
  | .null => true
  | .bool value => !value
  | .int value => value = 0
  | .float value => value == 0.0
  | .text value => value.isEmpty
  | .list items => items.isEmpty
  | .mapping entries => entries.isEmpty
  | .other _ empty => empty

def isKey : Datum → Bool
  | .list _ | .mapping _ => false
  | _ => true

def number? : Datum → Option Float
  | .bool value => some (if value then 1.0 else 0.0)
  | .int value => some (Float.ofInt value)
  | .float value => some value
  | _ => none

def sameKey : Datum → Datum → Bool
  | .null, .null => true
  | .text a, .text b => a = b
  | a, b =>
    match a.number?, b.number? with
    | some x, some y => x == y
    | _, _ => false

end Datum

/-- Adds an entry. A repeated key keeps its place and takes the new value. -/
def insert (entries : List (Datum × Datum)) (key value : Datum) : List (Datum × Datum) :=
  match entries with
  | [] => [(key, value)]
  | (k, v) :: rest => if k.sameKey key then (k, value) :: rest else (k, v) :: insert rest key value

end CurryScript.Yaml
