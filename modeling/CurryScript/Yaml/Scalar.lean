import CurryScript.Numeral
import CurryScript.Yaml.Datum

/-!
Scalars without quotes, which stand for what their form says: truth values, numbers, dates, or else
texts.
-/
namespace CurryScript.Yaml

namespace Scalar

def trueWords : List String := ["yes", "Yes", "YES", "true", "True", "TRUE", "on", "On", "ON"]

def falseWords : List String := ["no", "No", "NO", "false", "False", "FALSE", "off", "Off", "OFF"]

def nullWords : List String := ["", "~", "null", "Null", "NULL"]

def digitValue (c : Char) : Nat :=
  let d := c.toLower
  if Numeral.isDigit d then Numeral.digitValue d
  else if 'a' ≤ d && d ≤ 'f' then d.toNat - 'a'.toNat + 10
  else 16

def isDigitIn (base : Nat) (c : Char) : Bool := digitValue c < base

def natIn (base : Nat) (digits : List Char) : Nat :=
  (digits.filter (· != '_')).foldl (fun total c => base * total + digitValue c) 0

/-- Digits of a base and underscores, at least one character and not underscores alone. -/
def areDigits (base : Nat) (text : List Char) : Bool :=
  text.all (fun c => isDigitIn base c || c == '_') && text.any (isDigitIn base)

def startsDigits : List Char → Bool
  | c :: rest => Numeral.isDigit c && rest.all (fun c => Numeral.isDigit c || c == '_')
  | [] => false

def isSixtieth : List Char → Bool
  | [c] => Numeral.isDigit c
  | [c, d] => '0' ≤ c && c ≤ '5' && Numeral.isDigit d
  | _ => false

def colonParts (text : List Char) : List (List Char) := text.splitOn ':'

def sexagesimal (parts : List (List Char)) : Nat :=
  parts.foldl (fun total part => 60 * total + natIn 10 part) 0

/-- Integers: binary, octal with a leading zero, decimal, hexadecimal, or in places of sixty. -/
def natural? (text : List Char) : Option Nat :=
  match text with
  | '0' :: 'b' :: digits => if areDigits 2 digits then some (natIn 2 digits) else none
  | '0' :: 'x' :: digits => if areDigits 16 digits then some (natIn 16 digits) else none
  | ['0'] => some 0
  | '0' :: digits =>
    if digits.all (fun c => isDigitIn 8 c || c == '_') then some (natIn 8 digits) else none
  | _ =>
    if startsDigits text then
      some (natIn 10 text)
    else
      match colonParts text with
      | first :: second :: more =>
        if startsDigits first && (second :: more).all isSixtieth then
          some (sexagesimal (first :: second :: more))
        else
          none
      | _ => none

def integer? (text : List Char) : Option Int :=
  let (sign, body) := Numeral.splitSign text
  (natural? body).map fun n => sign.apply n

def isExponent : List Char → Bool
  | [] => true
  | mark :: sign :: digits =>
    (mark == 'e' || mark == 'E') && (sign == '+' || sign == '-') && !digits.isEmpty &&
      digits.all Numeral.isDigit
  | _ => false

def isFractionChar (c : Char) : Bool := Numeral.isDigit c || c == '_'

def decimal? (signed : Bool) (text : List Char) : Option Float :=
  let whole := text.takeWhile (· != '.')
  match text.dropWhile (· != '.') with
  | '.' :: rest =>
    let fraction := rest.takeWhile isFractionChar
    let tail := rest.dropWhile isFractionChar
    let shaped := if whole.isEmpty then
        !signed && (fraction.head?.any Numeral.isDigit) && isExponent tail
      else
        startsDigits whole && isExponent tail
    if shaped then
      (Numeral.decimal? (text.filter (· != '_'))).map (·.toFloat)
    else
      none
  | _ => none

def sexagesimalFloat? (text : List Char) : Option Float :=
  match text.splitOn '.' with
  | [whole, fraction] =>
    match colonParts whole with
    | first :: second :: more =>
      if startsDigits first && (second :: more).all isSixtieth && fraction.all isFractionChar then
        let digits := fraction.filter (· != '_')
        some (Float.ofNat (sexagesimal (first :: second :: more)) +
          (Numeral.Decimal.mk ('0' :: digits) (-(digits.length : Int))).toFloat)
      else
        none
    | _ => none
  | _ => none

def float? (text : List Char) : Option Float :=
  let (sign, body) := Numeral.splitSign text
  let signed := body.length < text.length
  let size :=
    if String.ofList body ∈ [".inf", ".Inf", ".INF"] then some Numeral.Special.infinity.toFloat
    else if !signed && String.ofList body ∈ [".nan", ".NaN", ".NAN"] then
      some Numeral.Special.notANumber.toFloat
    else (decimal? signed body).or (sexagesimalFloat? body)
  size.map sign.applyFloat

def digits? (least most : Nat) (text : List Char) : Option (Nat × List Char) :=
  let digits := text.takeWhile Numeral.isDigit
  if least ≤ digits.length && digits.length ≤ most then
    some (Numeral.natValue digits, text.drop digits.length)
  else
    none

def char? (expected : Char) : List Char → Option (List Char)
  | c :: rest => if c = expected then some rest else none
  | [] => none

def isSpaceOrTab (c : Char) : Bool := c == ' ' || c == '\t'

def isZone (text : List Char) : Bool :=
  match text.dropWhile isSpaceOrTab with
  | [] => text.isEmpty
  | ['Z'] => true
  | sign :: rest =>
    (sign == '+' || sign == '-') &&
      match digits? 1 2 rest with
      | some (_, []) => true
      | some (_, ':' :: minutes) => (digits? 2 2 minutes).any (·.2.isEmpty)
      | _ => false

def timestamp? (text : List Char) : Option (List Nat) := do
  let (year, rest) ← digits? 4 4 text
  let (month, rest) ← digits? 1 2 (← char? '-' rest)
  let (day, rest) ← digits? 1 2 (← char? '-' rest)
  if rest.isEmpty then
    if text.length = 10 then some [year, month, day] else none
  else
    let time ← match rest with
      | 'T' :: time | 't' :: time => some time
      | _ =>
        let time := rest.dropWhile isSpaceOrTab
        if time.length < rest.length then some time else none
    let (hour, rest) ← digits? 1 2 time
    let (minute, rest) ← digits? 2 2 (← char? ':' rest)
    let (second, rest) ← digits? 2 2 (← char? ':' rest)
    let rest := match rest with
      | '.' :: fraction => fraction.dropWhile Numeral.isDigit
      | _ => rest
    if isZone rest then some [year, month, day, hour, minute, second] else none

def daysIn (year month : Nat) : Nat :=
  if month = 2 then
    if year % 4 = 0 ∧ (year % 100 ≠ 0 ∨ year % 400 = 0) then 29 else 28
  else if month ∈ [4, 6, 9, 11] then
    30
  else
    31

def misdated? : List Nat → Option String
  | year :: month :: day :: time =>
    if year = 0 then some "year 0 is out of range"
    else if month = 0 ∨ 12 < month then some "month must be in 1..12"
    else if day = 0 ∨ daysIn year month < day then some "day is out of range for month"
    else
      match time with
      | [hour, minute, second] =>
        if 23 < hour then some "hour must be in 0..23"
        else if 59 < minute then some "minute must be in 0..59"
        else if 59 < second then some "second must be in 0..59"
        else none
      | _ => none
  | _ => none

def ofTimestamp (numbers : List Nat) : Except Failure Datum :=
  match misdated? numbers with
  | some message => .error (.noValue message)
  | none => .ok (.other (if numbers.length = 3 then "date" else "datetime") false)

/-- The scalars that have a meaning elsewhere and none here. -/
def reservedWords : List String := ["=", "<<"]

def resolve (text : String) : Except Failure Datum :=
  let cs := text.toList
  if text ∈ reservedWords then .error .malformed
  else if text ∈ trueWords then .ok (.bool true)
  else if text ∈ falseWords then .ok (.bool false)
  else if text ∈ nullWords then .ok .null
  else match float? cs, integer? cs, timestamp? cs with
    | some x, _, _ => .ok (.float x)
    | none, some n, _ => .ok (.int n)
    | none, none, some numbers => ofTimestamp numbers
    | none, none, none => .ok (.text text)

end Scalar

end CurryScript.Yaml
