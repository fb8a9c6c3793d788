import CurryScript.Text.Quoted

/-!
UTF-8. Decoding either gives the characters of all bytes or points at the first sequence of bytes
that stands for none.
-/
namespace CurryScript.Text.Utf8

inductive Fault where
  | invalidStart
  | invalidContinuation
  | unexpectedEnd
  deriving DecidableEq, Repr

def Fault.message : Fault → String
  | .invalidStart => "invalid start byte"
  | .invalidContinuation => "invalid continuation byte"
  | .unexpectedEnd => "unexpected end of data"

structure DecodeError where
  fault : Fault
  position : Nat
  length : Nat
  first : UInt8
  deriving DecidableEq, Repr

def DecodeError.message (error : DecodeError) : String :=
  let place :=
    if error.length = 1 then
      let code := String.ofList (hex 2 error.first.toNat)
      s!"byte 0x{code} in position {error.position}"
    else s!"bytes in position {error.position}-{error.position + error.length - 1}"
  s!"'utf-8' codec can't decode {place}: {error.fault.message}"

def isContinuation (b : UInt8) : Bool := 0x80 ≤ b && b ≤ 0xbf

/-- The bytes that may follow a first byte: a test for the second byte, which excludes overlong
forms, surrogates and what lies beyond the last code point, and then for each further byte. An ASCII
byte is followed by none; a byte that starts no character has no answer. -/
def followers? (b : UInt8) : Option (List (UInt8 → Bool)) :=
  if b < 0x80 then some []
  else if b < 0xc2 then none
  else if b < 0xe0 then some [isContinuation]
  else if b = 0xe0 then some [fun c => 0xa0 ≤ c && c ≤ 0xbf, isContinuation]
  else if b = 0xed then some [fun c => 0x80 ≤ c && c ≤ 0x9f, isContinuation]
  else if b < 0xf0 then some [isContinuation, isContinuation]
  else if b = 0xf0 then some [fun c => 0x90 ≤ c && c ≤ 0xbf, isContinuation, isContinuation]
  else if b < 0xf4 then some [isContinuation, isContinuation, isContinuation]
  else if b = 0xf4 then some [fun c => 0x80 ≤ c && c ≤ 0x8f, isContinuation, isContinuation]
  else none

def leadBits (b : UInt8) : Nat :=
  if b < 0x80 then b.toNat
  else if b < 0xe0 then b.toNat % 0x20
  else if b < 0xf0 then b.toNat % 0x10
  else b.toNat % 0x08

/-- Adds the bits of the bytes that follow, as far as they pass their tests. Gives the code point and
the remaining bytes, or the fault and how many bytes were in order. -/
def follow (code count : Nat) :
    List (UInt8 → Bool) → List UInt8 → Except (Fault × Nat) (Nat × List UInt8)
  | [], bytes => .ok (code, bytes)
  | _ :: _, [] => .error (.unexpectedEnd, count)
  | test :: tests, b :: bytes =>
    if test b then follow (code * 0x40 + b.toNat % 0x40) (count + 1) tests bytes
    else .error (.invalidContinuation, count)

theorem length_follow_le {code count : Nat} {tests : List (UInt8 → Bool)} {bytes rest : List UInt8}
    {result : Nat} (followed : follow code count tests bytes = .ok (result, rest)) :
    rest.length ≤ bytes.length := by
  induction tests generalizing code count bytes with
  | nil => simp_all [follow]
  | cons test tests ih =>
    cases bytes with
    | nil => simp [follow] at followed
    | cons b bytes =>
      rw [follow] at followed
      split at followed
      · have := ih followed
        simp only [List.length_cons]
        omega
      · simp at followed

def decodeFrom (position : Nat) (found : Array Char) (bytes : List UInt8) :
    Except DecodeError (List Char) :=
  match bytes with
  | [] => .ok found.toList
  | b :: rest =>
    match followers? b with
    | none => .error ⟨.invalidStart, position, 1, b⟩
    | some tests =>
      match _ : follow (leadBits b) 1 tests rest with
      | .error (fault, length) => .error ⟨fault, position, length, b⟩
      | .ok (code, after) =>
        decodeFrom (position + 1 + tests.length) (found.push (Char.ofNat code)) after
termination_by bytes.length
decreasing_by
  have := length_follow_le ‹_›
  simp only [List.length_cons]
  omega

def decode (bytes : List UInt8) : Except DecodeError (List Char) := decodeFrom 0 #[] bytes

end CurryScript.Text.Utf8
