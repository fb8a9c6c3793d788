import CurryScript.Token

/-!
Syntax errors: what is wrong with a script, and where.
-/
namespace CurryScript

inductive Complaint where
  /-- A string whose closing quote is missing; `rest` is all that follows its opening quote. -/
  | unterminatedString (rest : String)
  /-- The tokens end, without an end-of-script token, inside a statement. -/
  | unterminatedStatement
  | unexpectedToken
  | unterminatedBlock
  | unmatchedClose
  | unmatchedOpen
  | expressionExpected
  | itemExpected
  | semicolonExpected
  | bodyExpected
  deriving DecidableEq, Repr

def Complaint.message : Complaint → String
  | .unterminatedString rest => "unterminated string in source: " ++ rest
  | .unterminatedStatement => "unexpected end of file; statement unterminated"
  | .unexpectedToken => "syntax error, unexpected token"
  | .unterminatedBlock => "unexpected end of file; block unterminated"
  | .unmatchedClose => "unmatched close bracket"
  | .unmatchedOpen => "unmatched open bracket"
  | .expressionExpected => "expression expected"
  | .itemExpected => "expression or close bracket expected"
  | .semicolonExpected => "semicolon expected after expression"
  | .bodyExpected => "expected function definition after colon, didn't get one"

structure Place where
  line : Nat
  text : String
  deriving DecidableEq, Repr

def Token.place (token : Token) : Place := ⟨token.line, token.text⟩

/-- A complaint about a place, or about the end of the tokens when there is none. -/
structure SyntaxError where
  complaint : Complaint
  place : Option Place
  deriving DecidableEq, Repr

namespace SyntaxError

def atToken (complaint : Complaint) (token : Token) : SyntaxError :=
  ⟨complaint, some token.place⟩

def report (error : SyntaxError) : String :=
  let (line, text) := match error.place with
    | some place => (toString place.line, place.text)
    | none => ("-1", "EOF")
  s!"--- Parse error on line {line} :\n--- {error.complaint.message} :\n\"{text}\""

end SyntaxError

end CurryScript
