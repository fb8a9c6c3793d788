import CurryScript.Expr
import CurryScript.SyntaxError

/-!
The grammar of scripts, as productions over token lists.

* `block`: expressions, each followed by a semicolon; the last semicolon may be missing.
* `expression`: a literal, a list, a definition or a call.
* `list`: expressions between brackets.
* `call`: an identifier, with a list directly after it if there are arguments.
* `definition`: an optional identifier, a colon, and a block between brackets.

Productions nest no deeper than a given depth. Each returns what is left of the tokens, which is
always shorter than what it was given.
-/
namespace CurryScript

inductive ParseStop where
  | syntaxError (error : SyntaxError)
  | tooDeep
  deriving DecidableEq, Repr

/-- What a production read, and the tokens left after it, fewer than `bound`. -/
structure Reading (α : Type) (bound : Nat) where
  value : α
  rest : List Token
  shorter : rest.length < bound

namespace Reading

def map {α β : Type} {bound : Nat} (f : α → β) (reading : Reading α bound) : Reading β bound :=
  ⟨f reading.value, reading.rest, reading.shorter⟩

end Reading

namespace Grammar

abbrev Attempt (tokens : List Token) := Except ParseStop (Option (Reading Expr tokens.length))

def complain {α : Type} (complaint : Complaint) (token : Token) : Except ParseStop α :=
  .error (.syntaxError (.atToken complaint token))

def outOfTokens {α : Type} : Except ParseStop α :=
  .error (.syntaxError ⟨.unterminatedStatement, none⟩)

def items (item : (tokens : List Token) → Attempt tokens) (opener : Token) (bound : Nat)
    (found : Array Expr) (tokens : List Token) (inside : tokens.length ≤ bound) :
    Except ParseStop (Reading (List Expr) bound) :=
  match tokens with
  | [] => outOfTokens
  | token :: rest =>
    if token.kind = .closeBracket then
      .ok ⟨found.toList, rest, by simp at inside; omega⟩
    else if token.kind = .endOfScript then
      complain .unmatchedOpen opener
    else
      match item (token :: rest) with
      | .error stop => .error stop
      | .ok none => complain .itemExpected token
      | .ok (some reading) =>
        items item opener bound (found.push reading.value) reading.rest
          (by have := reading.shorter; omega)
termination_by tokens.length
decreasing_by have := reading.shorter; omega

def noStatement (token : Token) : Complaint :=
  match token.kind with
  | .endOfScript => .unterminatedBlock
  | .closeBracket => .unmatchedClose
  | _ => .expressionExpected

def statements (item : (tokens : List Token) → Attempt tokens) (terminator : Lexeme.Kind)
    (bound : Nat) (found : Array Expr) (tokens : List Token) (inside : tokens.length < bound) :
    Except ParseStop (Reading Block bound) :=
  match tokens with
  | [] => outOfTokens
  | token :: rest =>
    if token.kind = terminator then
      .ok ⟨found.toList, token :: rest, inside⟩
    else
      match item (token :: rest) with
      | .error stop => .error stop
      | .ok none => complain (noStatement token) token
      | .ok (some ⟨expr, after, shorter⟩) =>
        match after with
        | [] => outOfTokens
        | check :: next =>
          if check.kind = .semicolon then
            statements item terminator bound (found.push expr) next
              (by simp only [List.length_cons] at shorter inside; omega)
          else if check.kind = terminator then
            .ok ⟨(found.push expr).toList, check :: next, by omega⟩
          else
            complain .semicolonExpected check
termination_by tokens.length
decreasing_by simp only [List.length_cons] at shorter ⊢; omega

def calleeName (token : Token) : String :=
  match token.lexeme with
  | .identifier name => name
  | _ => ""

def body (block : (tokens : List Token) → Except ParseStop (Reading Block (tokens.length + 1)))
    (colon : Token) (tokens : List Token) : Except ParseStop (Reading Block tokens.length) :=
  match tokens with
  | [] => outOfTokens
  | opener :: rest =>
    if opener.kind = .openBracket then
      -- The block stops before its closing bracket.
      (block rest).map fun reading =>
        ⟨reading.value, reading.rest.tail, by have := reading.shorter; simp; omega⟩
    else
      complain .bodyExpected colon

mutual

def expression (depth : Nat) (tokens : List Token) : Attempt tokens :=
  match depth with
  | 0 => .error .tooDeep
  | depth + 1 =>
    match tokens with
    | [] => outOfTokens
    | token :: rest =>
      match token.lexeme with
      | .literal value => .ok (some ⟨.literal value, rest, by simp⟩)
      | .openBracket => (list depth (token :: rest)).map fun reading => some (reading.map .list)
      | .colon =>
        match definition depth (token :: rest) with
        | .ok none => complain .bodyExpected token
        | attempt => attempt
      | .identifier _ =>
        match definition depth (token :: rest) with
        | .ok none => (call depth (token :: rest)).map some
        | attempt => attempt
      | _ => .ok none
termination_by structural depth

/-- Reads the items of a list, whatever its first token is. -/
def list (depth : Nat) (tokens : List Token) :
    Except ParseStop (Reading (List Expr) tokens.length) :=
  match depth with
  | 0 => .error .tooDeep
  | depth + 1 =>
    match tokens with
    | [] => outOfTokens
    | opener :: rest => items (expression depth) opener (rest.length + 1) #[] rest (by omega)
termination_by structural depth

def call (depth : Nat) (tokens : List Token) : Except ParseStop (Reading Expr tokens.length) :=
  match depth with
  | 0 => .error .tooDeep
  | depth + 1 =>
    match tokens with
    | [] => outOfTokens
    -- Whether there are arguments shows only in the token after the callee.
    | [_] => outOfTokens
    | callee :: next :: rest =>
      if next.kind = .openBracket then
        (list depth (next :: rest)).map fun reading =>
          ⟨.call (calleeName callee) reading.value, reading.rest,
            by have := reading.shorter; simp at this ⊢; omega⟩
      else
        .ok ⟨.bare (calleeName callee), next :: rest, by simp⟩
termination_by structural depth

/-- Reads a definition, or none if no definition starts here. A colon commits to one. -/
def definition (depth : Nat) (tokens : List Token) : Attempt tokens :=
  match depth with
  | 0 => .error .tooDeep
  | depth + 1 =>
    match tokens with
    | [] => outOfTokens
    | token :: rest =>
      match token.lexeme with
      | .identifier name =>
        match rest with
        | [] => outOfTokens
        | colon :: rest =>
          if colon.kind = .colon then
            (body (block depth .closeBracket) colon rest).map fun reading =>
              some ⟨.define name reading.value, reading.rest,
                by have := reading.shorter; simp; omega⟩
          else
            .ok none
      | .colon =>
        (body (block depth .closeBracket) token rest).map fun reading =>
          some ⟨.lambda reading.value, reading.rest, by have := reading.shorter; simp; omega⟩
      | _ => .ok none
termination_by structural depth

def block (depth : Nat) (terminator : Lexeme.Kind) (tokens : List Token) :
    Except ParseStop (Reading Block (tokens.length + 1)) :=
  match depth with
  | 0 => .error .tooDeep
  | depth + 1 =>
    statements (expression depth) terminator (tokens.length + 1) #[] tokens (by omega)
termination_by structural depth

end

def program (depth : Nat) (tokens : List Token) :
    Except ParseStop (Reading Block tokens.length) :=
  match block depth .endOfScript tokens with
  | .error stop => .error stop
  | .ok ⟨statements, rest, shorter⟩ =>
    match rest with
    | [] => outOfTokens
    | token :: after =>
      if token.kind = .endOfScript then
        .ok ⟨statements, after, by simp at shorter; omega⟩
      else
        complain .unexpectedToken token

end Grammar

def parse (depth : Nat) (tokens : List Token) (start : Nat := 0) :
    Except ParseStop (Block × Nat) :=
  let tokens := tokens.drop start
  (Grammar.program depth tokens).map fun reading =>
    (reading.value, tokens.length - reading.rest.length)

end CurryScript
