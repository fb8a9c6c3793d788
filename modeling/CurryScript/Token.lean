import CurryScript.Literal

/-!
Tokens: the lexemes of a script, each with the line it starts on.
-/
namespace CurryScript

inductive Lexeme where
  | colon
  | semicolon
  | openBracket
  | closeBracket
  | identifier (name : String)
  | literal (value : Literal)
  | endOfScript
  deriving DecidableEq, Repr

inductive Lexeme.Kind where
  | colon
  | semicolon
  | openBracket
  | closeBracket
  | identifier
  | integer
  | float
  | string
  | trueWord
  | falseWord
  | endOfScript
  deriving DecidableEq, Repr

namespace Lexeme

def kind : Lexeme → Kind
  | .colon => .colon
  | .semicolon => .semicolon
  | .openBracket => .openBracket
  | .closeBracket => .closeBracket
  | .identifier _ => .identifier
  | .literal (.int _) => .integer
  | .literal (.float _) => .float
  | .literal (.text _) => .string
  | .literal (.bool true) => .trueWord
  | .literal (.bool false) => .falseWord
  | .endOfScript => .endOfScript

def Kind.all : List Kind :=
  [.colon, .semicolon, .openBracket, .closeBracket, .identifier, .integer, .float, .string,
    .trueWord, .falseWord, .endOfScript]

def Kind.name : Kind → String
  | .colon => "COLON"
  | .semicolon => "SEMICOLON"
  | .openBracket => "OPEN_BRACKET"
  | .closeBracket => "CLOSE_BRACKET"
  | .identifier => "IDENTIFIER"
  | .integer => "INTEGER"
  | .float => "FLOAT"
  | .string => "STRING"
  | .trueWord => "TRUE"
  | .falseWord => "FALSE"
  | .endOfScript => "EOF"

def Kind.ofName? (name : String) : Option Kind := Kind.all.find? (·.name == name)

def Kind.symbol : Kind → String
  | .colon => ":"
  | .semicolon => ";"
  | .openBracket => "["
  | .closeBracket => "]"
  | .identifier => "identifier"
  | .integer => "integer"
  | .float => "float"
  | .string => "string"
  | .trueWord => "true"
  | .falseWord => "false"
  | .endOfScript => "eof"

def equal : Lexeme → Lexeme → Bool
  | .identifier a, .identifier b => a == b
  | .literal a, .literal b => a.equal b
  | a, b => a.kind == b.kind

def content? : Lexeme → Option String
  | .identifier name => some (Text.quoted name)
  | .literal value => some value.dump
  | _ => none

end Lexeme

structure Token where
  lexeme : Lexeme
  line : Nat
  text : String
  deriving DecidableEq, Repr

namespace Token

def kind (token : Token) : Lexeme.Kind := token.lexeme.kind

/-- Tokens are equal when their lexemes are, wherever they stand. -/
def equal (a b : Token) : Bool := a.lexeme.equal b.lexeme

def dump (token : Token) : String :=
  match token.lexeme.content? with
  | none => s!"Token({token.kind.name}, line={token.line})"
  | some content => s!"Token({token.kind.name}, {content}, line={token.line})"

end Token

end CurryScript
