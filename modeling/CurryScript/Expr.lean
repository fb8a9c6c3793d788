import CurryScript.Literal

/-!
Expressions: the syntax trees of scripts. A block is a run of expressions, either a whole program or
the body of a function.
-/
namespace CurryScript

inductive Expr where
  | literal (value : Literal)
  | list (items : List Expr)
  /-- A call written without brackets. -/
  | bare (name : String)
  | call (name : String) (args : List Expr)
  | lambda (body : List Expr)
  | define (name : String) (body : List Expr)
  deriving Repr

abbrev Block := List Expr

namespace Expr

mutual

def identical : Expr → Expr → Bool
  | .literal a, .literal b => a = b
  | .list a, .list b => identicalAll a b
  | .bare f, .bare g => f = g
  | .call f a, .call g b => f = g && identicalAll a b
  | .lambda a, .lambda b => identicalAll a b
  | .define f a, .define g b => f = g && identicalAll a b
  | _, _ => false

def identicalAll : List Expr → List Expr → Bool
  | [], [] => true
  | a :: as, b :: bs => identical a b && identicalAll as bs
  | _, _ => false

end

mutual

theorem identical_iff : ∀ a b : Expr, a.identical b = true ↔ a = b
  | .literal _, b => by cases b <;> simp [identical]
  | .list xs, b => by cases b <;> simp [identical, identicalAll_iff xs]
  | .bare _, b => by cases b <;> simp [identical]
  | .call _ xs, b => by cases b <;> simp [identical, identicalAll_iff xs]
  | .lambda xs, b => by cases b <;> simp [identical, identicalAll_iff xs]
  | .define _ xs, b => by cases b <;> simp [identical, identicalAll_iff xs]

theorem identicalAll_iff : ∀ as bs : List Expr, identicalAll as bs = true ↔ as = bs
  | [], bs => by cases bs <;> simp [identicalAll]
  | a :: as, bs => by cases bs <;> simp [identicalAll, identical_iff a, identicalAll_iff as]

end

instance : DecidableEq Expr := fun a b => decidable_of_iff _ (identical_iff a b)

mutual

/-- Equality of meaning on the surface: a bare call equals the same call with empty brackets, and
floats are compared as numbers. -/
def equal : Expr → Expr → Bool
  | .literal a, .literal b => a.equal b
  | .list a, .list b => equalAll a b
  | .bare f, .bare g => f = g
  | .bare f, .call g b => f = g && b.isEmpty
  | .call f a, .bare g => f = g && a.isEmpty
  | .call f a, .call g b => f = g && equalAll a b
  | .lambda a, .lambda b => equalAll a b
  | .define f a, .define g b => f = g && equalAll a b
  | _, _ => false

def equalAll : List Expr → List Expr → Bool
  | [], [] => true
  | a :: as, b :: bs => equal a b && equalAll as bs
  | _, _ => false

end

mutual

def dump : Expr → String
  | .literal value => value.dump
  | .list items => s!"ListLiteral({dumpAll items})"
  | .bare name => s!"Call({Text.quoted name})"
  | .call name args => s!"Call({Text.quoted name}, {dumpAll args})"
  | .lambda body => s!"Definition(None, Block({dumpAll body}))"
  | .define name body => s!"Definition({Text.quoted name}, Block({dumpAll body}))"

def dumpAll (exprs : List Expr) : String := Text.commaList (dumpEach exprs)

def dumpEach : List Expr → List String
  | [] => []
  | expr :: rest => dump expr :: dumpEach rest

end

end Expr

namespace Block

def equal (a b : Block) : Bool := Expr.equalAll a b

def dump (block : Block) : String := s!"Block({Expr.dumpAll block})"

end Block

inductive Node where
  | block (block : Block)
  | expr (expr : Expr)
  deriving Repr

namespace Node

/-- A block never equals an expression, not even a list of the same expressions. -/
def equal : Node → Node → Bool
  | .block a, .block b => a.equal b
  | .expr a, .expr b => a.equal b
  | _, _ => false

end Node

end CurryScript
