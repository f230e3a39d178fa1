import RoleGate.Proofs.Lexing.Spelling
import RoleGate.Proofs.Parsing.Grammar

/-! Writing expressions.

The printer puts no parenthesis that the tree does not have as a group, so it is meant for canonical
trees: those in which every operand binds tighter than the operator it stands under.
-/

set_option autoImplicit false

namespace RoleGate

/-! ### Canonical trees -/

def isPlainWord (name : String) : Bool := isWord name.toList && !isKeyword name.toList

def ModelName.Canonical : ModelName → Prop
  | .object name => isWord name.toList = true
  | .className name => isPlainWord name = true ∧ isClassName name = true

/-- A bare role is a word that is taken neither for an operator nor for a class. What stands between
quotes may be anything. -/
def Atom.Canonical : Atom → Prop
  | .role name false => isPlainWord name = true ∧ isClassName name = false
  | .role _ true => True
  | .model name => name.Canonical
  | .scoped _ on => on.Canonical

def Expr.isChain (op : BinaryOp) : Expr → Bool
  | .binary _ found _ => found = op
  | _ => false

def Expr.Canonical : Expr → Prop
  | .atom leaf => leaf.Canonical
  | .binary left .or right => left.Canonical ∧ right.Canonical ∧ right.isChain .or = false
  | .binary left .and right => left.Canonical ∧ right.Canonical ∧ left.isChain .or = false ∧
      right.isChain .or = false ∧ right.isChain .and = false
  | .not operand => operand.Canonical ∧ ∀ op, operand.isChain op = false
  | .group inner => inner.Canonical

/-! ### The printer -/

def escape (quote : Char) (name : List Char) : List Char :=
  name.flatMap fun c => if c = quote ∨ c = '\\' then ['\\', c] else [c]

def printQuoted (quote : Char) (name : String) : List Char :=
  quote :: (escape quote name.toList ++ [quote])

def ModelName.print : ModelName → List Char
  | .object name => ':' :: name.toList
  | .className name => name.toList

def Atom.print (quote : Char) : Atom → List Char
  | .role name false => name.toList
  | .role name true => printQuoted quote name
  | .model name => name.print
  | .scoped name on => printQuoted quote name ++ ' ' :: 'o' :: 'f' :: ' ' :: on.print

def BinaryOp.print : BinaryOp → List Char
  | .and => ['a', 'n', 'd']
  | .or => ['o', 'r']

def Expr.print (quote : Char) : Expr → List Char
  | .atom leaf => leaf.print quote
  | .binary left op right => left.print quote ++ ' ' :: (op.print ++ ' ' :: right.print quote)
  | .not operand => 'n' :: 'o' :: 't' :: ' ' :: operand.print quote
  | .group inner => '(' :: (inner.print quote ++ [')'])

/-! ### The tokens of what is printed -/

def ModelName.token : ModelName → Token
  | .object name => .symbol name
  | .className name => .word name

def Atom.tokens : Atom → List Token
  | .role name false => [.word name]
  | .role name true => [.quoted name]
  | .model name => [name.token]
  | .scoped name on => [.quoted name, .word "of", on.token]

def Expr.tokens : Expr → List Token
  | .atom leaf => leaf.tokens
  | .binary left op right => left.tokens ++ .op op :: right.tokens
  | .not operand => .not :: operand.tokens
  | .group inner => .leftParen :: (inner.tokens ++ [.rightParen])

end RoleGate
