import RoleGate.Expr

/-! The tokens of role expressions. -/

set_option autoImplicit false

namespace RoleGate

inductive Token where
  /-- A word that is no keyword: a role, a class, an object or a preposition. -/
  | word (name : String)
  /-- A word after a colon, which names an object. -/
  | symbol (name : String)
  /-- A role between quotes, with its escapes resolved. -/
  | quoted (name : String)
  | leftParen
  | rightParen
  | op (op : BinaryOp)
  | not
  deriving DecidableEq, Repr

/-- A token as error messages show it: operators by their keyword, quoted roles between single
quotes whatever they hold. -/
def Token.text : Token → String
  | .word name => name
  | .symbol name => ":" ++ name
  | .quoted name => "'" ++ name ++ "'"
  | .leftParen => "("
  | .rightParen => ")"
  | .op .and => "and"
  | .op .or => "or"
  | .not => "not"

end RoleGate
