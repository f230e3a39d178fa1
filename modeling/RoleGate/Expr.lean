/-! Role expressions: boolean formulas over questions about roles.

An expression is a tree of `and`, `or` and `not` over atoms. Each atom asks for one role, on
everything, on a class of models or on a single model.
-/

set_option autoImplicit false

namespace RoleGate

inductive BinaryOp where
  | and
  | or
  deriving DecidableEq, Repr

inductive ModelName where
  | object (name : String)
  | className (name : String)
  deriving DecidableEq, Repr

/-- The leaves of an expression. A quoted role is never taken for the name of an object. -/
inductive Atom where
  | role (name : String) (quoted : Bool)
  | model (name : ModelName)
  | scoped (role : String) (model : ModelName)
  deriving DecidableEq, Repr

inductive Expr where
  | atom (atom : Atom)
  | binary (left : Expr) (op : BinaryOp) (right : Expr)
  | not (operand : Expr)
  | group (inner : Expr)
  deriving DecidableEq, Repr

def ModelName.name : ModelName → String
  | .object name => name
  | .className name => name

/-- The role that an atom asks for; a model that stands alone names a role as well. -/
def Atom.roleName : Atom → String
  | .role name _ => name
  | .model reference => reference.name
  | .scoped asked _ => asked

end RoleGate
