import RoleGate.Access.Referent
import RoleGate.Access.Run

/-! Evaluating a role expression: each atom asks the role source one question, from left to right,
and no operand is looked at whose value cannot matter. -/

set_option autoImplicit false

namespace RoleGate

/-- The value of a left operand that settles the operation. -/
def BinaryOp.settling : BinaryOp → Bool
  | .and => false
  | .or => true

def Atom.evaluate (source : RoleSource) (models : Registry) (context : Context) (atom : Atom) :
    Run Bool :=
  match atom.scope models context with
  | .ok scope => .ask source context.principal? atom.roleName scope
  | .error error => .fail error

def Expr.evaluate (source : RoleSource) (models : Registry) (context : Context) :
    Expr → Run Bool
  | .atom leaf => leaf.evaluate source models context
  | .binary left op right =>
    (left.evaluate source models context).bind fun value =>
      if value = op.settling then .pure value else right.evaluate source models context
  | .not operand => (operand.evaluate source models context).map (!·)
  | .group inner => inner.evaluate source models context

end RoleGate
