import RoleGate.Expr.ParseError

/-! Why a question of access has no answer. Each is a mistake of the application; a user who may not
do something is refused, and that is an answer. -/

set_option autoImplicit false

namespace RoleGate

inductive AccessError where
  /-- Nothing tells who acts, and guests are not allowed. -/
  | noCurrentUser
  | userWithoutId
  | userWithoutRoles
  | unknownClass (name : String)
  | unboundModel (name : String)
  | malformed (cause : ParseError)
  deriving DecidableEq, Repr

def AccessError.message : AccessError → String
  | .noCurrentUser =>
    "couldn't find a current user, and nothing appropriate was supplied in the options"
  | .userWithoutId => "user doesn't implement an id"
  | .userWithoutRoles => "user doesn't implement role lookup"
  | .unknownClass name => "couldn't find model class: " ++ name
  | .unboundModel name =>
    "couldn't find model (" ++ name ++ ") in the options or the request bindings"
  | .malformed cause => "syntax error: " ++ cause.message

end RoleGate
