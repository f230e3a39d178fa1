import RoleGate.Access.Error
import RoleGate.Gate.Options

/-! What a gate settles before it looks at the expression: whether whoever acts may be asked about
at all. -/

set_option autoImplicit false

namespace RoleGate

inductive Admission where
  /-- Whoever acts may take part; a guest is nobody. -/
  | admitted (principal? : Option Principal)
  /-- Somebody has to log in first. -/
  | refused
  deriving DecidableEq, Repr

/-- Where guests are not allowed, somebody has to be known who has an identifier and whose roles can
be looked up. -/
def PermitOptions.admit (options : PermitOptions) (actor? : Option Actor) :
    Except AccessError Admission :=
  let principal? := actor?.bind Actor.principal?
  if options.allowGuests then .ok (.admitted principal?)
  else if actor?.isNone then .error .noCurrentUser
  else
    match principal? with
    | none => .ok .refused
    | some principal =>
      if principal.id?.isNone then .error .userWithoutId
      else if principal.supportsRoles then .ok (.admitted principal?)
      else .error .userWithoutRoles

end RoleGate
