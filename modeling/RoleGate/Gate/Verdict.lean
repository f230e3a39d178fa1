/-! What a gate decides. -/

set_option autoImplicit false

namespace RoleGate

inductive DenialReason where
  | loginRequired
  | permissionDenied
  deriving DecidableEq, Repr

inductive Verdict where
  | allowed
  | denied (reason : DenialReason)
  deriving DecidableEq, Repr

def Verdict.isAllowed : Verdict → Bool
  | allowed => true
  | denied _ => false

structure Denial where
  reason : DenialReason
  location : String
  message : String
  deriving DecidableEq, Repr

end RoleGate
