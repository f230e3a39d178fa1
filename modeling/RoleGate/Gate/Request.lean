import RoleGate.Model.Bindings
import RoleGate.Principal

/-! What is known of the request that a gate is asked about. -/

set_option autoImplicit false

namespace RoleGate

structure Request where
  /-- The current user; `none` if nothing is there that could tell. -/
  currentUser? : Option Actor := none
  /-- The objects that were loaded for the request. -/
  bindings : Bindings := {}
  deriving DecidableEq, Repr

/-- The request of a client that was or was not identified on the way here. Where nobody tried to,
the client is a guest. -/
def Request.ofClient (identified? : Option Actor) : Request where
  currentUser? := some (identified?.getD .guest)

end RoleGate
