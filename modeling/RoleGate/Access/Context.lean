import RoleGate.Model.Bindings
import RoleGate.Principal

/-! What an expression is evaluated in: who asks, and the objects that names are bound to. -/

set_option autoImplicit false

namespace RoleGate

structure Context where
  /-- Whoever asks; a guest is nobody. -/
  principal? : Option Principal
  /-- The objects that the call itself hands over. -/
  options : Bindings := {}
  /-- The objects that belong to the request. -/
  bindings : Bindings := {}
  deriving DecidableEq, Repr

/-- The object of that name; those of the call hide those of the request. -/
def Context.find? (context : Context) (name : String) : Option Model :=
  (context.options.find? name).or (context.bindings.find? name)

end RoleGate
