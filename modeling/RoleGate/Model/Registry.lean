/-! The classes of models that an application knows. -/

set_option autoImplicit false

namespace RoleGate

structure Registry where
  classes : List String := []
  distinct : classes.Nodup := by simp

namespace Registry

def contains (registry : Registry) (name : String) : Bool := registry.classes.contains name

def register (registry : Registry) (name : String) : Registry :=
  if known : name ∈ registry.classes then registry
  else ⟨name :: registry.classes, List.nodup_cons.mpr ⟨known, registry.distinct⟩⟩

def ofList (names : List String) : Registry := names.foldl register {}

def find? (registry : Registry) (name : String) : Option String :=
  if registry.contains name then some name else none

def size (registry : Registry) : Nat := registry.classes.length

def isEmpty (registry : Registry) : Bool := registry.classes.isEmpty

end Registry

end RoleGate
