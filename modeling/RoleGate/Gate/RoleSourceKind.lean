import RoleGate.Text.Blank
import RoleGate.Text.Lowercase

/-! The kinds of role source that an application may be set up with. -/

set_option autoImplicit false

namespace RoleGate

inductive RoleSourceKind where
  | hardwired
  | objectRoles
  deriving DecidableEq, Repr

inductive SettingsError where
  | unknownRoleSource (text : String)
  deriving DecidableEq, Repr

def SettingsError.message : SettingsError → String
  | .unknownRoleSource text => "unknown role source: '" ++ text ++ "'"

namespace RoleSourceKind

def text : RoleSourceKind → String
  | hardwired => "hardwired"
  | objectRoles => "object roles"

def ofText? : String → Option RoleSourceKind
  | "hardwired" => some hardwired
  | "object roles" => some objectRoles
  | "object_roles" => some objectRoles
  | _ => none

def parse (text : String) : Except SettingsError RoleSourceKind :=
  let word := Text.trim text.toList
  if Text.spells word "hardwired" then .ok hardwired
  else if Text.spells word "object roles" || Text.spells word "object_roles" then .ok objectRoles
  else .error (.unknownRoleSource text)

@[simp] theorem ofText?_text (kind : RoleSourceKind) : ofText? kind.text = some kind := by
  cases kind <;> rfl

end RoleSourceKind

end RoleGate
