import RoleGate.Gate.RoleSourceKind
import RoleGate.Gate.Verdict

/-! The settings of a gate: which role source it works with, and what becomes of those it turns
away. -/

set_option autoImplicit false

namespace RoleGate

structure Settings where
  roleSource : RoleSourceKind := .objectRoles
  loginRequiredRedirection : String := "/login"
  permissionDeniedRedirection : String := "/permission_denied"
  loginRequiredMessage : String := "Login is required to access the requested page."
  permissionDeniedMessage : String := "Permission denied. You cannot access the requested page."
  deriving DecidableEq, Repr

inductive FieldValue where
  | text (value : String)
  /-- A record of one field, which holds nothing. -/
  | named (name : String)
  | other
  deriving DecidableEq, Repr

namespace FieldValue

def text? : FieldValue → Option String
  | text value => some value
  | named _ | other => none

/-- A role source is given by its name, as it is shown; the name may also stand as a field that
holds nothing. -/
def roleSource? : FieldValue → Option RoleSourceKind
  | text name | named name => RoleSourceKind.ofText? name
  | other => none

end FieldValue

namespace Settings

def redirection (settings : Settings) : DenialReason → String
  | .loginRequired => settings.loginRequiredRedirection
  | .permissionDenied => settings.permissionDeniedRedirection

def denialMessage (settings : Settings) : DenialReason → String
  | .loginRequired => settings.loginRequiredMessage
  | .permissionDenied => settings.permissionDeniedMessage

def withFields (roleSource : RoleSourceKind) (field : String → Option String) : Settings :=
  let default : Settings := {}
  let get (name value : String) : String := (field name).getD value
  { roleSource := roleSource
    loginRequiredRedirection := get "login_required_redirection" default.loginRequiredRedirection
    permissionDeniedRedirection :=
      get "permission_denied_redirection" default.permissionDeniedRedirection
    loginRequiredMessage := get "login_required_message" default.loginRequiredMessage
    permissionDeniedMessage := get "permission_denied_message" default.permissionDeniedMessage }

def ofFields (field : String → Option String) : Except SettingsError Settings :=
  match field "role_source" with
  | none => .ok (withFields .objectRoles field)
  | some text => (RoleSourceKind.parse text).map (withFields · field)

def ofEnvironment (lookup? : String → Option String) : Except SettingsError Settings :=
  ofFields fun
    | "role_source" => lookup? "AUTHORIZATION_MIXIN"
    | "login_required_redirection" => lookup? "LOGIN_REQUIRED_REDIRECTION"
    | "permission_denied_redirection" => lookup? "PERMISSION_DENIED_REDIRECTION"
    | _ => none

def textNames : List String :=
  ["login_required_redirection", "permission_denied_redirection", "login_required_message",
    "permission_denied_message"]

/-- The settings that a record holds, field by field. A field of another name is passed over; one of
these names has to hold what the setting takes. -/
def ofRecord? (record : List (String × FieldValue)) : Option Settings :=
  if textNames.all fun name => (record.lookup name).all (·.text?.isSome) then
    let roleSource? : Option RoleSourceKind :=
      match record.lookup "role_source" with
      | none => some .objectRoles
      | some value => value.roleSource?
    roleSource?.map (withFields · fun name => (record.lookup name).bind FieldValue.text?)
  else none

end Settings

end RoleGate
