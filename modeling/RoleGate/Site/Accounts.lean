import RoleGate.Gate
import RoleGate.Role.Grants
import RoleGate.Role.Fixed
import RoleGate.Web.Request

/-! The users of the demonstration site, and the roles they hold. -/

set_option autoImplicit false

namespace RoleGate.Site

def users : List User := [⟨"1", "alice"⟩, ⟨"2", "bob"⟩, ⟨"3", "carol"⟩, ⟨"4", "dave"⟩]

def client (request : WebRequest) : Actor :=
  match request.header? "x-user" with
  | none => .guest
  | some id =>
    match users.find? fun user => user.id == id with
    | some user => .someone (.user user)
    | none => .guest

def document (id : String) : Model := ⟨"Document", id⟩

def grants : GrantTable := .ofList [
  ⟨"1", "admin", .global⟩,
  ⟨"2", "editor", .global⟩,
  ⟨"2", "owner", .ofModel (document "1")⟩,
  ⟨"3", "reviewer", .ofClass "Document"⟩,
  ⟨"4", "banned", .global⟩]

def fixedRoles : FixedRoles := .ofList [
  ("admin", ["1"]),
  ("editor", ["2"]),
  ("owner", ["2"]),
  ("reviewer", ["3"]),
  ("banned", ["4"])]

def models : Registry := .ofList ["Document", "Workshop"]

def source : RoleSourceKind → RoleSource
  | .hardwired => fixedRoles.source
  | .objectRoles => grants.source

end RoleGate.Site
