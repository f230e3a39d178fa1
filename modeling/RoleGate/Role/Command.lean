import RoleGate.Role.Grants

/-! What a table of grants can be told and asked, and what it answers. -/

set_option autoImplicit false

namespace RoleGate

inductive GrantCommand where
  | grant (grant : Grant)
  | revoke (grant : Grant)
  /-- Revokes every role that a principal was granted on exactly this scope. -/
  | revokeAll (id : String) (scope : Scope)
  | rolesFor (id : String) (scope : Scope)
  | hasRolesFor (id : String) (scope : Scope)
  | principalsWith (role : String) (scope : Scope)
  | hasRole (principal? : Option Principal) (role : String) (scope : Scope)
  deriving DecidableEq, Repr

inductive GrantAnswer where
  | flag (value : Bool)
  | count (value : Nat)
  | names (values : List String)
  deriving DecidableEq, Repr

namespace GrantTable

/-- The answer to a command. Granting and revoking answer whether they change the table, revoking
all answers how many grants it takes away. -/
def answer (table : GrantTable) : GrantCommand → GrantAnswer
  | .grant grant => .flag (!table.contains grant)
  | .revoke grant => .flag (table.contains grant)
  | .revokeAll id scope => .count (table.size - (table.eraseAll (isFor id scope)).size)
  | .rolesFor id scope => .names (table.rolesFor id scope)
  | .hasRolesFor id scope => .flag (table.hasRolesFor id scope)
  | .principalsWith role scope => .names (table.principalsWith role scope)
  | .hasRole principal? role scope => .flag (table.source.hasRole principal? role scope)

def apply (table : GrantTable) : GrantCommand → GrantTable
  | .grant grant => table.insert grant
  | .revoke grant => table.erase grant
  | .revokeAll id scope => table.eraseAll (isFor id scope)
  | _ => table

def run (table : GrantTable) : List GrantCommand → List (GrantAnswer × GrantTable)
  | [] => []
  | command :: rest =>
    (table.answer command, table.apply command) :: (table.apply command).run rest

end GrantTable

end RoleGate
