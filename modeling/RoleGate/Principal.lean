/-! Who acts: users, other principals, and guests. -/

set_option autoImplicit false

namespace RoleGate

structure User where
  id : String
  username : String
  deriving DecidableEq, Repr

def User.text (user : User) : String :=
  "User \x7b id: " ++ user.id ++ ", username: " ++ user.username ++ " \x7d"

/-- Who may hold roles. An account of another kind than a user may lack an identifier, or may not
take part in looking up roles. -/
inductive Principal where
  | user (user : User)
  | account (accountId : Option String) (hasRoles : Bool)
  deriving DecidableEq, Repr

namespace Principal

def id? : Principal → Option String
  | user known => some known.id
  | account accountId _ => accountId

def supportsRoles : Principal → Bool
  | user _ => true
  | account _ hasRoles => hasRoles

def roleKey? (principal : Principal) : Option String :=
  if principal.supportsRoles then principal.id? else none

theorem roleKey?_eq_some_iff {principal : Principal} {key : String} :
    principal.roleKey? = some key ↔ principal.supportsRoles = true ∧ principal.id? = some key := by
  simp only [roleKey?]
  split <;> simp [*]

end Principal

inductive Actor where
  | someone (principal : Principal)
  | guest
  deriving DecidableEq, Repr

namespace Actor

def principal? : Actor → Option Principal
  | someone principal => some principal
  | guest => none

def ofPrincipal? : Option Principal → Actor
  | some principal => someone principal
  | none => guest

end Actor

end RoleGate
