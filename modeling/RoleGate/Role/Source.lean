import RoleGate.Principal
import RoleGate.Role.Scope

/-! Role sources: whatever can tell who holds which role on what. -/

set_option autoImplicit false

namespace RoleGate

/-- The answer to one question: does the principal, if there is one, hold the role on the scope? -/
structure RoleSource where
  hasRole : Option Principal → String → Scope → Bool

/-- A source that knows holders by the identifier under which roles are looked up. Whoever has none
holds no role. -/
def RoleSource.ofHolders (holds : String → String → Scope → Bool) : RoleSource where
  hasRole principal? role scope :=
    match principal?.bind Principal.roleKey? with
    | some id => holds id role scope
    | none => false

theorem RoleSource.hasRole_ofHolders_iff {holds : String → String → Scope → Bool}
    {principal? : Option Principal} {role : String} {scope : Scope} :
    (ofHolders holds).hasRole principal? role scope = true ↔
      ∃ principal id, principal? = some principal ∧ principal.id? = some id ∧
        principal.supportsRoles = true ∧ holds id role scope = true := by
  cases principal? with
  | none => simp [ofHolders]
  | some principal =>
    cases key : principal.roleKey? with
    | none =>
      simp only [ofHolders, Option.bind_some, key, Bool.false_eq_true, false_iff]
      rintro ⟨_, id, same, known, supports, -⟩
      cases same
      simp [Principal.roleKey?, known, supports] at key
    | some id =>
      obtain ⟨supports, known⟩ := Principal.roleKey?_eq_some_iff.mp key
      simp [ofHolders, key, supports, known]

/-- A source that grants some roles, each on exactly one scope, to whoever asks; a guest is nobody
and is granted none. -/
def RoleSource.exactly (pairs : List (String × Scope)) : RoleSource where
  hasRole principal? role scope := principal?.isSome && pairs.contains (role, scope)

end RoleGate
