import RoleGate.Role.Source
import RoleGate.Text.Ascending

/-! Tables of grants: roles that are held on everything, on a class or on one model, and that can be
granted and revoked at any time. -/

set_option autoImplicit false

namespace RoleGate

structure Grant where
  principalId : String
  role : String
  scope : Scope
  deriving DecidableEq, Repr

structure GrantTable where
  grants : List Grant := []
  distinct : grants.Nodup := by simp

namespace GrantTable

def contains (table : GrantTable) (grant : Grant) : Bool := table.grants.contains grant

def insert (table : GrantTable) (grant : Grant) : GrantTable :=
  if known : grant ∈ table.grants then table
  else ⟨grant :: table.grants, List.nodup_cons.mpr ⟨known, table.distinct⟩⟩

def eraseAll (table : GrantTable) (test : Grant → Bool) : GrantTable where
  grants := table.grants.filter fun grant => !test grant
  distinct := table.distinct.sublist List.filter_sublist

def erase (table : GrantTable) (grant : Grant) : GrantTable := table.eraseAll (· == grant)

def ofList (grants : List Grant) : GrantTable := grants.foldl insert {}

def size (table : GrantTable) : Nat := table.grants.length

def isEmpty (table : GrantTable) : Bool := table.grants.isEmpty

/-- Whether somebody holds a role on a scope, by a grant on a scope that covers it. -/
def holds (table : GrantTable) (id role : String) (scope : Scope) : Bool :=
  table.grants.any fun grant =>
    grant.principalId == id && grant.role == role && grant.scope.covers scope

def source (table : GrantTable) : RoleSource := .ofHolders table.holds

def isFor (id : String) (scope : Scope) (grant : Grant) : Bool :=
  grant.principalId == id && grant.scope == scope

def rolesFor (table : GrantTable) (id : String) (scope : Scope) : List String :=
  Text.ascending ((table.grants.filter (isFor id scope)).map Grant.role)

def hasRolesFor (table : GrantTable) (id : String) (scope : Scope) : Bool :=
  table.grants.any (isFor id scope)

/-- Who was granted a role on a scope that covers this one, in ascending order. -/
def principalsWith (table : GrantTable) (role : String) (scope : Scope) : List String :=
  Text.ascending ((table.grants.filter fun grant =>
    grant.role == role && grant.scope.covers scope).map Grant.principalId)

theorem contains_insert (table : GrantTable) (grant other : Grant) :
    (table.insert grant).contains other = (other == grant || table.contains other) := by
  simp only [insert, contains]
  split
  · next known => by_cases same : other = grant <;> simp [same, known]
  · by_cases same : other = grant <;> simp [same]

theorem contains_eraseAll (table : GrantTable) (test : Grant → Bool) (other : Grant) :
    (table.eraseAll test).contains other = (table.contains other && !test other) := by
  rw [Bool.eq_iff_iff]
  simp [eraseAll, contains]

theorem contains_erase (table : GrantTable) (grant other : Grant) :
    (table.erase grant).contains other = (table.contains other && other != grant) :=
  contains_eraseAll table (· == grant) other

theorem holds_iff {table : GrantTable} {id role : String} {scope : Scope} :
    table.holds id role scope = true ↔
      ∃ granted : Scope, table.contains ⟨id, role, granted⟩ = true ∧
        granted.covers scope = true := by
  simp only [holds, contains, List.any_eq_true, Bool.and_eq_true, beq_iff_eq,
    List.contains_iff_mem]
  constructor
  · rintro ⟨⟨_, _, granted⟩, member, ⟨rfl, rfl⟩, covering⟩
    exact ⟨granted, member, covering⟩
  · rintro ⟨granted, member, covering⟩
    exact ⟨_, member, ⟨rfl, rfl⟩, covering⟩

theorem mem_rolesFor {table : GrantTable} {id role : String} {scope : Scope} :
    role ∈ table.rolesFor id scope ↔ table.contains ⟨id, role, scope⟩ = true := by
  simp only [rolesFor, Text.mem_ascending, List.mem_map, List.mem_filter, isFor, contains,
    Bool.and_eq_true, beq_iff_eq, List.contains_iff_mem]
  constructor
  · rintro ⟨⟨_, _, _⟩, ⟨member, rfl, rfl⟩, rfl⟩
    exact member
  · intro member
    exact ⟨_, ⟨member, rfl, rfl⟩, rfl⟩

theorem mem_principalsWith {table : GrantTable} {id role : String} {scope : Scope} :
    id ∈ table.principalsWith role scope ↔ table.holds id role scope = true := by
  simp only [principalsWith, holds, Text.mem_ascending, List.mem_map, List.mem_filter,
    List.any_eq_true, Bool.and_eq_true, beq_iff_eq]
  constructor
  · rintro ⟨grant, ⟨member, asked, covering⟩, holder⟩
    exact ⟨grant, member, ⟨holder, asked⟩, covering⟩
  · rintro ⟨grant, member, ⟨holder, asked⟩, covering⟩
    exact ⟨grant, ⟨member, asked, covering⟩, holder⟩

end GrantTable

end RoleGate
