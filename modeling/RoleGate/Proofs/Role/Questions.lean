import RoleGate.Proofs.Role.Contents
import RoleGate.Proofs.Text.Sorting

/-! What the questions to a table of grants have to do with each other.

Some of them look at grants on exactly one scope and others at all grants whose scope covers it, yet
each is answered as the others make one expect. What is listed comes in ascending order without
repetitions, however the grants are stored, so nothing of their history can be seen in it.
-/

set_option autoImplicit false

namespace RoleGate.GrantTable

variable {table other : GrantTable} {id role : String} {scope asked : Scope}

/-- A role is held on a scope where it was granted on everything, on the class that the scope is or
that its model belongs to, or on the scope itself. -/
theorem holds_iff_mem_rolesFor :
    table.holds id role asked = true ↔
      role ∈ table.rolesFor id .global ∨
        (∃ name, asked.className? = some name ∧ role ∈ table.rolesFor id (.ofClass name)) ∨
        role ∈ table.rolesFor id asked := by
  simp only [holds_iff, mem_rolesFor, Scope.covers_iff]
  constructor
  · rintro ⟨granted, held, rfl | ⟨name, rfl, belongs⟩ | rfl⟩
    · exact .inl held
    · exact .inr (.inl ⟨name, belongs, held⟩)
    · exact .inr (.inr held)
  · rintro (held | ⟨name, belongs, held⟩ | held)
    · exact ⟨_, held, .inl rfl⟩
    · exact ⟨_, held, .inr (.inl ⟨name, rfl, belongs⟩)⟩
    · exact ⟨_, held, .inr (.inr rfl)⟩

theorem hasRolesFor_iff_ne_nil :
    table.hasRolesFor id scope = true ↔ table.rolesFor id scope ≠ [] := by
  simp only [hasRolesFor_iff, ← mem_rolesFor, ne_eq, List.eq_nil_iff_forall_not_mem, not_forall,
    not_not]

theorem nodup_roles {listed : List Grant} (distinct : listed.Nodup) (id : String) (scope : Scope) :
    ((listed.filter (isFor id scope)).map Grant.role).Nodup := by
  refine (distinct.filter _).map_on fun first member second also same => ?_
  -- Both grants are made to the same principal on the same scope, so the role is all that could
  -- tell them apart.
  simp only [List.mem_filter, isFor, Bool.and_eq_true, beq_iff_eq] at member also
  obtain ⟨_, _, _⟩ := first
  obtain ⟨_, _, _⟩ := second
  obtain ⟨-, rfl, rfl⟩ := member
  obtain ⟨-, rfl, rfl⟩ := also
  cases same
  rfl

theorem rolesFor_eq_of_sorts {listed : List Grant} {sorted : List String}
    (all : listed.Perm table.grants)
    (sorts : Text.Sorts ((listed.filter (isFor id scope)).map Grant.role) sorted) :
    table.rolesFor id scope = sorted := by
  have once := nodup_roles (all.nodup_iff.mpr table.distinct) id scope
  have same := (all.filter (isFor id scope)).map Grant.role
  calc table.rolesFor id scope
    _ = Text.ascending ((listed.filter (isFor id scope)).map Grant.role) :=
      Text.ascending_congr fun _ => same.mem_iff.symm
    _ = sorted := (sorts.eq_ascending once).symm

theorem principalsWith_eq_of_sorts {listed : List Grant} {sorted : List String}
    (all : listed.Perm table.grants)
    (sorts : Text.Sorts ((listed.filter fun grant =>
      grant.role == role && grant.scope.covers asked).map Grant.principalId) sorted) :
    table.principalsWith role asked = sorted.destutter (· ≠ ·) := by
  have same := (all.filter fun grant => grant.role == role && grant.scope.covers asked).map
    Grant.principalId
  calc table.principalsWith role asked
    _ = Text.ascending ((listed.filter fun grant =>
          grant.role == role && grant.scope.covers asked).map Grant.principalId) :=
      Text.ascending_congr fun _ => same.mem_iff.symm
    _ = sorted.destutter (· ≠ ·) := sorts.destutter_eq_ascending.symm

structure Coherent (table : GrantTable) : Prop where
  principals : ∀ (user : User) role asked, user.id ∈ table.principalsWith role asked ↔
    table.source.hasRole (some (.user user)) role asked = true
  roles : ∀ (user : User) role asked,
    table.source.hasRole (some (.user user)) role asked = true ↔
      role ∈ table.rolesFor user.id .global ∨
        (∃ name, asked.className? = some name ∧ role ∈ table.rolesFor user.id (.ofClass name)) ∨
        role ∈ table.rolesFor user.id asked
  any : ∀ id scope, table.hasRolesFor id scope = true ↔ table.rolesFor id scope ≠ []
  rolesAscend : ∀ id scope, (table.rolesFor id scope).Pairwise (· < ·)
  rolesOnce : ∀ id scope, (table.rolesFor id scope).Nodup
  principalsAscend : ∀ role asked, (table.principalsWith role asked).Pairwise (· < ·)
  principalsOnce : ∀ role asked, (table.principalsWith role asked).Nodup
  /-- In whatever order the grants come, the roles on one scope need only be sorted. -/
  rolesSorted : ∀ listed : List Grant, listed.Perm table.grants → ∀ id scope sorted,
    Text.Sorts ((listed.filter (isFor id scope)).map Grant.role) sorted →
      table.rolesFor id scope = sorted
  /-- In whatever order the grants come, those who hold a role by several of them are dropped but
  once after sorting. -/
  principalsSorted : ∀ listed : List Grant, listed.Perm table.grants → ∀ role asked sorted,
    Text.Sorts ((listed.filter fun grant =>
      grant.role == role && grant.scope.covers asked).map Grant.principalId) sorted →
      table.principalsWith role asked = sorted.destutter (· ≠ ·)

/-- The answers of a table fit together, and tables that hold the same grants list the same, however
they have come to hold them. -/
theorem questions_agree (table : GrantTable) :
    table.Coherent ∧ ∀ other, Same table other →
      (∀ id scope, table.rolesFor id scope = other.rolesFor id scope) ∧
      ∀ role asked, table.principalsWith role asked = other.principalsWith role asked := by
  have ascend (texts : List String) := Text.pairwise_ascending texts
  refine ⟨?_, fun other same => ⟨fun id scope => ?_, fun role asked => ?_⟩⟩
  · exact {
      principals := fun _ _ _ => mem_principalsWith
      roles := fun _ _ _ => holds_iff_mem_rolesFor
      any := fun _ _ => hasRolesFor_iff_ne_nil
      rolesAscend := fun _ _ => ascend _
      rolesOnce := fun _ _ => Text.nodup_of_pairwise (ascend _)
      principalsAscend := fun _ _ => ascend _
      principalsOnce := fun _ _ => Text.nodup_of_pairwise (ascend _)
      rolesSorted := fun _ all _ _ _ sorts => rolesFor_eq_of_sorts all sorts
      principalsSorted := fun _ all _ _ _ sorts => principalsWith_eq_of_sorts all sorts }
  · exact GrantAnswer.names.inj (same.answer (.rolesFor id scope))
  · exact GrantAnswer.names.inj (same.answer (.principalsWith role asked))

/-- Two histories of the same grants. Whoever holds a role twice is listed once, as after sorting
the three grants in yet another order. -/
theorem questions_agree_editors :
    let document : Scope := .ofModel ⟨"Document", "1"⟩
    let own : Grant := ⟨"2", "editor", document⟩
    let every : Grant := ⟨"2", "editor", .global⟩
    let colleague : Grant := ⟨"1", "editor", .ofClass "Document"⟩
    let banned : Grant := ⟨"1", "banned", .global⟩
    let table := ofList [own, every, colleague]
    let other := ((ofList [banned, colleague, own]).apply (.grant every)).apply (.revoke banned)
    Same table other ∧
      table.principalsWith "editor" document = other.principalsWith "editor" document ∧
      table.principalsWith "editor" document = ["1", "2", "2"].destutter (· ≠ ·) ∧
      table.source.hasRole (some (.user ⟨"1", "alice"⟩)) "editor" document = true := by
  intro document own every colleague banned table other
  have same : Same table other := by
    intro grant
    have perm : table.grants.Perm other.grants := by decide
    rw [Bool.eq_iff_iff, contains_iff, contains_iff]
    exact perm.mem_iff
  obtain ⟨coherent, listed⟩ := questions_agree table
  have sorted := coherent.principalsSorted [every, own, colleague] (by decide) "editor" document
    ["1", "2", "2"] ⟨by decide, by decide⟩
  refine ⟨same, (listed other same).2 "editor" document, sorted, ?_⟩
  refine (coherent.principals ⟨"1", "alice"⟩ "editor" document).mp ?_
  rw [sorted]
  decide

end RoleGate.GrantTable
