import RoleGate.Proofs.Gate.Decision
import RoleGate.Proofs.Role.Questions
import RoleGate.Role.Fixed

/-! Fixed roles are grants on everything.

A table of grants that are all made on everything covers every scope that is asked about, so it
answers as the fixed roles do from which it was filled. The two cannot be told apart as sources, nor
can gates that work with one or the other.
-/

set_option autoImplicit false

namespace RoleGate

namespace FixedRoles

theorem holds_ofList_iff {entries : List (String × List String)} {id role : String} :
    (ofList entries).holds id role = true ↔
      ∃ entry ∈ entries, entry.1 = role ∧ id ∈ entry.2 := by
  induction entries using List.reverseRecOn with
  | nil => simp [ofList, holds, find?]
  | append_singleton entries last ih =>
    have added : ofList (entries ++ [last]) = (ofList entries).withRole last.1 last.2 := by
      rw [ofList, List.foldl_append]
      rfl
    rw [added, holds_withRole]
    simp only [Bool.or_eq_true, ih, Bool.and_eq_true, beq_iff_eq, List.contains_iff_mem,
      List.mem_append, List.mem_singleton]
    constructor
    · rintro (⟨entry, member, rfl, held⟩ | ⟨rfl, held⟩)
      · exact ⟨entry, .inl member, rfl, held⟩
      · exact ⟨last, .inr rfl, rfl, held⟩
    · rintro ⟨entry, member | rfl, rfl, held⟩
      · exact .inl ⟨entry, member, rfl, held⟩
      · exact .inr ⟨rfl, held⟩

theorem nodup_rolesOf {entries : List HeldRole} (distinct : (entries.map HeldRole.role).Nodup)
    (id : String) : (HeldRole.rolesOf entries id).Nodup :=
  distinct.sublist (List.filter_sublist.map HeldRole.role)

theorem rolesOf_eq_ascending (roles : FixedRoles) (id : String) :
    roles.rolesOf id = Text.ascending (HeldRole.rolesOf roles.entries id) :=
  (Text.sorts_sort _).eq_ascending (nodup_rolesOf roles.distinct id)

theorem rolesOf_eq_of_sorts {roles : FixedRoles} {entries : List HeldRole} {id : String}
    {sorted : List String} (all : entries.Perm roles.entries)
    (sorts : Text.Sorts (HeldRole.rolesOf entries id) sorted) : roles.rolesOf id = sorted := by
  have distinct := (all.map HeldRole.role).nodup_iff.mpr roles.distinct
  have same : (HeldRole.rolesOf entries id).Perm (HeldRole.rolesOf roles.entries id) :=
    (all.filter _).map HeldRole.role
  calc roles.rolesOf id
    _ = Text.ascending (HeldRole.rolesOf roles.entries id) := roles.rolesOf_eq_ascending id
    _ = Text.ascending (HeldRole.rolesOf entries id) :=
      Text.ascending_congr fun _ => same.mem_iff.symm
    _ = sorted := (sorts.eq_ascending (nodup_rolesOf distinct id)).symm

end FixedRoles

namespace GrantTable

def HoldsGlobally (table : GrantTable) (entries : List (String × List String)) : Prop :=
  ∀ id role scope, table.contains ⟨id, role, scope⟩ = true ↔
    scope = .global ∧ ∃ entry ∈ entries, entry.1 = role ∧ id ∈ entry.2

def ofGlobalRoles (entries : List (String × List String)) : GrantTable :=
  ofList (entries.flatMap fun entry => entry.2.map fun id => ⟨id, entry.1, .global⟩)

theorem holdsGlobally_ofGlobalRoles (entries : List (String × List String)) :
    (ofGlobalRoles entries).HoldsGlobally entries := by
  intro id role scope
  rw [ofGlobalRoles, contains_ofList, List.contains_iff_mem]
  simp only [List.mem_flatMap, List.mem_map, Grant.mk.injEq]
  constructor
  · rintro ⟨entry, member, _, held, rfl, rfl, rfl⟩
    exact ⟨rfl, entry, member, rfl, held⟩
  · rintro ⟨rfl, entry, member, rfl, held⟩
    exact ⟨entry, member, id, held, rfl, rfl, rfl⟩

variable {table : GrantTable} {entries : List (String × List String)}

theorem HoldsGlobally.holds_eq (listed : table.HoldsGlobally entries) (id role : String)
    (scope : Scope) : table.holds id role scope = (FixedRoles.ofList entries).holds id role := by
  rw [Bool.eq_iff_iff, holds_iff, FixedRoles.holds_ofList_iff]
  constructor
  · rintro ⟨granted, member, -⟩
    exact ((listed id role granted).mp member).2
  · intro held
    exact ⟨.global, (listed id role .global).mpr ⟨rfl, held⟩, rfl⟩

theorem HoldsGlobally.source_eq (listed : table.HoldsGlobally entries) :
    table.source = (FixedRoles.ofList entries).source := by
  unfold source FixedRoles.source
  congr 1
  funext id role scope
  exact listed.holds_eq id role scope

theorem HoldsGlobally.rolesFor_eq (listed : table.HoldsGlobally entries) (id : String) :
    table.rolesFor id .global = (FixedRoles.ofList entries).rolesOf id := by
  rw [FixedRoles.rolesOf_eq_ascending]
  refine Text.ascending_congr fun role => Text.mem_ascending.symm.trans (mem_rolesFor.trans ?_)
  rw [listed id role .global, FixedRoles.mem_rolesOf_entries, FixedRoles.holds_ofList_iff]
  exact and_iff_right rfl

end GrantTable

/-- The fixed roles and the table answer alike, however either of them is stored, and nobody can
tell by a gate of the same settings and classes which of them it works with. -/
structure FixedRoles.Refines (roles : FixedRoles) (table : GrantTable) : Prop where
  hasRole : ∀ principal? role scope,
    roles.source.hasRole principal? role scope = table.source.hasRole principal? role scope
  rolesOf : ∀ id, roles.rolesOf id = table.rolesFor id .global
  /-- In whatever order the entries come, the roles that somebody holds need only be sorted. -/
  entriesSorted : ∀ entries : List HeldRole, entries.Perm roles.entries → ∀ id sorted,
    Text.Sorts (HeldRole.rolesOf entries id) sorted → roles.rolesOf id = sorted
  /-- So do the roles of somebody's grants, in whatever order these come. -/
  grantsSorted : ∀ grants : List Grant, grants.Perm table.grants → ∀ id sorted,
    Text.Sorts ((grants.filter (GrantTable.isFor id .global)).map Grant.role) sorted →
      roles.rolesOf id = sorted
  answers : ∀ first second : Gate, first.Reachable → second.Reachable →
    first.settings = second.settings → first.models = second.models →
    ∀ entry call, (first.answer roles.source entry call).1 =
      (second.answer table.source entry call).1

/-- There is a table of grants on everything for any fixed roles, and these refine every such
table. -/
theorem FixedRoles.refines_globalGrants (entries : List (String × List String)) :
    (∃ table : GrantTable, table.HoldsGlobally entries) ∧
    ∀ table : GrantTable, table.HoldsGlobally entries → (ofList entries).Refines table := by
  refine ⟨⟨_, GrantTable.holdsGlobally_ofGlobalRoles entries⟩, fun table listed => ?_⟩
  exact {
    hasRole := fun principal? role scope => by rw [listed.source_eq]
    rolesOf := fun id => (listed.rolesFor_eq id).symm
    entriesSorted := fun _ all _ _ sorts => rolesOf_eq_of_sorts all sorts
    grantsSorted := fun _ all id _ sorts =>
      (listed.rolesFor_eq id).symm.trans (GrantTable.rolesFor_eq_of_sorts all sorts)
    answers := fun first second reached alsoReached settings models entry call => by
      have read : first.cache.read call.text = second.cache.read call.text := by
        rw [reached.sound.read_eq, alsoReached.sound.read_eq]
      rw [listed.source_eq]
      exact Gate.answer_congr _ entry call settings models read }

/-- Editors are listed twice, and one of them both times. They are kept once, so that the roles of
whoever was listed twice need only be sorted, as they need be in the table. -/
theorem FixedRoles.refines_globalGrants_editors :
    let entries :=
      [("editor", ["1", "2"]), ("admin", []), ("editor", ["2", "3"]), ("author", ["2"])]
    let roles := ofList entries
    let table := GrantTable.ofGlobalRoles entries
    table.HoldsGlobally entries ∧
      roles.entries.map (fun held => (held.role, held.ids)) =
        [("author", ["2"]), ("editor", ["3", "2", "1"]), ("admin", [])] ∧
      roles.rolesOf "2" = ["author", "editor"] ∧
      table.rolesFor "2" .global = ["author", "editor"] ∧
      ∀ call : GateCall, (Gate.answer {} roles.source .decide call).1 =
        (Gate.answer {} table.source .decide call).1 := by
  intro entries roles table
  have listed := GrantTable.holdsGlobally_ofGlobalRoles entries
  have refines : roles.Refines table := (refines_globalGrants entries).2 table listed
  have kept : roles.rolesOf "2" = ["author", "editor"] :=
    refines.entriesSorted roles.entries (.refl _) "2" _ ⟨by decide, by decide⟩
  exact ⟨listed, by decide, kept, (refines.rolesOf "2").symm.trans kept,
    refines.answers {} {} (.made {} {}) (.made {} {}) rfl rfl .decide⟩

end RoleGate
