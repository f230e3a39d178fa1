import RoleGate.Role.Source
import RoleGate.Text.Ascending

/-! Fixed roles: a table of who holds which role, the same on every scope. -/

set_option autoImplicit false

namespace RoleGate

/-- A role with those who hold it, nobody twice. -/
structure HeldRole where
  role : String
  ids : List String := []
  distinct : ids.Nodup := by exact List.nodup_nil

namespace HeldRole

def add (held : HeldRole) (id : String) : HeldRole :=
  if known : id ∈ held.ids then held
  else
    { held with
      ids := id :: held.ids
      distinct := List.nodup_cons.mpr ⟨known, held.distinct⟩ }

def addAll (held : HeldRole) (ids : List String) : HeldRole := ids.foldl add held

def rolesOf (entries : List HeldRole) (id : String) : List String :=
  (entries.filter fun held => held.ids.contains id).map role

theorem role_add (held : HeldRole) (id : String) : (held.add id).role = held.role := by
  unfold add
  split <;> rfl

theorem mem_ids_add {held : HeldRole} {id other : String} :
    other ∈ (held.add id).ids ↔ other ∈ held.ids ∨ other = id := by
  unfold add
  split
  · next known =>
    refine ⟨.inl, ?_⟩
    rintro (member | rfl)
    · exact member
    · exact known
  · rw [List.mem_cons, or_comm]

@[simp] theorem role_addAll (held : HeldRole) (ids : List String) :
    (held.addAll ids).role = held.role := by
  induction ids generalizing held with
  | nil => rfl
  | cons id rest ih => exact (ih (held.add id)).trans (held.role_add id)

theorem mem_ids_addAll {held : HeldRole} {ids : List String} {other : String} :
    other ∈ (held.addAll ids).ids ↔ other ∈ held.ids ∨ other ∈ ids := by
  induction ids generalizing held with
  | nil => simp [addAll]
  | cons id rest ih =>
    rw [addAll, List.foldl_cons, ← addAll, ih, mem_ids_add, or_assoc, List.mem_cons]

end HeldRole

/-- The roles that are held; each role has one entry. -/
structure FixedRoles where
  entries : List HeldRole := []
  distinct : (entries.map HeldRole.role).Nodup := by simp

namespace FixedRoles

def find? (roles : FixedRoles) (role : String) : Option HeldRole :=
  roles.entries.find? fun held => held.role == role

theorem role_of_find? {roles : FixedRoles} {role : String} {held : HeldRole}
    (found : roles.find? role = some held) : held.role = role := by
  simpa using List.find?_some found

theorem find?_of_mem {roles : FixedRoles} {held : HeldRole} (member : held ∈ roles.entries) :
    roles.find? held.role = some held := by
  obtain ⟨entries, distinct⟩ := roles
  simp only [find?] at member ⊢
  induction entries with
  | nil => cases member
  | cons head rest ih =>
    obtain ⟨other, apart⟩ := List.nodup_cons.mp distinct
    rcases List.mem_cons.mp member with rfl | later
    · simp
    · have differs : head.role ≠ held.role := fun same =>
        other (same ▸ List.mem_map_of_mem later)
      rw [List.find?_cons_of_neg (by simpa using differs)]
      exact ih apart later

/-- The entry of a role, to which nobody belongs as long as there is none. -/
def entry (roles : FixedRoles) (role : String) : HeldRole := (roles.find? role).getD { role }

@[simp] theorem role_entry (roles : FixedRoles) (role : String) :
    (roles.entry role).role = role := by
  unfold entry
  cases found : roles.find? role with
  | none => rfl
  | some held => exact role_of_find? found

/-- Adds holders to those that a role has. -/
def withRole (roles : FixedRoles) (role : String) (ids : List String) : FixedRoles where
  entries := (roles.entry role).addAll ids :: roles.entries.filter fun held => held.role != role
  distinct := by
    rw [List.map_cons, HeldRole.role_addAll, role_entry]
    refine List.nodup_cons.mpr ⟨?_, roles.distinct.sublist (List.filter_sublist.map _)⟩
    simp

def ofList (entries : List (String × List String)) : FixedRoles :=
  entries.foldl (fun roles entry => roles.withRole entry.1 entry.2) {}

def holds (roles : FixedRoles) (id role : String) : Bool :=
  (roles.find? role).any fun held => held.ids.contains id

def source (roles : FixedRoles) : RoleSource :=
  .ofHolders fun id role _ => roles.holds id role

def rolesOf (roles : FixedRoles) (id : String) : List String :=
  Text.sort (HeldRole.rolesOf roles.entries id)

theorem find?_withRole (roles : FixedRoles) (role : String) (ids : List String)
    (asked : String) :
    (roles.withRole role ids).find? asked =
      if asked = role then some ((roles.entry role).addAll ids) else roles.find? asked := by
  unfold find? withRole
  by_cases same : asked = role
  · simp [same]
  · -- No entry of the role that is asked for was taken away.
    have kept : (fun held : HeldRole => decide (held.role != role ∧ held.role == asked)) =
        fun held => held.role == asked := by
      funext held
      by_cases here : held.role = asked <;> simp [here, same]
    rw [List.find?_cons_of_neg (by simpa using Ne.symm same), List.find?_filter, kept,
      if_neg same]

theorem holds_withRole (roles : FixedRoles) (role : String) (ids : List String)
    (id asked : String) :
    (roles.withRole role ids).holds id asked =
      (roles.holds id asked || (asked == role && ids.contains id)) := by
  unfold holds
  rw [find?_withRole]
  by_cases same : asked = role
  · subst same
    rw [Bool.eq_iff_iff, if_pos rfl, Option.any_some, List.contains_iff_mem,
      HeldRole.mem_ids_addAll, entry]
    cases roles.find? asked <;> simp
  · simp [same]

theorem holds_iff {roles : FixedRoles} {id role : String} :
    roles.holds id role = true ↔ ∃ held ∈ roles.entries, held.role = role ∧ id ∈ held.ids := by
  unfold holds
  constructor
  · intro holds
    cases found : roles.find? role with
    | none => simp [found] at holds
    | some held =>
      rw [found, Option.any_some, List.contains_iff_mem] at holds
      exact ⟨held, List.mem_of_find?_eq_some found, role_of_find? found, holds⟩
  · rintro ⟨held, member, rfl, belongs⟩
    rw [find?_of_mem member]
    simpa using belongs

theorem mem_rolesOf_entries {roles : FixedRoles} {id role : String} :
    role ∈ HeldRole.rolesOf roles.entries id ↔ roles.holds id role = true := by
  simp only [holds_iff, HeldRole.rolesOf, List.mem_map, List.mem_filter, List.contains_iff_mem]
  exact exists_congr fun held => by rw [and_right_comm, and_assoc]

end FixedRoles

end RoleGate
