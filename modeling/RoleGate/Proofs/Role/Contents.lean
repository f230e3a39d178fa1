import Mathlib.Data.List.Basic
import Mathlib.Data.List.Induction
import RoleGate.Role.Command

/-! What a table of grants holds, and what can be seen of it.

A table answers by the grants that it holds; neither the order in which they were made nor what was
revoked in between can be seen. A change decides on the grants that it touches and leaves all others
as they are, so changes that touch different grants may be made in either order.
-/

set_option autoImplicit false

namespace RoleGate

def Grant.Gives (grant : Grant) (principal? : Option Principal) (role : String)
    (asked : Scope) : Prop :=
  (∃ principal, principal? = some principal ∧ principal.id? = some grant.principalId ∧
    principal.supportsRoles = true) ∧
  grant.role = role ∧ grant.scope.covers asked = true

namespace GrantCommand

/-- Whether a command decides if the grant is in force: it makes or revokes just this grant, or it
revokes all that the principal was granted on the scope. A question decides on none. -/
def touches (command : GrantCommand) (grant : Grant) : Bool :=
  match command with
  | .grant made => made == grant
  | .revoke taken => taken == grant
  | .revokeAll id scope => grant.principalId == id && grant.scope == scope
  | .rolesFor _ _ | .hasRolesFor _ _ | .principalsWith _ _ | .hasRole _ _ _ => false

def isChange : GrantCommand → Bool
  | .grant _ | .revoke _ | .revokeAll _ _ => true
  | .rolesFor _ _ | .hasRolesFor _ _ | .principalsWith _ _ | .hasRole _ _ _ => false

def Apart (first second : GrantCommand) : Prop :=
  ∀ grant, first.touches grant = true → ¬second.touches grant = true

end GrantCommand

namespace GrantTable

variable {table other first second : GrantTable}

theorem contains_iff {grant : Grant} : table.contains grant = true ↔ grant ∈ table.grants :=
  List.contains_iff_mem

theorem hasRole_iff {principal? : Option Principal} {role : String} {asked : Scope} :
    table.source.hasRole principal? role asked = true ↔
      ∃ grant, table.contains grant = true ∧ grant.Gives principal? role asked := by
  rw [source, RoleSource.hasRole_ofHolders_iff]
  constructor
  · rintro ⟨principal, id, rfl, known, supports, held⟩
    obtain ⟨granted, member, covering⟩ := holds_iff.mp held
    exact ⟨⟨id, role, granted⟩, member, ⟨principal, rfl, known, supports⟩, rfl, covering⟩
  · rintro ⟨⟨id, _, granted⟩, member, ⟨principal, rfl, known, supports⟩, rfl, covering⟩
    exact ⟨principal, id, rfl, known, supports, holds_iff.mpr ⟨granted, member, covering⟩⟩

theorem contains_ofList (grants : List Grant) (grant : Grant) :
    (ofList grants).contains grant = grants.contains grant := by
  induction grants using List.reverseRecOn with
  | nil => rfl
  | append_singleton grants last ih =>
    have added : ofList (grants ++ [last]) = (ofList grants).insert last := by
      rw [ofList, List.foldl_append]
      rfl
    rw [added, contains_insert, ih, Bool.eq_iff_iff]
    simp [or_comm]

theorem hasRolesFor_iff {id : String} {scope : Scope} :
    table.hasRolesFor id scope = true ↔
      ∃ role, table.contains ⟨id, role, scope⟩ = true := by
  simp only [hasRolesFor, isFor, List.any_eq_true, Bool.and_eq_true, beq_iff_eq, contains_iff]
  constructor
  · rintro ⟨⟨_, role, _⟩, member, rfl, rfl⟩
    exact ⟨role, member⟩
  · rintro ⟨role, member⟩
    exact ⟨_, member, rfl, rfl⟩

theorem answer_revokeAll (table : GrantTable) (id : String) (scope : Scope) :
    table.answer (.revokeAll id scope) =
      .count (table.grants.filter (isFor id scope)).length := by
  have parts := List.length_eq_length_filter_add (l := table.grants) (isFor id scope)
  simp only [answer, size, eraseAll, GrantAnswer.count.injEq]
  omega

/-! ### One command -/

/-- After a command, the grants that it touches are in force exactly if it makes them; all others
are as they were. -/
theorem contains_apply (table : GrantTable) (command : GrantCommand) (grant : Grant) :
    (table.apply command).contains grant =
      if command.touches grant then decide (command = .grant grant) else table.contains grant := by
  cases command with
  | grant made =>
    rw [apply, contains_insert]
    by_cases same : made = grant
    · simp [GrantCommand.touches, same]
    · simp [GrantCommand.touches, same, Ne.symm same]
  | revoke taken =>
    rw [apply, contains_erase]
    by_cases same : taken = grant
    · simp [GrantCommand.touches, same]
    · simp [GrantCommand.touches, same, Ne.symm same]
  | revokeAll id scope =>
    rw [apply, contains_eraseAll, isFor, GrantCommand.touches]
    cases grant.principalId == id && grant.scope == scope <;> simp
  | rolesFor | hasRolesFor | principalsWith | hasRole => rfl

theorem contains_apply_of_untouched {command : GrantCommand} {grant : Grant}
    (untouched : command.touches grant = false) (table : GrantTable) :
    (table.apply command).contains grant = table.contains grant := by
  simp [contains_apply, untouched]

/-- What a change answers is decided by the grants that it touches. -/
theorem answer_eq_of_touched {command : GrantCommand} (change : command.isChange = true)
    (same : ∀ grant, command.touches grant = true → table.contains grant = other.contains grant) :
    table.answer command = other.answer command := by
  cases command with
  | grant made => rw [answer, answer, same made (by simp [GrantCommand.touches])]
  | revoke taken => rw [answer, answer, same taken (by simp [GrantCommand.touches])]
  | revokeAll id scope =>
    have perm : (table.grants.filter (isFor id scope)).Perm
        (other.grants.filter (isFor id scope)) := by
      refine (List.perm_ext_iff_of_nodup (table.distinct.sublist List.filter_sublist)
        (other.distinct.sublist List.filter_sublist)).mpr fun grant => ?_
      simp only [List.mem_filter]
      refine and_congr_left fun touched => ?_
      rw [← contains_iff, ← contains_iff, same grant touched]
    rw [answer_revokeAll, answer_revokeAll, perm.length_eq]
  | rolesFor | hasRolesFor | principalsWith | hasRole => cases change

/-! ### Tables that hold the same grants -/

def Same (first second : GrantTable) : Prop :=
  ∀ grant, first.contains grant = second.contains grant

theorem Same.perm (same : Same first second) : first.grants.Perm second.grants := by
  refine (List.perm_ext_iff_of_nodup first.distinct second.distinct).mpr fun grant => ?_
  rw [← contains_iff, ← contains_iff, same]

theorem Same.hasRole (same : Same first second) (principal? : Option Principal) (role : String)
    (asked : Scope) :
    first.source.hasRole principal? role asked = second.source.hasRole principal? role asked := by
  rw [Bool.eq_iff_iff, hasRole_iff, hasRole_iff]
  simp only [same _]

theorem Same.answer (same : Same first second) (command : GrantCommand) :
    first.answer command = second.answer command := by
  cases command with
  | grant | revoke | revokeAll => exact answer_eq_of_touched rfl fun grant _ => same grant
  | rolesFor id scope =>
    refine congrArg GrantAnswer.names (Text.ascending_congr fun role => ?_)
    exact ((same.perm.filter _).map _).mem_iff
  | hasRolesFor id scope => exact congrArg GrantAnswer.flag same.perm.any_eq
  | principalsWith role scope =>
    refine congrArg GrantAnswer.names (Text.ascending_congr fun id => ?_)
    exact ((same.perm.filter _).map _).mem_iff
  | hasRole principal? role asked =>
    exact congrArg GrantAnswer.flag (same.hasRole principal? role asked)

theorem Same.apply (same : Same first second) (command : GrantCommand) :
    Same (first.apply command) (second.apply command) := by
  intro grant
  rw [contains_apply, contains_apply, same]

theorem Same.run (same : Same first second) (commands : List GrantCommand) :
    (first.run commands).map Prod.fst = (second.run commands).map Prod.fst := by
  induction commands generalizing first second with
  | nil => rfl
  | cons command rest ih =>
    simp only [GrantTable.run, List.map_cons, same.answer command, ih (same.apply command)]

/-! ### Changes that touch different grants -/

theorem hasRole_revoke {revoked : Grant} {principal? : Option Principal} {role : String}
    {asked : Scope} :
    (table.apply (.revoke revoked)).source.hasRole principal? role asked = true ↔
      ∃ grant, grant ≠ revoked ∧ table.contains grant = true ∧
        grant.Gives principal? role asked := by
  simp only [hasRole_iff, apply, contains_erase, Bool.and_eq_true, bne_iff_ne, and_assoc,
    and_left_comm]

variable {command next : GrantCommand}

theorem answer_apply_of_apart (apart : command.Apart next) (change : command.isChange = true)
    (table : GrantTable) : (table.apply next).answer command = table.answer command := by
  refine answer_eq_of_touched change fun grant touched => contains_apply_of_untouched ?_ table
  exact Bool.eq_false_iff.mpr (apart grant touched)

/-- It makes no difference which of two commands is given first: each is answered as if the other
had not been given, and the tables that they lead to cannot be told apart. -/
structure Commute (table : GrantTable) (command next : GrantCommand) : Prop where
  answer : (table.apply next).answer command = table.answer command
  nextAnswer : (table.apply command).answer next = table.answer next
  same : Same ((table.apply command).apply next) ((table.apply next).apply command)
  run : ∀ rest, (((table.apply command).apply next).run rest).map Prod.fst =
    (((table.apply next).apply command).run rest).map Prod.fst

theorem same_apply_of_apart (apart : command.Apart next) (table : GrantTable) :
    Same ((table.apply command).apply next) ((table.apply next).apply command) := by
  intro grant
  cases touched : command.touches grant with
  | true =>
    have untouched := Bool.eq_false_iff.mpr (apart grant touched)
    rw [contains_apply_of_untouched untouched, contains_apply, contains_apply, if_pos touched,
      if_pos touched]
  | false =>
    rw [contains_apply_of_untouched touched, contains_apply _ next,
      contains_apply_of_untouched touched, contains_apply _ next]

theorem commute_of_apart (apart : command.Apart next) (change : command.isChange = true)
    (nextChange : next.isChange = true) (table : GrantTable) : table.Commute command next where
  answer := answer_apply_of_apart apart change table
  nextAnswer := answer_apply_of_apart (fun grant touched also => apart grant also touched)
    nextChange table
  same := same_apply_of_apart apart table
  run := (same_apply_of_apart apart table).run

end GrantTable

end RoleGate
