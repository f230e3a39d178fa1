import Mathlib.Data.List.Induction
import Mathlib.Data.Set.Card
import RoleGate.Proofs.Role.Contents

/-! What a table of grants holds after any history.

A grant is live if the last command that touched it made it. However a table was built and whatever
was done with it since, it holds just the live grants, and each command is answered by them. A role
is held by the live grants whose scope covers the one that is asked about, so taking one grant away
does nothing to what the others give.
-/

set_option autoImplicit false

namespace RoleGate

/-- The last command that touched the grant made it. -/
def Live (history : List GrantCommand) (grant : Grant) : Prop :=
  (history.filter (·.touches grant)).getLast? = some (.grant grant)

inductive Answers (history : List GrantCommand) : GrantCommand → GrantAnswer → Prop where
  | grant {grant : Grant} {flag : Bool} (isNew : flag = true ↔ ¬Live history grant) :
    Answers history (.grant grant) (.flag flag)
  | revoke {grant : Grant} {flag : Bool} (wasLive : flag = true ↔ Live history grant) :
    Answers history (.revoke grant) (.flag flag)
  | revokeAll {id : String} {scope : Scope} {count : Nat}
    (counted : {grant | Live history grant ∧ grant.principalId = id ∧ grant.scope = scope}.encard =
      count) :
    Answers history (.revokeAll id scope) (.count count)
  | rolesFor {id : String} {scope : Scope} {roles : List String}
    (ordered : roles.Pairwise (· < ·))
    (members : ∀ role, role ∈ roles ↔ Live history ⟨id, role, scope⟩) :
    Answers history (.rolesFor id scope) (.names roles)
  | hasRolesFor {id : String} {scope : Scope} {flag : Bool}
    (any : flag = true ↔ ∃ role, Live history ⟨id, role, scope⟩) :
    Answers history (.hasRolesFor id scope) (.flag flag)
  | principalsWith {role : String} {scope : Scope} {ids : List String}
    (ordered : ids.Pairwise (· < ·))
    (members : ∀ id, id ∈ ids ↔
      ∃ granted, Live history ⟨id, role, granted⟩ ∧ granted.covers scope = true) :
    Answers history (.principalsWith role scope) (.names ids)
  | hasRole {principal? : Option Principal} {role : String} {asked : Scope} {flag : Bool}
    (held : flag = true ↔ ∃ grant, Live history grant ∧ grant.Gives principal? role asked) :
    Answers history (.hasRole principal? role asked) (.flag flag)

structure GrantTable.Reflects (table : GrantTable) (history : List GrantCommand) : Prop where
  contains : ∀ grant, table.contains grant = true ↔ Live history grant
  size : {grant | Live history grant}.encard = table.size
  isEmpty : table.isEmpty = true ↔ table.size = 0
  hasRole : ∀ principal? role asked, table.source.hasRole principal? role asked = true ↔
    ∃ grant, Live history grant ∧ grant.Gives principal? role asked

/-! ### The last command that touched a grant -/

theorem not_live_nil (grant : Grant) : ¬Live [] grant := nofun

theorem live_concat {history : List GrantCommand} {command : GrantCommand} {grant : Grant} :
    Live (history ++ [command]) grant ↔
      if command.touches grant then command = .grant grant else Live history grant := by
  unfold Live
  rw [List.filter_append]
  cases touched : command.touches grant with
  | true => simp [touched]
  | false => simp [touched]

namespace GrantTable

variable {table : GrantTable} {history : List GrantCommand}

/-- The grants that are held and pass a test, counted as a set and in the list. -/
theorem encard_contains (table : GrantTable) (test : Grant → Bool) :
    {grant | table.contains grant = true ∧ test grant = true}.encard =
      (table.grants.filter test).length := by
  have listed : {grant | table.contains grant = true ∧ test grant = true} =
      ((table.grants.filter test).toFinset : Set Grant) := by
    ext grant
    simp [contains_iff]
  rw [listed, Set.encard_coe_eq_coe_finsetCard,
    List.toFinset_card_of_nodup (table.distinct.sublist List.filter_sublist)]

/-! ### One point of a history -/

theorem reflects_of_contains (same : ∀ grant, table.contains grant = true ↔ Live history grant) :
    table.Reflects history where
  contains := same
  size := by
    have counted := table.encard_contains fun _ => true
    simpa [same, size] using counted
  isEmpty := by simp [isEmpty, size]
  hasRole principal? role asked := by simp only [hasRole_iff, same]

theorem Reflects.answers (reflects : table.Reflects history) (command : GrantCommand) :
    Answers history command (table.answer command) := by
  have same := reflects.contains
  cases command with
  | grant grant => exact .grant (by simp [← same])
  | revoke grant => exact .revoke (same grant)
  | revokeAll id scope =>
    rw [answer_revokeAll]
    refine .revokeAll ?_
    rw [← table.encard_contains]
    simp only [isFor, same, Bool.and_eq_true, beq_iff_eq]
  | rolesFor id scope =>
    exact .rolesFor (Text.pairwise_ascending _) fun role => mem_rolesFor.trans (same _)
  | hasRolesFor id scope =>
    exact .hasRolesFor (by simp only [hasRolesFor_iff, same])
  | principalsWith role scope =>
    refine .principalsWith (Text.pairwise_ascending _) fun id => ?_
    simp only [mem_principalsWith, holds_iff, same]
  | hasRole principal? role asked => exact .hasRole (reflects.hasRole principal? role asked)

/-- What a command makes of a table is what it makes of its history. -/
theorem Reflects.apply (reflects : table.Reflects history) (command : GrantCommand) :
    (table.apply command).Reflects (history ++ [command]) := by
  refine reflects_of_contains fun grant => ?_
  rw [contains_apply, live_concat]
  split
  · exact decide_eq_true_iff
  · exact reflects.contains grant

theorem reflects_empty : Reflects {} [] := reflects_of_contains fun grant => by
  simp [not_live_nil, GrantTable.contains]

theorem reflects_ofList (built : List Grant) : (ofList built).Reflects (built.map .grant) := by
  induction built using List.reverseRecOn with
  | nil => exact reflects_empty
  | append_singleton built grant ih =>
    rw [ofList, List.foldl_append, List.map_append]
    exact ih.apply (.grant grant)

/-! ### Whole runs -/

theorem Reflects.run (reflects : table.Reflects history) (before : List GrantCommand)
    (command : GrantCommand) (rest : List GrantCommand) :
    ∃ answer after, (table.run (before ++ command :: rest))[before.length]? = some (answer, after) ∧
      Answers (history ++ before) command answer ∧
      after.Reflects (history ++ before ++ [command]) := by
  induction before generalizing table history with
  | nil =>
    have answers := reflects.answers command
    have made := reflects.apply command
    exact ⟨_, _, rfl, by simpa using answers, by simpa using made⟩
  | cons first before ih =>
    obtain ⟨answer, after, found, answers, made⟩ := ih (reflects.apply first)
    refine ⟨answer, after, ?_, ?_, ?_⟩
    · simpa [GrantTable.run] using found
    · simpa using answers
    · simpa using made

/-- However a table was built, at each point of a run it holds the live grants and answers by them.
Revoking a grant leaves just what the others give, and changes of different grants commute. -/
theorem run_lastWrite (built : List Grant) :
    (ofList built).Reflects (built.map .grant) ∧
    (∀ before command rest, ∃ answer after,
      ((ofList built).run (before ++ command :: rest))[before.length]? = some (answer, after) ∧
        Answers (built.map .grant ++ before) command answer ∧
        after.Reflects (built.map .grant ++ before ++ [command])) ∧
    (∀ (table : GrantTable) (revoked : Grant) (principal? : Option Principal) (role : String)
      (asked : Scope),
      (table.apply (.revoke revoked)).source.hasRole principal? role asked = true ↔
        ∃ grant, grant ≠ revoked ∧ table.contains grant = true ∧
          grant.Gives principal? role asked) ∧
    ∀ (table : GrantTable) (command next : GrantCommand), command.isChange = true →
      next.isChange = true → command.Apart next → table.Commute command next := by
  have start := reflects_ofList built
  refine ⟨start, start.run, fun table revoked principal? role asked => hasRole_revoke, ?_⟩
  intro table command next change nextChange apart
  exact commute_of_apart apart change nextChange table

/-- The owner of a document is also an editor of everything: the document may still be edited when
it is no longer owned, and it does not matter whether somebody else is banned before or after. -/
theorem run_lastWrite_editor :
    let owner : Grant := ⟨"2", "owner", .ofModel ⟨"Document", "1"⟩⟩
    let editor : Grant := ⟨"2", "editor", .global⟩
    let banned : Grant := ⟨"4", "banned", .global⟩
    let table := ofList [editor, owner]
    (table.apply (.revoke owner)).source.hasRole (some (.user ⟨"2", "bob"⟩)) "editor"
        (.ofModel ⟨"Document", "1"⟩) = true ∧
      table.Commute (.revoke owner) (.grant banned) := by
  intro owner editor banned table
  obtain ⟨_, _, revoked, commute⟩ := run_lastWrite [editor, owner]
  refine ⟨(revoked table owner _ _ _).mpr ⟨editor, by decide, by decide, ?_⟩,
    commute table _ _ rfl rfl ?_⟩
  · exact ⟨⟨_, rfl, rfl, rfl⟩, rfl, rfl⟩
  · intro grant touched also
    have taken : owner = grant := by simpa [GrantCommand.touches] using touched
    have made : banned = grant := by simpa [GrantCommand.touches] using also
    exact absurd (taken.trans made.symm) (by decide)

end GrantTable

end RoleGate
