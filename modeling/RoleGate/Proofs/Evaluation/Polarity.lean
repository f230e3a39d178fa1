import Mathlib.Algebra.Ring.Parity
import Mathlib.Data.Set.Insert
import RoleGate.Proofs.Evaluation.Queries
import RoleGate.Proofs.Evaluation.Truth
import RoleGate.Proofs.Role.Contents

/-! What more grants do to an evaluation.

A leaf that comes out true counts for the expression under an even number of negations, and against
it under an odd number. So a grant of a role can only help an expression that asks for the role
under even numbers of negations alone, and can only hurt one that asks for it under odd numbers
alone, as long as no leaf fails.
-/

set_option autoImplicit false

namespace RoleGate

namespace Expr

def negations : Expr → List Turn → Nat
  | .binary left _ _, .left :: rest => left.negations rest
  | .binary _ _ right, .right :: rest => right.negations rest
  | .not operand, .inward :: rest => operand.negations rest + 1
  | .group inner, .inward :: rest => inner.negations rest
  | _, _ => 0

/-- From the first assignment to the second one, leaves under even numbers of negations only become
true, and leaves under odd numbers only become false. -/
structure Rises (tree : Expr) (first second : List Turn → Bool) : Prop where
  even : ∀ leaf ∈ tree.leaves, Even (tree.negations leaf.path) →
    first leaf.path = true → second leaf.path = true
  odd : ∀ leaf ∈ tree.leaves, Odd (tree.negations leaf.path) →
    second leaf.path = true → first leaf.path = true

variable {tree : Expr} {first second : List Turn → Bool}

theorem Rises.operand {inner : Expr} {turn : Turn} (rises : tree.Rises first second)
    (found : tree.operand? turn = some inner)
    (same : ∀ rest, tree.negations (turn :: rest) = inner.negations rest) :
    inner.Rises (fun rest => first (turn :: rest)) fun rest => second (turn :: rest) where
  even leaf member even :=
    rises.even (leaf.below turn) ((below_mem_leaves found).mpr member) ((same _).symm ▸ even)
  odd leaf member odd :=
    rises.odd (leaf.below turn) ((below_mem_leaves found).mpr member) ((same _).symm ▸ odd)

/-- A negation turns the two assignments around. -/
theorem Rises.negated {operand : Expr} (rises : (not operand).Rises first second) :
    operand.Rises (fun rest => second (.inward :: rest)) fun rest => first (.inward :: rest) where
  even leaf member even :=
    rises.odd (leaf.below .inward) ((below_mem_leaves rfl).mpr member) even.add_one
  odd leaf member odd :=
    rises.even (leaf.below .inward) ((below_mem_leaves rfl).mpr member) odd.add_one

theorem Rises.truth (rises : tree.Rises first second) (holds : tree.truth first = true) :
    tree.truth second = true := by
  induction tree generalizing first second with
  | atom leaf => exact rises.even ⟨[], leaf⟩ (List.mem_singleton.mpr rfl) Even.zero holds
  | binary left op right leftIh rightIh =>
    have leftward : (binary left op right).operand? .left = some left := rfl
    have rightward : (binary left op right).operand? .right = some right := rfl
    have onLeft := leftIh (rises.operand leftward fun _ => rfl)
    have onRight := rightIh (rises.operand rightward fun _ => rfl)
    cases op with
    | and =>
      have both := Bool.and_eq_true_iff.mp holds
      exact Bool.and_eq_true_iff.mpr ⟨onLeft both.1, onRight both.2⟩
    | or =>
      have either := Bool.or_eq_true_iff.mp holds
      exact Bool.or_eq_true_iff.mpr (either.imp onLeft onRight)
  | not operand ih =>
    rw [Expr.truth, Bool.not_eq_true'] at holds ⊢
    refine Bool.eq_false_iff.mpr fun back => ?_
    exact Bool.false_ne_true (holds.symm.trans (ih rises.negated back))
  | group inner ih => exact ih (rises.operand rfl fun _ => rfl) holds

theorem negations_of_isPositive {path : List Turn} (positive : tree.isPositive = true) :
    tree.negations path = 0 := by
  induction tree generalizing path with
  | atom => rfl
  | binary left op right leftIh rightIh =>
    obtain ⟨onLeft, onRight⟩ := Bool.and_eq_true_iff.mp positive
    match path with
    | [] | .inward :: _ => rfl
    | .left :: rest => exact leftIh onLeft
    | .right :: rest => exact rightIh onRight
  | not operand => cases positive
  | group inner ih =>
    match path with
    | [] | .left :: _ | .right :: _ => rfl
    | .inward :: rest => exact ih positive

end Expr

namespace GrantTable

/-- The second table has all grants of the first one, and others only of these roles. -/
structure Gains (before after : GrantTable) (roles : Set String) : Prop where
  kept : ∀ grant, before.contains grant = true → after.contains grant = true
  gained : ∀ grant, after.contains grant = true → before.contains grant = false →
    grant.role ∈ roles

variable {before after : GrantTable} {roles : Set String} {principal? : Option Principal}
  {role : String} {scope : Scope}

theorem gains_insert (table : GrantTable) (grant : Grant) :
    table.Gains (table.insert grant) {grant.role} where
  kept other held := by rw [contains_insert, held, Bool.or_true]
  gained other held missing := by
    rw [contains_insert, missing, Bool.or_false, beq_iff_eq] at held
    exact congrArg Grant.role held

theorem Gains.hasRole (gains : before.Gains after roles)
    (held : before.source.hasRole principal? role scope = true) :
    after.source.hasRole principal? role scope = true := by
  obtain ⟨grant, contained, gives⟩ := hasRole_iff.mp held
  exact hasRole_iff.mpr ⟨grant, gains.kept grant contained, gives⟩

theorem Gains.hasRole_of_notMem (gains : before.Gains after roles) (other : role ∉ roles)
    (held : after.source.hasRole principal? role scope = true) :
    before.source.hasRole principal? role scope = true := by
  obtain ⟨grant, contained, gives⟩ := hasRole_iff.mp held
  refine hasRole_iff.mpr ⟨grant, ?_, gives⟩
  by_contra missing
  refine other (gives.2.1 ▸ gains.gained grant contained ?_)
  exact Bool.eq_false_iff.mpr missing

end GrantTable

namespace Expr

section
variable {models : Registry} {context : Context} {tree : Expr} {before after : GrantTable}
  {roles : Set String} {first second : List Turn → Bool}

/-- With more grants a leaf only becomes true, and it stays as it is where nothing was gained of its
role. -/
theorem leaf_of_gains (gains : before.Gains after roles)
    (resolves : ∀ leaf ∈ tree.leaves, leaf.atom.Resolves models context)
    (firstCompletes : tree.Completes before.source models context first)
    (secondCompletes : tree.Completes after.source models context second) {leaf : Leaf}
    (member : leaf ∈ tree.leaves) :
    (first leaf.path = true → second leaf.path = true) ∧
      (leaf.atom.roleName ∉ roles → second leaf.path = true → first leaf.path = true) := by
  obtain ⟨scope, asks⟩ := resolves leaf member
  rw [firstCompletes leaf member scope asks, secondCompletes leaf member scope asks]
  exact ⟨gains.hasRole, gains.hasRole_of_notMem⟩

theorem rises_of_gains (gains : before.Gains after roles)
    (resolves : ∀ leaf ∈ tree.leaves, leaf.atom.Resolves models context)
    (firstCompletes : tree.Completes before.source models context first)
    (secondCompletes : tree.Completes after.source models context second)
    (even : ∀ leaf ∈ tree.leaves, leaf.atom.roleName ∈ roles →
      Even (tree.negations leaf.path)) : tree.Rises first second where
  even _ member _ := (leaf_of_gains gains resolves firstCompletes secondCompletes member).1
  odd leaf member odd :=
    (leaf_of_gains gains resolves firstCompletes secondCompletes member).2 fun asked =>
      Nat.not_even_iff_odd.mpr odd (even leaf member asked)

theorem rises_back_of_gains (gains : before.Gains after roles)
    (resolves : ∀ leaf ∈ tree.leaves, leaf.atom.Resolves models context)
    (firstCompletes : tree.Completes before.source models context first)
    (secondCompletes : tree.Completes after.source models context second)
    (odd : ∀ leaf ∈ tree.leaves, leaf.atom.roleName ∈ roles →
      Odd (tree.negations leaf.path)) : tree.Rises second first where
  even leaf member even :=
    (leaf_of_gains gains resolves firstCompletes secondCompletes member).2 fun asked =>
      Nat.not_even_iff_odd.mpr (odd leaf member asked) even
  odd _ member _ := (leaf_of_gains gains resolves firstCompletes secondCompletes member).1

theorem evaluate_of_rises {source other : RoleSource}
    (resolves : ∀ leaf ∈ tree.leaves, leaf.atom.Resolves models context)
    (firstCompletes : tree.Completes source models context first)
    (secondCompletes : tree.Completes other models context second)
    (rises : tree.Rises first second)
    (allowed : (tree.evaluate source models context).result = .ok true) :
    (tree.evaluate other models context).result = .ok true := by
  rw [evaluate_of_resolves resolves secondCompletes]
  exact congrArg Except.ok (rises.truth (truth_of_evaluate firstCompletes allowed))

end

/-- What becomes of an evaluation as roles are granted, where no leaf fails: asked for under even
numbers of negations, they shut nobody out; under odd numbers, they let nobody in. -/
theorem evaluate_respects_polarity {models : Registry} {context : Context} {tree : Expr}
    (resolves : ∀ leaf ∈ tree.leaves, leaf.atom.Resolves models context) :
    let Allowed (table : GrantTable) :=
      (tree.evaluate table.source models context).result = .ok true
    (∀ (before after : GrantTable) (roles : Set String), before.Gains after roles →
      ((∀ leaf ∈ tree.leaves, leaf.atom.roleName ∈ roles → Even (tree.negations leaf.path)) →
        Allowed before → Allowed after) ∧
      ((∀ leaf ∈ tree.leaves, leaf.atom.roleName ∈ roles → Odd (tree.negations leaf.path)) →
        Allowed after → Allowed before)) ∧
    (tree.isPositive = true → ∀ (table : GrantTable) (grant : Grant),
      Allowed table → Allowed (table.insert grant)) ∧
    ∀ (table : GrantTable) (grant : Grant),
      (∀ leaf ∈ tree.leaves, leaf.atom.roleName = grant.role → Odd (tree.negations leaf.path)) →
      Allowed (table.insert grant) → Allowed table := by
  intro Allowed
  have completes (table : GrantTable) :=
    tree.completes_answers table.source models context fun _ => false
  have rising (before after : GrantTable) (roles : Set String) (gains : before.Gains after roles)
      (even : ∀ leaf ∈ tree.leaves, leaf.atom.roleName ∈ roles →
        Even (tree.negations leaf.path)) : Allowed before → Allowed after :=
    evaluate_of_rises resolves (completes before) (completes after)
      (rises_of_gains gains resolves (completes before) (completes after) even)
  have falling (before after : GrantTable) (roles : Set String) (gains : before.Gains after roles)
      (odd : ∀ leaf ∈ tree.leaves, leaf.atom.roleName ∈ roles →
        Odd (tree.negations leaf.path)) : Allowed after → Allowed before :=
    evaluate_of_rises resolves (completes after) (completes before)
      (rises_back_of_gains gains resolves (completes before) (completes after) odd)
  refine ⟨fun before after roles gains => ⟨rising _ _ _ gains, falling _ _ _ gains⟩, ?_, ?_⟩
  · intro positive table grant
    refine rising _ _ _ (table.gains_insert grant) fun leaf _ _ => ?_
    rw [negations_of_isPositive positive]
    exact Even.zero
  · intro table grant odd
    exact falling _ _ _ (table.gains_insert grant) odd

/-- Banning somebody lets in no editor who was not let in before. -/
theorem evaluate_respects_polarity_ban :
    let tree : Expr := .binary (.atom (.role "editor" false)) .and
      (.not (.group (.atom (.role "banned" false))))
    let context : Context := { principal? := some (.user ⟨"2", "bob"⟩) }
    let before : GrantTable := .ofList [⟨"2", "editor", .global⟩]
    let after : GrantTable := before.insert ⟨"4", "banned", .global⟩
    (∀ leaf ∈ tree.leaves, leaf.atom.Resolves {} context) ∧ before.Gains after {"banned"} ∧
      (∀ leaf ∈ tree.leaves, leaf.atom.roleName ∈ ({"banned"} : Set String) →
        Odd (tree.negations leaf.path)) ∧
      (tree.evaluate after.source {} context).result = .ok true ∧
      (tree.evaluate before.source {} context).result = .ok true := by
  intro tree context before after
  have leaves : tree.leaves =
      [⟨[.left], .role "editor" false⟩, ⟨[.right, .inward, .inward], .role "banned" false⟩] := rfl
  have resolves : ∀ leaf ∈ tree.leaves, leaf.atom.Resolves {} context := by
    simp only [leaves, List.forall_mem_cons, List.not_mem_nil, false_implies, implies_true,
      and_true]
    exact ⟨⟨_, .unboundRole rfl⟩, ⟨_, .unboundRole rfl⟩⟩
  have odd : ∀ leaf ∈ tree.leaves, leaf.atom.roleName ∈ ({"banned"} : Set String) →
      Odd (tree.negations leaf.path) := by
    simp only [leaves, List.forall_mem_cons, List.not_mem_nil, false_implies, implies_true,
      and_true]
    refine ⟨fun asked => ?_, fun _ => odd_one⟩
    have same : "editor" = "banned" := Set.mem_singleton_iff.mp asked
    exact absurd same (by decide)
  have gains : before.Gains after {"banned"} := before.gains_insert ⟨"4", "banned", .global⟩
  have allowed : (tree.evaluate after.source {} context).result = .ok true := by decide
  exact ⟨resolves, gains, odd, allowed,
    ((evaluate_respects_polarity resolves).1 before after _ gains).2 odd allowed⟩

end Expr

end RoleGate
