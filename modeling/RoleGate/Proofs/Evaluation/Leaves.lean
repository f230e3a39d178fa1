import RoleGate.Access.Evaluation

/-! The leaves of an expression, and where in the tree each of them is.

A leaf is an atom in its place, which is told by the path that leads to it from the root; one atom
may be in several places. Leaves are listed from left to right.
-/

set_option autoImplicit false

namespace RoleGate

inductive Turn where
  | left
  | right
  /-- To the only operand. -/
  | inward
  deriving DecidableEq, Repr

structure Leaf where
  path : List Turn
  atom : Atom
  deriving DecidableEq, Repr

namespace Leaf

def below (turn : Turn) (leaf : Leaf) : Leaf := { leaf with path := turn :: leaf.path }

/-- The paths part somewhere, and there the first one turns left and the other one right. -/
def IsLeftOf (first second : Leaf) : Prop :=
  ∃ common, common ++ [.left] <+: first.path ∧ common ++ [.right] <+: second.path

variable {first second : Leaf}

theorem below_inj {turn other : Turn} :
    first.below turn = second.below other ↔ turn = other ∧ first = second := by
  obtain ⟨path, atom⟩ := first
  obtain ⟨otherPath, otherAtom⟩ := second
  simp [below, and_assoc]

theorem below_mem_map {turn other : Turn} {leaf : Leaf} {leaves : List Leaf} :
    leaf.below turn ∈ leaves.map (below other) ↔ turn = other ∧ leaf ∈ leaves := by
  simp only [List.mem_map, below_inj]
  constructor
  · rintro ⟨found, member, same, rfl⟩
    exact ⟨same.symm, member⟩
  · rintro ⟨rfl, member⟩
    exact ⟨leaf, member, rfl, rfl⟩

theorem isLeftOf_below (turn : Turn) :
    (first.below turn).IsLeftOf (second.below turn) ↔ first.IsLeftOf second := by
  constructor
  · rintro ⟨common, leftward, rightward⟩
    cases common with
    | nil =>
      obtain rfl : Turn.left = turn := (List.cons_prefix_cons.mp leftward).1
      nomatch (List.cons_prefix_cons.mp rightward).1
    | cons head rest =>
      exact ⟨rest, (List.cons_prefix_cons.mp leftward).2, (List.cons_prefix_cons.mp rightward).2⟩
  · rintro ⟨common, leftward, rightward⟩
    exact ⟨turn :: common, List.cons_prefix_cons.mpr ⟨rfl, leftward⟩,
      List.cons_prefix_cons.mpr ⟨rfl, rightward⟩⟩

theorem isLeftOf_left_right (first second : Leaf) :
    (first.below .left).IsLeftOf (second.below .right) :=
  ⟨[], List.cons_prefix_cons.mpr ⟨rfl, List.nil_prefix⟩,
    List.cons_prefix_cons.mpr ⟨rfl, List.nil_prefix⟩⟩

theorem not_isLeftOf_right_left (first second : Leaf) :
    ¬(first.below .right).IsLeftOf (second.below .left) := by
  rintro ⟨common, leftward, rightward⟩
  cases common with
  | nil => nomatch (List.cons_prefix_cons.mp leftward).1
  | cons head rest =>
    obtain rfl : head = .right := (List.cons_prefix_cons.mp leftward).1
    nomatch (List.cons_prefix_cons.mp rightward).1

theorem not_isLeftOf_self (leaf : Leaf) : ¬leaf.IsLeftOf leaf := by
  obtain ⟨path, atom⟩ := leaf
  induction path with
  | nil =>
    rintro ⟨common, leftward, -⟩
    simp at leftward
  | cons turn rest ih => exact fun itself => ih ((isLeftOf_below turn).mp itself)

theorem IsLeftOf.ne (ordered : first.IsLeftOf second) : first ≠ second := by
  rintro rfl
  exact first.not_isLeftOf_self ordered

end Leaf

namespace Expr

def leaves : Expr → List Leaf
  | .atom asked => [⟨[], asked⟩]
  | .binary left _ right => left.leaves.map (.below .left) ++ right.leaves.map (.below .right)
  | .not operand => operand.leaves.map (.below .inward)
  | .group inner => inner.leaves.map (.below .inward)

def operand? : Expr → Turn → Option Expr
  | .binary left _ _, .left => some left
  | .binary _ _ right, .right => some right
  | .not operand, .inward => some operand
  | .group inner, .inward => some inner
  | _, _ => none

def at? (tree : Expr) : List Turn → Option Expr
  | [] => some tree
  | turn :: rest => (tree.operand? turn).bind (·.at? rest)

theorem mem_leaves_iff {tree : Expr} {leaf : Leaf} :
    leaf ∈ tree.leaves ↔ tree.at? leaf.path = some (.atom leaf.atom) := by
  obtain ⟨path, asked⟩ := leaf
  induction tree generalizing path with
  | atom other =>
    cases path with
    | nil => simp [leaves, at?, eq_comm]
    | cons turn rest => simp [leaves, at?, operand?]
  | binary left op right leftIh rightIh =>
    cases path with
    | nil => simp [leaves, at?, Leaf.below]
    | cons turn rest =>
      change Leaf.below turn ⟨rest, asked⟩ ∈ _ ↔ _
      simp only [leaves, List.mem_append, Leaf.below_mem_map, leftIh, rightIh]
      cases turn <;> simp [at?, operand?]
  | not operand ih | group operand ih =>
    cases path with
    | nil => simp [leaves, at?, Leaf.below]
    | cons turn rest =>
      change Leaf.below turn ⟨rest, asked⟩ ∈ _ ↔ _
      simp only [leaves, Leaf.below_mem_map, ih]
      cases turn <;> simp [at?, operand?]

theorem below_mem_leaves {tree inner : Expr} {turn : Turn} {leaf : Leaf}
    (found : tree.operand? turn = some inner) :
    leaf.below turn ∈ tree.leaves ↔ leaf ∈ inner.leaves := by
  rw [mem_leaves_iff, mem_leaves_iff, Leaf.below, at?, found, Option.bind_some]

theorem pairwise_map_below {leaves : List Leaf} (turn : Turn)
    (ordered : leaves.Pairwise Leaf.IsLeftOf) :
    (leaves.map (Leaf.below turn)).Pairwise Leaf.IsLeftOf :=
  List.pairwise_map.mpr (ordered.imp (Leaf.isLeftOf_below turn).mpr)

theorem pairwise_leaves (tree : Expr) : tree.leaves.Pairwise Leaf.IsLeftOf := by
  induction tree with
  | atom => exact List.pairwise_singleton _ _
  | binary left op right leftIh rightIh =>
    refine List.pairwise_append.mpr
      ⟨pairwise_map_below .left leftIh, pairwise_map_below .right rightIh, ?_⟩
    intro first member second also
    obtain ⟨first, -, rfl⟩ := List.mem_map.mp member
    obtain ⟨second, -, rfl⟩ := List.mem_map.mp also
    exact Leaf.isLeftOf_left_right first second
  | not operand ih | group operand ih => exact pairwise_map_below .inward ih

theorem nodup_leaves (tree : Expr) : tree.leaves.Nodup :=
  tree.pairwise_leaves.imp Leaf.IsLeftOf.ne

end Expr

end RoleGate
