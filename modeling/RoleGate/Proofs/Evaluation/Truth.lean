import RoleGate.Proofs.Evaluation.Walk

/-! Evaluation against plain truth values.

The formula of an expression has a truth value once each leaf has one, and then both operands of an
operation count. Evaluation looks at fewer leaves, and has no value at all where it comes upon one
that fails; but a value that it comes to is that of the formula, whatever the leaves that it did not
look at might have said.
-/

set_option autoImplicit false

namespace RoleGate

def BinaryOp.apply : BinaryOp → Bool → Bool → Bool
  | .and, left, right => left && right
  | .or, left, right => left || right

theorem BinaryOp.apply_settling (op : BinaryOp) (right : Bool) :
    op.apply op.settling right = op.settling := by
  cases op <;> rfl

theorem BinaryOp.apply_open (op : BinaryOp) (right : Bool) :
    op.apply (!op.settling) right = right := by
  cases op <;> rfl

namespace Expr

/-- The truth value of the formula where the leaf at the end of each path has the value given for
it. -/
def truth : Expr → (List Turn → Bool) → Bool
  | .atom _, value => value []
  | .binary left op right, value =>
    op.apply (left.truth fun rest => value (.left :: rest))
      (right.truth fun rest => value (.right :: rest))
  | .not operand, value => !operand.truth fun rest => value (.inward :: rest)
  | .group inner, value => inner.truth fun rest => value (.inward :: rest)

section
variable (source : RoleSource) (models : Registry) (context : Context) (tree : Expr)

/-- Each leaf that resolves has the value that the source answers; the others may have any. -/
def Completes (value : List Turn → Bool) : Prop :=
  ∀ leaf ∈ tree.leaves, ∀ scope, leaf.atom.AsksOn models context scope →
    value leaf.path = source.hasRole context.principal? leaf.atom.roleName scope

def answers (otherwise : List Turn → Bool) (path : List Turn) : Bool :=
  match tree.at? path with
  | some (.atom leaf) =>
    match leaf.scope models context with
    | .ok scope => source.hasRole context.principal? leaf.roleName scope
    | .error _ => otherwise path
  | _ => otherwise path

theorem completes_answers (otherwise : List Turn → Bool) :
    tree.Completes source models context (tree.answers source models context otherwise) := by
  intro leaf member scope asks
  rw [answers, mem_leaves_iff.mp member]
  simp only [asks.scope_eq]

end

variable {source : RoleSource} {models : Registry} {context : Context} {tree : Expr}
  {value : List Turn → Bool}

theorem Completes.operand {inner : Expr} {turn : Turn}
    (completes : tree.Completes source models context value)
    (found : tree.operand? turn = some inner) :
    inner.Completes source models context fun rest => value (turn :: rest) :=
  fun leaf member scope asks =>
    completes (leaf.below turn) ((below_mem_leaves found).mpr member) scope asks

theorem truth_of_evaluate {b : Bool} (completes : tree.Completes source models context value)
    (came : (tree.evaluate source models context).result = .ok b) : tree.truth value = b := by
  induction tree generalizing value b with
  | atom leaf =>
    rcases leaf.resolves_or_fails models context with ⟨scope, asks⟩ | ⟨error, fails⟩
    · rw [evaluate, leaf.evaluate_of_asksOn source asks] at came
      cases came
      exact completes ⟨[], leaf⟩ (List.mem_singleton.mpr rfl) scope asks
    · rw [evaluate, leaf.evaluate_of_failsWith source fails] at came
      cases came
  | binary left op right leftIh rightIh =>
    rw [truth]
    rcases result_cases op (left.evaluate source models context).result with
      ⟨error, failed⟩ | settled | unsettled
    · rw [evaluate_binary_of_error failed, failed] at came
      cases came
    · rw [evaluate_binary_of_settling settled, settled] at came
      cases came
      rw [leftIh (completes.operand rfl) settled, BinaryOp.apply_settling]
    · rw [evaluate_binary_of_open unsettled] at came
      rw [leftIh (completes.operand rfl) unsettled, BinaryOp.apply_open]
      exact rightIh (completes.operand rfl) came
  | not operand ih =>
    cases inner : (operand.evaluate source models context).result with
    | error error =>
      simp only [evaluate, Run.map, inner] at came
      cases came
    | ok first =>
      simp only [evaluate, Run.map, inner] at came
      cases came
      rw [truth, ih (completes.operand rfl) inner]
  | group inner ih => exact ih (completes.operand rfl) came

theorem exists_value_of_resolves (source : RoleSource)
    (resolves : ∀ leaf ∈ tree.leaves, leaf.atom.Resolves models context) :
    ∃ b, (tree.evaluate source models context).result = .ok b := by
  obtain ⟨asked, failed?, walk⟩ := exists_walk source models context tree
  exact walk.resolves_iff.mpr fun leaf member => resolves leaf (walk.sublist.mem member)

theorem evaluate_of_resolves
    (resolves : ∀ leaf ∈ tree.leaves, leaf.atom.Resolves models context)
    (completes : tree.Completes source models context value) :
    (tree.evaluate source models context).result = .ok (tree.truth value) := by
  obtain ⟨b, came⟩ := exists_value_of_resolves source resolves
  rw [came, truth_of_evaluate completes came]

/-! ### The value of an expression from those of its parts -/

theorem result_atom {leaf : Atom} {scope : Scope} (asks : leaf.AsksOn models context scope) :
    ((atom leaf).evaluate source models context).result =
      .ok (source.hasRole context.principal? leaf.roleName scope) := by
  rw [evaluate, leaf.evaluate_of_asksOn source asks]
  rfl

theorem result_binary {left right : Expr} (op : BinaryOp) {first second : Bool}
    (leftValue : (left.evaluate source models context).result = .ok first)
    (rightValue : (right.evaluate source models context).result = .ok second) :
    ((binary left op right).evaluate source models context).result =
      .ok (op.apply first second) := by
  by_cases settled : first = op.settling
  · subst settled
    rw [evaluate_binary_of_settling leftValue, leftValue, BinaryOp.apply_settling]
  · obtain rfl : first = !op.settling := Bool.eq_not_of_ne settled
    rw [evaluate_binary_of_open leftValue, rightValue, BinaryOp.apply_open]

theorem result_not {operand : Expr} {first : Bool}
    (operandValue : (operand.evaluate source models context).result = .ok first) :
    ((not operand).evaluate source models context).result = .ok (!first) := by
  rw [evaluate, Run.map, operandValue]
  rfl

/-- Evaluation agrees with the formula, whatever values are given to the leaves that do not resolve,
and it comes to a value where all leaves do. -/
theorem evaluate_agrees_truth (source : RoleSource) (models : Registry) (context : Context)
    (tree : Expr) :
    (∀ otherwise : List Turn → Bool, ∃ value, tree.Completes source models context value ∧
      ∀ leaf ∈ tree.leaves, leaf.atom.Fails models context →
        value leaf.path = otherwise leaf.path) ∧
    (∀ value, tree.Completes source models context value →
      ∀ b, (tree.evaluate source models context).result = .ok b → tree.truth value = b) ∧
    ((∀ leaf ∈ tree.leaves, leaf.atom.Resolves models context) →
      ∃ b, (tree.evaluate source models context).result = .ok b) := by
  refine ⟨fun otherwise => ⟨_, tree.completes_answers source models context otherwise, ?_⟩,
    fun value completes b => truth_of_evaluate completes, exists_value_of_resolves source⟩
  rintro leaf member ⟨error, fails⟩
  rw [answers, mem_leaves_iff.mp member]
  simp only [fails.scope_eq]

/-- The document is bound to nothing, but an editor need not own it; and whether bob is said to own
it or not, the formula is false. -/
theorem evaluate_agrees_truth_unbound :
    let tree : Expr := .not (.group (.binary (.atom (.role "editor" false)) .or
      (.atom (.scoped "owner" (.object "doc")))))
    let source : RoleSource := .exactly [("editor", .global)]
    let context : Context := { principal? := some (.user ⟨"2", "bob"⟩) }
    (tree.evaluate source {} context).result = .ok false ∧
      ∀ owns : Bool, ∃ value, tree.Completes source {} context value ∧
        value [.inward, .inward, .right] = owns ∧ tree.truth value = false := by
  intro tree source context
  have came : (tree.evaluate source {} context).result = .ok false := rfl
  obtain ⟨completed, agrees, -⟩ := evaluate_agrees_truth source {} context tree
  refine ⟨came, fun owns => ?_⟩
  obtain ⟨value, completes, free⟩ := completed fun _ => owns
  refine ⟨value, completes, ?_, agrees value completes false came⟩
  exact free ⟨[.inward, .inward, .right], .scoped "owner" (.object "doc")⟩ (by decide)
    ⟨_, .scopedObject "owner" rfl⟩

end Expr

end RoleGate
