import Mathlib.Logic.Relation
import RoleGate.Proofs.Evaluation.Equivalence

/-! Rewriting expressions by the laws of evaluation.

A law may be used in either direction and on any part of an expression, as often as one likes. The
evaluation stays the same all along: its value, the mistake it fails on if it fails, and the
questions it asks, in their order. The laws do not reorder the operands of an operator, since that
would change which question is asked first.
-/

set_option autoImplicit false

namespace RoleGate.Expr

inductive Law : Expr → Expr → Prop where
  | assoc (op : BinaryOp) (left other right : Expr) :
    Law (.binary left op (.binary other op right)) (.binary (.binary left op other) op right)
  | deMorgan (op : BinaryOp) (left right : Expr) :
    Law (.not (.binary left op right)) (.binary (.not left) op.dual (.not right))
  | notNot (operand : Expr) : Law (.not (.not operand)) operand
  | group (inner : Expr) : Law (.group inner) inner
  | object (name : String) : Law (.atom (.model (.object name))) (.atom (.role name false))

inductive Rewrite : Expr → Expr → Prop where
  | forward {first second : Expr} (law : Law first second) : Rewrite first second
  | backward {first second : Expr} (law : Law first second) : Rewrite second first
  | left {first second : Expr} (inner : Rewrite first second) (op : BinaryOp) (right : Expr) :
    Rewrite (.binary first op right) (.binary second op right)
  | right (left : Expr) (op : BinaryOp) {first second : Expr} (inner : Rewrite first second) :
    Rewrite (.binary left op first) (.binary left op second)
  | not {first second : Expr} (inner : Rewrite first second) : Rewrite (.not first) (.not second)
  | group {first second : Expr} (inner : Rewrite first second) :
    Rewrite (.group first) (.group second)

variable {first second : Expr}

theorem Law.equivalent (law : Law first second) : Equivalent first second := by
  cases law with
  | assoc op left other right => exact binary_assoc op left other right
  | deMorgan op left right => exact not_binary op left right
  | notNot => exact not_not_equivalent second
  | group => exact group_equivalent second
  | object name => exact object_equivalent name

theorem Rewrite.equivalent (rewritten : Rewrite first second) : Equivalent first second := by
  induction rewritten with
  | forward law => exact law.equivalent
  | backward law => exact law.equivalent.symm
  | left inner op right ih => exact ih.binary op (.refl right)
  | right left op inner ih => exact (Equivalent.refl left).binary op ih
  | not inner ih => exact ih.not
  | group inner ih => exact ih.group

/-- However often an expression is rewritten, it evaluates to the same, by the same questions. -/
theorem evaluate_of_rewrites (rewritten : Relation.ReflTransGen Rewrite first second)
    (source : RoleSource) (models : Registry) (context : Context) :
    first.evaluate source models context = second.evaluate source models context := by
  have equivalent : Equivalent first second := by
    -- One more rewrite at the end goes on from what the ones before have come to.
    induction rewritten with
    | refl => exact .refl first
    | tail before last ih => exact ih.trans last.equivalent
  exact equivalent source models context

/-- Each law once. Both expressions ask the same two questions, and then fail on the document that
is bound to nothing. -/
theorem evaluate_of_rewrites_unbound :
    let editor : Expr := .atom (.role "editor" false)
    let owner : Expr := .atom (.scoped "owner" (.object "doc"))
    let admin : Expr := .atom (.role "admin" true)
    let first : Expr := .not (.binary (.atom (.model (.object "banned"))) .or
      (.not (.group (.binary editor .and (.binary owner .or admin)))))
    let second : Expr := .binary (.binary (.not (.atom (.role "banned" false))) .and editor) .and
      (.binary owner .or admin)
    let source : RoleSource := .exactly [("editor", .global)]
    let bob : Principal := .user ⟨"2", "bob"⟩
    let run : Run Bool := ⟨.error (.unboundModel "doc"),
      [⟨some bob, "banned", .global, false⟩, ⟨some bob, "editor", .global, true⟩]⟩
    Relation.ReflTransGen Rewrite first second ∧
      first.evaluate source {} { principal? := some bob } =
        second.evaluate source {} { principal? := some bob } ∧
      second.evaluate source {} { principal? := some bob } = run := by
  intro editor owner admin first second source bob run
  let inside : Expr := .binary editor .and (.binary owner .or admin)
  let banned : Expr := .atom (.model (.object "banned"))
  have apart : Rewrite first (.binary (.not banned) .and (.not (.not (.group inside)))) :=
    .forward (.deMorgan .or banned (.not (.group inside)))
  have positive : Rewrite (.binary (.not banned) .and (.not (.not (.group inside))))
      (.binary (.not banned) .and (.group inside)) :=
    .right (.not banned) .and (.forward (.notNot (.group inside)))
  have opened : Rewrite (.binary (.not banned) .and (.group inside))
      (.binary (.not banned) .and inside) :=
    .right (.not banned) .and (.forward (.group inside))
  have nested : Rewrite (.binary (.not banned) .and inside)
      (.binary (.binary (.not banned) .and editor) .and (.binary owner .or admin)) :=
    .forward (.assoc .and (.not banned) editor (.binary owner .or admin))
  have renamed :
      Rewrite (.binary (.binary (.not banned) .and editor) .and (.binary owner .or admin)) second :=
    .left (.left (.not (.forward (.object "banned"))) .and editor) .and (.binary owner .or admin)
  have rewritten : Relation.ReflTransGen Rewrite first second :=
    .head apart (.head positive (.head opened (.head nested (.single renamed))))
  exact ⟨rewritten, evaluate_of_rewrites rewritten source {} { principal? := some bob }, rfl⟩

end RoleGate.Expr
