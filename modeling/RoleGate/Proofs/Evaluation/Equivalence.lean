import RoleGate.Access.Evaluation

/-! Expressions that evaluate alike: to the same value or the same mistake, with the same questions
asked in the same order, whatever is asked and of whom.

Operands are skipped where their value cannot matter, so not all laws of truth values hold here. The
two operators are associative, and a negation goes through them; none of these changes which atom
is asked next.
-/

set_option autoImplicit false

namespace RoleGate

namespace Run

variable {α β γ : Type}

theorem map_bind (run : Run α) (next : α → Run β) (f : β → γ) :
    (run.bind next).map f = run.bind fun value => (next value).map f := by
  rw [map_eq_bind, bind_assoc]
  simp only [← map_eq_bind]

theorem bind_map (run : Run α) (f : α → β) (next : β → Run γ) :
    (run.map f).bind next = run.bind fun value => next (f value) := by
  rw [map_eq_bind, bind_assoc]
  simp only [pure_bind]

theorem map_not_not (run : Run Bool) : (run.map (!·)).map (!·) = run := by
  simp only [map_eq_bind, bind_assoc, pure_bind, Bool.not_not]
  exact run.bind_pure

end Run

namespace BinaryOp

def dual : BinaryOp → BinaryOp
  | and => or
  | or => and

theorem settling_dual (op : BinaryOp) : op.dual.settling = !op.settling := by
  cases op <;> rfl

end BinaryOp

namespace Expr

def Equivalent (first second : Expr) : Prop :=
  ∀ (source : RoleSource) (models : Registry) (context : Context),
    first.evaluate source models context = second.evaluate source models context

variable {first second third left right : Expr}

namespace Equivalent

theorem refl (tree : Expr) : Equivalent tree tree := fun _ _ _ => rfl

theorem symm (same : Equivalent first second) : Equivalent second first :=
  fun source models context => (same source models context).symm

theorem trans (same : Equivalent first second) (also : Equivalent second third) :
    Equivalent first third :=
  fun source models context => (same source models context).trans (also source models context)

/-! ### In any place of a tree -/

theorem binary (op : BinaryOp) (leftSame : Equivalent first left)
    (rightSame : Equivalent second right) :
    Equivalent (.binary first op second) (.binary left op right) := by
  intro source models context
  simp only [evaluate, leftSame source models context, rightSame source models context]

theorem not (same : Equivalent first second) : Equivalent (.not first) (.not second) := by
  intro source models context
  simp only [evaluate, same source models context]

theorem group (same : Equivalent first second) : Equivalent (.group first) (.group second) := same

end Equivalent

/-! ### Laws -/

theorem group_equivalent (inner : Expr) : Equivalent (.group inner) inner := fun _ _ _ => rfl

theorem object_equivalent (name : String) :
    Equivalent (.atom (.model (.object name))) (.atom (.role name false)) := fun _ _ _ => rfl

theorem not_not_equivalent (operand : Expr) : Equivalent (.not (.not operand)) operand := by
  intro source models context
  simp only [evaluate, Run.map_not_not]

/-- However a chain of one operator is nested, it stops at the same operand. -/
theorem binary_assoc (op : BinaryOp) (left other right : Expr) :
    Equivalent (.binary left op (.binary other op right))
      (.binary (.binary left op other) op right) := by
  intro source models context
  simp only [evaluate, Run.bind_assoc]
  congr 1
  funext value
  split
  · next settled => rw [Run.pure_bind, if_pos settled]
  · rfl

theorem not_binary (op : BinaryOp) (left right : Expr) :
    Equivalent (.not (.binary left op right)) (.binary (.not left) op.dual (.not right)) := by
  intro source models context
  simp only [evaluate, Run.map_bind, Run.bind_map, BinaryOp.settling_dual, Bool.not_inj_iff]
  congr 1
  funext value
  split
  · rfl
  · rfl

end Expr

end RoleGate
