import Mathlib.Data.List.Destutter
import Mathlib.Data.List.Nodup
import Mathlib.Data.String.Basic
import RoleGate.Text.Ascending

/-! Lists of texts that are sorted first and rid of repetitions afterwards.

Whatever order the texts come in, sorting leaves equal ones side by side, so that it is enough to
drop each text that stands behind itself. This comes to the ascending list of the members; where no
text is repeated, sorting alone does.
-/

set_option autoImplicit false

namespace RoleGate.Text

/-- The same texts, each as often as before, in ascending order. -/
structure Sorts (texts sorted : List String) : Prop where
  perm : sorted.Perm texts
  ordered : sorted.Pairwise (· ≤ ·)

variable {texts sorted : List String}

theorem sorts_sort (texts : List String) : Sorts texts (sort texts) where
  perm := List.mergeSort_perm _ _
  ordered := by
    have trans (a b c : String) (first : decide (a ≤ b) = true) (second : decide (b ≤ c) = true) :
        decide (a ≤ c) = true :=
      decide_eq_true (le_trans (of_decide_eq_true first) (of_decide_eq_true second))
    have total (a b : String) : (decide (a ≤ b) || decide (b ≤ a)) = true := by
      simpa using le_total a b
    exact (List.pairwise_mergeSort trans total texts).imp of_decide_eq_true

theorem Sorts.eq_ascending (sorts : Sorts texts sorted) (once : texts.Nodup) :
    sorted = ascending texts := by
  have increasing : sorted.Pairwise (· < ·) :=
    (sorts.ordered.and (sorts.perm.nodup_iff.mpr once)).imp fun both =>
      lt_of_le_of_ne both.1 both.2
  refine eq_of_pairwise increasing (pairwise_ascending texts) fun text => ?_
  rw [mem_ascending, sorts.perm.mem_iff]

theorem mem_destutter'_ne {text first : String} {rest : List String} :
    text ∈ rest.destutter' (· ≠ ·) first ↔ text ∈ first :: rest := by
  induction rest generalizing first with
  | nil => rfl
  | cons next rest ih =>
    by_cases repeated : first = next
    · subst repeated
      rw [List.destutter'_cons_neg _ (not_not.mpr rfl), ih]
      simp
    · rw [List.destutter'_cons_pos _ repeated, List.mem_cons, ih, ← List.mem_cons]

theorem pairwise_destutter'_ne {first : String} {rest : List String}
    (ordered : (first :: rest).Pairwise (· ≤ ·)) :
    (rest.destutter' (· ≠ ·) first).Pairwise (· < ·) := by
  induction rest generalizing first with
  | nil => exact List.pairwise_singleton _ _
  | cons next rest ih =>
    obtain ⟨least, others⟩ := List.pairwise_cons.mp ordered
    by_cases repeated : first = next
    · subst repeated
      rw [List.destutter'_cons_neg _ (not_not.mpr rfl)]
      exact ih others
    · rw [List.destutter'_cons_pos _ repeated]
      refine List.pairwise_cons.mpr ⟨fun text member => ?_, ih others⟩
      -- The next text is greater than the first, and all behind it are at least as great.
      have behind : next ≤ text := by
        rcases List.mem_cons.mp (mem_destutter'_ne.mp member) with rfl | later
        · exact le_refl _
        · exact (List.pairwise_cons.mp others).1 text later
      exact lt_of_lt_of_le (lt_of_le_of_ne (least next List.mem_cons_self) repeated) behind

theorem Sorts.destutter_eq_ascending (sorts : Sorts texts sorted) :
    sorted.destutter (· ≠ ·) = ascending texts := by
  refine eq_of_pairwise ?_ (pairwise_ascending texts) fun text => ?_
  · cases sorted with
    | nil => exact List.Pairwise.nil
    | cons first rest => exact pairwise_destutter'_ne sorts.ordered
  · rw [mem_ascending, ← sorts.perm.mem_iff]
    cases sorted with
    | nil => rfl
    | cons first rest => exact mem_destutter'_ne

end RoleGate.Text
