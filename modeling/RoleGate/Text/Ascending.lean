/-! Lists of texts in ascending order of code points, each text once. -/

set_option autoImplicit false

namespace RoleGate.Text

def insertAscending (text : String) : List String → List String
  | [] => [text]
  | head :: rest =>
    if text < head then text :: head :: rest
    else if text = head then head :: rest
    else head :: insertAscending text rest

/-- The members of a list in ascending order, each of them once. -/
def ascending (texts : List String) : List String := texts.foldr insertAscending []

/-- The texts in ascending order, each as often as it is among them. -/
def sort (texts : List String) : List String := texts.mergeSort fun a b => decide (a ≤ b)

theorem mem_insertAscending {text other : String} {texts : List String} :
    other ∈ insertAscending text texts ↔ other = text ∨ other ∈ texts := by
  induction texts with
  | nil => simp [insertAscending]
  | cons head rest ih =>
    simp only [insertAscending]
    split
    · simp
    · split
      · next same => simp [same]
      · simp only [List.mem_cons, ih]
        exact ⟨fun either => either.elim (.inr ∘ .inl) (.imp_right .inr),
          fun either => either.elim (.inr ∘ .inl) (.imp_right .inr)⟩

theorem mem_ascending {text : String} {texts : List String} :
    text ∈ ascending texts ↔ text ∈ texts := by
  induction texts with
  | nil => simp [ascending]
  | cons head rest ih =>
    rw [ascending, List.foldr_cons, mem_insertAscending, List.mem_cons]
    exact or_congr_right ih

theorem pairwise_insertAscending {text : String} {texts : List String}
    (ordered : texts.Pairwise (· < ·)) : (insertAscending text texts).Pairwise (· < ·) := by
  induction texts with
  | nil => simp [insertAscending]
  | cons head rest ih =>
    obtain ⟨first, others⟩ := List.pairwise_cons.mp ordered
    simp only [insertAscending]
    split
    · next before =>
      refine List.pairwise_cons.mpr ⟨fun other member => ?_, ordered⟩
      rcases List.mem_cons.mp member with rfl | member
      · exact before
      · exact String.lt_trans before (first other member)
    · next notBefore =>
      split
      · exact ordered
      · next differs =>
        refine List.pairwise_cons.mpr ⟨fun other member => ?_, ih others⟩
        rcases mem_insertAscending.mp member with rfl | member
        · exact Decidable.byContradiction fun notAfter =>
            differs (String.le_antisymm (String.not_lt.mp notAfter) (String.not_lt.mp notBefore))
        · exact first other member

theorem pairwise_ascending (texts : List String) : (ascending texts).Pairwise (· < ·) := by
  induction texts with
  | nil => simp [ascending]
  | cons head rest ih => exact pairwise_insertAscending ih

theorem nodup_of_pairwise {texts : List String} (ordered : texts.Pairwise (· < ·)) :
    texts.Nodup := by
  apply ordered.imp
  intro text other before same
  exact String.lt_irrefl _ (same ▸ before)

/-- There is one ascending list of the same members. -/
theorem eq_of_pairwise {texts others : List String} (ordered : texts.Pairwise (· < ·))
    (othersOrdered : others.Pairwise (· < ·)) (same : ∀ text, text ∈ texts ↔ text ∈ others) :
    texts = others := by
  have perm := (List.perm_ext_iff_of_nodup (nodup_of_pairwise ordered)
    (nodup_of_pairwise othersOrdered)).mpr same
  refine perm.eq_of_pairwise (fun _ _ _ _ before after => ?_) ordered othersOrdered
  exact absurd after (String.lt_asymm before)

theorem ascending_congr {texts others : List String} (same : ∀ text, text ∈ texts ↔ text ∈ others) :
    ascending texts = ascending others := by
  refine eq_of_pairwise (pairwise_ascending texts) (pairwise_ascending others) fun text => ?_
  rw [mem_ascending, mem_ascending, same]

end RoleGate.Text
