/-! Models: the objects that roles are granted on. -/

set_option autoImplicit false

namespace RoleGate

structure Model where
  className : String
  id : String
  deriving DecidableEq, Repr

namespace Model

def text (model : Model) : String := model.className ++ "#" ++ model.id

/-- By class, then by identifier, both by code point. -/
instance : Ord Model where
  compare := compareLex (compareOn className) (compareOn id)

instance : Std.TransOrd Model :=
  inferInstanceAs (Std.TransCmp (compareLex (compareOn className) (compareOn id)))

theorem compare_eq_eq {a b : Model} : compare a b = .eq ↔ a = b := by
  obtain ⟨_, _⟩ := a
  obtain ⟨_, _⟩ := b
  simp only [mk.injEq]
  exact compareLex_eq_eq.trans (and_congr Std.compare_eq_iff_eq Std.compare_eq_iff_eq)

instance : Std.LawfulEqOrd Model where
  compare_self := compare_eq_eq.mpr rfl
  eq_of_compare := compare_eq_eq.mp

def sort (models : List Model) : List Model := models.mergeSort fun a b => (compare a b).isLE

end Model

end RoleGate
