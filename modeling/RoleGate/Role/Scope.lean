import RoleGate.Model

/-! Scopes: what a role is granted on, and what it is asked for on. -/

set_option autoImplicit false

namespace RoleGate

inductive Scope where
  | global
  | ofClass (name : String)
  | ofModel (model : Model)
  deriving DecidableEq, Repr

namespace Scope

/-- Whether a role granted on the first scope is held on the second: a grant reaches from
everything to each class, and from a class to its models. -/
def covers : Scope → Scope → Bool
  | global, _ => true
  | ofClass granted, ofClass asked => granted == asked
  | ofClass granted, ofModel model => granted == model.className
  | ofModel granted, ofModel asked => granted == asked
  | _, _ => false

def text : Scope → String
  | global => "global"
  | ofClass name => "class " ++ name
  | ofModel model => model.text

def rank : Scope → Nat
  | global => 0
  | ofClass _ => 1
  | ofModel _ => 2

def className? : Scope → Option String
  | global => none
  | ofClass name => some name
  | ofModel model => some model.className

def id? : Scope → Option String
  | ofModel model => some model.id
  | _ => none

/-- By rank, then by class and by identifier. -/
instance : Ord Scope where
  compare := compareLex (compareOn rank) (compareLex (compareOn className?) (compareOn id?))

instance : Std.TransOrd Scope :=
  inferInstanceAs (Std.TransCmp
    (compareLex (compareOn rank) (compareLex (compareOn className?) (compareOn id?))))

theorem compare_eq_eq {a b : Scope} : compare a b = .eq ↔ a = b := by
  have parts : compare a b = .eq ↔ a.rank = b.rank ∧ a.className? = b.className? ∧ a.id? = b.id? :=
    compareLex_eq_eq.trans (and_congr Std.compare_eq_iff_eq
      (compareLex_eq_eq.trans (and_congr Std.compare_eq_iff_eq Std.compare_eq_iff_eq)))
  rw [parts]
  cases a <;> cases b <;> simp [rank, className?, id?]
  next a b =>
    obtain ⟨_, _⟩ := a
    obtain ⟨_, _⟩ := b
    simp

instance : Std.LawfulEqOrd Scope where
  compare_self := compare_eq_eq.mpr rfl
  eq_of_compare := compare_eq_eq.mp

def sort (scopes : List Scope) : List Scope := scopes.mergeSort fun a b => (compare a b).isLE

@[simp] theorem covers_refl (scope : Scope) : scope.covers scope = true := by
  cases scope <;> simp [covers]

/-- A scope is covered by exactly everything, by its class, and by itself. -/
theorem covers_iff {granted asked : Scope} :
    granted.covers asked = true ↔
      granted = global ∨ (∃ name, granted = ofClass name ∧ asked.className? = some name) ∨
        granted = asked := by
  cases granted <;> cases asked <;> simp [covers, className?]
  · exact Eq.symm
  · exact eq_comm

end Scope

end RoleGate
