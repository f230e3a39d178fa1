import RoleGate.Role.Grants

/-! How scopes cover each other.

Coverage orders the scopes as a forest, here as one tree: everything covers the classes, a class
covers its models, and whatever covers a scope lies on the way up from it. A role is held along the
way down, and the ascending order of scopes never puts a scope before one that covers it.
-/

set_option autoImplicit false

namespace RoleGate

/-- A relation that orders a forest from its roots: a partial order in which the points above any
one point are all above one another. -/
structure ForestOrder {α : Type} (above : α → α → Prop) : Prop where
  refl : ∀ a, above a a
  trans : ∀ a b c, above a b → above b c → above a c
  antisymm : ∀ a b, above a b → above b a → a = b
  comparable : ∀ a b c, above a c → above b c → above a b ∨ above b a

namespace Scope

variable {a b c : Scope}

/-! ### The forest -/

theorem covers_ofClass_iff {name : String} :
    a.covers (ofClass name) = true ↔ a = global ∨ a = ofClass name := by
  rw [covers_iff]
  constructor
  · rintro (whole | ⟨found, same, belongs⟩ | same)
    · exact .inl whole
    · cases belongs
      exact .inr same
    · exact .inr same
  · rintro (whole | same)
    · exact .inl whole
    · exact .inr (.inr same)

theorem covers_trans (first : a.covers b = true) (second : b.covers c = true) :
    a.covers c = true := by
  rcases covers_iff.mp second with rfl | ⟨name, rfl, belongs⟩ | rfl
  · -- Only everything covers everything.
    rcases covers_iff.mp first with rfl | ⟨_, _, impossible⟩ | rfl
    · rfl
    · cases impossible
    · rfl
  · rcases covers_ofClass_iff.mp first with rfl | rfl
    · rfl
    · exact second
  · exact first

theorem covers_antisymm (down : a.covers b = true) (up : b.covers a = true) : a = b := by
  rcases covers_iff.mp down with rfl | ⟨name, rfl, belongs⟩ | same
  · rcases covers_iff.mp up with same | ⟨_, _, impossible⟩ | same
    · exact same.symm
    · cases impossible
    · exact same.symm
  · rcases covers_ofClass_iff.mp up with rfl | same
    · cases belongs
    · exact same.symm
  · exact same

/-- Of two scopes that cover the same one, one covers the other. -/
theorem covers_or_covers (first : a.covers c = true) (second : b.covers c = true) :
    a.covers b = true ∨ b.covers a = true := by
  rcases covers_iff.mp first with rfl | ⟨name, rfl, belongs⟩ | rfl
  · exact .inl rfl
  · rcases covers_iff.mp second with rfl | ⟨other, rfl, alsoBelongs⟩ | rfl
    · exact .inr rfl
    · -- A scope belongs to one class only.
      rw [belongs] at alsoBelongs
      cases alsoBelongs
      exact .inl (covers_refl _)
    · exact .inl first
  · exact .inr second

theorem forestOrder_covers : ForestOrder fun a b : Scope => a.covers b = true where
  refl := covers_refl
  trans _ _ _ := covers_trans
  antisymm _ _ := covers_antisymm
  comparable _ _ _ := covers_or_covers

theorem covers_iff_forall_covers :
    a.covers b = true ↔ ∀ c : Scope, b.covers c = true → a.covers c = true :=
  ⟨fun covering _ => covers_trans covering, fun all => all b (covers_refl b)⟩

/-! ### The ascending order -/

theorem compare_of_rank_lt (lower : a.rank < b.rank) : compare a b = .lt := by
  have first : compareOn rank a b = .lt := Nat.compare_eq_lt.mpr lower
  change (compareOn rank a b).then _ = .lt
  rw [first]
  rfl

theorem compare_of_covers (covering : a.covers b = true) (differs : a ≠ b) :
    compare a b = .lt := by
  apply compare_of_rank_lt
  rcases covers_iff.mp covering with rfl | ⟨name, rfl, belongs⟩ | same
  · cases b with
    | global => exact absurd rfl differs
    | ofClass => exact Nat.zero_lt_one
    | ofModel => exact Nat.zero_lt_two
  · cases b with
    | global => cases belongs
    | ofClass other =>
      cases belongs
      exact absurd rfl differs
    | ofModel => exact Nat.one_lt_two
  · exact absurd same differs

theorem isLE_of_covers (covering : a.covers b = true) : (compare a b).isLE = true := by
  by_cases same : a = b
  · rw [compare_eq_eq.mpr same]
    rfl
  · rw [compare_of_covers covering same]
    rfl

def Ascending (scopes : List Scope) : Prop :=
  scopes.Pairwise fun first later => (compare first later).isLE = true

theorem isLE_total (a b : Scope) : ((compare a b).isLE || (compare b a).isLE) = true := by
  have swapped : compare b a = (compare a b).swap := Std.OrientedCmp.eq_swap
  rw [swapped]
  cases compare a b <;> rfl

theorem ascending_sort (scopes : List Scope) : Ascending (sort scopes) :=
  List.pairwise_mergeSort (fun _ _ _ => Std.TransCmp.isLE_trans) isLE_total scopes

/-- In ascending order no scope stands before another one that covers it. -/
theorem Ascending.eq_of_covers {scopes : List Scope} (ascending : Ascending scopes) :
    scopes.Pairwise fun first later => later.covers first = true → later = first :=
  ascending.imp fun before covering =>
    compare_eq_eq.mp (Std.OrientedCmp.isLE_antisymm (isLE_of_covers covering) before)

end Scope

/-! ### Roles -/

variable {granted asked : Scope}

theorem GrantTable.holds_of_covers {table : GrantTable} {id role : String}
    (covering : granted.covers asked = true) (held : table.holds id role granted = true) :
    table.holds id role asked = true := by
  obtain ⟨scope, contained, covers⟩ := holds_iff.mp held
  exact holds_iff.mpr ⟨scope, contained, Scope.covers_trans covers covering⟩

theorem GrantTable.hasRole_of_covers {table : GrantTable} {principal? : Option Principal}
    {role : String} (covering : granted.covers asked = true)
    (held : table.source.hasRole principal? role granted = true) :
    table.source.hasRole principal? role asked = true := by
  obtain ⟨principal, id, same, known, supports, holds⟩ := RoleSource.hasRole_ofHolders_iff.mp held
  exact RoleSource.hasRole_ofHolders_iff.mpr
    ⟨principal, id, same, known, supports, holds_of_covers covering holds⟩

/-! ### All of it -/

/-- Scopes form a forest under coverage, which the ascending order of scopes and the roles that are
held on them follow downwards. -/
theorem Scope.covers_forest :
    ForestOrder (fun a b : Scope => a.covers b = true) ∧
    (∀ a b : Scope, a.covers b = true ↔
      ∀ c : Scope, b.covers c = true → a.covers c = true) ∧
    (∀ a b : Scope, a.covers b = true → (compare a b).isLE = true) ∧
    (∀ scopes : List Scope, Ascending scopes →
      scopes.Pairwise fun first later => later.covers first = true → later = first) ∧
    (∀ scopes : List Scope, (sort scopes).Perm scopes ∧ Ascending (sort scopes)) ∧
    ∀ (table : GrantTable) (principal? : Option Principal) (role : String) (a b : Scope),
      a.covers b = true → table.source.hasRole principal? role a = true →
        table.source.hasRole principal? role b = true :=
  ⟨forestOrder_covers, fun _ _ => covers_iff_forall_covers, fun _ _ => isLE_of_covers,
    fun _ ascending => ascending.eq_of_covers,
    fun scopes => ⟨List.mergeSort_perm _ _, ascending_sort scopes⟩,
    fun _ _ _ _ _ => GrantTable.hasRole_of_covers⟩

/-- A document, its class and everything, from below: sorting turns them around, and an editor of
all documents edits this one. -/
theorem Scope.covers_forest_document :
    let document : Scope := .ofModel ⟨"Document", "1"⟩
    let documents : Scope := .ofClass "Document"
    let table := GrantTable.ofList [⟨"2", "editor", documents⟩]
    let user : Option Principal := some (.user ⟨"2", "bob"⟩)
    (documents.covers document = true ∧ table.source.hasRole user "editor" documents = true ∧
      table.source.hasRole user "editor" document = true) ∧
    Ascending [global, documents, document] ∧
    [global, documents, document].Pairwise
      fun first later => later.covers first = true → later = first := by
  intro document documents table user
  obtain ⟨-, -, -, sorted, -, roles⟩ := covers_forest
  have held : table.source.hasRole user "editor" documents = true := by decide
  have ascending : Ascending [global, documents, document] := by unfold Ascending; decide
  exact ⟨⟨by decide, held, roles table user "editor" documents document (by decide) held⟩,
    ascending, sorted _ ascending⟩

end RoleGate
