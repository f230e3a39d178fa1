import RoleGate.Proofs.Parsing.Atoms

/-! The grammar is unambiguous: tokens are read in one way only, in front of anything that does not
go on with the phrase. The trees compared may be of any height.
-/

set_option autoImplicit false

namespace RoleGate

theorem SpellsAtom.cons {tokens : List Token} {atom : Atom} (spelled : SpellsAtom tokens atom) :
    ∃ token more, tokens = token :: more ∧ token ≠ .leftParen ∧ token ≠ .not := by
  have ofRole {token : Token} {name : String} {quoted : Bool}
      (named : NamesRole token name quoted) : token ≠ .leftParen ∧ token ≠ .not := by
    cases named <;> simp
  cases spelled with
  | object => exact ⟨_, _, rfl, by simp, by simp⟩
  | className => exact ⟨_, _, rfl, by simp, by simp⟩
  | role named => exact ⟨_, _, rfl, ofRole named⟩
  | preposition named => exact ⟨_, _, rfl, ofRole named⟩
  | call named => exact ⟨_, _, rfl, ofRole named⟩

theorem Derives.cons {tokens : List Token} {tree : Expr} (derived : Derives .primary tokens tree) :
    ∃ token more, tokens = token :: more ∧ token ≠ .not := by
  cases derived with
  | group => exact ⟨_, _, rfl, by simp⟩
  | atom spelled =>
    obtain ⟨token, more, rfl, -, other⟩ := spelled.cons
    exact ⟨token, more, rfl, other⟩

theorem SpellsAtom.unique {tokens others rest otherRest : List Token} {atom otherAtom : Atom}
    (spelled : SpellsAtom tokens atom) (otherSpelled : SpellsAtom others otherAtom)
    (same : tokens ++ rest = others ++ otherRest)
    (stops : Phrase.primary.Stops (.atom atom) rest)
    (otherStops : Phrase.primary.Stops (.atom otherAtom) otherRest) :
    atom = otherAtom ∧ rest = otherRest := by
  have read := Cursor.atom_of_spells 0 spelled stops
  rw [same, Cursor.atom_of_spells 0 otherSpelled otherStops] at read
  cases read
  exact ⟨rfl, rfl⟩

/-- Tokens that stand for one tree only, in front of anything that ends the phrase. -/
def ReadsUniquely (phrase : Phrase) (tokens : List Token) (tree : Expr) : Prop :=
  ∀ {others rest otherRest : List Token} {otherTree : Expr}, Derives phrase others otherTree →
    tokens ++ rest = others ++ otherRest → phrase.Stops tree rest →
    phrase.Stops otherTree otherRest → tree = otherTree ∧ rest = otherRest

theorem linkTree_unique {op : BinaryOp} {left : Expr} {links others : List (List Token × Expr)}
    {rest otherRest : List Token}
    (unique : ∀ link ∈ links, ReadsUniquely (.operand op) link.1 link.2)
    (derived : ∀ link ∈ others, Derives (.operand op) link.1 link.2)
    (same : linkTokens op links ++ rest = linkTokens op others ++ otherRest)
    (stops : (Phrase.chain op).Stops (linkTree op left links) rest)
    (otherStops : (Phrase.chain op).Stops (linkTree op left others) otherRest) :
    linkTree op left links = linkTree op left others ∧ rest = otherRest := by
  induction links generalizing left others with
  | nil =>
    cases others with
    | nil => exact ⟨rfl, same⟩
    | cons other others => exact absurd same (stops.ne_op _)
  | cons link links ih =>
    cases others with
    | nil => exact absurd same.symm (otherStops.ne_op _)
    | cons other others =>
      simp only [linkTokens_cons, List.cons_append, List.append_assoc, List.cons.injEq,
        true_and] at same
      -- The operand is the last part of the tree read so far, which ends where the operand ends.
      have stopsAfter : (Phrase.operand op).Stops link.2 (linkTokens op links ++ rest) :=
        Phrase.Stops.links (.binary left op link.2) stops
      have otherStopsAfter :
          (Phrase.operand op).Stops other.2 (linkTokens op others ++ otherRest) :=
        Phrase.Stops.links (.binary left op other.2) otherStops
      obtain ⟨sameOperand, sameRest⟩ := unique link (by simp) (derived other (by simp)) same
        stopsAfter otherStopsAfter
      simp only [linkTree_cons, sameOperand] at stops otherStops ⊢
      exact ih (fun link member => unique link (by simp [member]))
        (fun link member => derived link (by simp [member])) sameRest stops otherStops

theorem Derives.readsUniquely {phrase : Phrase} {tokens : List Token} {tree : Expr}
    (derived : Derives phrase tokens tree) : ReadsUniquely phrase tokens tree := by
  -- The first token tells a negation from what binds tighter, and a group from an atom.
  induction derived with
  | @chain op first left links _ _ firstUnique linksUnique =>
    intro others rest otherRest otherTree other same stops otherStops
    cases other with
    | @chain _ otherFirst otherLeft otherLinks otherFirstDerived otherLinksDerived =>
      simp only [List.append_assoc] at same
      obtain ⟨rfl, sameRest⟩ := firstUnique otherFirstDerived same (stops.links _)
        (otherStops.links _)
      exact linkTree_unique linksUnique otherLinksDerived sameRest stops otherStops
  | not _ unique =>
    intro others rest otherRest otherTree other same stops otherStops
    cases other with
    | not otherDerived =>
      simp only [List.cons_append, List.cons.injEq, true_and] at same
      obtain ⟨rfl, sameRest⟩ := unique otherDerived same stops otherStops
      exact ⟨rfl, sameRest⟩
    | primary otherDerived =>
      obtain ⟨token, more, rfl, noNot⟩ := otherDerived.cons
      simp only [List.cons_append, List.cons.injEq] at same
      exact absurd same.1.symm noNot
  | primary derived unique =>
    intro others rest otherRest otherTree other same stops otherStops
    cases other with
    | not otherDerived =>
      obtain ⟨token, more, rfl, noNot⟩ := derived.cons
      simp only [List.cons_append, List.cons.injEq] at same
      exact absurd same.1 noNot
    | primary otherDerived => exact unique otherDerived same stops otherStops
  | group _ unique =>
    intro others rest otherRest otherTree other same stops otherStops
    cases other with
    | group otherDerived =>
      simp only [List.cons_append, List.append_assoc, List.cons.injEq, true_and,
        List.nil_append] at same
      obtain ⟨rfl, sameRest⟩ := unique otherDerived same (Phrase.stops_rightParen _ _ _)
        (Phrase.stops_rightParen _ _ _)
      simp only [List.cons.injEq, true_and] at sameRest
      exact ⟨rfl, sameRest⟩
    | atom spelled =>
      obtain ⟨token, more, rfl, noParen, -⟩ := spelled.cons
      simp only [List.cons_append, List.cons.injEq] at same
      exact absurd same.1.symm noParen
  | atom spelled =>
    intro others rest otherRest otherTree other same stops otherStops
    cases other with
    | group otherDerived =>
      obtain ⟨token, more, rfl, noParen, -⟩ := spelled.cons
      simp only [List.cons_append, List.cons.injEq] at same
      exact absurd same.1 noParen
    | atom otherSpelled =>
      obtain ⟨rfl, sameRest⟩ := spelled.unique otherSpelled same stops otherStops
      exact ⟨rfl, sameRest⟩

end RoleGate
