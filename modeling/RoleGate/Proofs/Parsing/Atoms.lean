import RoleGate.Proofs.Parsing.Reading

/-! Reading atoms: the parser reads the tokens of an atom exactly where a role at its end cannot go
on with what follows.
-/

set_option autoImplicit false

namespace RoleGate

namespace Cursor

variable {rest : List Token} {depth : Nat} {token : Token} {name asked : String} {quoted : Bool}
  {model : ModelName}

/-! ### The parts of an atom -/

theorem closeParen_eq_done_iff {c next : Cursor} {u : Unit} :
    c.closeParen = .done u next ↔ c.rest = .rightParen :: next.rest ∧ next.depth = c.depth := by
  obtain ⟨rest, depth⟩ := c
  obtain ⟨last, lastDepth⟩ := next
  simp only [closeParen]
  split
  · simp [eq_comm]
  · next other =>
    simp only [reduceCtorEq, false_iff, not_and]
    intro same
    exact absurd same (other last)

theorem modelName_of_names (named : NamesModel token model) :
    modelName asked ⟨token :: rest, depth⟩ = .done model ⟨rest, depth⟩ := by
  cases named with
  | symbol => rfl
  | word other => simp [modelName, other]
  | className known => simp [modelName, known]

theorem modelName_eq_done_iff {c next : Cursor} :
    modelName asked c = .done model next ↔
      ∃ token, c.rest = token :: next.rest ∧ NamesModel token model ∧ next.depth = c.depth := by
  obtain ⟨rest, depth⟩ := c
  obtain ⟨last, lastDepth⟩ := next
  constructor
  · intro read
    simp only [modelName] at read
    split at read
    · cases read
      exact ⟨_, rfl, .symbol, rfl⟩
    · next name _ =>
      cases known : isClassName name with
      | false =>
        simp only [known, Bool.false_eq_true, if_false] at read
        cases read
        exact ⟨_, rfl, .word known, rfl⟩
      | true =>
        simp only [known, if_true] at read
        cases read
        exact ⟨_, rfl, .className known, rfl⟩
    all_goals cases read
  · rintro ⟨token, same, named, sameDepth⟩
    simp only at same sameDepth
    rw [same, sameDepth]
    exact modelName_of_names named

theorem atom_of_namesRole (named : NamesRole token name quoted) :
    atom ⟨token :: rest, depth⟩ = role name quoted ⟨rest, depth⟩ := by
  cases named with
  | word other => simp [atom, other]
  | quoted => rfl

theorem role_of_stops (stops : Phrase.primary.Stops (.atom (.role name quoted)) rest) :
    role name quoted ⟨rest, depth⟩ = .done (.role name quoted) ⟨rest, depth⟩ := by
  cases rest with
  | nil => rfl
  | cons token rest =>
    have alone : token.scopesRole = false := (Phrase.stops_cons.mp stops).2 rfl
    cases token with
    | word word => simp_all [role, Token.scopesRole]
    | leftParen => simp [Token.scopesRole] at alone
    | symbol | quoted | rightParen | op | not => rfl

theorem role_preposition {word : String} (joins : isPreposition word = true) :
    role name quoted ⟨.word word :: rest, depth⟩ =
      (modelName name ⟨rest, depth⟩).bind fun model next => .done (.scoped name model) next := by
  simp [role, joins]

theorem role_eq_done {c next : Cursor} {atom : Atom} (read : role name quoted c = .done atom next) :
    (atom = .role name quoted ∧ next = c ∧
        Phrase.primary.Stops (.atom (.role name quoted)) c.rest) ∨
      (∃ word token model, atom = .scoped name model ∧ isPreposition word = true ∧
        NamesModel token model ∧ c.rest = .word word :: token :: next.rest ∧
        next.depth = c.depth) ∨
      ∃ token model, atom = .scoped name model ∧ NamesModel token model ∧
        c.rest = .leftParen :: token :: .rightParen :: next.rest ∧ next.depth = c.depth := by
  -- The cases are a word, which may be a preposition, a parenthesis, and anything else.
  simp only [role] at read
  split at read
  · next word rest shape =>
    split at read
    · next joins =>
      obtain ⟨model, middle, found, same⟩ := Step.bind_eq_done.mp read
      cases same
      obtain ⟨token, after, named, sameDepth⟩ := modelName_eq_done_iff.mp found
      simp only at after sameDepth
      exact .inr (.inl ⟨word, token, model, rfl, joins, named, by rw [shape, after], sameDepth⟩)
    · next alone =>
      cases read
      refine .inl ⟨rfl, rfl, ?_⟩
      rw [shape]
      exact Phrase.stops_cons.mpr ⟨rfl, fun _ => by simpa [Token.scopesRole] using alone⟩
  · next rest shape =>
    obtain ⟨model, middle, opened, closing⟩ := Step.bind_eq_done.mp read
    obtain ⟨_, last, closed, same⟩ := Step.bind_eq_done.mp closing
    cases same
    obtain ⟨token, after, named, sameDepth⟩ := modelName_eq_done_iff.mp opened
    obtain ⟨close, lastDepth⟩ := closeParen_eq_done_iff.mp closed
    simp only at after sameDepth
    exact .inr (.inr ⟨token, model, rfl, named, by rw [shape, after, close],
      lastDepth.trans sameDepth⟩)
  · next noWord noParen =>
    cases read
    refine .inl ⟨rfl, rfl, fun token first => ⟨rfl, fun _ => ?_⟩⟩
    obtain ⟨rest, shape⟩ := List.head?_eq_some_iff.mp first
    cases token with
    | word word => exact absurd shape (noWord word rest)
    | leftParen => exact absurd shape (noParen rest)
    | symbol | quoted | rightParen | op | not => rfl

/-! ### Whole atoms -/

theorem atom_of_spells (depth : Nat) {tokens : List Token} {atom : Atom}
    (spelled : SpellsAtom tokens atom) (stops : Phrase.primary.Stops (.atom atom) rest) :
    Cursor.atom ⟨tokens ++ rest, depth⟩ = .done atom ⟨rest, depth⟩ := by
  cases spelled with
  | object => rfl
  | className known => simp [Cursor.atom, known]
  | role named =>
    rw [List.singleton_append, atom_of_namesRole named, role_of_stops stops]
  | preposition named joins namedModel =>
    simp only [List.cons_append, List.nil_append]
    rw [atom_of_namesRole named, role_preposition joins, modelName_of_names namedModel]
    rfl
  | call named namedModel =>
    simp only [List.cons_append, List.nil_append]
    rw [atom_of_namesRole named]
    simp only [role, modelName_of_names namedModel, Step.done_bind, closeParen]

theorem atom_eq_done {c next : Cursor} {atom : Atom} (read : c.atom = .done atom next) :
    ∃ tokens, c.rest = tokens ++ next.rest ∧ SpellsAtom tokens atom ∧
      Phrase.primary.Stops (.atom atom) next.rest ∧ next.depth = c.depth := by
  have ofRole {token : Token} {rest : List Token} {name : String} {quoted : Bool}
      (named : NamesRole token name quoted) (shape : c.rest = token :: rest)
      (read : role name quoted { c with rest := rest } = .done atom next) :
      ∃ tokens, c.rest = tokens ++ next.rest ∧ SpellsAtom tokens atom ∧
        Phrase.primary.Stops (.atom atom) next.rest ∧ next.depth = c.depth := by
    rcases role_eq_done read with ⟨rfl, rfl, stops⟩ |
      ⟨word, modelToken, model, rfl, joins, namedModel, after, sameDepth⟩ |
      ⟨modelToken, model, rfl, namedModel, after, sameDepth⟩
    · exact ⟨[token], shape, .role named, stops, rfl⟩
    · refine ⟨[token, .word word, modelToken], ?_, .preposition named joins namedModel,
        Phrase.primary_stops _ rfl, sameDepth⟩
      simp only at after
      simp [shape, after]
    · refine ⟨[token, .leftParen, modelToken, .rightParen], ?_, .call named namedModel,
        Phrase.primary_stops _ rfl, sameDepth⟩
      simp only at after
      simp [shape, after]
  simp only [Cursor.atom] at read
  split at read
  · next name rest shape =>
    cases read
    exact ⟨[.symbol name], shape, .object, Phrase.primary_stops _ rfl, rfl⟩
  · next name rest shape =>
    split at read
    · next known =>
      cases read
      exact ⟨[.word name], shape, .className known, Phrase.primary_stops _ rfl, rfl⟩
    · next other => exact ofRole (.word (by simpa using other)) shape read
  · next name rest shape => exact ofRole .quoted shape read
  all_goals cases read

end Cursor

end RoleGate
