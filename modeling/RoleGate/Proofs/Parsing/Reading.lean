import RoleGate.Expr.Parser
import RoleGate.Proofs.Parsing.Grammar

/-! The parser as one function of the phrase that it reads: what it does by the token in front of
it, and induction along its calls.
-/

set_option autoImplicit false

namespace RoleGate

namespace Cursor

def read (phrase : Phrase) (c : Cursor) : Step Expr :=
  match phrase with
  | .chain op => c.chain op
  | .negation => c.negation
  | .primary => c.primary

theorem read_operand (op : BinaryOp) (c : Cursor) : c.read (.operand op) = c.operand op := by
  cases op with
  | and => exact (operand_and c).symm
  | or => exact (operand_or c).symm

theorem read_advances (phrase : Phrase) (c : Cursor) : (c.read phrase).Advances c := by
  cases phrase with
  | chain op => exact chain_advances op c
  | negation => exact negation_advances c
  | primary => exact primary_advances c

/-! ### What the parser does by the token in front of it -/

theorem starts_or (token : Token) (tokens : List Token) :
    (∃ rest, tokens = token :: rest) ∨ ∀ rest, tokens ≠ token :: rest := by
  by_cases starts : ∃ rest, tokens = token :: rest
  · exact .inl starts
  · exact .inr fun rest same => starts ⟨rest, same⟩

theorem starts_congr {token : Token} {tokens others : List Token}
    (sameHead : others.head? = tokens.head?) (other : ∀ rest, tokens ≠ token :: rest) :
    ∀ rest, others ≠ token :: rest := by
  rintro rest rfl
  obtain ⟨more, shape⟩ := List.head?_eq_some_iff.mp sameHead.symm
  exact other more shape

section
variable {rest : List Token} {depth : Nat}

theorem descend_of_lt (room : depth < maxDepth) :
    descend ⟨rest, depth⟩ = .done () ⟨rest, depth + 1⟩ := if_pos room

theorem descend_of_le (full : maxDepth ≤ depth) :
    descend ⟨rest, depth⟩ = .failed .tooDeep ⟨rest, depth + 1⟩ := if_neg (Nat.not_lt.mpr full)

theorem descend_bind_eq_done {α : Type} {after : Unit → Cursor → Step α} {value : α} {last : Cursor}
    (read : (descend ⟨rest, depth⟩).bind after = .done value last) :
    depth < maxDepth ∧ after () ⟨rest, depth + 1⟩ = .done value last := by
  by_cases room : depth < maxDepth
  · rw [descend_of_lt room, Step.done_bind] at read
    exact ⟨room, read⟩
  · rw [descend_of_le (Nat.le_of_not_lt room), Step.failed_bind] at read
    cases read

theorem descend_bind_eq_failed {α : Type} {after : Unit → Cursor → Step α} {error : ParseError}
    {stopped : Cursor}
    (failed : (descend ⟨rest, depth⟩).bind after = .failed error stopped) :
    (maxDepth ≤ depth ∧ error = .tooDeep) ∨
      (depth < maxDepth ∧ after () ⟨rest, depth + 1⟩ = .failed error stopped) := by
  by_cases room : depth < maxDepth
  · rw [descend_of_lt room, Step.done_bind] at failed
    exact .inr ⟨room, failed⟩
  · have full := Nat.le_of_not_lt room
    rw [descend_of_le full, Step.failed_bind] at failed
    cases failed
    exact .inl ⟨full, rfl⟩

theorem descend_eq_done {u : Unit} {next : Cursor}
    (descended : descend ⟨rest, depth⟩ = .done u next) :
    depth < maxDepth ∧ next = ⟨rest, depth + 1⟩ := by
  by_cases room : depth < maxDepth
  · rw [descend_of_lt room] at descended
    cases descended
    exact ⟨room, rfl⟩
  · rw [descend_of_le (Nat.le_of_not_lt room)] at descended
    cases descended

theorem descend_bind {α : Type} (next : Unit → Cursor → Step α) :
    (descend ⟨rest, depth⟩).bind next = (descend ⟨rest, depth⟩).bind fun _ _ =>
      next () ⟨rest, depth + 1⟩ := by
  by_cases room : depth < maxDepth
  · rw [descend_of_lt room]
    rfl
  · rw [descend_of_le (Nat.le_of_not_lt room)]
    rfl

theorem read_chain (op : BinaryOp) (c : Cursor) :
    c.read (.chain op) = (c.read (.operand op)).bind fun left next =>
      (next.links op left).bind fun tree last => .done tree { last with depth := c.depth } := by
  rw [read_operand]
  exact chain_eq op c

theorem links_op (op : BinaryOp) (left : Expr) :
    links op left ⟨.op op :: rest, depth⟩ = (descend ⟨rest, depth⟩).bind fun _ deeper =>
      (deeper.read (.operand op)).bind fun right next => next.links op (.binary left op right) := by
  rw [links_eq]
  simp only [if_true, read_operand]

theorem links_other {op : BinaryOp} {left : Expr} {c : Cursor}
    (other : ∀ rest, c.rest ≠ .op op :: rest) : c.links op left = .done left c := by
  rw [links_eq]
  split
  · next found rest shape =>
    split
    · next same => exact absurd (same ▸ shape) (other rest)
    · rfl
  · rfl

theorem read_not :
    read .negation ⟨.not :: rest, depth⟩ = (descend ⟨rest, depth⟩).bind fun _ deeper =>
      (deeper.read .negation).bind fun operand next =>
        .done (.not operand) { next with depth := next.depth - 1 } :=
  negation_eq ⟨.not :: rest, depth⟩

theorem read_negation_other {c : Cursor} (other : ∀ rest, c.rest ≠ .not :: rest) :
    c.read .negation = c.read .primary := by
  change c.negation = c.primary
  rw [negation_eq]
  split
  · next rest shape => exact absurd shape (other rest)
  · rfl

theorem read_leftParen :
    read .primary ⟨.leftParen :: rest, depth⟩ = (descend ⟨rest, depth⟩).bind fun _ deeper =>
      (deeper.read (.chain .or)).bind fun inner next =>
        next.closeParen.bind fun _ last =>
          .done (.group inner) { last with depth := last.depth - 1 } :=
  primary_eq ⟨.leftParen :: rest, depth⟩

theorem read_primary_other {c : Cursor} (other : ∀ rest, c.rest ≠ .leftParen :: rest) :
    c.read .primary = c.atom.bind fun atom next => .done (.atom atom) next := by
  change c.primary = _
  rw [primary_eq]
  split
  · next rest shape => exact absurd shape (other rest)
  · rfl

end

/-! ### Induction along the calls of the parser -/

/-- A property of all readings of phrases, and one of all readings of links, each shown from those
of the readings it starts. -/
theorem read_induction (Reads : Phrase → Cursor → Prop) (Links : BinaryOp → Expr → Cursor → Prop)
    (chain : ∀ op c, Reads (.operand op) c →
      (∀ left next, c.read (.operand op) = .done left next → Links op left next) →
      Reads (.chain op) c)
    (links : ∀ op left c,
      (∀ rest, c.rest = .op op :: rest → Reads (.operand op) ⟨rest, c.depth + 1⟩) →
      (∀ rest right next, c.rest = .op op :: rest →
        read (.operand op) ⟨rest, c.depth + 1⟩ = .done right next →
        Links op (.binary left op right) next) →
      Links op left c)
    (negation : ∀ c, (∀ rest, c.rest = .not :: rest → Reads .negation ⟨rest, c.depth + 1⟩) →
      Reads .primary c → Reads .negation c)
    (primary : ∀ c,
      (∀ rest, c.rest = .leftParen :: rest → Reads (.chain .or) ⟨rest, c.depth + 1⟩) →
      Reads .primary c) :
    (∀ phrase c, Reads phrase c) ∧ ∀ op left c, Links op left c := by
  -- The induction is on the tokens left; at one length the phrases follow from the tightest on.
  have bounded : ∀ bound : Nat,
      (∀ phrase (c : Cursor), c.rest.length < bound → Reads phrase c) ∧
        ∀ op left (c : Cursor), c.rest.length < bound → Links op left c := by
    intro bound
    induction bound with
    | zero => exact ⟨fun _ _ short => absurd short (Nat.not_lt_zero _),
        fun _ _ _ short => absurd short (Nat.not_lt_zero _)⟩
    | succ bound ih =>
      obtain ⟨shorterReads, shorterLinks⟩ := ih
      have atLinks (op : BinaryOp) (left : Expr) (c : Cursor)
          (short : c.rest.length < bound + 1) : Links op left c := by
        refine links op left c (fun rest shape => shorterReads _ _ ?_) ?_
        · simp only [shape, List.length_cons] at short
          exact Nat.lt_of_succ_lt_succ short
        · intro rest right next shape reading
          have advance := read_advances _ _ _ _ reading
          simp only [shape, List.length_cons] at short
          exact shorterLinks _ _ _ (Nat.lt_trans advance (Nat.lt_of_succ_lt_succ short))
      have atPrimary (c : Cursor) (short : c.rest.length < bound + 1) : Reads .primary c := by
        refine primary c fun rest shape => shorterReads _ _ ?_
        simp only [shape, List.length_cons] at short
        exact Nat.lt_of_succ_lt_succ short
      have atNegation (c : Cursor) (short : c.rest.length < bound + 1) : Reads .negation c := by
        refine negation c (fun rest shape => shorterReads _ _ ?_) (atPrimary c short)
        simp only [shape, List.length_cons] at short
        exact Nat.lt_of_succ_lt_succ short
      have atChain (op : BinaryOp) (c : Cursor) (short : c.rest.length < bound + 1)
          (operand : Reads (.operand op) c) : Reads (.chain op) c := by
        refine chain op c operand fun left next reading => atLinks _ _ _ ?_
        exact Nat.lt_trans (read_advances _ _ _ _ reading) short
      have atConjunction (c : Cursor) (short : c.rest.length < bound + 1) :
          Reads (.chain .and) c := atChain .and c short (atNegation c short)
      refine ⟨fun phrase c short => ?_, atLinks⟩
      match phrase with
      | .chain .or => exact atChain .or c short (atConjunction c short)
      | .chain .and => exact atConjunction c short
      | .negation => exact atNegation c short
      | .primary => exact atPrimary c short
  exact ⟨fun phrase c => (bounded _).1 phrase c (Nat.lt_succ_self _),
    fun op left c => (bounded _).2 op left c (Nat.lt_succ_self _)⟩

end Cursor

end RoleGate
