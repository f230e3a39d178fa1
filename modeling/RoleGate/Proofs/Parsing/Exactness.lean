import RoleGate.Proofs.Parsing.Unambiguity

/-! The parser reads exactly what the grammar derives, as far as the levels go.

Where a phrase is derived, in front of anything that does not go on with it, the parser reads that
very tree if its levels fit under the limit and refuses it as too deep if they do not. What it has
read was derived, and all levels are closed again.
-/

set_option autoImplicit false

namespace RoleGate

/-! ### What is derived is read -/

/-- Reading comes to the tree and goes on at `next` if that many levels are allowed, and is refused
as too deep if they are not. -/
structure Step.Limited (levels : Nat) (tree : Expr) (next : Cursor) (step : Step Expr) : Prop where
  done : levels ≤ maxDepth → step = .done tree next
  tooDeep : maxDepth < levels → ∃ stopped, step = .failed .tooDeep stopped

namespace Step.Limited

variable {levels total : Nat} {part tree : Expr} {next last : Cursor}

theorem of_done (fits : levels ≤ maxDepth) : Limited levels tree next (.done tree next) :=
  ⟨fun _ => rfl, fun deep => absurd fits (Nat.not_le.mpr deep)⟩

theorem bind {step : Step Expr} {rest : Expr → Cursor → Step Expr}
    (first : Limited levels part next step) (within : levels ≤ total)
    (second : levels ≤ maxDepth → Limited total tree last (rest part next)) :
    Limited total tree last (step.bind rest) := by
  by_cases fits : levels ≤ maxDepth
  · rw [first.done fits, done_bind]
    exact second fits
  · obtain ⟨stopped, same⟩ := first.tooDeep (Nat.lt_of_not_le fits)
    rw [same, failed_bind]
    refine ⟨fun allowed => ?_, fun _ => ⟨stopped, rfl⟩⟩
    exact absurd (Nat.le_trans within allowed) fits

theorem descend {tokens : List Token} {depth : Nat} {rest : Unit → Cursor → Step Expr}
    (within : depth + 1 ≤ total)
    (second : depth < maxDepth → Limited total tree last (rest () ⟨tokens, depth + 1⟩)) :
    Limited total tree last ((Cursor.descend ⟨tokens, depth⟩).bind rest) := by
  by_cases room : depth < maxDepth
  · rw [Cursor.descend_of_lt room, done_bind]
    exact second room
  · rw [Cursor.descend_of_le (Nat.le_of_not_lt room), failed_bind]
    exact ⟨fun allowed => absurd (Nat.le_trans within allowed) room, fun _ => ⟨_, rfl⟩⟩

end Step.Limited

/-- The parser reads the tokens as the tree, from any depth and in front of anything that does not
go on with the phrase, as far as the levels go. -/
def ReadsWithin (phrase : Phrase) (tokens : List Token) (tree : Expr) : Prop :=
  ∀ (rest : List Token) (depth : Nat), phrase.Stops tree rest → depth ≤ maxDepth →
    (Cursor.read phrase ⟨tokens ++ rest, depth⟩).Limited (depth + tree.need) tree ⟨rest, depth⟩

/-- Each link is read one level deeper than the one before it. -/
theorem links_readWithin {op : BinaryOp} {links : List (List Token × Expr)} {rest : List Token}
    {base : Nat} (left : Expr)
    (operands : ∀ link ∈ links, ReadsWithin (.operand op) link.1 link.2)
    (stops : (Phrase.chain op).Stops (linkTree op left links) rest)
    (fits : base + left.need ≤ maxDepth) :
    (Cursor.links op left ⟨linkTokens op links ++ rest, base + left.linkCount op⟩).Limited
      (base + (linkTree op left links).need) (linkTree op left links)
      ⟨rest, base + (linkTree op left links).linkCount op⟩ := by
  induction links generalizing left with
  | nil =>
    rw [Cursor.links_other stops.ne_op]
    exact .of_done fits
  | cons link links ih =>
    have grown : (Expr.binary left op link.2).need ≤ (linkTree op left (link :: links)).need :=
      need_le_need_linkTree op (.binary left op link.2) links
    have count : (Expr.binary left op link.2).linkCount op = left.linkCount op + 1 := by
      simp [Expr.linkCount]
    have need : (Expr.binary left op link.2).need =
        max left.need (left.linkCount op + 1 + link.2.need) := rfl
    have stopsAfter : (Phrase.operand op).Stops link.2 (linkTokens op links ++ rest) :=
      Phrase.Stops.links (.binary left op link.2) stops
    -- The link opens a level, its operand closes what it opens, and the next link stands above it.
    simp only [linkTokens_cons, List.cons_append, List.append_assoc]
    rw [Cursor.links_op]
    refine .descend (by omega) fun room => ?_
    refine (operands link (by simp) _ _ stopsAfter room).bind (by omega) fun fitsOperand => ?_
    have rest := ih (.binary left op link.2)
      (fun link member => operands link (by simp [member])) stops (by omega)
    rw [count] at rest
    exact rest

theorem Derives.readsWithin {phrase : Phrase} {tokens : List Token} {tree : Expr}
    (derived : Derives phrase tokens tree) : ReadsWithin phrase tokens tree := by
  induction derived with
  | @chain op first left links firstDerived _ firstReads linksRead =>
    intro rest depth stops shallow
    have within := need_le_need_linkTree op left links
    have start : depth = depth + left.linkCount op := by
      rw [firstDerived.linkCount_eq_zero, Nat.add_zero]
    rw [Cursor.read_chain, List.append_assoc]
    refine (firstReads _ depth (stops.links left) shallow).bind (by omega) fun fits => ?_
    have read := links_readWithin left linksRead stops fits
    rw [← start] at read
    exact read.bind (Nat.le_refl _) fun allowed => .of_done allowed
  | @not tokens operand _ operandReads =>
    intro rest depth stops shallow
    have need : (Expr.not operand).need = operand.need + 1 := rfl
    rw [List.cons_append, Cursor.read_not]
    refine .descend (by omega) fun room => ?_
    refine (operandReads rest (depth + 1) stops room).bind (by omega) fun fits => ?_
    exact .of_done (by omega)
  | @primary tokens tree derived reads =>
    intro rest depth stops shallow
    obtain ⟨token, more, rfl, noNot⟩ := derived.cons
    rw [Cursor.read_negation_other (by simp [noNot])]
    exact reads rest depth stops shallow
  | @group tokens inner _ innerReads =>
    intro rest depth stops shallow
    have need : (Expr.group inner).need = inner.need + 1 := rfl
    -- Whatever stands in the group ends before its closing parenthesis.
    rw [List.cons_append, List.append_assoc, Cursor.read_leftParen]
    refine .descend (by omega) fun room => ?_
    refine (innerReads _ (depth + 1) (Phrase.stops_rightParen _ _ _) room).bind (by omega)
      fun fits => ?_
    exact .of_done (by omega)
  | @atom tokens atom spelled =>
    intro rest depth stops shallow
    have read := Cursor.atom_of_spells depth spelled stops
    obtain ⟨token, more, rfl, noParen, -⟩ := spelled.cons
    rw [Cursor.read_primary_other (by simp [noParen]), read]
    exact .of_done shallow

/-! ### What is read was derived -/

/-- The tokens in front of the cursor up to `next` stand for the tree, and its levels fit under the
limit; at `next` the phrase has ended and its levels are closed again. -/
structure Reading (phrase : Phrase) (tokens : List Token) (tree : Expr) (c next : Cursor) :
    Prop where
  rest_eq : c.rest = tokens ++ next.rest
  derives : Derives phrase tokens tree
  stops : phrase.Stops tree next.rest
  depth_eq : next.depth = c.depth
  fits : c.depth + tree.need ≤ maxDepth

structure LinksReading (op : BinaryOp) (left : Expr) (links : List (List Token × Expr))
    (base : Nat) (tree : Expr) (c next : Cursor) : Prop where
  rest_eq : c.rest = linkTokens op links ++ next.rest
  derives : ∀ link ∈ links, Derives (.operand op) link.1 link.2
  tree_eq : tree = linkTree op left links
  stops : (Phrase.chain op).Stops tree next.rest
  fits : base + tree.need ≤ maxDepth

section
variable {tokens used : List Token} {tree left right : Expr} {op : BinaryOp}
  {c middle next : Cursor} {depth : Nat}

theorem Reading.chain {links : List (List Token × Expr)}
    (first : Reading (.operand op) used left c middle)
    (linked : LinksReading op left links c.depth tree middle next) :
    Reading (.chain op) (used ++ linkTokens op links) tree c { next with depth := c.depth } := by
  refine ⟨?_, ?_, linked.stops, rfl, linked.fits⟩
  · rw [first.rest_eq, linked.rest_eq, List.append_assoc]
  · rw [linked.tree_eq]
    exact .chain first.derives linked.derives

theorem Reading.not (inner : Reading .negation used tree ⟨tokens, depth + 1⟩ next) :
    Reading .negation (.not :: used) (.not tree) ⟨.not :: tokens, depth⟩
      { next with depth := next.depth - 1 } := by
  refine ⟨?_, .not inner.derives, inner.stops, ?_, ?_⟩
  · simpa using inner.rest_eq
  · simp [inner.depth_eq]
  · have := inner.fits
    simp only [Expr.need] at this ⊢
    omega

theorem Reading.group (inner : Reading (.chain .or) used tree ⟨tokens, depth + 1⟩ middle)
    (closed : middle.rest = .rightParen :: next.rest) (same : next.depth = middle.depth) :
    Reading .primary (.leftParen :: (used ++ [.rightParen])) (.group tree)
      ⟨.leftParen :: tokens, depth⟩ { next with depth := next.depth - 1 } := by
  refine ⟨?_, .group inner.derives, Phrase.primary_stops _ rfl, ?_, ?_⟩
  · have after := inner.rest_eq
    simp only at after
    simp [after, closed]
  · simp [same, inner.depth_eq]
  · have := inner.fits
    simp only [Expr.need] at this ⊢
    omega

theorem LinksReading.cons {links : List (List Token × Expr)} {base : Nat}
    (operand : Reading (.operand op) used right ⟨tokens, depth + 1⟩ middle)
    (linked : LinksReading op (.binary left op right) links base tree middle next) :
    LinksReading op left ((used, right) :: links) base tree ⟨.op op :: tokens, depth⟩ next := by
  refine ⟨?_, ?_, linked.tree_eq, linked.stops, linked.fits⟩
  · have after := operand.rest_eq
    simp only at after
    simp [after, linked.rest_eq]
  · simpa using ⟨operand.derives, fun used right => linked.derives (used, right)⟩

/-- The levels of the chain with one more operand, which was read on `base` and all its links. -/
theorem need_link_le {base : Nat} (sameDepth : depth = base + left.linkCount op)
    (before : base + left.need ≤ maxDepth) (fits : depth + 1 + right.need ≤ maxDepth) :
    base + (Expr.binary left op right).need ≤ maxDepth := by
  simp only [Expr.need]
  omega

end

theorem reading_of_read :
    (∀ (phrase : Phrase) (c : Cursor), c.depth ≤ maxDepth → ∀ tree next,
      c.read phrase = .done tree next → ∃ tokens, Reading phrase tokens tree c next) ∧
    ∀ (op : BinaryOp) (left : Expr) (c : Cursor) (base : Nat),
      c.depth = base + left.linkCount op → base + left.need ≤ maxDepth →
      (Phrase.operand op).Stops left c.rest → ∀ tree next, c.links op left = .done tree next →
        ∃ links, LinksReading op left links base tree c next := by
  apply Cursor.read_induction
    (fun phrase c => c.depth ≤ maxDepth → ∀ tree next,
      c.read phrase = .done tree next → ∃ tokens, Reading phrase tokens tree c next)
    (fun op left c => ∀ base, c.depth = base + left.linkCount op →
      base + left.need ≤ maxDepth → (Phrase.operand op).Stops left c.rest → ∀ tree next,
        c.links op left = .done tree next → ∃ links, LinksReading op left links base tree c next)
  case chain =>
    intro op c operand links shallow tree next read
    rw [Cursor.read_chain] at read
    obtain ⟨left, middle, first, rest⟩ := Step.bind_eq_done.mp read
    obtain ⟨whole, last, linked, same⟩ := Step.bind_eq_done.mp rest
    cases same
    obtain ⟨used, reading⟩ := operand shallow left middle first
    -- An operand is no chain of the operator itself, so no link is open before the first one.
    have count : middle.depth = c.depth + left.linkCount op := by
      rw [reading.depth_eq, reading.derives.linkCount_eq_zero, Nat.add_zero]
    obtain ⟨found, linksReading⟩ := links left middle first c.depth count reading.fits
      reading.stops tree last linked
    exact ⟨_, reading.chain linksReading⟩
  case links =>
    intro op left c operand links base depth fits stops tree next read
    obtain ⟨tokens, start⟩ := c
    rcases Cursor.starts_or (.op op) tokens with ⟨rest, rfl⟩ | other
    · rw [Cursor.links_op] at read
      obtain ⟨room, deeper⟩ := Cursor.descend_bind_eq_done read
      obtain ⟨right, middle, first, linked⟩ := Step.bind_eq_done.mp deeper
      obtain ⟨used, reading⟩ := operand rest rfl room right middle first
      have count : middle.depth = base + (Expr.binary left op right).linkCount op := by
        simp only at depth
        rw [reading.depth_eq]
        simp only [Expr.linkCount, if_true, depth, Nat.add_assoc]
      obtain ⟨found, linksReading⟩ := links rest right middle rfl first base count
        (need_link_le depth fits reading.fits) reading.stops tree next linked
      exact ⟨_, linksReading.cons reading⟩
    · rw [Cursor.links_other other] at read
      cases read
      exact ⟨[], rfl, by simp, rfl, stops.chain other, fits⟩
  case negation =>
    intro c operand primary shallow tree next read
    obtain ⟨tokens, depth⟩ := c
    rcases Cursor.starts_or .not tokens with ⟨rest, rfl⟩ | other
    · rw [Cursor.read_not] at read
      obtain ⟨room, deeper⟩ := Cursor.descend_bind_eq_done read
      obtain ⟨inner, middle, first, same⟩ := Step.bind_eq_done.mp deeper
      cases same
      obtain ⟨used, reading⟩ := operand rest rfl room inner middle first
      exact ⟨_, reading.not⟩
    · rw [Cursor.read_negation_other other] at read
      obtain ⟨used, reading⟩ := primary shallow tree next read
      exact ⟨used, { reading with derives := .primary reading.derives }⟩
  case primary =>
    intro c group shallow tree next read
    obtain ⟨tokens, depth⟩ := c
    rcases Cursor.starts_or .leftParen tokens with ⟨rest, rfl⟩ | other
    · rw [Cursor.read_leftParen] at read
      obtain ⟨room, deeper⟩ := Cursor.descend_bind_eq_done read
      obtain ⟨inner, middle, first, closing⟩ := Step.bind_eq_done.mp deeper
      obtain ⟨_, last, closed, same⟩ := Step.bind_eq_done.mp closing
      cases same
      obtain ⟨used, reading⟩ := group rest rfl room inner middle first
      obtain ⟨close, sameDepth⟩ := Cursor.closeParen_eq_done_iff.mp closed
      exact ⟨_, reading.group close sameDepth⟩
    · rw [Cursor.read_primary_other other] at read
      obtain ⟨atom, middle, first, same⟩ := Step.bind_eq_done.mp read
      cases same
      obtain ⟨used, after, spelled, stops, sameDepth⟩ := Cursor.atom_eq_done first
      exact ⟨used, after, .atom spelled, stops, sameDepth, shallow⟩

/-! ### Whole expressions -/

section
variable {phrase : Phrase} {tokens rest : List Token} {tree : Expr} {c next : Cursor}

/-- A phrase that was read is read again wherever its end is as clear, whatever follows then, and
with fewer levels open. -/
theorem Reading.read_of_le (reading : Reading phrase tokens tree c next)
    (stops : phrase.Stops tree rest) {depth : Nat} (fewer : depth ≤ c.depth) :
    Cursor.read phrase ⟨tokens ++ rest, depth⟩ = .done tree ⟨rest, depth⟩ := by
  have fits := reading.fits
  exact (reading.derives.readsWithin rest depth stops (by omega)).done (by omega)

theorem Reading.read (reading : Reading phrase tokens tree c next)
    (stops : phrase.Stops tree rest) :
    Cursor.read phrase ⟨tokens ++ rest, c.depth⟩ = .done tree ⟨rest, c.depth⟩ :=
  reading.read_of_le stops (Nat.le_refl _)

end

theorem Expr.ofTokens_of_derives {tokens : List Token} {tree : Expr}
    (derived : Derives (.chain .or) tokens tree) :
    (tree.need ≤ maxDepth → Expr.ofTokens tokens = .ok tree) ∧
      (maxDepth < tree.need → Expr.ofTokens tokens = .error .tooDeep) := by
  have read := derived.readsWithin [] 0 (Phrase.stops_nil _ _) (Nat.zero_le _)
  rw [List.append_nil, Nat.zero_add] at read
  constructor
  · intro fits
    have done : Cursor.chain .or ⟨tokens, 0⟩ = _ := read.done fits
    rw [Expr.ofTokens, done]
  · intro deep
    obtain ⟨stopped, failed⟩ := read.tooDeep deep
    have failed : Cursor.chain .or ⟨tokens, 0⟩ = _ := failed
    rw [Expr.ofTokens, failed]

theorem Expr.derives_of_ofTokens {tokens : List Token} {tree : Expr}
    (parsed : Expr.ofTokens tokens = .ok tree) :
    Derives (.chain .or) tokens tree ∧ tree.need ≤ maxDepth := by
  rw [Expr.ofTokens] at parsed
  split at parsed
  · next found depth read =>
    cases parsed
    obtain ⟨used, reading⟩ := reading_of_read.1 (.chain .or) ⟨tokens, 0⟩ (Nat.zero_le _) _ _ read
    have all : tokens = used := by simpa using reading.rest_eq
    have fits := reading.fits
    simp only [Nat.zero_add] at fits
    exact ⟨all ▸ reading.derives, fits⟩
  · cases parsed
  · cases parsed

theorem Expr.ofTokens_eq_ok_iff {tokens : List Token} {tree : Expr} :
    Expr.ofTokens tokens = .ok tree ↔ Derives (.chain .or) tokens tree ∧ tree.need ≤ maxDepth :=
  ⟨Expr.derives_of_ofTokens, fun ⟨derived, fits⟩ => (Expr.ofTokens_of_derives derived).1 fits⟩

theorem Expr.parseTokens_eq_ok_iff {tokens : List Token} {tree : Expr} :
    Expr.parseTokens tokens = .ok tree ↔
      Derives (.chain .or) tokens tree ∧ tree.need ≤ maxDepth := by
  cases tokens with
  | nil =>
    constructor
    · nofun
    · rintro ⟨derived, -⟩
      exact absurd rfl derived.ne_nil
  | cons token tokens => exact Expr.ofTokens_eq_ok_iff

theorem Derives.tree_unique {tokens : List Token} {first second : Expr}
    (one : Derives (.chain .or) tokens first) (other : Derives (.chain .or) tokens second) :
    first = second :=
  (one.readsUniquely other (rfl : tokens ++ [] = tokens ++ []) (Phrase.stops_nil _ _)
    (Phrase.stops_nil _ _)).1

theorem Derives.negations {tokens : List Token} {tree : Expr} (n : Nat)
    (derived : Derives .negation tokens tree) :
    Derives .negation (List.replicate n .not ++ tokens) (n.repeat Expr.not tree) := by
  induction n with
  | zero => exact derived
  | succ n ih => exact ih.not

theorem need_negations (n : Nat) (tree : Expr) :
    (n.repeat Expr.not tree).need = tree.need + n := by
  induction n with
  | zero => rfl
  | succ n ih => exact congrArg (· + 1) ih

/-- The parser accepts exactly the grammar, up to the limit on levels: tokens stand for one tree at
most, and are refused as too deep if that tree has too many levels. -/
theorem Expr.ofTokens_exact (tokens : List Token) (tree : Expr) :
    (Expr.ofTokens tokens = .ok tree ↔
      Derives (.chain .or) tokens tree ∧ tree.need ≤ maxDepth) ∧
    (∀ other, Derives (.chain .or) tokens tree → Derives (.chain .or) tokens other →
      tree = other) ∧
    (Derives (.chain .or) tokens tree → maxDepth < tree.need →
      Expr.ofTokens tokens = .error .tooDeep) :=
  ⟨Expr.ofTokens_eq_ok_iff, fun _ derived other => derived.tree_unique other,
    fun derived => (Expr.ofTokens_of_derives derived).2⟩

/-- A role behind as many negations as there are levels is accepted, and behind one more it is
not. -/
theorem Expr.ofTokens_negations_limit :
    Expr.ofTokens (List.replicate 256 .not ++ [.word "a"]) =
      .ok (Nat.repeat Expr.not 256 (.atom (.role "a" false))) ∧
    Expr.ofTokens (List.replicate 257 .not ++ [.word "a"]) = .error .tooDeep := by
  have role : Derives .negation [.word "a"] (.atom (.role "a" false)) :=
    .primary (.atom (.role (.word (by decide))))
  have derived (n : Nat) : Derives (.chain .or) (List.replicate n .not ++ [.word "a"])
      (n.repeat Expr.not (.atom (.role "a" false))) := by
    have conjunction : Derives (.chain .and) _ _ := Derives.single (role.negations n)
    exact Derives.single conjunction
  constructor
  · refine (Expr.ofTokens_exact _ _).1.mpr ⟨derived 256, ?_⟩
    rw [need_negations]
    decide
  · refine (Expr.ofTokens_exact _ _).2.2 (derived 257) ?_
    rw [need_negations]
    decide

end RoleGate
