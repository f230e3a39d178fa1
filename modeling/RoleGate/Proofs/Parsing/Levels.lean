import RoleGate.Proofs.Parsing.Exactness

/-! How the number of open levels moves while the parser reads.

Beside each step stand the changes of that number on the way to it. The number never falls below
what it was when a phrase was begun, and is back there when the phrase has been read. It passes the
limit by one level at most, and then the next thing that happens is the refusal.
-/

set_option autoImplicit false

namespace RoleGate

/-! ### Changes of levels -/

inductive LevelChange where
  | opens (before : Nat)
  | closes (before : Nat)
  /-- The end of a chain, which closes the levels of all its links. -/
  | resets (before base : Nat)
  deriving DecidableEq, Repr

namespace LevelChange

def before : LevelChange → Nat
  | opens before => before
  | closes before => before
  | resets before _ => before

def after : LevelChange → Nat
  | opens before => before + 1
  | closes before => before - 1
  | resets _ base => base

def Leads (first : Nat) : List LevelChange → Nat → Prop
  | [], last => first = last
  | change :: rest, last => change.before = first ∧ Leads change.after rest last

theorem Leads.append {first middle last : Nat} {front back : List LevelChange}
    (one : Leads first front middle) (other : Leads middle back last) :
    Leads first (front ++ back) last := by
  induction front generalizing first with
  | nil =>
    cases one
    exact other
  | cons change front ih => exact ⟨one.1, ih one.2⟩

end LevelChange

/-! ### Steps with the changes on the way -/

structure Traced (α : Type) where
  changes : List LevelChange
  step : Step α

def Step.cursor {α : Type} : Step α → Cursor
  | done _ next => next
  | failed _ stopped => stopped

namespace Traced

variable {α β : Type}

def still (step : Step α) : Traced α := ⟨[], step⟩

def thenDone (changes : List LevelChange) (step : Step α)
    (next : (value : α) → (c : Cursor) → step = .done value c → Traced β) : Traced β :=
  match (motive := (other : Step α) → step = other → Traced β) step, rfl with
  | .done value c, same => ⟨changes ++ (next value c same).changes, (next value c same).step⟩
  | .failed error stopped, _ => ⟨changes, .failed error stopped⟩

def bind (first : Traced α) (next : α → Cursor → Traced β) : Traced β :=
  thenDone first.changes first.step fun value c _ => next value c

def descend (c : Cursor) : Traced Unit := ⟨[.opens c.depth], c.descend⟩

def close (tree : Expr) (c : Cursor) : Traced Expr :=
  ⟨[.closes c.depth], .done tree { c with depth := c.depth - 1 }⟩

def reset (base : Nat) (tree : Expr) (c : Cursor) : Traced Expr :=
  ⟨[.resets c.depth base], .done tree { c with depth := base }⟩

theorem thenDone_eq_bind {first : Traced α} {step : Step α} (same : first.step = step)
    (next : α → Cursor → Traced β) :
    thenDone first.changes step (fun value c _ => next value c) = first.bind next := by
  rw [bind, same]

theorem bind_of_done {first : Traced α} {next : α → Cursor → Traced β} {value : α} {c : Cursor}
    (done : first.step = .done value c) :
    first.bind next = ⟨first.changes ++ (next value c).changes, (next value c).step⟩ := by
  obtain ⟨changes, step⟩ := first
  cases done
  rfl

theorem bind_of_failed {first : Traced α} {next : α → Cursor → Traced β} {error : ParseError}
    {stopped : Cursor} (failed : first.step = .failed error stopped) :
    first.bind next = ⟨first.changes, .failed error stopped⟩ := by
  obtain ⟨changes, step⟩ := first
  cases failed
  rfl

@[simp] theorem step_bind (first : Traced α) (next : α → Cursor → Traced β) :
    (first.bind next).step = first.step.bind fun value c => (next value c).step := by
  cases same : first.step with
  | done value c =>
    rw [bind_of_done same]
    rfl
  | failed error stopped =>
    rw [bind_of_failed same]
    rfl

end Traced

/-! ### The parser with the changes it makes -/

namespace Cursor

mutual

def trace (phrase : Phrase) (c : Cursor) : Traced Expr :=
  match phrase with
  | .chain op =>
    .thenDone (c.trace (.operand op)).changes (c.read (.operand op)) fun left next _ =>
      (next.traceLinks op left).bind fun tree last => .reset c.depth tree last
  | .negation =>
    match shape : c.rest with
    | .not :: rest =>
      (Traced.descend ⟨rest, c.depth⟩).bind fun _ _ =>
        (trace .negation ⟨rest, c.depth + 1⟩).bind fun operand last => .close (.not operand) last
    | _ => c.trace .primary
  | .primary =>
    match shape : c.rest with
    | .leftParen :: rest =>
      (Traced.descend ⟨rest, c.depth⟩).bind fun _ _ =>
        (trace (.chain .or) ⟨rest, c.depth + 1⟩).bind fun inner next =>
          (Traced.still next.closeParen).bind fun _ last => .close (.group inner) last
    | _ => .still (c.atom.bind fun atom next => .done (.atom atom) next)
termination_by (c.rest.length, phrase.looseness)
decreasing_by
  · exact Prod.Lex.right _ (by have := Phrase.looseness_operand op; omega)
  · exact Prod.Lex.left _ _ (read_advances _ _ _ _ ‹_›)
  · exact Prod.Lex.left _ _ (by simp [shape])
  · exact Prod.Lex.right _ Nat.zero_lt_one
  · exact Prod.Lex.left _ _ (by simp [shape])

def traceLinks (op : BinaryOp) (left : Expr) (c : Cursor) : Traced Expr :=
  match shape : c.rest with
  | .op found :: rest =>
    if found = op then
      (Traced.descend ⟨rest, c.depth⟩).bind fun _ _ =>
        .thenDone (trace (.operand op) ⟨rest, c.depth + 1⟩).changes
          (read (.operand op) ⟨rest, c.depth + 1⟩) fun right next _ =>
            next.traceLinks op (.binary left op right)
    else .still (.done left c)
  | _ => .still (.done left c)
termination_by (c.rest.length, 0)
decreasing_by
  · exact Prod.Lex.left _ _ (by simp [shape])
  · refine Prod.Lex.left _ _ (Nat.lt_trans (read_advances _ _ _ _ ‹_›) ?_)
    simp [shape]

end

section
variable {rest : List Token} {depth : Nat}

theorem trace_not :
    trace .negation ⟨.not :: rest, depth⟩ =
      (Traced.descend ⟨rest, depth⟩).bind fun _ _ =>
        (trace .negation ⟨rest, depth + 1⟩).bind fun operand last =>
          .close (.not operand) last := by
  rw [trace]

theorem trace_negation_other {c : Cursor} (other : ∀ rest, c.rest ≠ .not :: rest) :
    c.trace .negation = c.trace .primary := by
  rw [trace]
  split
  · next rest shape => exact absurd shape (other rest)
  · rfl

theorem trace_leftParen :
    trace .primary ⟨.leftParen :: rest, depth⟩ =
      (Traced.descend ⟨rest, depth⟩).bind fun _ _ =>
        (trace (.chain .or) ⟨rest, depth + 1⟩).bind fun inner next =>
          (Traced.still next.closeParen).bind fun _ last => .close (.group inner) last := by
  conv => lhs; rw [trace]

theorem trace_primary_other {c : Cursor} (other : ∀ rest, c.rest ≠ .leftParen :: rest) :
    c.trace .primary = .still (c.atom.bind fun atom next => .done (.atom atom) next) := by
  rw [trace]
  split
  · next rest shape => exact absurd shape (other rest)
  · rfl

theorem traceLinks_other {op : BinaryOp} {left : Expr} {c : Cursor}
    (other : ∀ rest, c.rest ≠ .op op :: rest) : c.traceLinks op left = .still (.done left c) := by
  rw [traceLinks]
  split
  · next found rest shape =>
    split
    · next same => exact absurd (same ▸ shape) (other rest)
    · rfl
  · rfl

end

/-- Keeping the changes changes nothing about what is read. -/
theorem step_trace :
    (∀ phrase (c : Cursor), (c.trace phrase).step = c.read phrase) ∧
      ∀ op left (c : Cursor), (c.traceLinks op left).step = c.links op left := by
  apply read_induction (fun phrase c => (c.trace phrase).step = c.read phrase)
    (fun op left c => (c.traceLinks op left).step = c.links op left)
  case chain =>
    intro op c operand links
    rw [trace, Traced.thenDone_eq_bind operand, read_chain, Traced.step_bind, operand]
    cases read : c.read (.operand op) with
    | done left next =>
      rw [Step.done_bind, Traced.step_bind, links left next read]
      rfl
    | failed => rfl
  case links =>
    intro op left c operand links
    obtain ⟨tokens, depth⟩ := c
    rcases starts_or (.op op) tokens with ⟨rest, rfl⟩ | other
    · rw [traceLinks, links_op, descend_bind]
      simp only [if_true, Traced.thenDone_eq_bind (operand rest rfl), Traced.step_bind,
        operand rest rfl]
      cases read : Cursor.read (.operand op) ⟨rest, depth + 1⟩ with
      | done right next =>
        simp only [Step.done_bind, links rest right next rfl read]
        rfl
      | failed => rfl
    · rw [traceLinks_other other, links_other other]
      rfl
  case negation =>
    intro c operand primary
    obtain ⟨tokens, depth⟩ := c
    rcases starts_or .not tokens with ⟨rest, rfl⟩ | other
    · rw [trace_not, read_not, descend_bind]
      simp only [Traced.step_bind, operand rest rfl]
      rfl
    · rw [trace_negation_other other, read_negation_other other, primary]
  case primary =>
    intro c group
    obtain ⟨tokens, depth⟩ := c
    rcases starts_or .leftParen tokens with ⟨rest, rfl⟩ | other
    · rw [trace_leftParen, read_leftParen, descend_bind]
      simp only [Traced.step_bind, group rest rfl]
      rfl
    · rw [trace_primary_other other, read_primary_other other]
      rfl

theorem trace_chain (op : BinaryOp) (c : Cursor) :
    c.trace (.chain op) = (c.trace (.operand op)).bind fun left next =>
      (next.traceLinks op left).bind fun tree last => .reset c.depth tree last := by
  rw [trace, Traced.thenDone_eq_bind (step_trace.1 _ _)]

theorem traceLinks_op (op : BinaryOp) (left : Expr) (rest : List Token) (depth : Nat) :
    traceLinks op left ⟨.op op :: rest, depth⟩ =
      (Traced.descend ⟨rest, depth⟩).bind fun _ _ =>
        (trace (.operand op) ⟨rest, depth + 1⟩).bind fun right next =>
          next.traceLinks op (.binary left op right) := by
  rw [traceLinks]
  simp only [if_true, Traced.thenDone_eq_bind (step_trace.1 _ _)]

end Cursor

/-! ### Order among the changes -/

namespace Traced

variable {α β : Type} {floor start : Nat} {first : Traced α}

def StaysWithin (traced : Traced α) : Prop := ∀ change ∈ traced.changes, change.after ≤ maxDepth

/-- The last change, and none before it, passes the limit by one level, and the step is refused as
too deep. -/
def Overflows (traced : Traced α) : Prop :=
  ∃ front stopped, traced.changes = front ++ [.opens maxDepth] ∧
    (∀ change ∈ front, change.after ≤ maxDepth) ∧ traced.step = .failed .tooDeep stopped

/-- The number of levels goes from the start to where the step ends, never below the floor, and
past the limit only to be refused. -/
structure Orderly (floor start : Nat) (traced : Traced α) : Prop where
  leads : LevelChange.Leads start traced.changes traced.step.cursor.depth
  floor_le : ∀ change ∈ traced.changes, floor ≤ change.after
  /-- What is closed was opened above the floor. -/
  floor_lt : ∀ before, .closes before ∈ traced.changes → floor < before
  limited : traced.StaysWithin ∨ traced.Overflows

theorem Orderly.mono {lower : Nat} (orderly : first.Orderly floor start) (below : lower ≤ floor) :
    first.Orderly lower start where
  leads := orderly.leads
  floor_le change member := Nat.le_trans below (orderly.floor_le change member)
  floor_lt before member := Nat.lt_of_le_of_lt below (orderly.floor_lt before member)
  limited := orderly.limited

theorem Orderly.still {step : Step α} (same : step.cursor.depth = start) :
    (Traced.still step).Orderly floor start where
  leads := same.symm
  floor_le := nofun
  floor_lt := nofun
  limited := .inl nofun

theorem Orderly.bind {rest : α → Cursor → Traced β} (one : first.Orderly floor start)
    (other : ∀ value c, first.step = .done value c → (rest value c).Orderly floor c.depth) :
    (first.bind rest).Orderly floor start := by
  cases same : first.step with
  | done value c =>
    have next := other value c same
    have path := one.leads
    -- A step that is done has not passed the limit.
    have within : first.StaysWithin := by
      rcases one.limited with within | ⟨_, _, _, _, failed⟩
      · exact within
      · rw [same] at failed
        cases failed
    rw [bind_of_done same]
    rw [same] at path
    refine ⟨path.append next.leads, ?_, ?_, ?_⟩
    · intro change member
      rcases List.mem_append.mp member with before | after
      · exact one.floor_le change before
      · exact next.floor_le change after
    · intro before member
      rcases List.mem_append.mp member with early | late
      · exact one.floor_lt before early
      · exact next.floor_lt before late
    · refine next.limited.imp (fun after => ?_) fun ⟨front, stopped, shape, after, failed⟩ => ?_
      · exact List.forall_mem_append.mpr ⟨within, after⟩
      · exact ⟨first.changes ++ front, stopped, by simp [shape],
          List.forall_mem_append.mpr ⟨within, after⟩, failed⟩
  | failed error stopped =>
    rw [bind_of_failed same]
    obtain ⟨path, floorLe, floorLt, limited⟩ := one
    rw [same] at path
    refine ⟨path, floorLe, floorLt, limited.imp id fun ⟨front, _, shape, before, failed⟩ => ?_⟩
    rw [same] at failed
    cases failed
    exact ⟨front, stopped, shape, before, rfl⟩

theorem Orderly.descend {rest : List Token} {depth : Nat} (shallow : depth ≤ maxDepth) :
    (Traced.descend ⟨rest, depth⟩).Orderly depth depth := by
  have path (last : Cursor) (deeper : last.depth = depth + 1) :
      LevelChange.Leads depth [.opens depth] last.depth := ⟨rfl, deeper.symm⟩
  have above : ∀ change ∈ [LevelChange.opens depth], depth ≤ change.after := by
    simp [LevelChange.after]
  by_cases room : depth < maxDepth
  · rw [Traced.descend, Cursor.descend_of_lt room]
    exact ⟨path _ rfl, above, by simp,
      .inl (by simpa [StaysWithin, LevelChange.after] using Nat.succ_le_of_lt room)⟩
  · obtain rfl : depth = maxDepth := Nat.le_antisymm shallow (Nat.le_of_not_lt room)
    rw [Traced.descend, Cursor.descend_of_le (Nat.le_refl _)]
    exact ⟨path _ rfl, above, by simp, .inr ⟨[], _, rfl, nofun, rfl⟩⟩

theorem Orderly.close {tree : Expr} {c : Cursor} (above : floor < c.depth)
    (shallow : c.depth ≤ maxDepth) : (Traced.close tree c).Orderly floor c.depth where
  leads := ⟨rfl, rfl⟩
  floor_le := by simpa [Traced.close, LevelChange.after] using Nat.le_sub_one_of_lt above
  floor_lt := by simpa [Traced.close] using above
  limited := by
    have within : c.depth - 1 ≤ maxDepth := Nat.le_trans (Nat.sub_le _ _) shallow
    exact .inl (by simpa [StaysWithin, Traced.close, LevelChange.after] using within)

theorem Orderly.reset {tree : Expr} {c : Cursor} {base : Nat} (above : floor ≤ base)
    (shallow : base ≤ maxDepth) : (Traced.reset base tree c).Orderly floor c.depth where
  leads := ⟨rfl, rfl⟩
  floor_le := by simpa [Traced.reset, LevelChange.after] using above
  floor_lt := by simp [Traced.reset]
  limited := .inl (by simpa [StaysWithin, Traced.reset, LevelChange.after] using shallow)

end Traced

/-! ### Atoms leave the levels alone -/

def Step.EndsAt {α : Type} (depth : Nat) (step : Step α) : Prop := step.cursor.depth = depth

theorem Step.EndsAt.bind {α β : Type} {depth : Nat} {step : Step α} {next : α → Cursor → Step β}
    (one : step.EndsAt depth)
    (other : ∀ value c, c.depth = depth → (next value c).EndsAt depth) :
    (step.bind next).EndsAt depth := by
  cases step with
  | done value c => exact other value c one
  | failed => exact one

namespace Cursor

theorem closeParen_endsAt (c : Cursor) : c.closeParen.EndsAt c.depth := by
  unfold closeParen
  split <;> rfl

theorem modelName_endsAt (asked : String) (c : Cursor) :
    (modelName asked c).EndsAt c.depth := by
  unfold modelName
  split <;> rfl

theorem role_endsAt (name : String) (quoted : Bool) (c : Cursor) :
    (role name quoted c).EndsAt c.depth := by
  unfold role
  split
  · split
    · exact (modelName_endsAt name _).bind fun _ _ same => same
    · rfl
  · refine (modelName_endsAt name _).bind fun _ next same => ?_
    have closed := next.closeParen_endsAt
    rw [same] at closed
    exact closed.bind fun _ _ last => last
  · rfl

theorem atom_endsAt (c : Cursor) : c.atom.EndsAt c.depth := by
  unfold atom
  split
  · rfl
  · split
    · rfl
    · exact role_endsAt _ _ _
  · exact role_endsAt _ _ _
  · rfl
  · rfl

/-! ### The whole parser -/

theorem depth_of_read {phrase : Phrase} {c next : Cursor} {tree : Expr}
    (shallow : c.depth ≤ maxDepth) (read : c.read phrase = .done tree next) :
    next.depth = c.depth := by
  obtain ⟨_, reading⟩ := reading_of_read.1 phrase c shallow tree next read
  exact reading.depth_eq

/-- A phrase is read one level deeper, and what follows it may close that level. -/
theorem orderly_inside {phrase : Phrase} {rest : List Token} {depth : Nat}
    {after : Expr → Cursor → Traced Expr} (shallow : depth ≤ maxDepth)
    (inside : depth + 1 ≤ maxDepth →
      (trace phrase ⟨rest, depth + 1⟩).Orderly (depth + 1) (depth + 1))
    (follows : ∀ tree next, read phrase ⟨rest, depth + 1⟩ = .done tree next →
      next.depth = depth + 1 → depth + 1 ≤ maxDepth → (after tree next).Orderly depth next.depth) :
    ((Traced.descend ⟨rest, depth⟩).bind fun _ _ =>
      (trace phrase ⟨rest, depth + 1⟩).bind after).Orderly depth depth := by
  refine (Traced.Orderly.descend shallow).bind fun _ deeper descended => ?_
  obtain ⟨room, rfl⟩ := descend_eq_done descended
  refine ((inside room).mono (Nat.le_succ depth)).bind fun tree next traced => ?_
  have reads := step_trace.1 phrase _ ▸ traced
  exact follows tree next reads (depth_of_read (Nat.succ_le_of_lt room) reads) room

theorem orderly_trace :
    (∀ phrase (c : Cursor), c.depth ≤ maxDepth → (c.trace phrase).Orderly c.depth c.depth) ∧
      ∀ op left (c : Cursor), c.depth ≤ maxDepth →
        (c.traceLinks op left).Orderly c.depth c.depth := by
  apply read_induction
    (fun phrase c => c.depth ≤ maxDepth → (c.trace phrase).Orderly c.depth c.depth)
    (fun op left c => c.depth ≤ maxDepth → (c.traceLinks op left).Orderly c.depth c.depth)
  case chain =>
    intro op c operand links shallow
    rw [trace_chain]
    refine (operand shallow).bind fun left next traced => ?_
    have reads := step_trace.1 _ c ▸ traced
    have same := depth_of_read shallow reads
    have linked := links left next reads (same ▸ shallow)
    exact (linked.mono (Nat.le_of_eq same.symm)).bind fun tree last _ =>
      .reset (Nat.le_refl _) shallow
  case links =>
    intro op left c operand links shallow
    obtain ⟨tokens, depth⟩ := c
    rcases starts_or (.op op) tokens with ⟨rest, rfl⟩ | other
    · rw [traceLinks_op]
      refine orderly_inside shallow (operand rest rfl) fun right next reads same room => ?_
      exact (links rest right next rfl reads (same ▸ room)).mono (same ▸ Nat.le_succ depth)
    · rw [traceLinks_other other]
      exact .still rfl
  case negation =>
    intro c operand primary shallow
    obtain ⟨tokens, depth⟩ := c
    rcases starts_or .not tokens with ⟨rest, rfl⟩ | other
    · rw [trace_not]
      exact orderly_inside shallow (operand rest rfl) fun _ _ _ same room =>
        .close (same ▸ Nat.lt_succ_self depth) (same ▸ room)
    · rw [trace_negation_other other]
      exact primary shallow
  case primary =>
    intro c group shallow
    obtain ⟨tokens, depth⟩ := c
    rcases starts_or .leftParen tokens with ⟨rest, rfl⟩ | other
    · rw [trace_leftParen]
      refine orderly_inside shallow (group rest rfl) fun inner next _ same room => ?_
      refine (Traced.Orderly.still next.closeParen_endsAt).bind fun _ last closed => ?_
      have alsoSame := (closeParen_eq_done_iff.mp closed).2.trans same
      exact .close (alsoSame ▸ Nat.lt_succ_self depth) (alsoSame ▸ room)
    · rw [trace_primary_other other]
      exact .still ((atom_endsAt _).bind fun _ _ same => same)

example : (trace .negation ⟨[.not, .not, .word "a"], 255⟩).changes = [.opens 255, .opens 256] := by
  cbv

end Cursor

end RoleGate
