import RoleGate.Expr.Lexicon
import RoleGate.Expr.ParseError

/-! Where the parser of role expressions stands, and the steps it takes that do not go down into
the tree: opening and closing a level, and reading a role with the model it is asked for on. -/

set_option autoImplicit false

namespace RoleGate

/-- The tokens that are still to be read, and the number of levels open. -/
structure Cursor where
  rest : List Token
  depth : Nat
  deriving DecidableEq, Repr

inductive Step (α : Type) where
  | done (value : α) (next : Cursor)
  | failed (error : ParseError) (stopped : Cursor)
  deriving DecidableEq, Repr

namespace Step

variable {α β : Type}

def bind (step : Step α) (next : α → Cursor → Step β) : Step β :=
  match step with
  | done value cursor => next value cursor
  | failed error stopped => failed error stopped

@[simp] theorem done_bind (value : α) (cursor : Cursor) (next : α → Cursor → Step β) :
    (done value cursor).bind next = next value cursor := rfl

@[simp] theorem failed_bind (error : ParseError) (stopped : Cursor)
    (next : α → Cursor → Step β) : (failed error stopped).bind next = failed error stopped := rfl

theorem bind_eq_done {step : Step α} {next : α → Cursor → Step β} {value : β} {last : Cursor} :
    step.bind next = done value last ↔
      ∃ first cursor, step = done first cursor ∧ next first cursor = done value last := by
  cases step with
  | done first cursor => simp [and_assoc]
  | failed => simp

theorem bind_eq_failed {step : Step α} {next : α → Cursor → Step β} {error : ParseError}
    {stopped : Cursor} :
    step.bind next = failed error stopped ↔
      step = failed error stopped ∨
        ∃ first cursor, step = done first cursor ∧ next first cursor = failed error stopped := by
  cases step with
  | done first cursor => simp [and_assoc]
  | failed => simp

def Advances (start : Cursor) (step : Step α) : Prop :=
  ∀ value next, step = done value next → next.rest.length < start.rest.length

def Keeps (start : Cursor) (step : Step α) : Prop :=
  ∀ value next, step = done value next → next.rest.length ≤ start.rest.length

theorem Advances.failed {start : Cursor} {error : ParseError} {stopped : Cursor} :
    Advances start (Step.failed (α := α) error stopped) := nofun

theorem Keeps.failed {start : Cursor} {error : ParseError} {stopped : Cursor} :
    Keeps start (Step.failed (α := α) error stopped) := nofun

theorem Advances.done {start next : Cursor} {value : α}
    (shorter : next.rest.length < start.rest.length) : Advances start (Step.done value next) := by
  rintro _ _ ⟨⟩
  exact shorter

theorem Keeps.done {start next : Cursor} {value : α}
    (shorter : next.rest.length ≤ start.rest.length) : Keeps start (Step.done value next) := by
  rintro _ _ ⟨⟩
  exact shorter

end Step

namespace Cursor

/-- Opens a level; the level beyond the last one allowed is counted before it is refused. -/
def descend (c : Cursor) : Step Unit :=
  if c.depth < maxDepth then .done () { c with depth := c.depth + 1 }
  else .failed .tooDeep { c with depth := c.depth + 1 }

def closeParen (c : Cursor) : Step Unit :=
  match c.rest with
  | .rightParen :: rest => .done () { c with rest := rest }
  | _ => .failed .unclosedParen c

def modelName (role : String) (c : Cursor) : Step ModelName :=
  match c.rest with
  | .symbol name :: rest => .done (.object name) { c with rest := rest }
  | .word name :: rest =>
    .done (if isClassName name then .className name else .object name) { c with rest := rest }
  | .rightParen :: _ => .failed (.missingModel role) c
  | [] => .failed (.missingModel role) c
  | token :: _ => .failed (.unexpectedToken token) c

/-- Reads what follows the name of a role: a preposition and a model, a model between parentheses,
or nothing that belongs to it. -/
def role (name : String) (quoted : Bool) (c : Cursor) : Step Atom :=
  match c.rest with
  | .word word :: rest =>
    if isPreposition word then
      (modelName name { c with rest := rest }).bind fun model next =>
        .done (.scoped name model) next
    else .done (.role name quoted) c
  | .leftParen :: rest =>
    (modelName name { c with rest := rest }).bind fun model next =>
      next.closeParen.bind fun _ last => .done (.scoped name model) last
  | _ => .done (.role name quoted) c

def atom (c : Cursor) : Step Atom :=
  match c.rest with
  | .symbol name :: rest => .done (.model (.object name)) { c with rest := rest }
  | .word name :: rest =>
    if isClassName name then .done (.model (.className name)) { c with rest := rest }
    else role name false { c with rest := rest }
  | .quoted name :: rest => role name true { c with rest := rest }
  | token :: _ => .failed (.unexpectedToken token) c
  | [] => .failed .unexpectedEnd c

theorem closeParen_advances (c : Cursor) : c.closeParen.Advances c := by
  intro _ next read
  simp only [closeParen] at read
  split at read
  · next rest shape =>
    cases read
    simp [shape]
  · cases read

theorem modelName_advances (role : String) (c : Cursor) : (modelName role c).Advances c := by
  intro _ next read
  simp only [modelName] at read
  split at read
  case h_1 rest shape => cases read; simp [shape]
  case h_2 rest shape => cases read; simp [shape]
  all_goals cases read

theorem role_keeps (name : String) (quoted : Bool) (c : Cursor) : (role name quoted c).Keeps c := by
  intro _ last read
  simp only [role] at read
  split at read
  · next word rest shape =>
    split at read
    · obtain ⟨model, next, named, same⟩ := Step.bind_eq_done.mp read
      cases same
      have := modelName_advances _ _ _ _ named
      simp only [shape, List.length_cons]
      simp only at this
      omega
    · cases read
      exact Nat.le_refl _
  · next rest shape =>
    obtain ⟨model, next, named, closing⟩ := Step.bind_eq_done.mp read
    obtain ⟨_, _, closed, same⟩ := Step.bind_eq_done.mp closing
    cases same
    have first := modelName_advances _ _ _ _ named
    have second := closeParen_advances _ _ _ closed
    simp only [shape, List.length_cons]
    simp only at first
    omega
  · cases read
    exact Nat.le_refl _

theorem atom_advances (c : Cursor) : c.atom.Advances c := by
  intro _ last read
  simp only [atom] at read
  split at read
  · next shape => cases read; simp [shape]
  · next shape =>
    split at read
    · cases read; simp [shape]
    · have := role_keeps _ _ _ _ _ read
      simp only [shape, List.length_cons]
      exact Nat.lt_succ_of_le this
  · next shape =>
    have := role_keeps _ _ _ _ _ read
    simp only [shape, List.length_cons]
    exact Nat.lt_succ_of_le this
  all_goals cases read

end Cursor

end RoleGate
