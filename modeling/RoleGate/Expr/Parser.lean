import RoleGate.Expr.Cursor
import RoleGate.Expr.Lexer

/-! The parser of role expressions.

`or` binds weakest, then `and`, then `not`; chains of one operator lean to the left. A level is open
from the parenthesis of a group, from a negation and from each operator of a chain until that group,
negation or chain has been read, and no more than `maxDepth` levels are open at a time.

Each step tells that it reads tokens, and the parser goes down by the number of tokens left. The
equations at the end are what it does.
-/

set_option autoImplicit false

namespace RoleGate

namespace Cursor

private abbrev Advancing (c : Cursor) := { step : Step Expr // step.Advances c }

private abbrev Keeping (c : Cursor) := { step : Step Expr // step.Keeps c }

/-- How many turns the parser can take before it reads a token, by the operator of the chain. -/
private def turns : BinaryOp → Nat
  | .or => 2
  | .and => 0

private theorem turns_le (op : BinaryOp) : turns op ≤ 2 := by cases op <;> simp [turns]

mutual

private def chainStep (op : BinaryOp) (c : Cursor) : Advancing c :=
  match operandStep op c with
  | ⟨.failed error stopped, _⟩ => ⟨.failed error stopped, .failed⟩
  | ⟨.done left next, advances⟩ =>
    have shorter : next.rest.length < c.rest.length := advances _ _ rfl
    match linksStep op left next with
    | ⟨.failed error stopped, _⟩ => ⟨.failed error stopped, .failed⟩
    | ⟨.done tree last, keeps⟩ =>
      ⟨.done tree { last with depth := c.depth },
        .done (Nat.lt_of_le_of_lt (keeps tree last rfl) shorter)⟩
termination_by 6 * c.rest.length + turns op + 3

private def operandStep (op : BinaryOp) (c : Cursor) : Advancing c :=
  match op with
  | .or => chainStep .and c
  | .and => negationStep c
termination_by 6 * c.rest.length + turns op + 2
decreasing_by all_goals simp only [turns]; omega

private def linksStep (op : BinaryOp) (left : Expr) (c : Cursor) : Keeping c :=
  match shape : c.rest with
  | .op found :: rest =>
    if found = op then
      if c.depth < maxDepth then
        match operandStep op ⟨rest, c.depth + 1⟩ with
        | ⟨.failed error stopped, _⟩ => ⟨.failed error stopped, .failed⟩
        | ⟨.done right next, advances⟩ =>
          have shorter : next.rest.length < rest.length := advances _ _ rfl
          have bound : next.rest.length < c.rest.length := by simp [shape]; omega
          match linksStep op (.binary left op right) next with
          | ⟨step, keeps⟩ =>
            ⟨step, fun _ _ same => Nat.le_of_lt (Nat.lt_of_le_of_lt (keeps _ _ same) bound)⟩
      else ⟨.failed .tooDeep ⟨rest, c.depth + 1⟩, .failed⟩
    else ⟨.done left c, .done (Nat.le_refl _)⟩
  | _ => ⟨.done left c, .done (Nat.le_refl _)⟩
termination_by 6 * c.rest.length
decreasing_by
  · simp only [shape, List.length_cons]
    have := turns_le op
    omega
  · omega

private def negationStep (c : Cursor) : Advancing c :=
  match shape : c.rest with
  | .not :: rest =>
    if c.depth < maxDepth then
      match negationStep ⟨rest, c.depth + 1⟩ with
      | ⟨.failed error stopped, _⟩ => ⟨.failed error stopped, .failed⟩
      | ⟨.done operand next, advances⟩ =>
        ⟨.done (.not operand) { next with depth := next.depth - 1 },
          .done (by
            have shorter : next.rest.length < rest.length := advances _ _ rfl
            simp [shape]; omega)⟩
    else ⟨.failed .tooDeep ⟨rest, c.depth + 1⟩, .failed⟩
  | _ => primaryStep c
termination_by 6 * c.rest.length + 1
decreasing_by
  · simp only [shape, List.length_cons]; omega
  · omega

private def primaryStep (c : Cursor) : Advancing c :=
  match shape : c.rest with
  | .leftParen :: rest =>
    if c.depth < maxDepth then
      match chainStep .or ⟨rest, c.depth + 1⟩ with
      | ⟨.failed error stopped, _⟩ => ⟨.failed error stopped, .failed⟩
      | ⟨.done inner next, advances⟩ =>
        match closed : next.closeParen with
        | .failed error stopped => ⟨.failed error stopped, .failed⟩
        | .done _ last =>
          ⟨.done (.group inner) { last with depth := last.depth - 1 },
            .done (by
              have shorter : next.rest.length < rest.length := advances _ _ rfl
              have closing := closeParen_advances next _ _ closed
              simp [shape]; omega)⟩
    else ⟨.failed .tooDeep ⟨rest, c.depth + 1⟩, .failed⟩
  | _ =>
    match read : c.atom with
    | .failed error stopped => ⟨.failed error stopped, .failed⟩
    | .done atom next => ⟨.done (.atom atom) next, .done (atom_advances c _ _ read)⟩
termination_by 6 * c.rest.length
decreasing_by simp only [shape, List.length_cons, turns]; omega

end

/-- Reads a chain of operands joined by the operator, and closes the levels its links opened. -/
def chain (op : BinaryOp) (c : Cursor) : Step Expr := (chainStep op c).val

/-- Reads one operand of a chain: of `or` a chain of `and`, of `and` a negation. -/
def operand (op : BinaryOp) (c : Cursor) : Step Expr := (operandStep op c).val

def links (op : BinaryOp) (left : Expr) (c : Cursor) : Step Expr := (linksStep op left c).val

def negation (c : Cursor) : Step Expr := (negationStep c).val

def primary (c : Cursor) : Step Expr := (primaryStep c).val

theorem chain_eq (op : BinaryOp) (c : Cursor) :
    c.chain op = (c.operand op).bind fun left next =>
      (next.links op left).bind fun tree last => .done tree { last with depth := c.depth } := by
  rw [chain, chainStep, operand]
  split
  · next same => simp [same]
  · next left next _ same =>
    simp only [same, Step.done_bind, links]
    split <;> next same => simp [same]

theorem operand_or (c : Cursor) : c.operand .or = c.chain .and := by
  rw [operand, operandStep, chain]

theorem operand_and (c : Cursor) : c.operand .and = c.negation := by
  rw [operand, operandStep, negation]

theorem links_eq (op : BinaryOp) (left : Expr) (c : Cursor) :
    c.links op left =
      match c.rest with
      | .op found :: rest =>
        if found = op then
          (descend { c with rest := rest }).bind fun _ deeper =>
            (deeper.operand op).bind fun right next => next.links op (.binary left op right)
        else .done left c
      | _ => .done left c := by
  rw [links, linksStep]
  split
  · next found rest shape =>
    simp only [shape, descend, operand, links]
    repeat' split
    all_goals simp_all
  · next other =>
    split
    · next shape => exact absurd shape (other _ _)
    · rfl

theorem negation_eq (c : Cursor) :
    c.negation =
      match c.rest with
      | .not :: rest =>
        (descend { c with rest := rest }).bind fun _ deeper =>
          deeper.negation.bind fun operand next =>
            .done (.not operand) { next with depth := next.depth - 1 }
      | _ => c.primary := by
  rw [negation, negationStep]
  split
  · next rest shape =>
    simp only [shape, descend, negation]
    repeat' split
    all_goals simp_all
  · next other =>
    split
    · next shape => exact absurd shape (other _)
    · rfl

theorem primary_eq (c : Cursor) :
    c.primary =
      match c.rest with
      | .leftParen :: rest =>
        (descend { c with rest := rest }).bind fun _ deeper =>
          (deeper.chain .or).bind fun inner next =>
            next.closeParen.bind fun _ last =>
              .done (.group inner) { last with depth := last.depth - 1 }
      | _ => c.atom.bind fun atom next => .done (.atom atom) next := by
  rw [primary, primaryStep]
  split
  · next rest shape =>
    simp only [shape, descend, chain]
    repeat' split
    all_goals simp_all
  · next other =>
    have same : c.atom.bind (fun atom next => Step.done (Expr.atom atom) next) =
        (match read : c.atom with
        | .failed error stopped => ⟨.failed error stopped, .failed⟩
        | .done atom next =>
          ⟨.done (.atom atom) next, .done (atom_advances c _ _ read)⟩ : Advancing c).val := by
      split <;> next same => simp [same]
    rw [← same]
    split
    · next shape => exact absurd shape (other _)
    · rfl

theorem chain_advances (op : BinaryOp) (c : Cursor) : (c.chain op).Advances c := (chainStep op c).2

theorem negation_advances (c : Cursor) : c.negation.Advances c := (negationStep c).2

theorem primary_advances (c : Cursor) : c.primary.Advances c := (primaryStep c).2

end Cursor

def Expr.ofTokens (tokens : List Token) : Except ParseError Expr :=
  match Cursor.chain .or ⟨tokens, 0⟩ with
  | .done tree ⟨[], _⟩ => .ok tree
  | .done _ ⟨token :: _, _⟩ => .error (.unexpectedToken token)
  | .failed error _ => .error error

/-- The expression that the tokens of a text spell; a text without tokens has an error of its
own. -/
def Expr.parseTokens (tokens : List Token) : Except ParseError Expr :=
  match tokens with
  | [] => .error .emptyExpression
  | tokens => Expr.ofTokens tokens

/-- The expression that the text spells, or the first reason why it spells none; what cannot be
split into tokens is reported before anything else. -/
def Expr.parse (text : String) : Except ParseError Expr :=
  match tokenize text.toList with
  | .error error => .error error
  | .ok tokens => Expr.parseTokens tokens

end RoleGate
