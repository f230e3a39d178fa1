import Mathlib.Tactic.Ring
import RoleGate.Proofs.Printing.RoundTrip

/-! How high the trees are that the limit on levels lets through.

A chain gives its levels back when it ends, but its nodes stay above its first operand. A tree is
therefore as high as the square of its levels and more: each level may be a group around a chain of
`or` around a chain of `and`, with as many links in each chain as there are levels left.
-/

set_option autoImplicit false

namespace RoleGate

def Expr.height : Expr → Nat
  | .atom _ => 0
  | .binary left _ right => max left.height right.height + 1
  | .not operand => operand.height + 1
  | .group inner => inner.height + 1

def Phrase.heightLimit : Phrase → Nat → Nat
  | .chain .or, levels => levels * levels + levels + levels
  | .chain .and, levels => levels * levels + levels
  | .negation, levels => levels * levels
  | .primary, levels => levels * levels

/-! ### No tree is higher -/

theorem Phrase.heightLimit_chain (op : BinaryOp) (levels : Nat) :
    (Phrase.chain op).heightLimit levels = (Phrase.operand op).heightLimit levels + levels := by
  cases op <;> rfl

theorem Phrase.heightLimit_succ (phrase : Phrase) (levels : Nat) :
    (Phrase.chain .or).heightLimit levels + 1 ≤ phrase.heightLimit (levels + 1) := by
  have square : (levels + 1) * (levels + 1) = levels * levels + levels + levels + 1 := by ring
  match phrase with
  | .chain .or | .chain .and | .negation | .primary => simp only [heightLimit]; omega

theorem Phrase.heightLimit_mono (phrase : Phrase) {levels more : Nat} (within : levels ≤ more) :
    phrase.heightLimit levels ≤ phrase.heightLimit more := by
  have square : levels * levels ≤ more * more := Nat.mul_le_mul within within
  match phrase with
  | .chain .or | .chain .and | .negation | .primary => simp only [heightLimit]; omega

theorem Expr.linkCount_le_need (op : BinaryOp) (tree : Expr) : tree.linkCount op ≤ tree.need := by
  cases tree with
  | binary left found right =>
    simp only [linkCount, need]
    split
    · next same =>
      subst same
      omega
    · exact Nat.zero_le _
  | atom | not | group => exact Nat.zero_le _

theorem Expr.height_succ_le {tree : Expr} (op : BinaryOp)
    (bound : tree.height ≤ (Phrase.chain .or).heightLimit tree.need) :
    tree.height + 1 ≤ (Phrase.operand op).heightLimit (tree.need + 1) :=
  Nat.le_trans (Nat.succ_le_succ bound) (Phrase.heightLimit_succ _ _)

/-- One more link: what is read behind it has fewer levels, and counts none of its own links. -/
theorem Expr.height_binary_le {left right : Expr} {op : BinaryOp}
    (leftBound : left.height ≤ (Phrase.operand op).heightLimit left.need + left.linkCount op)
    (rightBound : right.height ≤ (Phrase.operand op).heightLimit right.need + right.linkCount op)
    (noLinks : right.linkCount op = 0) :
    (Expr.binary left op right).height ≤
      (Phrase.operand op).heightLimit (Expr.binary left op right).need +
        (Expr.binary left op right).linkCount op := by
  have leftNeed : left.need ≤ (Expr.binary left op right).need := Nat.le_max_left _ _
  have rightNeed : right.need ≤ (Expr.binary left op right).need := by
    simp only [need]
    omega
  have leftLimit := (Phrase.operand op).heightLimit_mono leftNeed
  have rightLimit := (Phrase.operand op).heightLimit_mono rightNeed
  have count : (Expr.binary left op right).linkCount op = left.linkCount op + 1 := by
    simp [linkCount]
  rw [count]
  simp only [height]
  omega

theorem Expr.height_le_linkCount {tree : Expr} (canonical : tree.Canonical) :
    ∀ op, tree.phrase.looseness ≤ (Phrase.chain op).looseness →
      tree.height ≤ (Phrase.operand op).heightLimit tree.need + tree.linkCount op := by
  -- Links count one each here and not by the levels: a chain has more of them level by level.
  have limited {part : Expr} (op : BinaryOp)
      (bound : part.height ≤ (Phrase.operand op).heightLimit part.need + part.linkCount op) :
      part.height ≤ (Phrase.chain op).heightLimit part.need := by
    have := part.linkCount_le_need op
    rw [Phrase.heightLimit_chain]
    omega
  induction tree with
  | atom leaf => exact fun _ _ => Nat.zero_le _
  | binary left found right leftBound rightBound =>
    obtain ⟨leftCanonical, rightCanonical, leftTight, rightTight⟩ :=
      canonical_binary_iff.mp canonical
    have chain := height_binary_le (leftBound leftCanonical found leftTight)
      (rightBound rightCanonical found (by have := Phrase.looseness_operand found; omega))
      (linkCount_eq_zero (by have := Phrase.looseness_operand found; omega))
    intro op tight
    match found, op with
    | .and, .and | .or, .or => exact chain
    | .and, .or => exact Nat.le_add_right_of_le (limited .and chain)
    | .or, .and => exact absurd tight (Nat.not_succ_le_self 2)
  | not operand bound =>
    obtain ⟨operandCanonical, operandTight⟩ := canonical_not_iff.mp canonical
    intro op _
    have inner := limited .or (bound operandCanonical .or (Phrase.looseness_le _))
    exact Nat.le_add_right_of_le (height_succ_le op inner)
  | group inner bound =>
    intro op _
    have inside := limited .or (bound canonical .or (Phrase.looseness_le _))
    exact Nat.le_add_right_of_le (height_succ_le op inside)

theorem Expr.height_le_of_parse {text : String} {tree : Expr}
    (parsed : Expr.parse text = .ok tree) :
    tree.height ≤ (Phrase.chain .or).heightLimit maxDepth := by
  obtain ⟨canonical, fits⟩ := canonical_of_parse parsed
  have byLinks := height_le_linkCount canonical .or (Phrase.looseness_le _)
  have links := tree.linkCount_le_need .or
  have limit := (Phrase.chain .or).heightLimit_mono fits
  rw [Phrase.heightLimit_chain] at limit
  omega

/-! ### Some tree is as high -/

def Expr.someRole : Expr := .atom (.role "a" false)

def Expr.chained (op : BinaryOp) (tree : Expr) (links : Nat) : Expr :=
  links.repeat (fun left => .binary left op someRole) tree

def Expr.crowned (tree : Expr) (links : Nat) : Expr := (tree.chained .and links).chained .or links

/-- The highest tree of so many levels that binds tightest: each level is a group around the
highest chains of the levels below it. -/
def Expr.tower : Nat → Expr
  | 0 => someRole
  | levels + 1 => .group ((tower levels).crowned levels)

section
variable {op : BinaryOp} {tree : Expr} {links : Nat}

theorem Expr.linkCount_chained (op : BinaryOp) (tree : Expr) (links : Nat) :
    (tree.chained op links).linkCount op = tree.linkCount op + links := by
  induction links with
  | zero => rfl
  | succ links ih =>
    change (Expr.binary (tree.chained op links) op someRole).linkCount op = _
    simp only [linkCount, if_true, ih, Nat.add_assoc]

theorem Expr.height_chained (op : BinaryOp) (tree : Expr) (links : Nat) :
    (tree.chained op links).height = tree.height + links := by
  induction links with
  | zero => rfl
  | succ links ih =>
    change max (tree.chained op links).height 0 + 1 = _
    rw [Nat.max_zero, ih, Nat.add_assoc]

theorem Expr.need_chained (noLinks : tree.linkCount op = 0) (within : links ≤ tree.need) :
    (tree.chained op links).need = tree.need := by
  induction links with
  | zero => rfl
  | succ links ih =>
    change max (tree.chained op links).need ((tree.chained op links).linkCount op + 1 + 0) = _
    rw [ih (Nat.le_of_succ_le within), linkCount_chained, noLinks]
    omega

theorem Expr.canonical_chained (op : BinaryOp) (canonical : tree.Canonical)
    (tight : tree.phrase.looseness ≤ (Phrase.chain op).looseness) (links : Nat) :
    (tree.chained op links).Canonical ∧
      (tree.chained op links).phrase.looseness ≤ (Phrase.chain op).looseness := by
  induction links with
  | zero => exact ⟨canonical, tight⟩
  | succ links ih =>
    have role : someRole.Canonical := ⟨by decide, by decide⟩
    exact ⟨canonical_binary_iff.mpr ⟨ih.1, role, ih.2, Nat.zero_le _⟩, Nat.le_refl _⟩

/-- What the chains around a tree that binds tightest come to. -/
theorem Expr.crowned_spec (canonical : tree.Canonical) (tight : tree.phrase = .primary)
    (within : links ≤ tree.need) :
    (tree.crowned links).Canonical ∧ (tree.crowned links).need = tree.need ∧
      (tree.crowned links).height = tree.height + links + links := by
  have primary : tree.phrase.looseness = 0 := by rw [tight]; rfl
  have conjunction := canonical_chained .and canonical (by omega) links
  have disjunction := canonical_chained .or conjunction.1 (Phrase.looseness_le _) links
  have first : (tree.chained .and links).need = tree.need :=
    need_chained (linkCount_eq_zero (by rw [primary]; decide)) within
  refine ⟨disjunction.1, ?_, ?_⟩
  · rw [crowned, need_chained (linkCount_eq_zero (Nat.lt_succ_of_le conjunction.2))
      (first ▸ within), first]
  · rw [crowned, height_chained, height_chained]

end

theorem Expr.tower_spec (levels : Nat) :
    (tower levels).Canonical ∧ (tower levels).phrase = .primary ∧
      (tower levels).need = levels ∧ (tower levels).height = levels * levels := by
  induction levels with
  | zero => exact ⟨⟨by decide, by decide⟩, rfl, rfl, rfl⟩
  | succ levels ih =>
    obtain ⟨canonical, tight, need, height⟩ := ih
    obtain ⟨inside, innerNeed, innerHeight⟩ := crowned_spec canonical tight (Nat.le_of_eq need.symm)
    refine ⟨inside, rfl, ?_, ?_⟩
    · change ((tower levels).crowned levels).need + 1 = _
      rw [innerNeed, need]
    · change ((tower levels).crowned levels).height + 1 = _
      rw [innerHeight, height]
      ring

def Expr.highest : Expr := (tower maxDepth).crowned maxDepth

theorem Expr.highest_spec :
    highest.Canonical ∧ highest.need = maxDepth ∧
      highest.height = (Phrase.chain .or).heightLimit maxDepth := by
  obtain ⟨canonical, tight, need, height⟩ := tower_spec maxDepth
  obtain ⟨whole, wholeNeed, wholeHeight⟩ := crowned_spec canonical tight (Nat.le_of_eq need.symm)
  refine ⟨whole, wholeNeed.trans need, ?_⟩
  change ((tower maxDepth).crowned maxDepth).height = _
  rw [wholeHeight, height]
  rfl

theorem ParsedExpr.parse_highest :
    ParsedExpr.parse (String.ofList (Expr.highest.print '\x27')) =
      .ok ⟨String.ofList (Expr.highest.print '\x27'), Expr.highest⟩ := by
  obtain ⟨canonical, need, -⟩ := Expr.highest_spec
  exact parse_eq_ok_iff.mpr ⟨rfl, Expr.parse_print (by decide) canonical (Nat.le_of_eq need)⟩

/-- The trees of accepted texts are higher than there are levels, up to a limit that is reached. -/
theorem ParsedExpr.height_exact :
    (∀ source parsed, ParsedExpr.parse source = .ok parsed →
      parsed.expr.height ≤ maxDepth * maxDepth + 2 * maxDepth) ∧
    ∃ source parsed, ParsedExpr.parse source = .ok parsed ∧
      parsed.expr.height = maxDepth * maxDepth + 2 * maxDepth := by
  have limit : (Phrase.chain .or).heightLimit maxDepth = maxDepth * maxDepth + 2 * maxDepth := rfl
  constructor
  · intro source parsed read
    rw [← limit]
    exact Expr.height_le_of_parse (parse_eq_ok_iff.mp read).2
  · exact ⟨_, _, parse_highest, Expr.highest_spec.2.2.trans limit⟩

/-- The text of the highest tree: the limit says of it that it is as high as it may be. -/
theorem ParsedExpr.height_highest :
    let source := String.ofList (Expr.highest.print '\x27')
    ParsedExpr.parse source = .ok ⟨source, Expr.highest⟩ ∧
      Expr.highest.height ≤ maxDepth * maxDepth + 2 * maxDepth ∧
      maxDepth * maxDepth + 2 * maxDepth = 66048 := by
  exact ⟨parse_highest, height_exact.1 _ _ parse_highest, rfl⟩

end RoleGate
