import Mathlib.Control.Monad.Basic
import RoleGate.Proofs.Evaluation.Equivalence
import RoleGate.Proofs.Printing.RoundTrip

/-! Expressions made of the texts of other expressions.

Between parentheses a text keeps its tree. Where two texts are joined by `or` alone, the two chains
become one, and the second one is nested anew; what it comes to stays the same, and so does the
number of levels.
-/

set_option autoImplicit false

namespace RoleGate

open Text

/-! ### Chains that are joined -/

/-- The chain that goes on from the first tree with the operands of the second. -/
def Expr.join (op : BinaryOp) (left : Expr) : Expr → Expr
  | .binary first found right =>
    if found = op then .binary (left.join op first) op right
    else .binary left op (.binary first found right)
  | right => .binary left op right

section
variable {op : BinaryOp} {left right first : Expr}

theorem Expr.join_link (op : BinaryOp) (left first right : Expr) :
    left.join op (.binary first op right) = .binary (left.join op first) op right := if_pos rfl

theorem Expr.join_single (left : Expr) (single : right.linkCount op = 0) :
    left.join op right = .binary left op right := by
  cases right with
  | binary first found last =>
    have other : found ≠ op := by
      rintro rfl
      simp [linkCount] at single
    exact if_neg other
  | atom | not | group => rfl

/-- A tree is a link behind a chain of the operator, or no such chain at all. -/
theorem Expr.chain_induction {P : Expr → Prop} (op : BinaryOp)
    (single : ∀ tree : Expr, tree.linkCount op = 0 → P tree)
    (link : ∀ first right, P first → P (.binary first op right)) (tree : Expr) : P tree := by
  induction tree with
  | binary first found right before _ =>
    by_cases same : found = op
    · subst same
      exact link first right before
    · exact single _ (if_neg same)
  | atom | not | group => exact single _ rfl

theorem Expr.linkCount_join (op : BinaryOp) (left right : Expr) :
    (left.join op right).linkCount op = left.linkCount op + 1 + right.linkCount op := by
  induction right using chain_induction op with
  | single tree none =>
    rw [join_single left none, none]
    simp [linkCount]
  | link first right before =>
    rw [join_link]
    simp only [linkCount, if_true, before]
    omega

theorem Expr.need_join (op : BinaryOp) (left right : Expr) :
    (left.join op right).need = (Expr.binary left op right).need := by
  induction right using chain_induction op with
  | single tree none => rw [join_single left none]
  | link first right before =>
    have links := linkCount_join op left first
    rw [join_link]
    simp only [need] at before ⊢
    simp only [before, links]
    omega

theorem Expr.join_equivalent (op : BinaryOp) (left right : Expr) :
    Equivalent (left.join op right) (.binary left op right) := by
  induction right using chain_induction op with
  | single tree none =>
    rw [join_single left none]
    exact .refl _
  | link first right before =>
    rw [join_link]
    exact (before.binary op (.refl right)).trans (binary_assoc op left first right).symm

theorem linkTree_join (links : List (List Token × Expr)) :
    linkTree op (left.join op first) links = left.join op (linkTree op first links) := by
  induction links generalizing first with
  | nil => rfl
  | cons link links ih =>
    rw [linkTree_cons, linkTree_cons, ← ih, Expr.join_link]

theorem Derives.links {front : List Token} {links : List (List Token × Expr)}
    (chain : Derives (.chain op) front left)
    (operands : ∀ link ∈ links, Derives (.operand op) link.1 link.2) :
    Derives (.chain op) (front ++ linkTokens op links) (linkTree op left links) := by
  induction links generalizing front left with
  | nil => simpa using chain
  | cons link links ih =>
    have longer := ih (chain.snoc (operands link (by simp)))
      fun other member => operands other (by simp [member])
    simpa using longer

theorem Derives.join {front back : List Token} (before : Derives (.chain op) front left)
    (after : Derives (.chain op) back right) :
    Derives (.chain op) (front ++ .op op :: back) (left.join op right) := by
  cases after with
  | @chain _ tokens start links first others =>
    have joined := (before.snoc first).links others
    rw [← Expr.join_single left first.linkCount_eq_zero, linkTree_join] at joined
    simpa using joined

end

/-! ### Texts -/

def Phrase.Spells (phrase : Phrase) (text : List Char) (tree : Expr) : Prop :=
  ∃ tokens, Spelling text tokens ∧ Derives phrase tokens tree

section
variable {phrase wider : Phrase} {op : BinaryOp} {text front back : List Char}
  {tree left right : Expr}

theorem Phrase.Spells.loosen (spells : phrase.Spells text tree)
    (within : phrase.looseness ≤ wider.looseness) : wider.Spells text tree := by
  obtain ⟨tokens, spelled, derived⟩ := spells
  exact ⟨tokens, spelled, derived.loosen within⟩

theorem Phrase.Spells.group (spells : (Phrase.chain .or).Spells text tree) :
    Phrase.primary.Spells ('(' :: (text ++ [')'])) (.group tree) := by
  obtain ⟨tokens, spelled, derived⟩ := spells
  have closed := spelled.append Lexeme.rightParen.spelling (runsOn_of_first text [] (by decide))
  exact ⟨_, closed.cons_lexeme .leftParen (runsOn_of_last [] (by decide)), derived.group⟩

theorem Phrase.Spells.not (spells : Phrase.negation.Spells text tree) :
    Phrase.negation.Spells ('n' :: 'o' :: 't' :: ' ' :: text) (.not tree) := by
  obtain ⟨tokens, spelled, derived⟩ := spells
  have known : ("not", .not) ∈ keywords := by decide
  have word : Lexeme ['n', 'o', 't'] .not := .keyword (by decide) known (by decide)
  exact ⟨_, spelled.cons_spaced word, derived.not⟩

theorem Spelling.link {tokens others : List Token} (before : Spelling front tokens)
    (after : Spelling back others) (op : BinaryOp) :
    Spelling (front ++ ' ' :: (op.print ++ ' ' :: back)) (tokens ++ .op op :: others) := by
  have space : isBlank ' ' = true := by decide
  have linked := after.cons_spaced op.lexeme_print
  exact before.append (linked.cons_blank space) (runsOn_blank space)

theorem Phrase.Spells.link (before : (Phrase.chain op).Spells front left)
    (after : (Phrase.operand op).Spells back right) :
    (Phrase.chain op).Spells (front ++ ' ' :: (op.print ++ ' ' :: back))
      (.binary left op right) := by
  obtain ⟨tokens, spelled, derived⟩ := before
  obtain ⟨others, otherSpelled, otherDerived⟩ := after
  exact ⟨_, spelled.link otherSpelled op, derived.snoc otherDerived⟩

theorem Phrase.Spells.join (before : (Phrase.chain op).Spells front left)
    (after : (Phrase.chain op).Spells back right) :
    (Phrase.chain op).Spells (front ++ ' ' :: (op.print ++ ' ' :: back)) (left.join op right) := by
  obtain ⟨tokens, spelled, derived⟩ := before
  obtain ⟨others, otherSpelled, otherDerived⟩ := after
  exact ⟨_, spelled.link otherSpelled op, derived.join otherDerived⟩

end

theorem Expr.spells_of_parse {text : String} {tree : Expr} (parsed : Expr.parse text = .ok tree) :
    (Phrase.chain .or).Spells text.toList tree := by
  obtain ⟨tokens, spelled, derived, -⟩ := Expr.parse_eq_ok_iff.mp parsed
  exact ⟨tokens, spelled, derived⟩

theorem Phrase.Spells.parse {text : String} {tree : Expr}
    (spells : (Phrase.chain .or).Spells text.toList tree) :
    Expr.parse text = if tree.need ≤ maxDepth then .ok tree else .error .tooDeep := by
  obtain ⟨tokens, spelled, derived⟩ := spells
  rw [Expr.parse, tokenize_eq_ok_iff.mpr spelled]
  cases tokens with
  | nil => exact absurd rfl derived.ne_nil
  | cons token tokens =>
    obtain ⟨accepted, refused⟩ := Expr.ofTokens_of_derives derived
    change Expr.ofTokens (token :: tokens) = _
    split
    · next fits => exact accepted fits
    · next deep => exact refused (Nat.lt_of_not_le deep)

theorem Phrase.Spells.eq_of_parse {text : String} {tree found : Expr}
    (spells : (Phrase.chain .or).Spells text.toList tree) (parsed : Expr.parse text = .ok found) :
    found = tree := by
  rw [spells.parse] at parsed
  split at parsed
  · exact (Except.ok.inj parsed).symm
  · cases parsed

/-- The text is accepted as an expression that comes to the same as `meaning`, or is refused as too
deep, which it is exactly if it takes more levels than there are. -/
structure Expr.Means (text : String) (levels : Nat) (meaning : Expr) : Prop where
  outcome : (∃ tree, Expr.parse text = .ok tree ∧ tree.Equivalent meaning) ∨
    Expr.parse text = .error .tooDeep
  tooDeep_iff : Expr.parse text = .error .tooDeep ↔ maxDepth < levels

theorem Phrase.Spells.means {text : String} {tree meaning : Expr}
    (spells : (Phrase.chain .or).Spells text.toList tree) (same : tree.Equivalent meaning) :
    Expr.Means text tree.need meaning := by
  have read := spells.parse
  split at read
  · next fits => exact ⟨.inl ⟨tree, read, same⟩, by simp [read, Nat.not_lt.mpr fits]⟩
  · next deep => exact ⟨.inr read, by simp [read, Nat.lt_of_not_le deep]⟩

/-! ### Composed texts -/

section
variable {front back : List Char} {left right : Expr}

theorem Phrase.Spells.notGroup (spells : (Phrase.chain .or).Spells front left) :
    Phrase.negation.Spells ("not (".toList ++ (front ++ [')'])) (.not (.group left)) := by
  have group : Phrase.negation.Spells _ _ := spells.group.loosen (by decide)
  simpa using group.not

theorem Phrase.Spells.groups (op : BinaryOp) (before : (Phrase.chain .or).Spells front left)
    (after : (Phrase.chain .or).Spells back right) :
    (Phrase.chain op).Spells
      ('(' :: (front ++ [')']) ++ ' ' :: (op.print ++ ' ' :: '(' :: (back ++ [')'])))
      (.binary (.group left) op (.group right)) :=
  (before.group.loosen (Nat.zero_le _)).link (after.group.loosen (Nat.zero_le _))

theorem Phrase.Spells.notGroups (op : BinaryOp) (before : (Phrase.chain .or).Spells front left)
    (after : (Phrase.chain .or).Spells back right) :
    (Phrase.chain op).Spells
      ("not (".toList ++ (front ++ [')']) ++
        ' ' :: (op.print ++ ' ' :: ("not (".toList ++ (back ++ [')']))))
      (.binary (.not (.group left)) op (.not (.group right))) := by
  refine (before.notGroup.loosen ?_).link (after.notGroup.loosen ?_) <;> cases op <;> decide

/-- A negation in front of an operator between groups comes to the same as the dual operator between
negations. -/
theorem Expr.equivalent_of_notGroups (op : BinaryOp) {one other : String} {inside outside : Expr}
    (before : (Phrase.chain .or).Spells front left) (after : (Phrase.chain .or).Spells back right)
    (oneShape : one.toList = "not (".toList ++
      ('(' :: (front ++ [')']) ++ ' ' :: (op.print ++ ' ' :: '(' :: (back ++ [')'])) ++ [')']))
    (otherShape : other.toList = "not (".toList ++ (front ++ [')']) ++
      ' ' :: (op.dual.print ++ ' ' :: ("not (".toList ++ (back ++ [')']))))
    (oneParsed : Expr.parse one = .ok inside) (otherParsed : Expr.parse other = .ok outside) :
    Equivalent inside outside := by
  have oneSpells : (Phrase.chain .or).Spells one.toList
      (.not (.group (.binary (.group left) op (.group right)))) := by
    rw [oneShape]
    exact ((before.groups op after).loosen (Phrase.looseness_le _)).notGroup.loosen (by decide)
  have otherSpells : (Phrase.chain .or).Spells other.toList
      (.binary (.not (.group left)) op.dual (.not (.group right))) := by
    rw [otherShape]
    exact (before.notGroups op.dual after).loosen (Phrase.looseness_le _)
  rw [oneSpells.eq_of_parse oneParsed, otherSpells.eq_of_parse otherParsed]
  exact (group_equivalent _).not.trans (not_binary op (.group left) (.group right))

end

/-- Texts of expressions are put together as expressions are. A negation and an `and` need
parentheses around them, an `or` does not; each comes to what it says of the expressions, unless it
takes too many levels, and a negation may be moved inside. -/
theorem Expr.parse_compose {first second : String} {left right : Expr}
    (parsed : Expr.parse first = .ok left) (alsoParsed : Expr.parse second = .ok right) :
    Means ("not (" ++ first ++ ")") (left.need + 2) (.not left) ∧
    Means ("(" ++ first ++ ") and (" ++ second ++ ")") (max (left.need + 1) (right.need + 2))
      (.binary left .and right) ∧
    Means (first ++ " or " ++ second) (Expr.binary left .or right).need
      (.binary left .or right) ∧
    (∀ inside outside,
      Expr.parse ("not ((" ++ first ++ ") and (" ++ second ++ "))") = .ok inside →
      Expr.parse ("not (" ++ first ++ ") or not (" ++ second ++ ")") = .ok outside →
      Equivalent inside outside) ∧
    (∀ inside outside,
      Expr.parse ("not ((" ++ first ++ ") or (" ++ second ++ "))") = .ok inside →
      Expr.parse ("not (" ++ first ++ ") and not (" ++ second ++ ")") = .ok outside →
      Equivalent inside outside) := by
  have before := spells_of_parse parsed
  have after := spells_of_parse alsoParsed
  refine ⟨?_, ?_, ?_, ?_, ?_⟩
  · have negated : (Phrase.chain .or).Spells ("not (" ++ first ++ ")").toList
        (.not (.group left)) := by
      simpa using before.notGroup.loosen (by decide)
    exact negated.means (group_equivalent left).not
  · have joined : (Phrase.chain .or).Spells ("(" ++ first ++ ") and (" ++ second ++ ")").toList
        (.binary (.group left) .and (.group right)) := by
      simpa [BinaryOp.print] using (before.groups .and after).loosen (by decide)
    have levels : (Expr.binary (.group left) .and (.group right)).need =
        max (left.need + 1) (right.need + 2) := by
      simp only [need, linkCount]
      omega
    rw [← levels]
    exact joined.means ((group_equivalent left).binary .and (group_equivalent right))
  · have chained : (Phrase.chain .or).Spells (first ++ " or " ++ second).toList
        (left.join .or right) := by
      simpa [BinaryOp.print] using before.join after
    rw [← need_join]
    exact chained.means (join_equivalent .or left right)
  · exact fun _ _ => equivalent_of_notGroups .and before after (by simp [BinaryOp.print])
      (by simp [BinaryOp.print, BinaryOp.dual])
  · exact fun _ _ => equivalent_of_notGroups .or before after (by simp [BinaryOp.print])
      (by simp [BinaryOp.print, BinaryOp.dual])

/-- Two chains of `or` joined by one more, and a negation of both moved inside. -/
theorem Expr.parse_compose_chains :
    let left : Expr := .binary (.atom (.role "a" false)) .or (.atom (.role "b" false))
    let right : Expr := .binary (.atom (.role "c" true)) .or (.atom (.model (.object "d")))
    Expr.parse "a or b" = .ok left ∧ Expr.parse "'c' or :d" = .ok right ∧
    Means ("a or b" ++ " or " ++ "'c' or :d") 3 (.binary left .or right) ∧
    ∃ inside outside,
      Expr.parse ("not ((" ++ "a or b" ++ ") and (" ++ "'c' or :d" ++ "))") = .ok inside ∧
      Expr.parse ("not (" ++ "a or b" ++ ") or not (" ++ "'c' or :d" ++ ")") = .ok outside ∧
      Equivalent inside outside := by
  intro left right
  have leftParsed : Expr.parse "a or b" = .ok left := by decide +kernel
  have rightParsed : Expr.parse "'c' or :d" = .ok right := by decide +kernel
  have inside : Expr.parse ("not ((" ++ "a or b" ++ ") and (" ++ "'c' or :d" ++ "))") =
      .ok (.not (.group (.binary (.group left) .and (.group right)))) := by decide +kernel
  have outside : Expr.parse ("not (" ++ "a or b" ++ ") or not (" ++ "'c' or :d" ++ ")") =
      .ok (.binary (.not (.group left)) .or (.not (.group right))) := by decide +kernel
  obtain ⟨-, -, joined, deMorgan, -⟩ := parse_compose leftParsed rightParsed
  exact ⟨leftParsed, rightParsed, joined, _, _, inside, outside, deMorgan _ _ inside outside⟩

end RoleGate
