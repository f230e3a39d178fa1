import RoleGate.Expr.Lexicon
import RoleGate.Expr.Token

/-! The grammar of role expressions, over tokens.

A chain of `or` joins chains of `and`, a chain of `and` joins negations, and every chain leans to
the left. Nothing here knows of the parser: a derivation says which tokens stand for which tree.
-/

set_option autoImplicit false

namespace RoleGate

/-! ### Atoms -/

inductive NamesRole : Token → String → Bool → Prop where
  | word {name : String} : isClassName name = false → NamesRole (.word name) name false
  | quoted {name : String} : NamesRole (.quoted name) name true

inductive NamesModel : Token → ModelName → Prop where
  | symbol {name : String} : NamesModel (.symbol name) (.object name)
  | word {name : String} : isClassName name = false → NamesModel (.word name) (.object name)
  | className {name : String} : isClassName name = true →
      NamesModel (.word name) (.className name)

inductive SpellsAtom : List Token → Atom → Prop where
  | object {name : String} : SpellsAtom [.symbol name] (.model (.object name))
  | className {name : String} : isClassName name = true →
      SpellsAtom [.word name] (.model (.className name))
  | role {token : Token} {name : String} {quoted : Bool} : NamesRole token name quoted →
      SpellsAtom [token] (.role name quoted)
  | preposition {token modelToken : Token} {name word : String} {quoted : Bool}
      {model : ModelName} : NamesRole token name quoted → isPreposition word = true →
      NamesModel modelToken model →
      SpellsAtom [token, .word word, modelToken] (.scoped name model)
  | call {token modelToken : Token} {name : String} {quoted : Bool} {model : ModelName} :
      NamesRole token name quoted → NamesModel modelToken model →
      SpellsAtom [token, .leftParen, modelToken, .rightParen] (.scoped name model)

/-! ### Phrases -/

/-- What tokens may be read as: a chain of one operator, what may stand after a `not`, or what
binds tightest. A whole expression is a chain of `or`. -/
inductive Phrase where
  | chain (op : BinaryOp)
  | negation
  | primary
  deriving DecidableEq, Repr

def Phrase.operand : BinaryOp → Phrase
  | .or => .chain .and
  | .and => .negation

def linkTokens (op : BinaryOp) (links : List (List Token × Expr)) : List Token :=
  links.flatMap fun link => .op op :: link.1

def linkTree (op : BinaryOp) (left : Expr) (links : List (List Token × Expr)) : Expr :=
  links.foldl (fun left link => .binary left op link.2) left

inductive Derives : Phrase → List Token → Expr → Prop where
  | chain {op : BinaryOp} {first : List Token} {left : Expr} {links : List (List Token × Expr)} :
      Derives (.operand op) first left →
      (∀ link ∈ links, Derives (.operand op) link.1 link.2) →
      Derives (.chain op) (first ++ linkTokens op links) (linkTree op left links)
  | not {tokens : List Token} {tree : Expr} : Derives .negation tokens tree →
      Derives .negation (.not :: tokens) (.not tree)
  | primary {tokens : List Token} {tree : Expr} : Derives .primary tokens tree →
      Derives .negation tokens tree
  | group {tokens : List Token} {tree : Expr} : Derives (.chain .or) tokens tree →
      Derives .primary (.leftParen :: (tokens ++ [.rightParen])) (.group tree)
  | atom {tokens : List Token} {atom : Atom} : SpellsAtom tokens atom →
      Derives .primary tokens (.atom atom)

section
variable {op : BinaryOp} {left : Expr} {link : List Token × Expr}
  {links : List (List Token × Expr)}

@[simp] theorem linkTokens_nil : linkTokens op [] = [] := rfl

@[simp] theorem linkTokens_cons :
    linkTokens op (link :: links) = .op op :: (link.1 ++ linkTokens op links) := rfl

@[simp] theorem linkTree_nil : linkTree op left [] = left := rfl

@[simp] theorem linkTree_cons :
    linkTree op left (link :: links) = linkTree op (.binary left op link.2) links := rfl

end

theorem Derives.single {op : BinaryOp} {tokens : List Token} {tree : Expr}
    (operand : Derives (.operand op) tokens tree) : Derives (.chain op) tokens tree := by
  have derived : Derives (.chain op) (tokens ++ linkTokens op []) (linkTree op tree []) :=
    .chain operand (by simp)
  simpa using derived

theorem Derives.snoc {op : BinaryOp} {front tokens : List Token} {left right : Expr}
    (chain : Derives (.chain op) front left) (last : Derives (.operand op) tokens right) :
    Derives (.chain op) (front ++ .op op :: tokens) (.binary left op right) := by
  cases chain with
  | @chain _ first start links firstDerived linksDerived =>
    have derived : Derives (.chain op) (first ++ linkTokens op (links ++ [(tokens, right)]))
        (linkTree op start (links ++ [(tokens, right)])) := by
      refine .chain firstDerived fun link member => ?_
      rcases List.mem_append.mp member with before | added
      · exact linksDerived link before
      · rw [List.mem_singleton.mp added]
        exact last
    simpa [linkTokens, linkTree] using derived

theorem Derives.ne_nil {phrase : Phrase} {tokens : List Token} {tree : Expr}
    (derived : Derives phrase tokens tree) : tokens ≠ [] := by
  induction derived with
  | chain _ _ first => exact List.append_ne_nil_of_left_ne_nil first _
  | not => exact List.cons_ne_nil _ _
  | primary _ ih => exact ih
  | group => exact List.cons_ne_nil _ _
  | atom spelled => cases spelled <;> exact List.cons_ne_nil _ _

/-! ### How loosely a phrase binds -/

def Phrase.looseness : Phrase → Nat
  | .primary => 0
  | .negation => 1
  | .chain .and => 2
  | .chain .or => 3

def Expr.phrase : Expr → Phrase
  | .atom _ => .primary
  | .binary _ op _ => .chain op
  | .not _ => .negation
  | .group _ => .primary

theorem Phrase.looseness_operand (op : BinaryOp) :
    (Phrase.operand op).looseness + 1 = (Phrase.chain op).looseness := by
  cases op <;> rfl

theorem Phrase.looseness_le (phrase : Phrase) :
    phrase.looseness ≤ (Phrase.chain .or).looseness := by
  match phrase with
  | .chain .or | .chain .and | .negation | .primary => decide

theorem looseness_linkTree {op : BinaryOp} {left : Expr} {links : List (List Token × Expr)}
    (bound : left.phrase.looseness ≤ (Phrase.chain op).looseness) :
    (linkTree op left links).phrase.looseness ≤ (Phrase.chain op).looseness := by
  induction links generalizing left with
  | nil => exact bound
  | cons link links ih => exact ih (Nat.le_refl _)

/-- A tree is never read as a phrase that binds tighter than the tree does. -/
theorem Derives.looseness_le {phrase : Phrase} {tokens : List Token} {tree : Expr}
    (derived : Derives phrase tokens tree) : tree.phrase.looseness ≤ phrase.looseness := by
  induction derived with
  | @chain op _ _ _ _ _ first =>
    have := Phrase.looseness_operand op
    exact looseness_linkTree (by omega)
  | not => exact Nat.le_refl _
  | primary _ ih => exact Nat.le_succ_of_le ih
  | group => exact Nat.le_refl _
  | atom => exact Nat.le_refl _

theorem Derives.loosen {phrase wider : Phrase} {tokens : List Token} {tree : Expr}
    (derived : Derives phrase tokens tree) (within : phrase.looseness ≤ wider.looseness) :
    Derives wider tokens tree := by
  -- Each phrase is taken for the next looser one, up to the one that is asked for.
  have negation : phrase.looseness ≤ 1 → Derives .negation tokens tree := by
    intro tight
    match phrase with
    | .primary => exact .primary derived
    | .negation => exact derived
  have conjunction : phrase.looseness ≤ 2 → Derives (.chain .and) tokens tree := by
    intro tight
    by_cases loose : phrase.looseness ≤ 1
    · exact Derives.single (negation loose)
    · match phrase with
      | .chain .and => exact derived
  match wider with
  | .primary =>
    match phrase with
    | .primary => exact derived
  | .negation => exact negation within
  | .chain .and => exact conjunction within
  | .chain .or =>
    match phrase with
    | .chain .or => exact derived
    | .chain .and | .negation | .primary => exact Derives.single (conjunction (by decide))

/-! ### Levels -/

def Expr.linkCount (op : BinaryOp) : Expr → Nat
  | .binary left found _ => if found = op then left.linkCount op + 1 else 0
  | _ => 0

/-- The most levels that are open at one time while the tree is read. A group and a negation hold
one level open, and an operand of a chain stands behind all links of the chain up to its own. -/
def Expr.need : Expr → Nat
  | .atom _ => 0
  | .binary left op right => max left.need (left.linkCount op + 1 + right.need)
  | .not operand => operand.need + 1
  | .group inner => inner.need + 1

theorem linkCount_eq_zero {op : BinaryOp} {tree : Expr}
    (tighter : tree.phrase.looseness < (Phrase.chain op).looseness) : tree.linkCount op = 0 := by
  cases tree with
  | binary left found right =>
    have other : found ≠ op := by
      rintro rfl
      exact Nat.lt_irrefl _ tighter
    simp [Expr.linkCount, other]
  | atom => rfl
  | not => rfl
  | group => rfl

theorem Derives.linkCount_eq_zero {op : BinaryOp} {tokens : List Token} {tree : Expr}
    (derived : Derives (.operand op) tokens tree) : tree.linkCount op = 0 := by
  apply RoleGate.linkCount_eq_zero
  have := derived.looseness_le
  have := Phrase.looseness_operand op
  omega

theorem need_le_need_linkTree (op : BinaryOp) (left : Expr) (links : List (List Token × Expr)) :
    left.need ≤ (linkTree op left links).need := by
  induction links generalizing left with
  | nil => exact Nat.le_refl _
  | cons link links ih =>
    have grown : left.need ≤ (Expr.binary left op link.2).need := Nat.le_max_left _ _
    exact Nat.le_trans grown (ih _)

/-! ### What ends a phrase -/

def Token.scopesRole : Token → Bool
  | .word name => isPreposition name
  | .leftParen => true
  | _ => false

/-- Tokens with which a phrase of that kind goes on whatever it ends in. -/
def Phrase.goesOnWith : Phrase → Token → Bool
  | .chain .or, .op _ => true
  | .chain .and, .op .and => true
  | _, _ => false

def Expr.endsInRole : Expr → Bool
  | .atom (.role _ _) => true
  | .atom _ => false
  | .binary _ _ right => right.endsInRole
  | .not operand => operand.endsInRole
  | .group _ => false

/-- The token, if it comes next, is not taken into the phrase that ends in that tree. -/
def Phrase.endsBefore (phrase : Phrase) (tree : Expr) (token : Token) : Prop :=
  phrase.goesOnWith token = false ∧ (tree.endsInRole = true → token.scopesRole = false)

def Phrase.Stops (phrase : Phrase) (tree : Expr) (rest : List Token) : Prop :=
  ∀ token ∈ rest.head?, phrase.endsBefore tree token

theorem Phrase.stops_nil (phrase : Phrase) (tree : Expr) : phrase.Stops tree [] := nofun

theorem Phrase.primary_stops {tree : Expr} (rest : List Token) (closed : tree.endsInRole = false) :
    Phrase.primary.Stops tree rest := by
  refine fun token _ => ⟨rfl, fun ends => ?_⟩
  rw [closed] at ends
  cases ends

theorem Phrase.stops_cons {phrase : Phrase} {tree : Expr} {token : Token} {rest : List Token} :
    phrase.Stops tree (token :: rest) ↔ phrase.endsBefore tree token := by
  simp [Stops]

theorem Phrase.Stops.congr {phrase : Phrase} {tree : Expr} {rest other : List Token}
    (stops : phrase.Stops tree rest) (same : other.head? = rest.head?) :
    phrase.Stops tree other := by
  unfold Stops at *
  rwa [same]

theorem Phrase.stops_op (op : BinaryOp) (tree : Expr) (rest : List Token) :
    (Phrase.operand op).Stops tree (.op op :: rest) := by
  refine stops_cons.mpr ⟨?_, fun _ => rfl⟩
  cases op <;> rfl

theorem Phrase.Stops.operand {op : BinaryOp} {tree : Expr} {rest : List Token}
    (stops : (Phrase.chain op).Stops tree rest) : (Phrase.operand op).Stops tree rest := by
  -- A chain and its operands differ in the operators that they go on with, and in nothing else.
  intro token first
  obtain ⟨ends, alone⟩ := stops token first
  refine ⟨?_, alone⟩
  cases token with
  | op found => cases op <;> cases found <;> simp_all [goesOnWith, Phrase.operand]
  | word | symbol | quoted | leftParen | rightParen | not => cases op <;> rfl

theorem Phrase.Stops.chain {op : BinaryOp} {tree : Expr} {rest : List Token}
    (stops : (Phrase.operand op).Stops tree rest) (other : ∀ more, rest ≠ .op op :: more) :
    (Phrase.chain op).Stops tree rest := by
  intro token first
  obtain ⟨ends, alone⟩ := stops token first
  obtain ⟨more, shape⟩ := List.head?_eq_some_iff.mp first
  refine ⟨?_, alone⟩
  cases token with
  | op found =>
    have different : found ≠ op := fun same => other more (same ▸ shape)
    cases op <;> cases found <;> simp_all [goesOnWith, Phrase.operand]
  | word | symbol | quoted | leftParen | rightParen | not => cases op <;> rfl

theorem Phrase.Stops.ne_op {op : BinaryOp} {tree : Expr} {rest : List Token}
    (stops : (Phrase.chain op).Stops tree rest) (more : List Token) : rest ≠ .op op :: more := by
  rintro rfl
  obtain ⟨ends, -⟩ := stops_cons.mp stops
  cases op <;> simp [goesOnWith] at ends

/-- In a chain that ends before what follows, each operand ends before the next link. -/
theorem Phrase.Stops.links {op : BinaryOp} {links : List (List Token × Expr)} {rest : List Token}
    (left : Expr) (stops : (Phrase.chain op).Stops (linkTree op left links) rest) :
    (Phrase.operand op).Stops left (linkTokens op links ++ rest) := by
  cases links with
  | nil => exact stops.operand
  | cons link links => exact stops_op op left _

theorem Phrase.stops_rightParen (phrase : Phrase) (tree : Expr) (rest : List Token) :
    phrase.Stops tree (.rightParen :: rest) := by
  refine stops_cons.mpr ⟨?_, fun _ => rfl⟩
  cases phrase with
  | chain op => cases op <;> rfl
  | negation => rfl
  | primary => rfl

end RoleGate
