import RoleGate.Expr.Parsed
import RoleGate.Proofs.Lexing.Tokenizing
import RoleGate.Proofs.Parsing.Exactness
import RoleGate.Proofs.Printing.Printer

/-! Printing and reading are inverse to each other on canonical trees, and only canonical trees are
read.
-/

set_option autoImplicit false

namespace RoleGate

open Text

/-! ### What is printed spells the tokens of the tree -/

theorem quotes_escape (quote : Char) (name : List Char) :
    Quotes quote (escape quote name) name := by
  unfold escape
  induction name with
  | nil => exact .nil
  | cons c name ih =>
    -- A character is written behind a backslash exactly if it could not stand for itself.
    rw [List.flatMap_cons]
    split
    · exact ih.escaped
    · next other =>
      simp only [not_or] at other
      exact .plain other.1 other.2 ih

theorem lexeme_printQuoted {quote : Char} (isQ : isQuote quote = true) (name : String) :
    Lexeme (printQuoted quote name) (.quoted name) := by
  have written := Lexeme.quoted isQ (quotes_escape quote name.toList)
  rwa [String.ofList_toList] at written

theorem lexeme_word {name : String} (plain : isPlainWord name = true) :
    Lexeme name.toList (.word name) := by
  simp only [isPlainWord, Bool.and_eq_true, Bool.not_eq_true'] at plain
  have written := Lexeme.word plain.1 plain.2
  rwa [String.ofList_toList] at written

theorem lexeme_symbol {name : String} (isW : isWord name.toList = true) :
    Lexeme (':' :: name.toList) (.symbol name) := by
  have written := Lexeme.symbol isW
  rwa [String.ofList_toList] at written

theorem ModelName.lexeme_print {model : ModelName} (canonical : model.Canonical) :
    Lexeme model.print model.token := by
  cases model with
  | object name => exact lexeme_symbol canonical
  | className name => exact lexeme_word canonical.1

theorem Atom.spelling_print {quote : Char} (isQ : isQuote quote = true) {atom : Atom}
    (canonical : atom.Canonical) : Spelling (atom.print quote) atom.tokens := by
  match atom with
  | .role name false => exact (lexeme_word canonical.1).spelling
  | .role name true => exact (lexeme_printQuoted isQ name).spelling
  | .model name => exact (ModelName.lexeme_print canonical).spelling
  | .scoped name on =>
    have preposition : Lexeme "of".toList (.word "of") := lexeme_word (by decide)
    have rest := (ModelName.lexeme_print canonical).spelling.cons_spaced preposition
    exact rest.cons_spaced (lexeme_printQuoted isQ name)

theorem BinaryOp.lexeme_print (op : BinaryOp) : Lexeme op.print (.op op) := by
  cases op with
  | and =>
    have known : ("and", .op .and) ∈ keywords := by decide
    exact .keyword (by decide) known (by decide)
  | or =>
    have known : ("or", .op .or) ∈ keywords := by decide
    exact .keyword (by decide) known (by decide)

theorem Expr.spelling_print {quote : Char} (isQ : isQuote quote = true) {tree : Expr}
    (canonical : tree.Canonical) : Spelling (tree.print quote) tree.tokens := by
  have space : isBlank ' ' = true := by decide
  induction tree with
  | atom atom => exact Atom.spelling_print isQ canonical
  | binary left op right leftSpelled rightSpelled =>
    have operands : left.Canonical ∧ right.Canonical := by
      cases op with
      | and => exact ⟨canonical.1, canonical.2.1⟩
      | or => exact ⟨canonical.1, canonical.2.1⟩
    have linked := (rightSpelled operands.2).cons_spaced op.lexeme_print
    exact (leftSpelled operands.1).append (linked.cons_blank space) (runsOn_blank space)
  | not operand spelled =>
    have known : ("not", .not) ∈ keywords := by decide
    have word : Lexeme ['n', 'o', 't'] .not := .keyword (by decide) known (by decide)
    exact (spelled canonical.1).cons_spaced word
  | group inner spelled =>
    -- A parenthesis needs no space: no word goes on with it, and it is no word itself.
    have closed := (spelled canonical).append Lexeme.rightParen.spelling
      (runsOn_of_first _ [] (by decide))
    exact closed.cons_lexeme .leftParen (runsOn_of_last [] (by decide))

/-! ### The tokens of a canonical tree stand for it -/

/-- A tree that is no chain of `or` binds tighter than `or`, and one that is no chain at all tighter
than `and`. -/
theorem looseness_of_isChain {tree : Expr} (noOr : tree.isChain .or = false) :
    tree.phrase.looseness ≤ 2 ∧ (tree.isChain .and = false → tree.phrase.looseness ≤ 1) := by
  cases tree with
  | binary left op right =>
    cases op with
    | and => exact ⟨Nat.le_refl _, fun noAnd => by simp [Expr.isChain] at noAnd⟩
    | or => simp [Expr.isChain] at noOr
  | atom | not | group => exact ⟨by simp [Expr.phrase, Phrase.looseness], fun _ => by
      simp [Expr.phrase, Phrase.looseness]⟩

theorem isChain_of_looseness {op : BinaryOp} {tree : Expr}
    (tighter : tree.phrase.looseness < (Phrase.chain op).looseness) : tree.isChain op = false := by
  cases tree with
  | binary left found right =>
    have other : found ≠ op := by
      rintro rfl
      exact Nat.lt_irrefl _ tighter
    simp [Expr.isChain, other]
  | atom | not | group => rfl

theorem Expr.canonical_binary_iff {left right : Expr} {op : BinaryOp} :
    (Expr.binary left op right).Canonical ↔ left.Canonical ∧ right.Canonical ∧
      left.phrase.looseness ≤ (Phrase.chain op).looseness ∧
      right.phrase.looseness ≤ (Phrase.operand op).looseness := by
  cases op with
  | or =>
    constructor
    · rintro ⟨leftCanonical, rightCanonical, noOr⟩
      exact ⟨leftCanonical, rightCanonical, Phrase.looseness_le _, (looseness_of_isChain noOr).1⟩
    · rintro ⟨leftCanonical, rightCanonical, -, tight⟩
      exact ⟨leftCanonical, rightCanonical, isChain_of_looseness (Nat.lt_succ_of_le tight)⟩
  | and =>
    constructor
    · rintro ⟨leftCanonical, rightCanonical, leftNoOr, noOr, noAnd⟩
      exact ⟨leftCanonical, rightCanonical, (looseness_of_isChain leftNoOr).1,
        (looseness_of_isChain noOr).2 noAnd⟩
    · rintro ⟨leftCanonical, rightCanonical, leftTight, tight⟩
      have noAnd : right.isChain .and = false := isChain_of_looseness (Nat.lt_succ_of_le tight)
      have noOr : right.isChain .or = false :=
        isChain_of_looseness (Nat.lt_succ_of_le (Nat.le_succ_of_le tight))
      exact ⟨leftCanonical, rightCanonical, isChain_of_looseness (Nat.lt_succ_of_le leftTight),
        noOr, noAnd⟩

theorem Expr.canonical_not_iff {operand : Expr} :
    (Expr.not operand).Canonical ↔ operand.Canonical ∧ operand.phrase.looseness ≤ 1 := by
  constructor
  · rintro ⟨canonical, noChain⟩
    exact ⟨canonical, (looseness_of_isChain (noChain .or)).2 (noChain .and)⟩
  · rintro ⟨canonical, tight⟩
    refine ⟨canonical, fun op => isChain_of_looseness (Nat.lt_of_le_of_lt tight ?_)⟩
    cases op <;> decide

theorem ModelName.names_token {model : ModelName} (canonical : model.Canonical) :
    NamesModel model.token model := by
  cases model with
  | object name => exact .symbol
  | className name => exact .className canonical.2

theorem Atom.spells_tokens {atom : Atom} (canonical : atom.Canonical) :
    SpellsAtom atom.tokens atom := by
  match atom with
  | .role name false => exact .role (.word canonical.2)
  | .role name true => exact .role .quoted
  | .model (.object name) => exact .object
  | .model (.className name) => exact .className canonical.2
  | .scoped name on =>
    have joins : isPreposition "of" = true := by decide
    exact .preposition .quoted joins (ModelName.names_token canonical)

theorem Expr.derives_tokens {tree : Expr} (canonical : tree.Canonical) :
    Derives tree.phrase tree.tokens tree := by
  induction tree with
  | atom atom => exact .atom (Atom.spells_tokens canonical)
  | binary left op right leftDerived rightDerived =>
    -- The left operand is the front of the chain, and the right one its last link.
    obtain ⟨leftCanonical, rightCanonical, leftTight, tight⟩ := canonical_binary_iff.mp canonical
    have front := (leftDerived leftCanonical).loosen leftTight
    exact front.snoc ((rightDerived rightCanonical).loosen tight)
  | not operand derived =>
    obtain ⟨operandCanonical, tight⟩ := canonical_not_iff.mp canonical
    have operand : Derives .negation _ _ := (derived operandCanonical).loosen tight
    exact operand.not
  | group inner derived =>
    have whole : Derives (.chain .or) _ _ := (derived canonical).loosen (Phrase.looseness_le _)
    exact whole.group

/-! ### What is read is canonical -/

theorem isPlainWord_of_lexeme {lexeme : List Char} {name : String}
    (written : Lexeme lexeme (.word name)) : isPlainWord name = true := by
  cases written with
  | keyword _ known => simp [keywords] at known
  | word isW other => simp [isPlainWord, isW, other]

theorem isWord_of_lexeme {lexeme : List Char} {name : String}
    (written : Lexeme lexeme (.symbol name)) : isWord name.toList = true := by
  cases written with
  | keyword _ known => simp [keywords] at known
  | symbol isW => simpa using isW

theorem NamesModel.canonical {token : Token} {model : ModelName} {lexeme : List Char}
    (named : NamesModel token model) (written : Lexeme lexeme token) : model.Canonical := by
  cases named with
  | symbol => exact isWord_of_lexeme written
  | word =>
    have plain := isPlainWord_of_lexeme written
    simp only [isPlainWord, Bool.and_eq_true] at plain
    exact plain.1
  | className known => exact ⟨isPlainWord_of_lexeme written, known⟩

theorem SpellsAtom.canonical {tokens : List Token} {atom : Atom} (spelled : SpellsAtom tokens atom)
    (writable : Writable tokens) : atom.Canonical := by
  cases spelled with
  | object =>
    obtain ⟨lexeme, written⟩ := writable _ (List.mem_singleton_self _)
    exact isWord_of_lexeme written
  | className known =>
    obtain ⟨lexeme, written⟩ := writable _ (List.mem_singleton_self _)
    exact ⟨isPlainWord_of_lexeme written, known⟩
  | role named =>
    obtain ⟨lexeme, written⟩ := writable _ (List.mem_singleton_self _)
    cases named with
    | word other => exact ⟨isPlainWord_of_lexeme written, other⟩
    | quoted => trivial
  | @preposition _ modelToken _ _ _ _ _ _ namedModel =>
    obtain ⟨lexeme, written⟩ := writable modelToken (by simp)
    exact namedModel.canonical written
  | @call _ modelToken _ _ _ _ namedModel =>
    obtain ⟨lexeme, written⟩ := writable modelToken (by simp)
    exact namedModel.canonical written

theorem canonical_linkTree {op : BinaryOp} {left : Expr} {links : List (List Token × Expr)}
    (first : left.Canonical) (tight : left.phrase.looseness ≤ (Phrase.chain op).looseness)
    (operands : ∀ link ∈ links, Derives (.operand op) link.1 link.2 ∧ link.2.Canonical) :
    (linkTree op left links).Canonical := by
  induction links generalizing left with
  | nil => exact first
  | cons link links ih =>
    obtain ⟨derived, canonical⟩ := operands link (by simp)
    have grown : (Expr.binary left op link.2).Canonical :=
      Expr.canonical_binary_iff.mpr ⟨first, canonical, tight, derived.looseness_le⟩
    exact ih grown (Nat.le_refl _) fun other member => operands other (by simp [member])

theorem Derives.canonical {phrase : Phrase} {tokens : List Token} {tree : Expr}
    (derived : Derives phrase tokens tree) (writable : Writable tokens) : tree.Canonical := by
  induction derived with
  | @chain op first left links firstDerived linksDerived firstCanonical linksCanonical =>
    -- The tokens of the parts are among those of the whole, so they can be written as well.
    have leftCanonical := firstCanonical fun token member => writable token (by simp [member])
    have tight : left.phrase.looseness ≤ (Phrase.chain op).looseness := by
      rw [← Phrase.looseness_operand op]
      exact Nat.le_succ_of_le firstDerived.looseness_le
    refine canonical_linkTree leftCanonical tight fun link member => ⟨linksDerived link member, ?_⟩
    refine linksCanonical link member fun token inLink => writable token ?_
    have inLinks : token ∈ linkTokens op links :=
      List.mem_flatMap.mpr ⟨link, member, List.mem_cons_of_mem _ inLink⟩
    exact List.mem_append_right first inLinks
  | not derived canonical =>
    have operand := canonical fun token member => writable token (by simp [member])
    exact Expr.canonical_not_iff.mpr ⟨operand, derived.looseness_le⟩
  | primary _ canonical => exact canonical writable
  | group _ canonical => exact canonical fun token member => writable token (by simp [member])
  | atom spelled => exact spelled.canonical writable

/-! ### The round trip -/

/-- A text is read as a tree if it spells tokens that stand for the tree, and the levels fit. -/
theorem Expr.parse_eq_ok_iff {text : String} {tree : Expr} :
    Expr.parse text = .ok tree ↔
      ∃ tokens, Spelling text.toList tokens ∧ Derives (.chain .or) tokens tree ∧
        tree.need ≤ maxDepth := by
  unfold Expr.parse
  constructor
  · intro parsed
    cases found : tokenize text.toList with
    | error error =>
      rw [found] at parsed
      cases parsed
    | ok tokens =>
      rw [found] at parsed
      exact ⟨tokens, tokenize_eq_ok_iff.mp found, Expr.parseTokens_eq_ok_iff.mp parsed⟩
  · rintro ⟨tokens, spelled, stands⟩
    rw [tokenize_eq_ok_iff.mpr spelled]
    exact Expr.parseTokens_eq_ok_iff.mpr stands

theorem Expr.parse_print {quote : Char} (isQ : isQuote quote = true) {tree : Expr}
    (canonical : tree.Canonical) (fits : tree.need ≤ maxDepth) :
    Expr.parse (String.ofList (tree.print quote)) = .ok tree := by
  have derived : Derives (.chain .or) tree.tokens tree :=
    (Expr.derives_tokens canonical).loosen (Phrase.looseness_le _)
  have spelled : Spelling (String.ofList (tree.print quote)).toList tree.tokens := by
    rw [String.toList_ofList]
    exact Expr.spelling_print isQ canonical
  exact Expr.parse_eq_ok_iff.mpr ⟨_, spelled, derived, fits⟩

theorem Expr.canonical_of_parse {text : String} {tree : Expr}
    (parsed : Expr.parse text = .ok tree) : tree.Canonical ∧ tree.need ≤ maxDepth := by
  obtain ⟨tokens, spelled, derived, fits⟩ := Expr.parse_eq_ok_iff.mp parsed
  exact ⟨derived.canonical spelled.writable, fits⟩

/-- A canonical tree whose levels fit is read back from its text, whichever quotes are used in it,
and such trees are all that is ever read. -/
theorem ParsedExpr.parse_print_exact :
    (∀ quote tree, isQuote quote = true → tree.Canonical → tree.need ≤ maxDepth →
      ParsedExpr.parse (String.ofList (tree.print quote)) =
        .ok ⟨String.ofList (tree.print quote), tree⟩) ∧
    (∀ source parsed, ParsedExpr.parse source = .ok parsed →
      parsed.source = source ∧ parsed.expr.Canonical ∧ parsed.expr.need ≤ maxDepth) ∧
    ∀ tree, (∃ source, ParsedExpr.parse source = .ok ⟨source, tree⟩) ↔
      tree.Canonical ∧ tree.need ≤ maxDepth := by
  have printed (quote : Char) (tree : Expr) (isQ : isQuote quote = true)
      (canonical : tree.Canonical) (fits : tree.need ≤ maxDepth) :
      ParsedExpr.parse (String.ofList (tree.print quote)) =
        .ok ⟨String.ofList (tree.print quote), tree⟩ :=
    ParsedExpr.parse_eq_ok_iff.mpr ⟨rfl, Expr.parse_print isQ canonical fits⟩
  refine ⟨printed, ?_, fun tree => ⟨?_, ?_⟩⟩
  · intro source parsed read
    obtain ⟨same, read⟩ := ParsedExpr.parse_eq_ok_iff.mp read
    exact ⟨same, Expr.canonical_of_parse read⟩
  · rintro ⟨source, read⟩
    exact Expr.canonical_of_parse (ParsedExpr.parse_eq_ok_iff.mp read).2
  · rintro ⟨canonical, fits⟩
    exact ⟨_, printed '\x27' tree (by decide) canonical fits⟩

/-- A role whose name has a quote and a backslash in it, asked for on a class, and an object with
the name of an operator. -/
theorem ParsedExpr.parse_print_quoted_and_keyword :
    let tree : Expr := .binary (.not (.atom (.scoped "it's \\" (.className "Post")))) .and
      (.group (.binary (.atom (.model (.object "and"))) .or (.atom (.role "of" false))))
    ParsedExpr.parse (String.ofList (tree.print '\x27')) =
      .ok ⟨String.ofList (tree.print '\x27'), tree⟩ := by
  refine ParsedExpr.parse_print_exact.1 _ _ (by decide) ?_ (by decide)
  refine ⟨⟨⟨by decide, by decide⟩, fun _ => rfl⟩, ⟨?_, ⟨by decide, by decide⟩, rfl⟩, rfl, rfl, rfl⟩
  exact (by decide : isWord "and".toList = true)

end RoleGate
