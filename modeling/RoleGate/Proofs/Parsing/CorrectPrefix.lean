import RoleGate.Proofs.Parsing.Stuck

/-! The parser fails early and for good.

What it has read when it fails is the beginning of an expression that it accepts. If tokens are
left, every expression that goes on with the next one fails in the same way.
-/

set_option autoImplicit false

namespace RoleGate

def Phrase.Fits (phrase : Phrase) (depth : Nat) (tokens : List Token) : Prop :=
  ∃ tree, Derives phrase tokens tree ∧ depth + tree.need ≤ maxDepth

theorem Phrase.fits_role {depth : Nat} (phrase : Phrase) (shallow : depth ≤ maxDepth) :
    phrase.Fits depth [.word "a"] := by
  have primary : Derives .primary [.word "a"] (.atom (.role "a" false)) :=
    .atom (.role (.word (by decide)))
  have conjunction : Derives (.chain .and) [.word "a"] (.atom (.role "a" false)) :=
    .single (.primary primary)
  have disjunction : Derives (.chain .or) [.word "a"] (.atom (.role "a" false)) :=
    .single conjunction
  refine ⟨.atom (.role "a" false), ?_, shallow⟩
  match phrase with
  | .primary => exact primary
  | .negation => exact .primary primary
  | .chain .and => exact conjunction
  | .chain .or => exact disjunction

abbrev StuckReading (phrase : Phrase) (depth : Nat) (error : ParseError) : List Token → Prop :=
  Stuck (phrase.Fits depth)
    (fun tokens => (Cursor.read phrase ⟨tokens, depth⟩).FailsWith error) error

/-- The tokens are stuck where the links are read behind `front`, which stands for the part of the
chain that had opened its levels at `base`. -/
abbrev StuckLinks (op : BinaryOp) (left : Expr) (front : List Token) (base depth : Nat)
    (error : ParseError) : List Token → Prop :=
  Stuck (fun tokens => (Phrase.chain op).Fits base (front ++ tokens))
    (fun tokens => (Cursor.links op left ⟨tokens, depth⟩).FailsWith error) error

/-! ### The steps of the parser -/

section
variable {tokens front used : List Token} {op : BinaryOp} {left right tree : Expr}
  {depth base : Nat} {error : ParseError} {c next stopped : Cursor}

theorem Stuck.chain_first (stuck : StuckReading (.operand op) depth error tokens) :
    StuckReading (.chain op) depth error tokens := by
  apply stuck.lift [] writable_nil
  case completes =>
    rintro inner ⟨tree, derived, fits⟩
    exact ⟨tree, by simpa using derived.single, fits⟩
  case refuses =>
    intro others _ fails
    rw [List.nil_append, Cursor.read_chain]
    exact fails.bind

theorem Stuck.chain_links (reading : Reading (.operand op) used left c next)
    (stuck : StuckLinks op left used c.depth c.depth error next.rest) :
    StuckReading (.chain op) c.depth error c.rest := by
  rw [reading.rest_eq]
  apply stuck.lift _ writable_nil
  case completes =>
    intro inner fits
    simpa using fits
  case refuses =>
    -- The operand ends before any tokens that start like those left, so it is read as before.
    intro others sameHead fails
    rw [Cursor.read_chain, reading.read (reading.stops.congr sameHead), Step.done_bind]
    exact fails.bind

theorem Stuck.links_tooDeep (full : maxDepth ≤ depth) (before : Derives (.chain op) front left)
    (fits : base + left.need ≤ maxDepth) :
    StuckLinks op left front base depth .tooDeep (.op op :: tokens) := by
  -- What stands before the operator is complete as it is.
  refine .here (by simp) writable_nil ⟨left, by simpa using before, fits⟩ fun others => ?_
  rw [Cursor.links_op, Cursor.descend_of_le full]
  exact ⟨_, rfl⟩

theorem Stuck.links_operand (room : depth < maxDepth) (sameDepth : depth = base + left.linkCount op)
    (before : Derives (.chain op) front left) (fits : base + left.need ≤ maxDepth)
    (stuck : StuckReading (.operand op) (depth + 1) error tokens) :
    StuckLinks op left front base depth error (.op op :: tokens) := by
  apply stuck.lift [.op op] writable_nil
  case completes =>
    rintro inner ⟨right, derived, fitsRight⟩
    refine ⟨.binary left op right, ?_, need_link_le sameDepth fits fitsRight⟩
    simpa using before.snoc derived
  case refuses =>
    intro others _ fails
    rw [List.singleton_append, Cursor.links_op, Cursor.descend_of_lt room, Step.done_bind]
    exact fails.bind

theorem Stuck.links_more (room : depth < maxDepth)
    (reading : Reading (.operand op) used right ⟨tokens, depth + 1⟩ next)
    (stuck : StuckLinks op (.binary left op right) (front ++ .op op :: used) base (depth + 1) error
      next.rest) :
    StuckLinks op left front base depth error (.op op :: tokens) := by
  have after : tokens = used ++ next.rest := reading.rest_eq
  rw [after, ← List.cons_append]
  apply stuck.lift _ writable_nil
  case completes =>
    intro inner fits
    simpa using fits
  case refuses =>
    intro others sameHead fails
    rw [List.cons_append, Cursor.links_op, Cursor.descend_of_lt room, Step.done_bind,
      reading.read (reading.stops.congr sameHead), Step.done_bind]
    exact fails

theorem Stuck.not_tooDeep (full : maxDepth ≤ depth) (shallow : depth ≤ maxDepth) :
    StuckReading .negation depth .tooDeep (.not :: tokens) := by
  -- A role may stand in the place of the negation, since it opens no level.
  refine .here (by simp) writable_role (Phrase.fits_role _ shallow) fun others => ?_
  rw [Cursor.read_not, Cursor.descend_of_le full]
  exact ⟨_, rfl⟩

theorem Stuck.not (room : depth < maxDepth)
    (stuck : StuckReading .negation (depth + 1) error tokens) :
    StuckReading .negation depth error (.not :: tokens) := by
  apply stuck.lift [.not] writable_nil
  case completes =>
    rintro inner ⟨tree, derived, fits⟩
    refine ⟨.not tree, by simpa using derived.not, ?_⟩
    simp only [Expr.need]
    omega
  case refuses =>
    intro others _ fails
    rw [List.singleton_append, Cursor.read_not, Cursor.descend_of_lt room, Step.done_bind]
    exact fails.bind

theorem Stuck.negation_primary (other : ∀ rest, tokens ≠ .not :: rest)
    (stuck : StuckReading .primary depth error tokens) :
    StuckReading .negation depth error tokens := by
  apply stuck.lift [] writable_nil
  case completes =>
    rintro inner ⟨tree, derived, fits⟩
    exact ⟨tree, by simpa using derived.primary, fits⟩
  case refuses =>
    intro others sameHead fails
    rwa [List.nil_append, Cursor.read_negation_other (Cursor.starts_congr sameHead other)]

theorem Stuck.leftParen_tooDeep (full : maxDepth ≤ depth) (shallow : depth ≤ maxDepth) :
    StuckReading .primary depth .tooDeep (.leftParen :: tokens) := by
  refine .here (by simp) writable_role (Phrase.fits_role _ shallow) fun others => ?_
  rw [Cursor.read_leftParen, Cursor.descend_of_le full]
  exact ⟨_, rfl⟩

theorem Phrase.Fits.group (fits : (Phrase.chain .or).Fits (depth + 1) tokens) :
    Phrase.primary.Fits depth (.leftParen :: (tokens ++ [.rightParen])) := by
  obtain ⟨tree, derived, fits⟩ := fits
  refine ⟨.group tree, derived.group, ?_⟩
  simp only [Expr.need]
  omega

theorem Stuck.group_inner (room : depth < maxDepth)
    (stuck : StuckReading (.chain .or) (depth + 1) error tokens) :
    StuckReading .primary depth error (.leftParen :: tokens) := by
  apply stuck.lift [.leftParen] writable_rightParen
  case completes =>
    intro inner fits
    exact fits.group
  case refuses =>
    intro others _ fails
    rw [List.singleton_append, Cursor.read_leftParen, Cursor.descend_of_lt room, Step.done_bind]
    exact fails.bind

theorem Stuck.group_unclosed (room : depth < maxDepth)
    (reading : Reading (.chain .or) used tree ⟨tokens, depth + 1⟩ next)
    (failed : next.closeParen = .failed error stopped) :
    StuckReading .primary depth error (.leftParen :: tokens) := by
  have after : tokens = used ++ next.rest := reading.rest_eq
  have sameDepth : next.depth = depth + 1 := reading.depth_eq
  obtain ⟨rest, nextDepth⟩ := next
  simp only at after sameDepth
  subst after sameDepth
  apply (Cursor.closeParen_stuck failed).lift (.leftParen :: used) writable_nil
  case completes =>
    rintro _ rfl
    -- The group lacks nothing but its parenthesis.
    have fits : (Phrase.chain .or).Fits (depth + 1) used := ⟨tree, reading.derives, reading.fits⟩
    simpa using fits.group
  case refuses =>
    intro others sameHead fails
    rw [List.cons_append, Cursor.read_leftParen, Cursor.descend_of_lt room, Step.done_bind,
      reading.read (reading.stops.congr sameHead), Step.done_bind]
    exact fails.bind

theorem Stuck.primary_atom (shallow : depth ≤ maxDepth)
    (other : ∀ rest, tokens ≠ .leftParen :: rest)
    (failed : Cursor.atom ⟨tokens, depth⟩ = .failed error stopped) :
    StuckReading .primary depth error tokens := by
  apply (Cursor.atom_stuck failed).lift [] writable_nil
  case completes =>
    rintro inner ⟨atom, spelled⟩
    exact ⟨.atom atom, by simpa using Derives.atom spelled, shallow⟩
  case refuses =>
    intro others sameHead fails
    rw [List.nil_append, Cursor.read_primary_other (Cursor.starts_congr sameHead other)]
    exact fails.bind

end

theorem stuck_of_read :
    (∀ (phrase : Phrase) (c : Cursor), c.depth ≤ maxDepth → ∀ error stopped,
      c.read phrase = .failed error stopped → StuckReading phrase c.depth error c.rest) ∧
    ∀ (op : BinaryOp) (left : Expr) (c : Cursor) (base : Nat) (front : List Token),
      c.depth = base + left.linkCount op → base + left.need ≤ maxDepth →
      (Phrase.operand op).Stops left c.rest → Derives (.chain op) front left → ∀ error stopped,
        c.links op left = .failed error stopped →
        StuckLinks op left front base c.depth error c.rest := by
  apply Cursor.read_induction
    (fun phrase c => c.depth ≤ maxDepth → ∀ error stopped,
      c.read phrase = .failed error stopped → StuckReading phrase c.depth error c.rest)
    (fun op left c => ∀ base front, c.depth = base + left.linkCount op →
      base + left.need ≤ maxDepth → (Phrase.operand op).Stops left c.rest →
      Derives (.chain op) front left → ∀ error stopped, c.links op left = .failed error stopped →
        StuckLinks op left front base c.depth error c.rest)
  case chain =>
    intro op c operand links shallow error stopped failed
    rw [Cursor.read_chain] at failed
    rcases Step.bind_eq_failed.mp failed with first | ⟨left, next, first, rest⟩
    · exact (operand shallow error stopped first).chain_first
    -- Behind the links nothing more is read, so one of them has failed.
    rcases Step.bind_eq_failed.mp rest with linked | ⟨_, _, _, impossible⟩
    · obtain ⟨used, reading⟩ := reading_of_read.1 _ c shallow left next first
      have count : next.depth = c.depth + left.linkCount op := by
        rw [reading.depth_eq, reading.derives.linkCount_eq_zero, Nat.add_zero]
      have stuck := links left next first c.depth used count reading.fits reading.stops
        reading.derives.single error stopped linked
      rw [reading.depth_eq] at stuck
      exact stuck.chain_links reading
    · cases impossible
  case links =>
    intro op left c operand links base front sameDepth fits stops before error stopped failed
    obtain ⟨tokens, depth⟩ := c
    rcases Cursor.starts_or (.op op) tokens with ⟨rest, rfl⟩ | other
    · rw [Cursor.links_op] at failed
      rcases Cursor.descend_bind_eq_failed failed with ⟨full, rfl⟩ | ⟨room, deeper⟩
      · exact .links_tooDeep full before fits
      rcases Step.bind_eq_failed.mp deeper with inner | ⟨right, next, first, linked⟩
      · exact (operand rest rfl room error stopped inner).links_operand room sameDepth before fits
      · obtain ⟨used, reading⟩ := reading_of_read.1 _ ⟨rest, depth + 1⟩ room right next first
        have count : next.depth = base + (Expr.binary left op right).linkCount op := by
          simp only at sameDepth
          rw [reading.depth_eq]
          simp only [Expr.linkCount, if_true, sameDepth, Nat.add_assoc]
        have stuck := links rest right next rfl first base _ count
          (need_link_le sameDepth fits reading.fits) reading.stops (before.snoc reading.derives)
          error stopped linked
        rw [reading.depth_eq] at stuck
        exact stuck.links_more room reading
    · rw [Cursor.links_other other] at failed
      cases failed
  case negation =>
    intro c operand primary shallow error stopped failed
    obtain ⟨tokens, depth⟩ := c
    rcases Cursor.starts_or .not tokens with ⟨rest, rfl⟩ | other
    · rw [Cursor.read_not] at failed
      rcases Cursor.descend_bind_eq_failed failed with ⟨full, rfl⟩ | ⟨room, deeper⟩
      · exact .not_tooDeep full shallow
      rcases Step.bind_eq_failed.mp deeper with inner | ⟨_, _, _, impossible⟩
      · exact (operand rest rfl room error stopped inner).not room
      · cases impossible
    · rw [Cursor.read_negation_other other] at failed
      exact (primary shallow error stopped failed).negation_primary other
  case primary =>
    intro c group shallow error stopped failed
    obtain ⟨tokens, depth⟩ := c
    rcases Cursor.starts_or .leftParen tokens with ⟨rest, rfl⟩ | other
    · rw [Cursor.read_leftParen] at failed
      rcases Cursor.descend_bind_eq_failed failed with ⟨full, rfl⟩ | ⟨room, deeper⟩
      · exact .leftParen_tooDeep full shallow
      rcases Step.bind_eq_failed.mp deeper with inner | ⟨tree, next, first, closing⟩
      · exact (group rest rfl room error stopped inner).group_inner room
      rcases Step.bind_eq_failed.mp closing with unclosed | ⟨_, _, _, impossible⟩
      · obtain ⟨used, reading⟩ := reading_of_read.1 _ ⟨rest, depth + 1⟩ room tree next first
        exact .group_unclosed room reading unclosed
      · cases impossible
    · rw [Cursor.read_primary_other other] at failed
      rcases Step.bind_eq_failed.mp failed with atom | ⟨_, _, _, impossible⟩
      · exact .primary_atom shallow other atom
      · cases impossible

/-! ### Whole expressions -/

namespace Expr

def Accepts (tokens : List Token) : Prop := ∃ tree, Expr.parseTokens tokens = .ok tree

theorem accepts_of_fits {tokens : List Token} (fits : (Phrase.chain .or).Fits 0 tokens) :
    Accepts tokens := by
  obtain ⟨tree, derived, fits⟩ := fits
  rw [Nat.zero_add] at fits
  exact ⟨tree, Expr.parseTokens_eq_ok_iff.mpr ⟨derived, fits⟩⟩

theorem ofTokens_of_failsWith {tokens : List Token} {error : ParseError}
    (fails : (Cursor.read (.chain .or) ⟨tokens, 0⟩).FailsWith error) :
    Expr.ofTokens tokens = .error error := by
  obtain ⟨stopped, failed⟩ := fails
  have failed : Cursor.chain .or ⟨tokens, 0⟩ = _ := failed
  rw [Expr.ofTokens, failed]

theorem failsWith_of_negation {c : Cursor} {error : ParseError}
    (fails : (c.read .negation).FailsWith error) : (c.read (.chain .or)).FailsWith error := by
  have conjunction : (c.read (.chain .and)).FailsWith error := by
    rw [Cursor.read_chain]
    exact fails.bind
  rw [Cursor.read_chain]
  exact conjunction.bind

theorem stuck_of_parseTokens {tokens : List Token} {error : ParseError}
    (failed : Expr.parseTokens tokens = .error error) :
    Stuck Accepts (fun tokens => Expr.parseTokens tokens = .error error) error tokens := by
  have someRole : Accepts [.word "a"] := accepts_of_fits (Phrase.fits_role _ (Nat.zero_le _))
  cases tokens with
  | nil =>
    cases failed
    exact .ended trivial writable_role someRole
  | cons token rest =>
    change Expr.ofTokens (token :: rest) = .error error at failed
    rw [Expr.ofTokens] at failed
    split at failed
    · cases failed
    · next tree left more depth read =>
      -- A whole expression was read, and the token after it is one too many.
      cases failed
      obtain ⟨used, reading⟩ := reading_of_read.1 (.chain .or) ⟨token :: rest, 0⟩ (Nat.zero_le _)
        _ _ read
      have all : token :: rest = used ++ left :: more := reading.rest_eq
      rw [all]
      refine .refused (by simp) writable_nil ?_ fun others => ?_
      · exact accepts_of_fits ⟨tree, by simpa using reading.derives, reading.fits⟩
      · have again : Cursor.chain .or ⟨used ++ left :: others, 0⟩ =
            .done tree ⟨left :: others, 0⟩ := reading.read (reading.stops.congr rfl)
        cases used with
        | nil => exact absurd rfl reading.derives.ne_nil
        | cons first used =>
          change Expr.ofTokens (first :: used ++ left :: others) = _
          rw [Expr.ofTokens, again]
    · next found stopped read =>
      cases failed
      have stuck := stuck_of_read.1 (.chain .or) ⟨token :: rest, 0⟩ (Nat.zero_le _) error stopped
        read
      apply stuck.lift [] writable_nil
      case completes =>
        intro inner fits
        simpa using accepts_of_fits fits
      case refuses =>
        intro others sameHead fails
        cases others with
        | nil => cases sameHead
        | cons other others => exact ofTokens_of_failsWith fails

/-! ### Texts -/

theorem parse_append_space {text : String} {tokens : List Token} (more : String)
    (found : tokenize text.toList = .ok tokens) :
    Expr.parse (text ++ " " ++ more) =
      match tokenize more.toList with
      | .error error => .error error
      | .ok others => Expr.parseTokens (tokens ++ others) := by
  have shape : (text ++ " " ++ more).toList = text.toList ++ ' ' :: more.toList := by simp
  rw [Expr.parse, shape, tokenize_append_space _ found]
  cases tokenize more.toList <;> rfl

/-- An error that no character of the text causes comes from its tokens. -/
theorem parseTokens_of_parse {text : String} {error : ParseError}
    (failed : Expr.parse text = .error error) (noCharacter : ∀ c, error ≠ lexicalError c) :
    ∃ tokens, tokenize text.toList = .ok tokens ∧ Expr.parseTokens tokens = .error error := by
  unfold Expr.parse at failed
  cases found : tokenize text.toList with
  | error lexical =>
    rw [found] at failed
    cases failed
    obtain ⟨_, c, _, _, same⟩ := tokenize_eq_error_iff.mp found
    exact absurd same (noCharacter c)
  | ok tokens =>
    rw [found] at failed
    exact ⟨tokens, rfl, failed⟩

theorem parse_append_space_of_refused {text : String} {error : ParseError}
    (failed : Expr.parse text = .error error)
    (final : error = .tooDeep ∨ ∃ token, error = .unexpectedToken token) (more : String) :
    ∃ other, Expr.parse (text ++ " " ++ more) = .error other := by
  have noCharacter (c : Char) : error ≠ lexicalError c := by
    rcases final with rfl | ⟨token, rfl⟩ <;> unfold lexicalError <;> split <;> nofun
  obtain ⟨tokens, found, refused⟩ := parseTokens_of_parse failed noCharacter
  rw [parse_append_space more found]
  cases tokenize more.toList with
  | error lexical => exact ⟨lexical, rfl⟩
  | ok others =>
    cases stuck_of_parseTokens refused with
    | ended incomplete => rcases final with rfl | ⟨token, rfl⟩ <;> cases incomplete
    | refused _ _ _ always =>
      -- The appended tokens come after the one that is refused.
      refine ⟨error, ?_⟩
      dsimp only
      rw [List.append_assoc]
      exact always _

theorem parse_append_space_of_ended {text : String}
    (failed : Expr.parse text = .error .unexpectedEnd) :
    ∃ more tree, Expr.parse (text ++ " " ++ more) = .ok tree := by
  have noCharacter (c : Char) : ParseError.unexpectedEnd ≠ lexicalError c := by
    unfold lexicalError
    split <;> nofun
  obtain ⟨tokens, found, refused⟩ := parseTokens_of_parse failed noCharacter
  cases stuck_of_parseTokens refused with
  | @ended _ more _ writable accepted =>
    -- The tokens that complete the expression are written behind the space.
    obtain ⟨ending, spelled⟩ := writable.spelling
    obtain ⟨tree, parsed⟩ := accepted
    refine ⟨String.ofList ending, tree, ?_⟩
    rw [parse_append_space _ found, String.toList_ofList, tokenize_eq_ok_iff.mpr spelled]
    exact parsed
  | refused noEnd => exact absurd rfl noEnd

/-- The parser has the correct-prefix property. What stands before the place where it fails is the
beginning of an expression; the tokens end there too early, or the next one is refused for good. So
no text after a space repairs a token that was not expected or a level that is too deep, and some
text repairs an end that was not expected. -/
theorem parse_correctPrefix :
    (∀ tokens error, Expr.parseTokens tokens = .error error →
      ∃ used rest, tokens = used ++ rest ∧ (∃ more, Accepts (used ++ more)) ∧
        ((rest = [] ∧ error.Incomplete) ∨
          ∃ token after, rest = token :: after ∧
            ∀ others, Expr.parseTokens (used ++ token :: others) = .error error)) ∧
    (∀ text error, Expr.parse text = .error error →
      (error = .tooDeep ∨ ∃ token, error = .unexpectedToken token) →
      ∀ more, ∃ other, Expr.parse (text ++ " " ++ more) = .error other) ∧
    ∀ text, Expr.parse text = .error .unexpectedEnd →
      ∃ more tree, Expr.parse (text ++ " " ++ more) = .ok tree := by
  refine ⟨?_, fun _ _ failed final => parse_append_space_of_refused failed final,
    fun _ failed => parse_append_space_of_ended failed⟩
  intro tokens error failed
  cases stuck_of_parseTokens failed with
  | ended incomplete _ complete =>
    exact ⟨tokens, [], by simp, ⟨_, complete⟩, .inl ⟨rfl, incomplete⟩⟩
  | refused _ _ complete always =>
    exact ⟨_, _, rfl, ⟨_, complete⟩, .inr ⟨_, _, rfl, always⟩⟩

/-- A negation of nothing is repaired by what it negates, and a parenthesis that closes nothing is
not repaired. -/
theorem parse_not_and_rightParen :
    (∃ used rest, [.not] = used ++ rest ∧ (∃ more, Accepts (used ++ more)) ∧
      ((rest = [] ∧ ParseError.unexpectedEnd.Incomplete) ∨
        ∃ token after, rest = token :: after ∧
          ∀ others, Expr.parseTokens (used ++ token :: others) = .error .unexpectedEnd)) ∧
    (∃ more tree, Expr.parse ("!" ++ " " ++ more) = .ok tree) ∧
    ∃ other, Expr.parse (")" ++ " " ++ "or a") = .error other := by
  have atEnd : Cursor.read .negation ⟨[], 1⟩ = .failed .unexpectedEnd ⟨[], 1⟩ := by
    rw [Cursor.read_negation_other (by simp), Cursor.read_primary_other (by simp)]
    rfl
  have negation : Expr.parseTokens [.not] = .error .unexpectedEnd := by
    apply ofTokens_of_failsWith
    apply failsWith_of_negation
    rw [Cursor.read_not, Cursor.descend_of_lt (by decide), Step.done_bind, atEnd]
    exact ⟨_, rfl⟩
  have closing : Expr.parseTokens [.rightParen] = .error (.unexpectedToken .rightParen) := by
    apply ofTokens_of_failsWith
    apply failsWith_of_negation
    rw [Cursor.read_negation_other (by simp), Cursor.read_primary_other (by simp)]
    exact ⟨_, rfl⟩
  have notSign : tokenize "!".toList = .ok [.not] :=
    tokenize_eq_ok_iff.mpr Lexeme.notSign.spelling
  have rightParen : tokenize ")".toList = .ok [.rightParen] :=
    tokenize_eq_ok_iff.mpr Lexeme.rightParen.spelling
  refine ⟨parse_correctPrefix.1 _ _ negation, parse_correctPrefix.2.2 "!" ?_,
    parse_correctPrefix.2.1 ")" _ ?_ (.inr ⟨.rightParen, rfl⟩) "or a"⟩
  · rw [Expr.parse, notSign]
    exact negation
  · rw [Expr.parse, rightParen]
    exact closing

end Expr

end RoleGate
