import RoleGate.Expr.Lexer

/-! The spellings of tokens, without regard to how a text is scanned.

Each token has its lexemes, and a text spells tokens when it is made of one lexeme for each, with
white space anywhere between them. Only where a word would run on into the next lexeme is white
space needed.
-/

set_option autoImplicit false

namespace RoleGate

open Text

/-! ### Lexemes -/

def isWord : List Char → Bool
  | [] => false
  | first :: rest => startsWord first && rest.all continuesWord

def keywords : List (String × Token) := [("and", .op .and), ("or", .op .or), ("not", .not)]

def isKeyword (word : List Char) : Bool := keywords.any fun keyword => spells word keyword.1

def isQuote (c : Char) : Bool := c = '\x27' || c = '\x22'

/-- Between quotes the text stands for the value: a backslash may stand before any character, and
has to before a quote of that kind and before another backslash. -/
inductive Quotes (quote : Char) : List Char → List Char → Prop where
  | nil : Quotes quote [] []
  | plain {c : Char} {text value : List Char} : c ≠ quote → c ≠ '\\' →
      Quotes quote text value → Quotes quote (c :: text) (c :: value)
  | escaped {c : Char} {text value : List Char} : Quotes quote text value →
      Quotes quote ('\\' :: c :: text) (c :: value)

inductive Lexeme : List Char → Token → Prop where
  | leftParen : Lexeme ['('] .leftParen
  | rightParen : Lexeme [')'] .rightParen
  | andSign : Lexeme ['&', '&'] (.op .and)
  | orSign : Lexeme ['|', '|'] (.op .or)
  | notSign : Lexeme ['!'] .not
  | keyword {word : List Char} {name : String} {token : Token} : isWord word = true →
      (name, token) ∈ keywords → spells word name = true → Lexeme word token
  | word {word : List Char} : isWord word = true → isKeyword word = false →
      Lexeme word (.word (String.ofList word))
  | symbol {word : List Char} : isWord word = true →
      Lexeme (':' :: word) (.symbol (String.ofList word))
  | quoted {quote : Char} {text value : List Char} : isQuote quote = true →
      Quotes quote text value →
      Lexeme (quote :: (text ++ [quote])) (.quoted (String.ofList value))

/-! ### Spellings -/

/-- A word at the end of the first text would be read on into the second: the last character of the
one and the first of the other may both stand in a word. -/
def runsOn (before after : List Char) : Bool :=
  before.getLast?.any continuesWord && after.head?.any continuesWord

/-- The text is made of a lexeme for each token, with white space before, between and after them. No
word runs on: what follows it starts with white space or with a lexeme that no word goes on with. -/
inductive Spelling : List Char → List Token → Prop where
  | blank {gap : List Char} : (∀ c ∈ gap, isBlank c = true) → Spelling gap []
  | lexeme {gap lexeme rest : List Char} {token : Token} {tokens : List Token} :
      (∀ c ∈ gap, isBlank c = true) → Lexeme lexeme token → runsOn lexeme rest = false →
      Spelling rest tokens → Spelling (gap ++ (lexeme ++ rest)) (token :: tokens)

def Writable (tokens : List Token) : Prop := ∀ token ∈ tokens, ∃ lexeme, Lexeme lexeme token

/-- The text between an opening quote and the end: no quote closes it, and the last character may
be a backslash with nothing to stand for. -/
def Unclosed (quote : Char) (text : List Char) : Prop :=
  ∃ body value, Quotes quote body value ∧ (text = body ∨ text = body ++ ['\\'])

def SpelledBefore (head : List Char) (c : Char) : Prop :=
  (∃ tokens, Spelling head tokens) ∧ runsOn head [c] = false

def StartsNoLexeme (text : List Char) : Prop :=
  ∀ lexeme token, Lexeme lexeme token → ¬ lexeme <+: text

/-! ### Words in any case -/

theorem lowerToAscii_of_isUpper {c : Char} (upper : c.isUpper = true) :
    lowerToAscii c = c.toLower := by
  -- There are 26 capitals, so all of them are looked up.
  have table : ∀ letter < 26,
      lowerToAscii (Char.ofNat (0x41 + letter)) = (Char.ofNat (0x41 + letter)).toLower := by decide
  obtain ⟨above, below⟩ : 'A'.val ≤ c.val ∧ c.val ≤ 'Z'.val := of_decide_eq_true upper
  have above : 0x41 ≤ c.toNat := UInt32.le_iff_toNat_le.mp above
  have below : c.toNat ≤ 0x5A := UInt32.le_iff_toNat_le.mp below
  have found := table (c.toNat - 0x41) (by omega)
  rwa [Nat.add_sub_cancel' above, Char.ofNat_toNat] at found

/-- Beyond ASCII, only the Kelvin sign becomes a letter of ASCII. -/
theorem lowerToAscii_eq (c : Char) :
    lowerToAscii c = if c = '\u212A' then 'k' else c.toLower := by
  by_cases upper : c.isUpper
  · have ascii : c ≠ '\u212A' := by
      rintro rfl
      exact absurd upper (by decide)
    rw [lowerToAscii_of_isUpper upper, if_neg ascii]
  · have same : c.toLower = c := dif_neg fun bounds => upper (decide_eq_true bounds)
    rw [lowerToAscii, if_neg upper, same]

theorem spells_iff_toLower {text : List Char} {word : String} (noK : 'k' ∉ word.toList)
    (noKelvin : '\u212A' ∉ word.toList) :
    spells text word = true ↔ text.map Char.toLower = word.toList := by
  -- Without a k in the word there is no Kelvin sign in the text, on either side.
  have same (inWord : text.map lowerToAscii = word.toList ∨ text.map Char.toLower = word.toList) :
      text.map lowerToAscii = text.map Char.toLower := by
    refine List.map_congr_left fun c member => ?_
    rw [lowerToAscii_eq, if_neg]
    rintro rfl
    rcases inWord with lower | lower
    · exact noK (lower ▸ List.mem_map.mpr ⟨_, member, by decide⟩)
    · exact noKelvin (lower ▸ List.mem_map.mpr ⟨_, member, by decide⟩)
  rw [spells_iff]
  exact ⟨fun lower => (same (.inl lower)).symm.trans lower,
    fun lower => (same (.inr lower)).trans lower⟩

theorem spells_keyword_iff {name : String} {token : Token} (known : (name, token) ∈ keywords)
    (word : List Char) : spells word name = true ↔ word.map Char.toLower = name.toList := by
  have plain : ∀ keyword ∈ keywords, 'k' ∉ keyword.1.toList ∧ '\u212A' ∉ keyword.1.toList := by
    decide
  obtain ⟨noK, noKelvin⟩ := plain _ known
  exact spells_iff_toLower noK noKelvin

/-! ### Words that run on -/

section
variable {front before after rest : List Char}

@[simp] theorem runsOn_nil_right : runsOn before [] = false := by simp [runsOn]

theorem runsOn_append_left (some : before ≠ []) :
    runsOn (front ++ before) after = runsOn before after := by
  simp [runsOn, List.getLast?_eq_some_getLast some]

theorem runsOn_append_right (some : after ≠ []) :
    runsOn before (after ++ rest) = runsOn before after := by
  simp [runsOn, List.head?_eq_some_head some]

theorem runsOn_of_last {c : Char} (front : List Char) (never : continuesWord c = false) :
    runsOn (front ++ [c]) after = false := by
  simp [runsOn, never]

theorem runsOn_of_first {c : Char} (before rest : List Char) (never : continuesWord c = false) :
    runsOn before (c :: rest) = false := by
  simp [runsOn, never]

theorem runsOn_cons {c : Char} : runsOn before (c :: rest) = runsOn before [c] := rfl

end

/-! ### Characters -/

theorem continuesWord_of_isBlank {c : Char} (blank : isBlank c = true) :
    continuesWord c = false := by
  -- White space is a short table of ranges, so all of it is looked up.
  have table : ∀ range ∈ blanks.ranges, ∀ offset ∈ List.range (range.2 - range.1 + 1),
      continuesWord (Char.ofNat (range.1 + offset)) = false := by decide +kernel
  obtain ⟨range, member, above, below⟩ := exists_range_of_codeIn blank
  have found := table range member (c.toNat - range.1) (List.mem_range.mpr (by omega))
  rwa [Nat.add_sub_cancel' above, Char.ofNat_toNat] at found

theorem runsOn_blank {before rest : List Char} {c : Char} (blank : isBlank c = true) :
    runsOn before (c :: rest) = false :=
  runsOn_of_first before rest (continuesWord_of_isBlank blank)

theorem startsWord_of_isWord {c : Char} {rest : List Char} (word : isWord (c :: rest) = true) :
    startsWord c = true := by
  simp only [isWord, Bool.and_eq_true] at word
  exact word.1

theorem continuesWord_of_isWord {word : List Char} (isW : isWord word = true) :
    ∀ c ∈ word, continuesWord c = true := by
  cases word with
  | nil => nofun
  | cons first rest =>
    simp only [isWord, Bool.and_eq_true, List.all_eq_true] at isW
    intro c member
    rcases List.mem_cons.mp member with rfl | member
    · exact continuesWord_of_startsWord isW.1
    · exact isW.2 c member

theorem runsOn_of_isWord {word after : List Char} (isW : isWord word = true) :
    runsOn word after = after.head?.any continuesWord := by
  cases word with
  | nil => cases isW
  | cons first rest =>
    have last : continuesWord ((first :: rest).getLast (by simp)) = true :=
      continuesWord_of_isWord isW _ (List.getLast_mem _)
    simp [runsOn, List.getLast?_eq_some_getLast, last]

theorem ne_of_startsWord {c other : Char} (starts : startsWord c = true)
    (never : startsWord other = false) : c ≠ other := by
  rintro rfl
  simp [starts] at never

theorem isQuote_iff {c : Char} : isQuote c = true ↔ c = '\x27' ∨ c = '\x22' := by
  simp [isQuote]

theorem isBlank_of_startsWord {c : Char} (starts : startsWord c = true) : isBlank c = false := by
  cases blank : isBlank c with
  | false => rfl
  | true =>
    have := continuesWord_of_isBlank blank
    rw [continuesWord_of_startsWord starts] at this
    cases this

theorem Lexeme.cons {lexeme : List Char} {token : Token} (written : Lexeme lexeme token) :
    ∃ c rest, lexeme = c :: rest ∧ isBlank c = false := by
  have ofWord {word : List Char} (isW : isWord word = true) :
      ∃ c rest, word = c :: rest ∧ isBlank c = false := by
    cases word with
    | nil => cases isW
    | cons c rest => exact ⟨c, rest, rfl, isBlank_of_startsWord (startsWord_of_isWord isW)⟩
  cases written with
  | keyword isW => exact ofWord isW
  | word isW => exact ofWord isW
  | quoted isQ =>
    rcases isQuote_iff.mp isQ with rfl | rfl
    · exact ⟨_, _, rfl, by decide⟩
    · exact ⟨_, _, rfl, by decide⟩
  | leftParen | rightParen | andSign | orSign | notSign | symbol => exact ⟨_, _, rfl, by decide⟩

end RoleGate
