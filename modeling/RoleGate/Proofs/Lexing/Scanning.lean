import RoleGate.Proofs.Lexing.Spelling

/-! Scanning one token is exact: the scanner takes the longest lexeme that begins the text, and
fails where none does.
-/

set_option autoImplicit false

namespace RoleGate

open Text

/-! ### Quoted texts -/

theorem ne_backslash_of_isQuote {quote : Char} (isQ : isQuote quote = true) : quote ≠ '\\' := by
  rcases isQuote_iff.mp isQ with rfl | rfl <;> decide

section
variable {quote c : Char} {seen rest : List Char}

theorem readQuoted_close :
    readQuoted quote seen (quote :: rest) = some (String.ofList seen.reverse, rest) := by
  rw [readQuoted.eq_def]
  exact if_pos rfl

theorem readQuoted_plain (other : c ≠ quote) (noEscape : c ≠ '\\') :
    readQuoted quote seen (c :: rest) = readQuoted quote (c :: seen) rest := by
  rw [readQuoted.eq_def]
  simp only [other, noEscape, if_false]

theorem readQuoted_escaped (noQuote : quote ≠ '\\') :
    readQuoted quote seen ('\\' :: c :: rest) = readQuoted quote (c :: seen) rest := by
  rw [readQuoted.eq_def]
  simp only [noQuote.symm, if_false, if_true]

theorem readQuoted_backslash (noQuote : quote ≠ '\\') : readQuoted quote seen ['\\'] = none := by
  rw [readQuoted.eq_def]
  simp only [noQuote.symm, if_false, if_true]

end

theorem readQuoted_of_quotes {quote : Char} {text value : List Char} (seen rest : List Char)
    (noEscape : quote ≠ '\\') (quotes : Quotes quote text value) :
    readQuoted quote seen (text ++ quote :: rest) =
      some (String.ofList (seen.reverse ++ value), rest) := by
  induction quotes generalizing seen with
  | nil => simp [readQuoted_close]
  | plain other plain _ ih =>
    rw [List.cons_append, readQuoted_plain other plain, ih]
    simp
  | escaped _ ih =>
    rw [List.cons_append, List.cons_append, readQuoted_escaped noEscape, ih]
    simp

theorem quotes_of_readQuoted {quote : Char} {seen text rest : List Char} {name : String}
    (read : readQuoted quote seen text = some (name, rest)) :
    ∃ body value, text = body ++ quote :: rest ∧ Quotes quote body value ∧
      name = String.ofList (seen.reverse ++ value) := by
  fun_induction readQuoted quote seen text with
  | case1 => cases read
  | case2 =>
    cases read
    exact ⟨[], [], rfl, .nil, by simp⟩
  | case3 => cases read
  | case4 _ escaped _ _ ih =>
    obtain ⟨body, value, rfl, quotes, rfl⟩ := ih read
    exact ⟨'\\' :: escaped :: body, escaped :: value, by simp, .escaped quotes, by simp⟩
  | case5 _ c _ other noEscape ih =>
    obtain ⟨body, value, rfl, quotes, rfl⟩ := ih read
    exact ⟨c :: body, c :: value, by simp, .plain other noEscape quotes, by simp⟩

theorem unclosed_of_readQuoted {quote : Char} {seen text : List Char}
    (read : readQuoted quote seen text = none) : Unclosed quote text := by
  fun_induction readQuoted quote seen text with
  | case1 => exact ⟨[], [], .nil, .inl rfl⟩
  | case2 => cases read
  | case3 => exact ⟨[], [], .nil, .inr rfl⟩
  | case4 _ escaped _ _ ih =>
    obtain ⟨body, value, quotes, same⟩ := ih read
    refine ⟨'\\' :: escaped :: body, escaped :: value, .escaped quotes, ?_⟩
    rcases same with rfl | rfl
    · exact .inl rfl
    · exact .inr rfl
  | case5 _ c _ other noEscape ih =>
    obtain ⟨body, value, quotes, same⟩ := ih read
    refine ⟨c :: body, c :: value, .plain other noEscape quotes, ?_⟩
    rcases same with rfl | rfl
    · exact .inl rfl
    · exact .inr rfl

theorem readQuoted_of_unclosed {quote : Char} {seen text : List Char} (noQuote : quote ≠ '\\')
    (unclosed : Unclosed quote text) : readQuoted quote seen text = none := by
  obtain ⟨body, value, quotes, same⟩ := unclosed
  induction quotes generalizing seen text with
  | nil =>
    rcases same with rfl | rfl
    · rfl
    · exact readQuoted_backslash noQuote
  | plain other noEscape _ ih =>
    rcases same with rfl | rfl
    · rw [readQuoted_plain other noEscape]
      exact ih (.inl rfl)
    · rw [List.cons_append, readQuoted_plain other noEscape]
      exact ih (.inr rfl)
  | escaped _ ih =>
    rcases same with rfl | rfl
    · rw [readQuoted_escaped noQuote]
      exact ih (.inl rfl)
    · rw [List.cons_append, List.cons_append, readQuoted_escaped noQuote]
      exact ih (.inr rfl)

theorem readQuoted_eq_none_iff {quote : Char} {seen text : List Char} (isQ : isQuote quote = true) :
    readQuoted quote seen text = none ↔ Unclosed quote text :=
  ⟨unclosed_of_readQuoted, readQuoted_of_unclosed (ne_backslash_of_isQuote isQ)⟩

/-! ### Words -/

theorem ofWord_of_keyword {word : List Char} {name : String} {token : Token}
    (known : (name, token) ∈ keywords) (spelled : spells word name = true) :
    Token.ofWord word = token := by
  simp only [keywords, List.mem_cons, Prod.mk.injEq, List.not_mem_nil, or_false] at known
  rcases known with ⟨rfl, rfl⟩ | ⟨rfl, rfl⟩ | ⟨rfl, rfl⟩ <;>
    simp_all [Token.ofWord, spells_iff]

theorem ofWord_of_other {word : List Char} (other : isKeyword word = false) :
    Token.ofWord word = .word (String.ofList word) := by
  simp only [isKeyword, keywords, List.any_cons, List.any_nil, Bool.or_false,
    Bool.or_eq_false_iff] at other
  simp [Token.ofWord, other]

theorem lexeme_ofWord {word : List Char} (isW : isWord word = true) :
    Lexeme word (Token.ofWord word) := by
  cases known : isKeyword word with
  | false =>
    rw [ofWord_of_other known]
    exact .word isW known
  | true =>
    simp only [isKeyword, List.any_eq_true] at known
    obtain ⟨⟨name, token⟩, member, spelled⟩ := known
    rw [ofWord_of_keyword member spelled]
    exact .keyword isW member spelled

theorem takeWhile_of_head {text : List Char}
    (ends : text.head?.any continuesWord = false) :
    text.takeWhile continuesWord = [] ∧ text.dropWhile continuesWord = text := by
  cases text with
  | nil => exact ⟨rfl, rfl⟩
  | cons c rest =>
    have other : continuesWord c = false := by simpa using ends
    simp [other]

theorem takeWhile_word {c : Char} {more rest : List Char} (isW : isWord (c :: more) = true)
    (apart : runsOn (c :: more) rest = false) :
    (more ++ rest).takeWhile continuesWord = more ∧
      (more ++ rest).dropWhile continuesWord = rest := by
  have all : ∀ x ∈ more, continuesWord x = true := fun x member =>
    continuesWord_of_isWord isW x (by simp [member])
  obtain ⟨none, same⟩ := takeWhile_of_head (runsOn_of_isWord isW ▸ apart)
  rw [List.takeWhile_append_of_pos all, List.dropWhile_append_of_pos all, none, same]
  exact ⟨List.append_nil more, rfl⟩

theorem isWord_takeWhile {c : Char} (starts : startsWord c = true) (text : List Char) :
    isWord (c :: text.takeWhile continuesWord) = true ∧
      runsOn (c :: text.takeWhile continuesWord) (text.dropWhile continuesWord) = false := by
  have isW : isWord (c :: text.takeWhile continuesWord) = true := by
    simp [isWord, starts]
  refine ⟨isW, ?_⟩
  rw [runsOn_of_isWord isW]
  have ends := List.head?_dropWhile_not continuesWord text
  cases first : (text.dropWhile continuesWord).head? with
  | none => rfl
  | some x => simpa [first] using ends

/-! ### One token -/

theorem readToken_word {c : Char} (starts : startsWord c = true) (text : List Char) :
    readToken c text = .ok (Token.ofWord (c :: text.takeWhile continuesWord),
      text.dropWhile continuesWord) := by
  -- None of the rules before the one for words applies to a character that starts a word.
  have other (x : Char) (never : startsWord x = false) : c ≠ x := ne_of_startsWord starts never
  simp [readToken, other '(' (by decide), other ')' (by decide), other '\x27' (by decide),
    other '\x22' (by decide), other ':' (by decide), other '&' (by decide),
    other '|' (by decide), other '!' (by decide), starts]

theorem readToken_quote {quote : Char} (isQ : isQuote quote = true) (text : List Char) :
    readToken quote text = match readQuoted quote [] text with
      | some (name, rest) => .ok (.quoted name, rest)
      | none => .error .unclosedString := by
  rcases isQuote_iff.mp isQ with rfl | rfl <;> rfl

theorem readToken_of_lexeme {c : Char} {more rest : List Char} {token : Token}
    (written : Lexeme (c :: more) token) (apart : runsOn (c :: more) rest = false) :
    readToken c (more ++ rest) = .ok (token, rest) := by
  have ofWord (isW : isWord (c :: more) = true) :
      readToken c (more ++ rest) = .ok (Token.ofWord (c :: more), rest) := by
    obtain ⟨taken, left⟩ := takeWhile_word isW apart
    rw [readToken_word (startsWord_of_isWord isW), taken, left]
  cases written with
  | leftParen => rfl
  | rightParen => rfl
  | andSign => rfl
  | orSign => rfl
  | notSign => rfl
  | keyword isW known spelled => rw [ofWord isW, ofWord_of_keyword known spelled]
  | word isW other => rw [ofWord isW, ofWord_of_other other]
  | symbol isW =>
    -- Behind its colon a symbol is read like a word, whether or not the word is a keyword.
    cases more with
    | nil => cases isW
    | cons first more =>
      have apart : runsOn (first :: more) rest = false := by
        have same : runsOn ([':'] ++ first :: more) rest = _ := runsOn_append_left (by simp)
        exact same.symm.trans apart
      obtain ⟨taken, left⟩ := takeWhile_word isW apart
      change readSymbol (first :: (more ++ rest)) = _
      rw [readSymbol, if_pos (startsWord_of_isWord isW), taken, left]
  | @quoted _ text value isQ quotes =>
    have read := readQuoted_of_quotes [] rest (ne_backslash_of_isQuote isQ) quotes
    rw [readToken_quote isQ, List.append_assoc, List.singleton_append, read]
    rfl

/-- A lexeme that begins the text, whether or not it runs on, makes the scanner find a token. -/
theorem readToken_of_begins {c : Char} {text lexeme : List Char} {token : Token}
    (written : Lexeme lexeme token) (begins : lexeme <+: c :: text) :
    ∃ found, readToken c text = .ok found := by
  obtain ⟨rest, same⟩ := begins
  have ofWord {word : List Char} (isW : isWord word = true) (same : word ++ rest = c :: text) :
      ∃ found, readToken c text = .ok found := by
    cases word with
    | nil => cases isW
    | cons first more =>
      cases same
      exact ⟨_, readToken_word (startsWord_of_isWord isW) _⟩
  cases written with
  | keyword isW => exact ofWord isW same
  | word isW => exact ofWord isW same
  | @symbol word isW =>
    cases word with
    | nil => cases isW
    | cons first more =>
      cases same
      exact ⟨_, if_pos (startsWord_of_isWord isW)⟩
  | @quoted quote body value isQ quotes =>
    simp only [List.cons_append, List.append_assoc, List.nil_append, List.cons.injEq] at same
    obtain ⟨rfl, rfl⟩ := same
    have read := readQuoted_of_quotes [] rest (ne_backslash_of_isQuote isQ) quotes
    rw [readToken_quote isQ, read]
    exact ⟨_, rfl⟩
  | leftParen | rightParen | andSign | orSign | notSign =>
    cases same
    exact ⟨_, rfl⟩

theorem lexeme_of_readSymbol {text rest : List Char} {token : Token}
    (read : readSymbol text = .ok (token, rest)) :
    ∃ word, text = word ++ rest ∧ Lexeme (':' :: word) token ∧
      runsOn (':' :: word) rest = false := by
  cases text with
  | nil => cases read
  | cons first text =>
    simp only [readSymbol] at read
    split at read
    · next starts =>
      cases read
      obtain ⟨isW, apart⟩ := isWord_takeWhile starts text
      refine ⟨first :: text.takeWhile continuesWord, ?_, .symbol isW, ?_⟩
      · rw [List.cons_append, List.takeWhile_append_dropWhile]
      · rw [← List.singleton_append, runsOn_append_left (by simp)]
        exact apart
    · cases read

theorem eq_of_readDoubled {c : Char} {op : BinaryOp} {text rest : List Char} {token : Token}
    (read : readDoubled c op text = .ok (token, rest)) : text = c :: rest ∧ token = .op op := by
  cases text with
  | nil => cases read
  | cons next text =>
    simp only [readDoubled] at read
    split at read
    · next same =>
      cases read
      exact ⟨by rw [same], rfl⟩
    · cases read

theorem lexeme_of_readToken {c : Char} {text rest : List Char} {token : Token}
    (read : readToken c text = .ok (token, rest)) :
    ∃ more, text = more ++ rest ∧ Lexeme (c :: more) token ∧ runsOn (c :: more) rest = false := by
  -- The cases are the rules of the scanner in their order, each for the character it starts with.
  rw [readToken] at read
  split at read
  · next same =>
    cases read
    exact ⟨[], rfl, same ▸ .leftParen, runsOn_of_last [] (same ▸ by decide)⟩
  split at read
  · next same =>
    cases read
    exact ⟨[], rfl, same ▸ .rightParen, runsOn_of_last [] (same ▸ by decide)⟩
  split at read
  · next same =>
    have isQ : isQuote c = true := same
    split at read
    · next name after found =>
      cases read
      obtain ⟨body, value, rfl, quotes, rfl⟩ := quotes_of_readQuoted found
      refine ⟨body ++ [c], by simp, .quoted isQ quotes, ?_⟩
      rw [← List.cons_append]
      exact runsOn_of_last _ (by rcases isQuote_iff.mp isQ with rfl | rfl <;> decide)
    · cases read
  split at read
  · next same =>
    obtain ⟨word, rfl, written, apart⟩ := lexeme_of_readSymbol read
    exact ⟨word, rfl, same ▸ written, same ▸ apart⟩
  split at read
  · next same =>
    obtain ⟨rfl, rfl⟩ := eq_of_readDoubled read
    exact ⟨[c], rfl, same ▸ .andSign, runsOn_of_last [c] (same ▸ by decide)⟩
  split at read
  · next same =>
    obtain ⟨rfl, rfl⟩ := eq_of_readDoubled read
    exact ⟨[c], rfl, same ▸ .orSign, runsOn_of_last [c] (same ▸ by decide)⟩
  split at read
  · next same =>
    cases read
    exact ⟨[], rfl, same ▸ .notSign, runsOn_of_last [] (same ▸ by decide)⟩
  split at read
  · next starts =>
    cases read
    obtain ⟨isW, apart⟩ := isWord_takeWhile starts text
    exact ⟨_, (List.takeWhile_append_dropWhile).symm, lexeme_ofWord isW, apart⟩
  · cases read

theorem error_of_readSymbol {text : List Char} {error : ParseError}
    (read : readSymbol text = .error error) : error = .unexpectedChar ':' := by
  cases text with
  | nil =>
    cases read
    rfl
  | cons first text =>
    simp only [readSymbol] at read
    split at read
    · cases read
    · cases read
      rfl

theorem error_of_readDoubled {c : Char} {op : BinaryOp} {text : List Char} {error : ParseError}
    (read : readDoubled c op text = .error error) : error = .unexpectedChar c := by
  cases text with
  | nil =>
    cases read
    rfl
  | cons next text =>
    simp only [readDoubled] at read
    split at read
    · cases read
    · cases read
      rfl

def lexicalError (c : Char) : ParseError :=
  if isQuote c then .unclosedString else .unexpectedChar c

theorem error_of_readToken {c : Char} {text : List Char} {error : ParseError}
    (read : readToken c text = .error error) : error = lexicalError c := by
  unfold lexicalError
  cases isQ : isQuote c with
  | true =>
    rw [readToken_quote isQ] at read
    split at read
    · cases read
    · cases read
      rfl
  | false =>
    -- The rules that can fail come in the order in which the scanner tries them.
    rw [readToken] at read
    split at read
    · cases read
    split at read
    · cases read
    split at read
    · next same => exact absurd same (ne_true_of_eq_false isQ)
    split at read
    · next same => exact same ▸ error_of_readSymbol read
    split at read
    · exact error_of_readDoubled read
    split at read
    · exact error_of_readDoubled read
    split at read
    · cases read
    split at read
    · cases read
    · cases read
      rfl

theorem startsNoLexeme_iff {c : Char} {text : List Char} :
    StartsNoLexeme (c :: text) ↔ readToken c text = .error (lexicalError c) := by
  constructor
  · intro noLexeme
    cases read : readToken c text with
    | ok first =>
      obtain ⟨token, after⟩ := first
      obtain ⟨used, rfl, written, -⟩ := lexeme_of_readToken read
      exact absurd (List.prefix_append (c :: used) after) (noLexeme _ token written)
    | error error => rw [error_of_readToken read]
  · intro read lexeme token written begins
    obtain ⟨found, same⟩ := readToken_of_begins written begins
    cases read.symm.trans same

/-- At a quote no lexeme begins exactly if the quoted text is never closed. -/
theorem startsNoLexeme_quote_iff {quote : Char} {tail : List Char} (isQ : isQuote quote = true) :
    StartsNoLexeme (quote :: tail) ↔ Unclosed quote tail := by
  rw [startsNoLexeme_iff, readToken_quote isQ, ← readQuoted_eq_none_iff isQ]
  unfold lexicalError
  rw [if_pos isQ]
  cases readQuoted quote [] tail <;> simp

end RoleGate
