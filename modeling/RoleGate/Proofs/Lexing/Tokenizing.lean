import Mathlib.Control.Monad.Basic
import RoleGate.Proofs.Lexing.Scanning

/-! Splitting a text into tokens is exact.

The tokens that are found are those that the text spells. A text that spells none is spelled up to
the first character that no lexeme begins with, and that character decides the error.
-/

set_option autoImplicit false

namespace RoleGate

open Text

/-! ### The steps of the tokenizer -/

theorem tokenizeOnto_eq (text : List Char) (seen : List Token) :
    tokenizeOnto seen text = (tokenize text).map (seen.reverse ++ ·) := by
  unfold tokenize
  -- A token takes any number of characters, so the induction is on the length of the text.
  induction bound : text.length using Nat.strongRecOn generalizing text seen with
  | ind n ih =>
    subst bound
    cases text with
    | nil => simp [tokenizeOnto, Except.map]
    | cons c rest =>
      have shorter : rest.length < (c :: rest).length := Nat.lt_succ_self _
      rw [tokenizeOnto, tokenizeOnto]
      split
      · exact ih _ shorter rest seen rfl
      · split
        · rfl
        · next token after read =>
          have := length_readToken_le read
          have shorter : after.length < (c :: rest).length := by
            simp only [List.length_cons]
            omega
          rw [ih _ shorter after (token :: seen) rfl, ih _ shorter after [token] rfl]
          cases tokenizeOnto [] after <;> simp [Except.map]

theorem tokenize_nil : tokenize [] = .ok [] := by
  simp [tokenize, tokenizeOnto]

theorem tokenize_blank {c : Char} {rest : List Char} (blank : isBlank c = true) :
    tokenize (c :: rest) = tokenize rest := by
  rw [tokenize, tokenizeOnto, if_pos blank, tokenize]

theorem tokenize_ok {c : Char} {rest after : List Char} {token : Token}
    (solid : isBlank c = false) (read : readToken c rest = .ok (token, after)) :
    tokenize (c :: rest) = (tokenize after).map (token :: ·) := by
  rw [tokenize, tokenizeOnto, if_neg (ne_true_of_eq_false solid)]
  split
  · next failed => cases read.symm.trans failed
  · next found left same =>
    cases read.symm.trans same
    exact tokenizeOnto_eq after [token]

theorem tokenize_error {c : Char} {rest : List Char} {error : ParseError}
    (solid : isBlank c = false) (read : readToken c rest = .error error) :
    tokenize (c :: rest) = .error error := by
  rw [tokenize, tokenizeOnto, if_neg (ne_true_of_eq_false solid)]
  split
  · next failed => exact congrArg _ (Except.error.inj (failed.symm.trans read))
  · next found left same => cases read.symm.trans same

theorem tokenize_induction {P : List Char → Prop} (nil : P [])
    (blank : ∀ c rest, isBlank c = true → P rest → P (c :: rest))
    (token : ∀ c rest, isBlank c = false →
      (∀ token after, readToken c rest = .ok (token, after) → P after) → P (c :: rest)) :
    ∀ text, P text := by
  intro text
  induction bound : text.length using Nat.strongRecOn generalizing text with
  | ind n ih =>
    subst bound
    cases text with
    | nil => exact nil
    | cons c rest =>
      cases isB : isBlank c with
      | true => exact blank c rest isB (ih _ (Nat.lt_succ_self _) rest rfl)
      | false =>
        refine token c rest isB fun token after read => ?_
        have := length_readToken_le read
        exact ih _ (Nat.lt_succ_of_le this) after rfl

/-! ### Spelled texts -/

theorem tokenize_gap {gap rest : List Char} (blank : ∀ c ∈ gap, isBlank c = true) :
    tokenize (gap ++ rest) = tokenize rest := by
  induction gap with
  | nil => rfl
  | cons c gap ih =>
    rw [List.cons_append, tokenize_blank (blank c (by simp))]
    exact ih fun x member => blank x (by simp [member])

/-- Tokens of a spelling are found in front of anything that its last word does not run on into. -/
theorem tokenize_append {text rest : List Char} {tokens : List Token}
    (spelled : Spelling text tokens) (apart : runsOn text rest = false) :
    tokenize (text ++ rest) = (tokenize rest).map (tokens ++ ·) := by
  induction spelled with
  | blank blank =>
    rw [tokenize_gap blank]
    cases tokenize rest <;> rfl
  | @lexeme gap lexeme more token tokens blank written before _ ih =>
    obtain ⟨c, tail, rfl, solid⟩ := written.cons
    -- What follows the lexeme is the next lexeme, if there is one, and the rest otherwise.
    have follows : runsOn (c :: tail) (more ++ rest) = false ∧ runsOn more rest = false := by
      by_cases last : more = []
      · subst last
        rw [List.append_nil, runsOn_append_left (by simp)] at apart
        exact ⟨apart, rfl⟩
      · rw [runsOn_append_left (by simp), runsOn_append_left last] at apart
        exact ⟨(runsOn_append_right last).trans before, apart⟩
    rw [List.append_assoc, List.append_assoc, tokenize_gap blank, List.cons_append,
      tokenize_ok solid (readToken_of_lexeme written follows.1), ih follows.2]
    cases tokenize rest <;> rfl

theorem Spelling.cons_blank {c : Char} {text : List Char} {tokens : List Token}
    (blank : isBlank c = true) (spelled : Spelling text tokens) : Spelling (c :: text) tokens := by
  cases spelled with
  | blank all => exact .blank (by simpa [blank] using all)
  | @lexeme gap _ _ _ _ all written apart rest =>
    rw [← List.cons_append]
    exact .lexeme (by simpa [blank] using all) written apart rest

theorem Spelling.cons_lexeme {lexeme text : List Char} {token : Token} {tokens : List Token}
    (written : Lexeme lexeme token) (apart : runsOn lexeme text = false)
    (spelled : Spelling text tokens) : Spelling (lexeme ++ text) (token :: tokens) := by
  rw [← List.nil_append (lexeme ++ text)]
  exact .lexeme (by simp) written apart spelled

theorem spelling_of_tokenize (text : List Char) :
    ∀ tokens, tokenize text = .ok tokens → Spelling text tokens := by
  induction text using tokenize_induction with
  | nil =>
    intro tokens found
    rw [tokenize_nil] at found
    cases found
    exact .blank (by simp)
  | blank c rest isB ih =>
    intro tokens found
    rw [tokenize_blank isB] at found
    exact (ih tokens found).cons_blank isB
  | token c rest solid ih =>
    intro tokens found
    cases read : readToken c rest with
    | error error =>
      rw [tokenize_error solid read] at found
      cases found
    | ok first =>
      obtain ⟨token, after⟩ := first
      rw [tokenize_ok solid read] at found
      cases more : tokenize after with
      | error error =>
        rw [more] at found
        cases found
      | ok others =>
        rw [more] at found
        cases found
        obtain ⟨tail, rfl, written, apart⟩ := lexeme_of_readToken read
        exact (ih token after read others more).cons_lexeme written apart

theorem tokenize_eq_ok_iff {text : List Char} {tokens : List Token} :
    tokenize text = .ok tokens ↔ Spelling text tokens := by
  refine ⟨spelling_of_tokenize text tokens, fun spelled => ?_⟩
  have found := tokenize_append spelled runsOn_nil_right
  rw [List.append_nil, tokenize_nil] at found
  simpa [Except.map] using found

theorem Lexeme.spelling {lexeme : List Char} {token : Token} (written : Lexeme lexeme token) :
    Spelling lexeme [token] := by
  have spelled := (Spelling.blank (by simp : ∀ c ∈ [], isBlank c = true)).cons_lexeme written
    runsOn_nil_right
  rwa [List.append_nil] at spelled

theorem Spelling.append {front back : List Char} {tokens others : List Token}
    (first : Spelling front tokens) (last : Spelling back others)
    (apart : runsOn front back = false) : Spelling (front ++ back) (tokens ++ others) := by
  apply tokenize_eq_ok_iff.mp
  rw [tokenize_append first apart, tokenize_eq_ok_iff.mpr last]
  rfl

theorem Spelling.writable {text : List Char} {tokens : List Token}
    (spelled : Spelling text tokens) : Writable tokens := by
  induction spelled with
  | blank => nofun
  | lexeme _ written _ _ ih =>
    intro token member
    rcases List.mem_cons.mp member with rfl | later
    · exact ⟨_, written⟩
    · exact ih token later

theorem tokenize_append_space {text : List Char} {tokens : List Token} (rest : List Char)
    (found : tokenize text = .ok tokens) :
    tokenize (text ++ ' ' :: rest) = (tokenize rest).map (tokens ++ ·) := by
  have space : isBlank ' ' = true := by decide
  rw [tokenize_append (tokenize_eq_ok_iff.mp found) (runsOn_blank space), tokenize_blank space]

theorem Spelling.cons_spaced {lexeme text : List Char} {token : Token} {tokens : List Token}
    (written : Lexeme lexeme token) (spelled : Spelling text tokens) :
    Spelling (lexeme ++ ' ' :: text) (token :: tokens) := by
  have space : isBlank ' ' = true := by decide
  exact (spelled.cons_blank space).cons_lexeme written (runsOn_blank space)

/-- Tokens that can be written are spelled by their lexemes with spaces between them. -/
theorem Writable.spelling {tokens : List Token} (writable : Writable tokens) :
    ∃ text, Spelling text tokens := by
  induction tokens with
  | nil => exact ⟨[], .blank (by simp)⟩
  | cons token tokens ih =>
    obtain ⟨lexeme, written⟩ := writable token (by simp)
    obtain ⟨text, spelled⟩ := ih fun other member => writable other (by simp [member])
    exact ⟨lexeme ++ ' ' :: text, spelled.cons_spaced written⟩

/-! ### Refused texts -/

structure StopsAt (text head : List Char) (c : Char) (tail : List Char) : Prop where
  text_eq : text = head ++ c :: tail
  before : SpelledBefore head c
  solid : isBlank c = false
  noLexeme : StartsNoLexeme (c :: tail)

theorem StopsAt.cons_blank {text head tail : List Char} {x c : Char} (blank : isBlank x = true)
    (stops : StopsAt text head c tail) : StopsAt (x :: text) (x :: head) c tail := by
  obtain ⟨rfl, ⟨⟨tokens, spelled⟩, apart⟩, solid, noLexeme⟩ := stops
  refine ⟨rfl, ⟨⟨tokens, spelled.cons_blank blank⟩, ?_⟩, solid, noLexeme⟩
  by_cases first : head = []
  · subst first
    exact runsOn_of_last [] (continuesWord_of_isBlank blank)
  · rw [← List.singleton_append, runsOn_append_left first]
    exact apart

theorem StopsAt.cons_lexeme {lexeme text head tail : List Char} {token : Token} {c : Char}
    (written : Lexeme lexeme token) (apart : runsOn lexeme text = false)
    (stops : StopsAt text head c tail) : StopsAt (lexeme ++ text) (lexeme ++ head) c tail := by
  obtain ⟨rfl, ⟨⟨tokens, spelled⟩, ends⟩, solid, noLexeme⟩ := stops
  -- The lexeme is followed by what is spelled before the character, or by the character itself.
  have follows : runsOn lexeme head = false ∧ runsOn (lexeme ++ head) [c] = false := by
    by_cases last : head = []
    · subst last
      exact ⟨runsOn_nil_right, by simpa [runsOn] using apart⟩
    · rw [runsOn_append_left last]
      rw [runsOn_append_right last] at apart
      exact ⟨apart, ends⟩
  refine ⟨by simp, ⟨⟨token :: tokens, ?_⟩, follows.2⟩, solid, noLexeme⟩
  exact spelled.cons_lexeme written follows.1

theorem stopsAt_of_tokenize (text : List Char) : ∀ error, tokenize text = .error error →
    ∃ head c tail, StopsAt text head c tail ∧ error = lexicalError c := by
  induction text using tokenize_induction with
  | nil =>
    intro error failed
    rw [tokenize_nil] at failed
    cases failed
  | blank x rest isB ih =>
    intro error failed
    rw [tokenize_blank isB] at failed
    obtain ⟨head, c, tail, stops, same⟩ := ih error failed
    exact ⟨x :: head, c, tail, stops.cons_blank isB, same⟩
  | token x rest solid ih =>
    intro error failed
    cases read : readToken x rest with
    | error found =>
      rw [tokenize_error solid read] at failed
      cases failed
      have same := error_of_readToken read
      have noLexeme : StartsNoLexeme (x :: rest) := startsNoLexeme_iff.mpr (same ▸ read)
      exact ⟨[], x, rest, ⟨rfl, ⟨⟨[], .blank (by simp)⟩, rfl⟩, solid, noLexeme⟩, same⟩
    | ok first =>
      obtain ⟨token, after⟩ := first
      rw [tokenize_ok solid read] at failed
      cases more : tokenize after with
      | ok others =>
        rw [more] at failed
        cases failed
      | error found =>
        rw [more] at failed
        cases failed
        obtain ⟨used, rfl, written, apart⟩ := lexeme_of_readToken read
        obtain ⟨head, c, tail, stops, same⟩ := ih token after read error more
        exact ⟨_, c, tail, stops.cons_lexeme written apart, same⟩

theorem StopsAt.tokenize {text head tail : List Char} {c : Char}
    (stops : StopsAt text head c tail) : tokenize text = .error (lexicalError c) := by
  obtain ⟨rfl, ⟨⟨tokens, spelled⟩, apart⟩, solid, noLexeme⟩ := stops
  rw [tokenize_append spelled (runsOn_cons.trans apart),
    tokenize_error solid (startsNoLexeme_iff.mp noLexeme)]
  rfl

theorem tokenize_eq_error_iff {text : List Char} {error : ParseError} :
    tokenize text = .error error ↔
      ∃ head c tail, StopsAt text head c tail ∧ error = lexicalError c := by
  constructor
  · exact stopsAt_of_tokenize text error
  · rintro ⟨head, c, tail, stops, rfl⟩
    exact stops.tokenize

theorem isBlank_of_isQuote {quote : Char} (isQ : isQuote quote = true) : isBlank quote = false := by
  rcases isQuote_iff.mp isQ with rfl | rfl <;> decide

theorem tokenize_unclosedString_iff {text : List Char} :
    tokenize text = .error .unclosedString ↔
      ∃ head quote tail, text = head ++ quote :: tail ∧ SpelledBefore head quote ∧
        isQuote quote = true ∧ Unclosed quote tail := by
  rw [tokenize_eq_error_iff]
  constructor
  · rintro ⟨head, c, tail, stops, same⟩
    cases isQ : isQuote c with
    | true =>
      exact ⟨head, c, tail, stops.text_eq, stops.before, isQ,
        (startsNoLexeme_quote_iff isQ).mp stops.noLexeme⟩
    | false => simp [lexicalError, isQ] at same
  · rintro ⟨head, quote, tail, shape, before, isQ, unclosed⟩
    refine ⟨head, quote, tail, ⟨shape, before, isBlank_of_isQuote isQ, ?_⟩, ?_⟩
    · exact (startsNoLexeme_quote_iff isQ).mpr unclosed
    · simp [lexicalError, isQ]

theorem tokenize_unexpectedChar_iff {text : List Char} {c : Char} :
    tokenize text = .error (.unexpectedChar c) ↔
      ∃ head tail, text = head ++ c :: tail ∧ SpelledBefore head c ∧ isBlank c = false ∧
        isQuote c = false ∧ StartsNoLexeme (c :: tail) := by
  rw [tokenize_eq_error_iff]
  constructor
  · rintro ⟨head, found, tail, stops, same⟩
    cases isQ : isQuote found with
    | true => simp [lexicalError, isQ] at same
    | false =>
      simp only [lexicalError, isQ, Bool.false_eq_true, if_false, ParseError.unexpectedChar.injEq]
        at same
      subst same
      exact ⟨head, tail, stops.text_eq, stops.before, stops.solid, isQ, stops.noLexeme⟩
  · rintro ⟨head, tail, shape, before, solid, noQ, noLexeme⟩
    refine ⟨head, c, tail, ⟨shape, before, solid, noLexeme⟩, ?_⟩
    simp [lexicalError, noQ]

/-- A text has the tokens that it spells. If it spells none, it is spelled up to a quote that is
never closed or to another character that no lexeme begins with, and the error is that. Keywords
may be written with capitals of ASCII, and no other character stands for one of their letters. -/
theorem tokenize_exact (text : List Char) :
    (∀ tokens, tokenize text = .ok tokens ↔ Spelling text tokens) ∧
    (tokenize text = .error .unclosedString ↔
      ∃ head quote tail, text = head ++ quote :: tail ∧ SpelledBefore head quote ∧
        isQuote quote = true ∧ Unclosed quote tail) ∧
    (∀ c, tokenize text = .error (.unexpectedChar c) ↔
      ∃ head tail, text = head ++ c :: tail ∧ SpelledBefore head c ∧ isBlank c = false ∧
        isQuote c = false ∧ StartsNoLexeme (c :: tail)) ∧
    ((∃ tokens, Spelling text tokens) ∨ tokenize text = .error .unclosedString ∨
      ∃ c, tokenize text = .error (.unexpectedChar c)) ∧
    (∀ name token word, (name, token) ∈ keywords →
      (spells word name = true ↔ word.map Char.toLower = name.toList)) := by
  refine ⟨fun _ => tokenize_eq_ok_iff, tokenize_unclosedString_iff,
    fun _ => tokenize_unexpectedChar_iff, ?_, fun _ _ word known => spells_keyword_iff known word⟩
  cases found : tokenize text with
  | ok tokens => exact .inl ⟨tokens, tokenize_eq_ok_iff.mp found⟩
  | error error =>
    obtain ⟨_, c, _, _, rfl⟩ := tokenize_eq_error_iff.mp found
    refine .inr ?_
    unfold lexicalError
    split
    · exact .inl rfl
    · exact .inr ⟨c, rfl⟩

/-- A keyword in capitals stands right before a quote and a symbol is named like a keyword. In the
second text the last backslash has nothing to stand for, so the quote before it stays open. -/
theorem tokenize_exact_capitals :
    Spelling "A AND'it\\'s' oR!:Not".toList
      [.word "A", .op .and, .quoted "it's", .op .or, .not, .symbol "Not"] ∧
    tokenize "(A or \"it\\".toList = .error .unclosedString ∧ spells "oR".toList "or" = true := by
  have inCapitals := (tokenize_exact []).2.2.2.2 "or" (.op .or) "oR".toList (by decide)
  refine ⟨((tokenize_exact _).1 _).mp (by decide +kernel), (tokenize_exact _).2.1.mpr ?_,
    inCapitals.mpr (by decide)⟩
  have before : Spelling "(A or ".toList [.leftParen, .word "A", .op .or] :=
    ((tokenize_exact _).1 _).mp (by decide +kernel)
  have opened : Unclosed '\x22' ['i', 't', '\\'] := by
    refine ⟨['i', 't'], ['i', 't'], ?_, .inr rfl⟩
    exact .plain (by decide) (by decide) (.plain (by decide) (by decide) .nil)
  exact ⟨"(A or ".toList, '\x22', ['i', 't', '\\'], by decide, ⟨⟨_, before⟩, by decide⟩,
    by decide, opened⟩

end RoleGate
