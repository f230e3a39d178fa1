import RoleGate.Expr.Lexicon
import RoleGate.Expr.ParseError
import RoleGate.Text.Blank

/-! Splitting a text into tokens.

White space separates tokens and is dropped; each other character starts a token, and words are
read as far as they go.
-/

set_option autoImplicit false

namespace RoleGate

open Text

def Token.ofWord (word : List Char) : Token :=
  if spells word "and" then .op .and
  else if spells word "or" then .op .or
  else if spells word "not" then .not
  else .word (String.ofList word)

/-- Reads a quoted text up to its closing quote and gives the text, put behind `seen` (which holds
the characters before it, last one first), and what follows. A backslash stands for the character
after it, whatever that is. -/
def readQuoted (quote : Char) (seen : List Char) : List Char → Option (String × List Char)
  | [] => none
  | c :: rest =>
    if c = quote then some (String.ofList seen.reverse, rest)
    else if c = '\\' then
      match rest with
      | [] => none
      | escaped :: rest => readQuoted quote (escaped :: seen) rest
    else readQuoted quote (c :: seen) rest

def readDoubled (c : Char) (op : BinaryOp) : List Char → Except ParseError (Token × List Char)
  | [] => .error (.unexpectedChar c)
  | next :: rest => if next = c then .ok (.op op, rest) else .error (.unexpectedChar c)

def readSymbol : List Char → Except ParseError (Token × List Char)
  | [] => .error (.unexpectedChar ':')
  | c :: rest =>
    if startsWord c then
      let name := String.ofList (c :: rest.takeWhile continuesWord)
      .ok (.symbol name, rest.dropWhile continuesWord)
    else .error (.unexpectedChar ':')

def readToken (c : Char) (rest : List Char) : Except ParseError (Token × List Char) :=
  if c = '(' then .ok (.leftParen, rest)
  else if c = ')' then .ok (.rightParen, rest)
  else if c = '\x27' || c = '\x22' then
    match readQuoted c [] rest with
    | some (name, rest) => .ok (.quoted name, rest)
    | none => .error .unclosedString
  else if c = ':' then readSymbol rest
  else if c = '&' then readDoubled c .and rest
  else if c = '|' then readDoubled c .or rest
  else if c = '!' then .ok (.not, rest)
  else if startsWord c then
    .ok (Token.ofWord (c :: rest.takeWhile continuesWord), rest.dropWhile continuesWord)
  else .error (.unexpectedChar c)

theorem length_readQuoted_le {quote : Char} {seen text rest : List Char} {name : String}
    (read : readQuoted quote seen text = some (name, rest)) : rest.length ≤ text.length := by
  fun_induction readQuoted quote seen text with
  | case1 => simp at read
  | case2 =>
    simp only [Option.some.injEq, Prod.mk.injEq] at read
    simp [read.2]
  | case3 => simp at read
  | case4 _ _ _ _ ih => exact Nat.le_succ_of_le (Nat.le_succ_of_le (ih read))
  | case5 _ _ _ _ _ ih => exact Nat.le_succ_of_le (ih read)

theorem length_readToken_le {c : Char} {text rest : List Char} {token : Token}
    (read : readToken c text = .ok (token, rest)) : rest.length ≤ text.length := by
  have tail (text : List Char) : (text.dropWhile continuesWord).length ≤ text.length :=
    (List.dropWhile_suffix _).length_le
  unfold readToken readSymbol readDoubled at read
  repeat' split at read
  all_goals try (simp at read; done)
  all_goals simp only [Except.ok.injEq, Prod.mk.injEq] at read
  all_goals obtain ⟨_, rfl⟩ := read
  all_goals first
    | exact Nat.le_refl _
    | exact tail _
    | exact Nat.le_succ_of_le (tail _)
    | exact Nat.le_succ _
    | exact length_readQuoted_le (by assumption)

/-- The tokens of a text, behind those of `seen` (last one first). -/
def tokenizeOnto (seen : List Token) (text : List Char) : Except ParseError (List Token) :=
  match text with
  | [] => .ok seen.reverse
  | c :: rest =>
    if isBlank c then tokenizeOnto seen rest
    else
      match read : readToken c rest with
      | .error error => .error error
      | .ok (token, after) =>
        have : after.length ≤ rest.length := length_readToken_le read
        tokenizeOnto (token :: seen) after
termination_by text.length
decreasing_by all_goals simp only [List.length_cons]; omega

def tokenize (text : List Char) : Except ParseError (List Token) := tokenizeOnto [] text

end RoleGate
