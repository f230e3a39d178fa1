import RoleGate.Proofs.Lexing.Tokenizing
import RoleGate.Proofs.Parsing.Exactness

/-! Where reading is stuck.

What was read up to that place can still be completed. Either the tokens just end there, or the next
token is refused whatever comes after it.
-/

set_option autoImplicit false

namespace RoleGate

def ParseError.Incomplete : ParseError → Prop
  | .emptyExpression | .unexpectedEnd | .unclosedParen | .missingModel _ => True
  | .unexpectedChar _ | .unexpectedToken _ | .unclosedString | .tooDeep => False

theorem Writable.append {front back : List Token} (first : Writable front) (last : Writable back) :
    Writable (front ++ back) := by
  intro token member
  rcases List.mem_append.mp member with before | after
  · exact first token before
  · exact last token after

theorem writable_nil : Writable [] := nofun

theorem writable_role : Writable [.word "a"] := by
  intro token member
  rw [List.mem_singleton.mp member]
  exact ⟨['a'], .word (by decide) (by decide)⟩

theorem writable_object : Writable [.symbol "a"] := by
  intro token member
  rw [List.mem_singleton.mp member]
  exact ⟨[':', 'a'], .symbol (by decide)⟩

theorem writable_rightParen : Writable [.rightParen] := by
  intro token member
  rw [List.mem_singleton.mp member]
  exact ⟨[')'], .rightParen⟩

def Step.FailsWith {α : Type} (error : ParseError) (step : Step α) : Prop :=
  ∃ stopped, step = .failed error stopped

theorem Step.FailsWith.bind {α β : Type} {error : ParseError} {step : Step α}
    {next : α → Cursor → Step β} (fails : step.FailsWith error) :
    (step.bind next).FailsWith error := by
  obtain ⟨stopped, rfl⟩ := fails
  exact ⟨stopped, rfl⟩

/-- The tokens are stuck on the error: they end before they are complete, or the next one is refused
whatever follows it. What stands before that is completed by tokens that can be written. -/
inductive Stuck (Completes Refuses : List Token → Prop) (error : ParseError) :
    List Token → Prop where
  | ended {tokens more : List Token} : error.Incomplete → Writable more →
      Completes (tokens ++ more) → Stuck Completes Refuses error tokens
  | refused {used more rest : List Token} {token : Token} : error ≠ .unexpectedEnd →
      Writable more → Completes (used ++ more) →
      (∀ others, Refuses (used ++ token :: others)) →
      Stuck Completes Refuses error (used ++ token :: rest)

theorem Stuck.here {Completes Refuses : List Token → Prop} {error : ParseError}
    {more rest : List Token} {token : Token} (noEnd : error ≠ .unexpectedEnd)
    (writable : Writable more) (complete : Completes more)
    (refuses : ∀ others, Refuses (token :: others)) :
    Stuck Completes Refuses error (token :: rest) := by
  rw [← List.nil_append (token :: rest)]
  exact .refused noEnd writable complete refuses

/-- What is stuck stays so behind tokens that do not look further ahead than to the next one. -/
theorem Stuck.lift {Part Whole PartRefuses WholeRefuses : List Token → Prop} {error : ParseError}
    {tokens back : List Token} (stuck : Stuck Part PartRefuses error tokens) (front : List Token)
    (closing : Writable back) (completes : ∀ inner, Part inner → Whole (front ++ inner ++ back))
    (refuses : ∀ others, others.head? = tokens.head? → PartRefuses others →
      WholeRefuses (front ++ others)) :
    Stuck Whole WholeRefuses error (front ++ tokens) := by
  cases stuck with
  | @ended _ more incomplete writable complete =>
    refine .ended incomplete (writable.append closing) ?_
    simpa using completes _ complete
  | @refused used more rest token noEnd writable complete refused =>
    rw [← List.append_assoc]
    refine .refused noEnd (writable.append closing) ?_ fun others => ?_
    · simpa using completes _ complete
    · -- Whether or not something was used before it, the first token stays the first.
      have sameHead : (used ++ token :: others).head? = (used ++ token :: rest).head? := by
        cases used <;> rfl
      rw [List.append_assoc]
      exact refuses _ sameHead (refused others)

/-! ### Atoms -/

namespace Cursor

variable {tokens : List Token} {depth : Nat} {error : ParseError} {stopped : Cursor}
  {asked name : String} {quoted : Bool}

theorem closeParen_stuck (failed : closeParen ⟨tokens, depth⟩ = .failed error stopped) :
    Stuck (· = [.rightParen]) (fun tokens => (closeParen ⟨tokens, depth⟩).FailsWith error) error
      tokens := by
  cases tokens with
  | nil =>
    cases failed
    exact .ended trivial writable_rightParen rfl
  | cons token rest =>
    cases token with
    | rightParen => cases failed
    | word | symbol | quoted | leftParen | op | not =>
      cases failed
      exact .here (by simp) writable_rightParen rfl fun _ => ⟨_, rfl⟩

theorem modelName_stuck (failed : modelName asked ⟨tokens, depth⟩ = .failed error stopped) :
    Stuck (fun tokens => ∃ token model, tokens = [token] ∧ NamesModel token model)
      (fun tokens => (modelName asked ⟨tokens, depth⟩).FailsWith error) error tokens := by
  cases tokens with
  | nil =>
    cases failed
    exact .ended trivial writable_object ⟨_, _, rfl, .symbol⟩
  | cons token rest =>
    cases token with
    | symbol => cases failed
    | word => cases failed
    | quoted | leftParen | rightParen | op | not =>
      cases failed
      exact .here (by simp) writable_object ⟨_, _, rfl, .symbol⟩ fun _ => ⟨_, rfl⟩

theorem call_stuck {token : Token} (named : NamesRole token name quoted)
    (failed : role name quoted ⟨.leftParen :: tokens, depth⟩ = .failed error stopped) :
    Stuck (fun tokens => ∃ atom, SpellsAtom (token :: tokens) atom)
      (fun tokens => (role name quoted ⟨tokens, depth⟩).FailsWith error) error
      (.leftParen :: tokens) := by
  rcases Step.bind_eq_failed.mp failed with noModel | ⟨model, middle, found, closing⟩
  · apply (modelName_stuck noModel).lift [.leftParen] writable_rightParen
    case completes =>
      rintro _ ⟨modelToken, model, rfl, namedModel⟩
      exact ⟨_, .call named namedModel⟩
    case refuses =>
      intro others _ fails
      exact fails.bind
  · -- The model was read, so the parenthesis after it is missing.
    rcases Step.bind_eq_failed.mp closing with noParen | ⟨_, _, _, impossible⟩
    · obtain ⟨modelToken, after, namedModel, sameDepth⟩ := modelName_eq_done_iff.mp found
      obtain ⟨rest, middleDepth⟩ := middle
      simp only at after sameDepth
      subst after sameDepth
      apply (closeParen_stuck noParen).lift [.leftParen, modelToken] writable_nil
      case completes =>
        rintro _ rfl
        exact ⟨_, .call named namedModel⟩
      case refuses =>
        intro others _ fails
        change ((modelName name ⟨modelToken :: others, middleDepth⟩).bind _).FailsWith error
        rw [modelName_of_names namedModel]
        exact fails.bind
    · cases impossible

theorem role_stuck {token : Token} (named : NamesRole token name quoted)
    (failed : role name quoted ⟨tokens, depth⟩ = .failed error stopped) :
    Stuck (fun tokens => ∃ atom, SpellsAtom (token :: tokens) atom)
      (fun tokens => (role name quoted ⟨tokens, depth⟩).FailsWith error) error tokens := by
  cases tokens with
  | nil => cases failed
  | cons next rest =>
    cases next with
    | symbol | quoted | rightParen | op | not => cases failed
    | leftParen => exact call_stuck named failed
    | word word =>
      cases joins : isPreposition word with
      | false => simp [role, joins] at failed
      | true =>
        rw [role_preposition joins] at failed
        rcases Step.bind_eq_failed.mp failed with noModel | ⟨_, _, _, impossible⟩
        · apply (modelName_stuck noModel).lift [.word word] writable_nil
          case completes =>
            rintro _ ⟨modelToken, model, rfl, namedModel⟩
            exact ⟨_, .preposition named joins namedModel⟩
          case refuses =>
            intro others _ fails
            rw [List.singleton_append, role_preposition joins]
            exact fails.bind
        · cases impossible

theorem atom_stuck (failed : Cursor.atom ⟨tokens, depth⟩ = .failed error stopped) :
    Stuck (fun tokens => ∃ atom, SpellsAtom tokens atom)
      (fun tokens => (Cursor.atom ⟨tokens, depth⟩).FailsWith error) error tokens := by
  -- A bare role is an atom of one token, and stands wherever an atom is waited for.
  have someRole : ∃ atom, SpellsAtom [.word "a"] atom := ⟨_, .role (.word (by decide))⟩
  have ofRole {token : Token} {rest : List Token} {name : String} {quoted : Bool}
      (named : NamesRole token name quoted)
      (failed : Cursor.atom ⟨token :: rest, depth⟩ = .failed error stopped) :
      Stuck (fun tokens => ∃ atom, SpellsAtom tokens atom)
        (fun tokens => (Cursor.atom ⟨tokens, depth⟩).FailsWith error) error (token :: rest) := by
    rw [atom_of_namesRole named] at failed
    apply (role_stuck named failed).lift [token] writable_nil
    case completes =>
      intro inner spelled
      simpa using spelled
    case refuses =>
      intro others _ fails
      rwa [List.singleton_append, atom_of_namesRole named]
  cases tokens with
  | nil =>
    cases failed
    exact .ended trivial writable_role someRole
  | cons token rest =>
    cases token with
    | symbol => cases failed
    | quoted => exact ofRole .quoted failed
    | word name =>
      cases known : isClassName name with
      | true => simp [Cursor.atom, known] at failed
      | false => exact ofRole (.word known) failed
    | leftParen | rightParen | op | not =>
      cases failed
      exact .here (by simp) writable_role someRole fun _ => ⟨_, rfl⟩

end Cursor

end RoleGate
