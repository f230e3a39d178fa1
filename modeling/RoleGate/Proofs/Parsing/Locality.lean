import RoleGate.Proofs.Parsing.Levels

/-! What reading a phrase depends on, and where it ends.

A phrase that is read takes tokens from its position on, one at least, and depends on those alone:
other tokens may follow it, as long as no phrase goes on with the first of them, and fewer levels
may be open. It ends with as many levels open as at its start, and between the two the levels keep
their order.
-/

set_option autoImplicit false

namespace RoleGate

def Cursor.ofPosition (tokens : List Token) (position depth : Nat) : Cursor :=
  ⟨tokens.drop position, depth⟩

/-- The first of the tokens, if there is one, is no operator and neither a preposition nor an
opening parenthesis. -/
def EndsPhrases (tokens : List Token) : Prop :=
  ∀ token ∈ tokens.head?, (∀ op, token ≠ .op op) ∧ token.scopesRole = false

theorem EndsPhrases.stops {rest : List Token} (ends : EndsPhrases rest) (phrase : Phrase)
    (tree : Expr) : phrase.Stops tree rest := by
  intro token first
  obtain ⟨noOperator, alone⟩ := ends token first
  refine ⟨?_, fun _ => alone⟩
  cases token with
  | op found => exact absurd rfl (noOperator found)
  | word | symbol | quoted | leftParen | rightParen | not =>
    rcases phrase with ⟨_ | _⟩ | _ | _ <;> rfl

section
variable {phrase : Phrase} {used tokens : List Token} {tree : Expr} {next : Cursor}
  {position depth : Nat}

theorem Reading.ofPosition
    (reading : Reading phrase used tree (.ofPosition tokens position depth) next) :
    ∃ last, next = .ofPosition tokens last depth ∧ position < last ∧ last ≤ tokens.length ∧
      tokens.drop position = used ++ tokens.drop last ∧
      (tokens.take last).drop position = used := by
  have taken : tokens.drop position = used ++ next.rest := reading.rest_eq
  have some : 0 < used.length := List.length_pos_iff.mpr reading.derives.ne_nil
  have length := congrArg List.length taken
  simp only [List.length_drop, List.length_append] at length
  have left : tokens.drop (position + used.length) = next.rest := by
    rw [← List.drop_drop, taken, List.drop_left]
  refine ⟨position + used.length, ?_, by omega, by omega, left.symm ▸ taken, ?_⟩
  · obtain ⟨rest, end_⟩ := next
    obtain rfl : end_ = depth := reading.depth_eq
    rw [Cursor.ofPosition, left]
  · rw [List.drop_take, taken, Nat.add_sub_cancel_left, List.take_left]

end

namespace Cursor

/-- A phrase that is read from a position ends further on, within the tokens and at the depth it
started from. What it is read as depends neither on the tokens behind its end nor on levels that
are open around it. Whether or not it is read, the levels keep their order on the way. -/
theorem read_balanced (phrase : Phrase) (tokens : List Token) (position : Nat) {depth : Nat}
    (shallow : depth ≤ maxDepth) :
    (∀ tree next, read phrase (ofPosition tokens position depth) = .done tree next →
      ∃ last, next = ofPosition tokens last depth ∧ position < last ∧ last ≤ tokens.length ∧
        (∀ rest, EndsPhrases rest →
          read phrase (ofPosition (tokens.take last ++ rest) position depth) =
            .done tree (ofPosition (tokens.take last ++ rest) last depth)) ∧
        ∀ less ≤ depth, read phrase (ofPosition tokens position less) =
          .done tree (ofPosition tokens last less)) ∧
    (trace phrase (ofPosition tokens position depth)).step =
      read phrase (ofPosition tokens position depth) ∧
    (trace phrase (ofPosition tokens position depth)).Orderly depth depth := by
  have orderly := orderly_trace.1 phrase (ofPosition tokens position depth) shallow
  refine ⟨fun tree next reads => ?_, step_trace.1 _ _, orderly⟩
  obtain ⟨used, reading⟩ := reading_of_read.1 phrase _ shallow tree next reads
  obtain ⟨last, rfl, further, within, here, taken⟩ := reading.ofPosition
  refine ⟨last, rfl, further, within, fun rest ends => ?_, fun less fewer => ?_⟩
  · have front : (tokens.take last).length = last := List.length_take_of_le within
    have start : (tokens.take last ++ rest).drop position = used ++ rest := by
      rw [List.drop_append_of_le_length (by omega), taken]
    have behind : (tokens.take last ++ rest).drop last = rest := List.drop_left' front
    rw [ofPosition, ofPosition, start, behind]
    exact reading.read (ends.stops phrase tree)
  · rw [ofPosition, ofPosition, here]
    exact reading.read_of_le reading.stops fewer

/-- A negation of a group, between an operand before it and one behind it, on the last two levels:
it is read as the same in front of a parenthesis, and with all levels to spare. -/
theorem read_balanced_negation :
    let front : List Token := [.word "b", .op .and, .not, .leftParen, .word "a", .rightParen]
    let tokens : List Token := front ++ [.op .or, .word "c"]
    let tree : Expr := .not (.group (.atom (.role "a" false)))
    254 ≤ maxDepth ∧
    read .negation (ofPosition tokens 2 254) = .done tree (ofPosition tokens 6 254) ∧
    read .negation (ofPosition (front ++ [.rightParen]) 2 254) =
      .done tree (ofPosition (front ++ [.rightParen]) 6 254) ∧
    read .negation (ofPosition tokens 2 0) = .done tree (ofPosition tokens 6 0) ∧
    (trace .negation (ofPosition tokens 2 254)).Orderly 254 254 := by
  intro front tokens tree
  have reads : read .negation (ofPosition tokens 2 254) =
      .done tree (ofPosition tokens 6 254) := by cbv
  obtain ⟨balanced, -, orderly⟩ := read_balanced .negation tokens 2 (by decide : 254 ≤ maxDepth)
  obtain ⟨last, same, _, within, replaced, shallower⟩ := balanced tree _ reads
  obtain rfl : last = 6 := by
    have length := congrArg (fun c : Cursor => c.rest.length) same
    simp only [ofPosition, List.length_drop] at length
    have total : tokens.length = 8 := rfl
    omega
  have ends : EndsPhrases [.rightParen] := by simp [EndsPhrases, Token.scopesRole]
  exact ⟨by decide, reads, replaced _ ends, shallower 0 (Nat.zero_le _), orderly⟩

end Cursor

end RoleGate
