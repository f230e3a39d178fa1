/-! Sets of characters, kept as ranges of code points. -/

set_option autoImplicit false

namespace RoleGate.Text

/-- A set of characters: inclusive ranges of code points in ascending order. -/
structure CharSet where
  ranges : List (Nat × Nat)

/-- Membership in ascending ranges; the search stops at the first range that begins later. -/
def codeIn : List (Nat × Nat) → Nat → Bool
  | [], _ => false
  | (first, last) :: rest, code =>
    if code < first then false
    else if code ≤ last then true
    else codeIn rest code

def CharSet.has (set : CharSet) (c : Char) : Bool := codeIn set.ranges c.toNat

/-- A code point that is found lies in one of the ranges, whether or not they ascend. -/
theorem exists_range_of_codeIn {ranges : List (Nat × Nat)} {code : Nat}
    (found : codeIn ranges code = true) :
    ∃ range ∈ ranges, range.1 ≤ code ∧ code ≤ range.2 := by
  induction ranges with
  | nil => simp [codeIn] at found
  | cons head rest ih =>
    obtain ⟨first, last⟩ := head
    simp only [codeIn] at found
    split at found
    · simp at found
    · split at found
      · exact ⟨(first, last), by simp, by omega, by omega⟩
      · obtain ⟨range, member, bounds⟩ := ih found
        exact ⟨range, by simp [member], bounds⟩

end RoleGate.Text
