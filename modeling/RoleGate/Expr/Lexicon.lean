import RoleGate.Text.Age
import RoleGate.Text.Alphabetic
import RoleGate.Text.Lowercase
import RoleGate.Text.Numeric

/-! The words of role expressions: what a word is made of, which words name classes of models, and
which join a role to a model. -/

set_option autoImplicit false

namespace RoleGate

open Text

def startsWord (c : Char) : Bool := isAlphabetic c || c == '_'

def continuesWord (c : Char) : Bool := isAlphabetic c || isNumber c || c == '_'

theorem continuesWord_of_startsWord {c : Char} (start : startsWord c = true) :
    continuesWord c = true := by
  simp only [startsWord, continuesWord, Bool.or_eq_true] at *
  rcases start with letter | underscore
  · exact .inl (.inl letter)
  · exact .inr underscore

/-- After its capital the name of a class has letters, decimal digits and underscores; other
numbers, and the letters and digits of the latest age, may stand in a word, but not in the name of a
class. -/
def continuesClassName (c : Char) : Bool :=
  (isAlphabetic c || isDecimal c || c == '_') && !isOfLatestAge c

def isClassName (name : String) : Bool :=
  match name.toList with
  | [] => false
  | first :: rest => first.isUpper && rest.all continuesClassName

def prepositions : List String := ["of", "for", "in", "on", "to", "at", "by"]

def isPreposition (name : String) : Bool := prepositions.any (spells name.toList)

end RoleGate
