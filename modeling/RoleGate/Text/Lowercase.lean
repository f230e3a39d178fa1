/-! Comparing a text with an ASCII word, whatever the case of its letters. -/

set_option autoImplicit false

namespace RoleGate.Text

/-- The lower case of a character where that is an ASCII letter. Only the ASCII capitals and the
Kelvin sign have such a lower case (that of the dotted capital I has a second character); every
other character keeps its place, as none of them ever spells an ASCII letter. -/
def lowerToAscii (c : Char) : Char :=
  if c.isUpper then Char.ofNat (c.toNat + 0x20)
  else if c = '\u212A' then 'k'
  else c

def spells (text : List Char) (word : String) : Bool :=
  text.map lowerToAscii == word.toList

theorem spells_iff {text : List Char} {word : String} :
    spells text word = true ↔ text.map lowerToAscii = word.toList := by
  simp [spells]

end RoleGate.Text
