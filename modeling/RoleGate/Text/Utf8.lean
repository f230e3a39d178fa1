/-! Reading bytes as UTF-8, whatever they are: where no character can be read, a replacement
character stands for the bytes that began one. -/

set_option autoImplicit false

namespace RoleGate.Text

def replacement : Char := '\uFFFD'

/-- A character that has begun: the bytes it still lacks, the range that the next of them lies in,
and its code so far. -/
structure PartialChar where
  lacking : Nat
  low : UInt8
  high : UInt8
  code : Nat
  deriving DecidableEq, Repr

/-- Begins a character with its first byte, and tells which characters are complete with it. -/
def beginChar (byte : UInt8) : List Char × Option PartialChar :=
  if byte < 0x80 then ([Char.ofNat byte.toNat], none)
  -- These go on with a character, or would write one of ASCII with two bytes.
  else if byte < 0xC2 then ([replacement], none)
  else if byte < 0xE0 then ([], some ⟨1, 0x80, 0xBF, byte.toNat - 0xC0⟩)
  else if byte < 0xF0 then
    -- The narrower ranges leave out codes that fit into fewer bytes, and surrogates.
    let low := if byte = 0xE0 then 0xA0 else 0x80
    let high := if byte = 0xED then 0x9F else 0xBF
    ([], some ⟨2, low, high, byte.toNat - 0xE0⟩)
  else if byte < 0xF5 then
    -- Likewise, and codes beyond the last character.
    let low := if byte = 0xF0 then 0x90 else 0x80
    let high := if byte = 0xF4 then 0x8F else 0xBF
    ([], some ⟨3, low, high, byte.toNat - 0xF0⟩)
  else ([replacement], none)

/-- Goes on by one byte. A byte that the character cannot go on with begins another one. -/
def continueChar (begun? : Option PartialChar) (byte : UInt8) : List Char × Option PartialChar :=
  match begun? with
  | none => beginChar byte
  | some begun =>
    if begun.low ≤ byte && byte ≤ begun.high then
      let code := 64 * begun.code + (byte.toNat - 0x80)
      if begun.lacking ≤ 1 then ([Char.ofNat code], none)
      else ([], some ⟨begun.lacking - 1, 0x80, 0xBF, code⟩)
    else
      let (chars, next?) := beginChar byte
      (replacement :: chars, next?)

def readUtf8From (begun? : Option PartialChar) : List UInt8 → List Char
  | [] => if begun?.isSome then [replacement] else []
  | byte :: rest =>
    let (chars, next?) := continueChar begun? byte
    chars ++ readUtf8From next? rest

def readUtf8 (bytes : List UInt8) : List Char := readUtf8From none bytes

def writeUtf8 (text : List Char) : List UInt8 := text.flatMap String.utf8EncodeChar

theorem readUtf8_cons_ascii {byte : UInt8} (ascii : byte < 0x80) (rest : List UInt8) :
    readUtf8 (byte :: rest) = Char.ofNat byte.toNat :: readUtf8 rest := by
  simp [readUtf8, readUtf8From, continueChar, beginChar, ascii]

end RoleGate.Text
