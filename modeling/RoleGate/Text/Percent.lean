import RoleGate.Text.Utf8

/-! Percent-encoding: a byte written as a percent sign and two hexadecimal digits. -/

set_option autoImplicit false

namespace RoleGate.Text

def hexValue? (byte : UInt8) : Option UInt8 :=
  if 0x30 ≤ byte && byte ≤ 0x39 then some (byte - 0x30)
  else if 0x41 ≤ byte && byte ≤ 0x46 then some (byte - 0x37)
  else if 0x61 ≤ byte && byte ≤ 0x66 then some (byte - 0x57)
  else none

def percentSign : UInt8 := 0x25

def hexPair? (high low : UInt8) : Option UInt8 :=
  match hexValue? high, hexValue? low with
  | some high, some low => some (16 * high + low)
  | _, _ => none

/-- Replaces what is percent-encoded by the bytes it stands for, but for bytes that are to stay
encoded. A percent sign without its digits stands for itself. -/
def unescape (kept : UInt8 → Bool) : List UInt8 → List UInt8
  | [] => []
  | [byte] => [byte]
  | [first, second] => [first, second]
  | byte :: high :: low :: rest =>
    if byte = percentSign then
      match hexPair? high low with
      | some decoded =>
        if kept decoded then byte :: unescape kept (high :: low :: rest)
        else decoded :: unescape kept rest
      | none => byte :: unescape kept (high :: low :: rest)
    else byte :: unescape kept (high :: low :: rest)

def percentDecode (kept : UInt8 → Bool) (text : List Char) : List Char :=
  readUtf8 (unescape kept (writeUtf8 text))

theorem unescape_cons {kept : UInt8 → Bool} {byte : UInt8} (plain : byte ≠ percentSign)
    (rest : List UInt8) : unescape kept (byte :: rest) = byte :: unescape kept rest := by
  match rest with
  | [] => simp [unescape]
  | [_] => simp [unescape]
  | _ :: _ :: _ => simp [unescape, plain]

end RoleGate.Text
