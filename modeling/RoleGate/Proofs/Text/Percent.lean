import RoleGate.Proofs.Text.Utf8
import RoleGate.Text.Percent

/-! What a text reads without its percent-encoding.

A slash is no part of an encoded byte, so a text is decoded piece by piece between its slashes, and
where slashes stay encoded no piece gets a new one. If each percent sign has its digits, a text of
which some bytes of ASCII were kept encoded at first is decoded to what it would have been at once.
-/

set_option autoImplicit false

namespace RoleGate.Text

variable {kept : UInt8 → Bool} {byte high low value : UInt8} {bytes first rest : List UInt8}

/-! ### Bytes -/

theorem hexValue?_ascii (digit : hexValue? byte = some value) : byte < 0x80 := by
  simp only [hexValue?, Bool.and_eq_true, decide_eq_true_eq, UInt8.le_iff_toNat_le,
    UInt8.reduceToNat] at digit
  simp only [UInt8.lt_iff_toNat_lt, UInt8.reduceToNat]
  split at digit
  · omega
  split at digit
  · omega
  split at digit
  · omega
  · cases digit

theorem hexPair?_eq_some_iff : hexPair? high low = some value ↔
    ∃ first second, hexValue? high = some first ∧ hexValue? low = some second ∧
      16 * first + second = value := by
  unfold hexPair?
  cases hexValue? high <;> cases hexValue? low <;> simp

/-- The byte, with what follows it, does not encode another byte that is to be decoded. -/
def Stays (kept : UInt8 → Bool) (byte : UInt8) (rest : List UInt8) : Prop :=
  ∀ high low tail value, byte = percentSign → rest = high :: low :: tail →
    hexPair? high low = some value → kept value = true

theorem unescape_escape (pair : hexPair? high low = some value) (free : kept value = false) :
    unescape kept (percentSign :: high :: low :: rest) = value :: unescape kept rest := by
  simp [unescape, pair, free]

theorem ne_percentSign_of_hexValue? (digit : hexValue? byte = some value) :
    byte ≠ percentSign := by
  rintro rfl
  nomatch digit

theorem unescape_kept (pair : hexPair? high low = some value) (keeps : kept value = true) :
    unescape kept (percentSign :: high :: low :: rest) =
      percentSign :: high :: low :: unescape kept rest := by
  obtain ⟨_, _, highDigit, lowDigit, -⟩ := hexPair?_eq_some_iff.mp pair
  rw [← unescape_cons (ne_percentSign_of_hexValue? lowDigit),
    ← unescape_cons (ne_percentSign_of_hexValue? highDigit)]
  simp [unescape, pair, keeps]

theorem unescape_stays (stays : Stays kept byte rest) :
    unescape kept (byte :: rest) = byte :: unescape kept rest := by
  match rest with
  | [] => simp [unescape]
  | [_] => simp [unescape]
  | high :: low :: tail =>
    rw [unescape]
    split
    · next sign =>
      split
      · next value pair => rw [if_pos (stays high low tail value sign rfl pair)]
      · rfl
    · rfl

theorem stays_of_ne (plain : byte ≠ percentSign) : Stays kept byte rest :=
  fun _ _ _ _ sign => absurd sign plain

theorem unescape_induction (kept : UInt8 → Bool) {motive : List UInt8 → Prop} (nil : motive [])
    (stays : ∀ byte rest, Stays kept byte rest → motive rest → motive (byte :: rest))
    (escape : ∀ high low value rest, hexPair? high low = some value → kept value = false →
      motive rest → motive (percentSign :: high :: low :: rest)) (bytes : List UInt8) :
    motive bytes := by
  fun_induction unescape kept bytes with
  | case1 => exact nil
  | case2 => exact stays _ _ nofun nil
  | case3 => exact stays _ _ nofun (stays _ _ nofun nil)
  | case4 high low rest value pair keeps ih =>
    refine stays _ _ ?_ ih
    rintro _ _ _ other - ⟨⟩ otherPair
    cases pair.symm.trans otherPair
    exact keeps
  | case5 high low rest value pair free ih =>
    exact escape high low value rest pair (Bool.eq_false_iff.mpr free) ih
  | case6 high low rest noPair ih =>
    refine stays _ _ ?_ ih
    rintro _ _ _ other - ⟨⟩ otherPair
    nomatch noPair.symm.trans otherPair
  | case7 byte high low rest plain ih => exact stays _ _ (stays_of_ne plain) ih

theorem mem_unescape (member : byte ∈ unescape kept bytes) : byte ∈ bytes ∨ kept byte = false := by
  induction bytes using unescape_induction kept with
  | nil => exact .inl member
  | stays other rest stays ih =>
    rw [unescape_stays stays] at member
    rcases List.mem_cons.mp member with rfl | member
    · exact .inl List.mem_cons_self
    · exact (ih member).imp_left (List.mem_cons_of_mem other)
  | escape high low value rest pair free ih =>
    rw [unescape_escape pair free] at member
    rcases List.mem_cons.mp member with rfl | member
    · exact .inr free
    · exact (ih member).imp_left fun tail => by simp [tail]

theorem unescape_eq_nil_iff : unescape kept bytes = [] ↔ bytes = [] := by
  induction bytes using unescape_induction kept with
  | nil => simp [unescape]
  | stays byte rest stays => simp [unescape_stays stays]
  | escape high low value rest pair free => simp [unescape_escape pair free]

theorem Stays.append {other : UInt8} (stays : Stays kept other first)
    (noDigit : hexValue? byte = none) (rest : List UInt8) :
    Stays kept other (first ++ byte :: rest) := by
  intro high low tail value sign split pair
  obtain ⟨_, _, highDigit, lowDigit, -⟩ := hexPair?_eq_some_iff.mp pair
  match first with
  | [] =>
    cases split
    nomatch noDigit.symm.trans highDigit
  | [_] =>
    cases split
    nomatch noDigit.symm.trans lowDigit
  | _ :: _ :: front =>
    cases split
    exact stays high low front value sign rfl pair

/-- Bytes are decoded piece by piece around one that is no part of an encoded byte. -/
theorem unescape_append (plain : byte ≠ percentSign) (noDigit : hexValue? byte = none)
    (first rest : List UInt8) :
    unescape kept (first ++ byte :: rest) = unescape kept first ++ byte :: unescape kept rest := by
  induction first using unescape_induction kept with
  | nil => exact unescape_cons plain rest
  | stays other first stays ih =>
    rw [List.cons_append, unescape_stays (stays.append noDigit rest), unescape_stays stays, ih,
      List.cons_append]
  | escape high low value first pair free ih =>
    rw [List.cons_append, List.cons_append, List.cons_append, unescape_escape pair free,
      unescape_escape pair free, ih, List.cons_append]

theorem unescape_of_notMem (noSign : percentSign ∉ first) (rest : List UInt8) :
    unescape kept (first ++ rest) = first ++ unescape kept rest := by
  induction first with
  | nil => rfl
  | cons byte first ih =>
    rw [List.mem_cons, not_or] at noSign
    rw [List.cons_append, unescape_cons (Ne.symm noSign.1), ih noSign.2, List.cons_append]

/-! ### Texts -/

theorem writeUtf8_append (first rest : List Char) :
    writeUtf8 (first ++ rest) = writeUtf8 first ++ writeUtf8 rest :=
  List.flatMap_append

theorem percentDecode_eq_nil_iff {text : List Char} : percentDecode kept text = [] ↔ text = [] := by
  rw [percentDecode, readUtf8_eq_nil_iff, unescape_eq_nil_iff]
  cases text <;> simp [writeUtf8]

theorem percentDecode_slash (first rest : List Char) :
    percentDecode kept (first ++ '/' :: rest) =
      percentDecode kept first ++ '/' :: percentDecode kept rest := by
  have written : writeUtf8 (first ++ '/' :: rest) = writeUtf8 first ++ 0x2F :: writeUtf8 rest :=
    writeUtf8_append first ('/' :: rest)
  rw [percentDecode, written, unescape_append (by decide) (by decide), readUtf8_append (by decide)]
  rfl

theorem slash_notMem_percentDecode {text : List Char} (keeps : kept 0x2F = true)
    (single : '/' ∉ text) : '/' ∉ percentDecode kept text := by
  intro member
  obtain ⟨byte, member, same⟩ := mem_readUtf8 member (by decide)
  obtain rfl : byte = 0x2F := UInt8.toNat_inj.mp same
  rcases mem_unescape member with written | free
  · exact single (mem_of_mem_writeUtf8 written (by decide))
  · nomatch keeps.symm.trans free

theorem percentSign_notMem_writeUtf8 {text : List Char} (noSign : '%' ∉ text) :
    percentSign ∉ writeUtf8 text :=
  fun written => noSign (mem_of_mem_writeUtf8 written (by decide))

theorem percentDecode_of_notMem {text : List Char} (noSign : '%' ∉ text) :
    percentDecode kept text = text := by
  have plain : unescape kept (writeUtf8 text ++ []) = writeUtf8 text ++ [] :=
    unescape_of_notMem (percentSign_notMem_writeUtf8 noSign) []
  rw [List.append_nil] at plain
  rw [percentDecode, plain, readUtf8_writeUtf8]

/-! ### Decoding twice -/

/-- The percent signs of the bytes have their digits, and what they encode passes a test. -/
inductive Encoded (test : UInt8 → Bool) : List UInt8 → Prop where
  | nil : Encoded test []
  | plain {byte : UInt8} {rest : List UInt8} (plain : byte ≠ percentSign)
    (encoded : Encoded test rest) : Encoded test (byte :: rest)
  | escape {high low value : UInt8} {rest : List UInt8} (pair : hexPair? high low = some value)
    (passes : test value = true) (encoded : Encoded test rest) :
    Encoded test (percentSign :: high :: low :: rest)

def decoded (bytes : List UInt8) : List UInt8 := unescape (fun _ => false) bytes

theorem decoded_cons (plain : byte ≠ percentSign) :
    decoded (byte :: rest) = byte :: decoded rest :=
  unescape_cons plain rest

theorem decoded_escape (pair : hexPair? high low = some value) :
    decoded (percentSign :: high :: low :: rest) = value :: decoded rest :=
  unescape_escape pair rfl

theorem decoded_append (noSign : percentSign ∉ first) :
    decoded (first ++ rest) = first ++ decoded rest :=
  unescape_of_notMem noSign rest

variable {test : UInt8 → Bool}

/-- What stays encoded at first is what is kept, and it can be decoded afterwards. -/
theorem Encoded.unescape (encoded : Encoded test bytes) (keeps : kept percentSign = true) :
    Encoded kept (unescape kept bytes) ∧ decoded (Text.unescape kept bytes) = decoded bytes := by
  induction encoded with
  | nil => exact ⟨.nil, rfl⟩
  | plain plain encoded ih =>
    rw [unescape_cons plain, decoded_cons plain, decoded_cons plain, ih.2]
    exact ⟨.plain plain ih.1, rfl⟩
  | @escape high low value rest pair passes encoded ih =>
    rw [decoded_escape pair]
    cases free : kept value with
    | false =>
      have plain : value ≠ percentSign := by
        rintro rfl
        nomatch keeps.symm.trans free
      rw [unescape_escape pair free, decoded_cons plain, ih.2]
      exact ⟨.plain plain ih.1, rfl⟩
    | true =>
      rw [unescape_kept pair free, decoded_escape pair, ih.2]
      exact ⟨.escape pair free ih.1, rfl⟩

theorem percentSign_notMem_reread (noSign : percentSign ∉ bytes) :
    percentSign ∉ writeUtf8 (readUtf8 bytes) := by
  refine percentSign_notMem_writeUtf8 fun read => noSign ?_
  obtain ⟨byte, member, same⟩ := mem_readUtf8 read (by decide)
  obtain rfl : byte = percentSign := UInt8.toNat_inj.mp same
  exact member

/-- Bytes whose encoded ones are all of ASCII may be read and written before they are decoded. -/
theorem Encoded.readUtf8_decoded (encoded : Encoded kept bytes)
    (ascii : ∀ byte, kept byte = true → byte < 0x80) (noSign : percentSign ∉ first) :
    readUtf8 (decoded (writeUtf8 (readUtf8 (first ++ bytes)))) =
      readUtf8 (first ++ decoded bytes) := by
  -- What comes before the next percent sign is gathered, as it may hold a part of a character.
  induction encoded generalizing first with
  | nil =>
    have plain : decoded (writeUtf8 (readUtf8 first) ++ []) = writeUtf8 (readUtf8 first) ++ [] :=
      decoded_append (percentSign_notMem_reread noSign)
    rw [List.append_nil] at plain ⊢
    rw [plain, readUtf8_writeUtf8]
    exact congrArg readUtf8 (List.append_nil first).symm
  | @plain byte rest plain encoded ih =>
    have gathered : percentSign ∉ first ++ [byte] := by simp [noSign, plain.symm]
    have next := ih gathered
    rwa [List.append_assoc, List.append_assoc, List.singleton_append, List.singleton_append,
      ← decoded_cons plain] at next
  | @escape high low value rest pair passes encoded ih =>
    obtain ⟨_, _, highDigit, lowDigit, -⟩ := hexPair?_eq_some_iff.mp pair
    have later : readUtf8 (decoded (writeUtf8 (readUtf8 rest))) = readUtf8 (decoded rest) :=
      ih List.not_mem_nil
    rw [readUtf8_append (by decide), readUtf8_cons_ascii (hexValue?_ascii highDigit),
      readUtf8_cons_ascii (hexValue?_ascii lowDigit), writeUtf8_append,
      writeUtf8_cons_ascii (by decide), writeUtf8_cons_ascii (hexValue?_ascii highDigit),
      writeUtf8_cons_ascii (hexValue?_ascii lowDigit),
      decoded_append (percentSign_notMem_reread noSign), decoded_escape pair,
      readUtf8_append (ascii value passes), readUtf8_writeUtf8, later, decoded_escape pair,
      readUtf8_append (ascii value passes)]

def IsEncoded (text : List Char) : Prop := Encoded (fun _ => true) (writeUtf8 text)

theorem percentDecode_percentDecode {text : List Char} (encoded : IsEncoded text)
    (keeps : kept percentSign = true) (ascii : ∀ byte, kept byte = true → byte < 0x80) :
    percentDecode (fun _ => false) (percentDecode kept text) =
      percentDecode (fun _ => false) text := by
  obtain ⟨stillEncoded, same⟩ := Encoded.unescape encoded keeps
  have reread := stillEncoded.readUtf8_decoded ascii (List.not_mem_nil (a := percentSign))
  rw [List.nil_append, List.nil_append, same] at reread
  exact reread

end RoleGate.Text
