import Mathlib.Tactic.Ring
import RoleGate.Text.Utf8

/-! What the bytes of a text are read as.

While a character is being read, the codes that it can still come to lie in a range that holds
characters only, none of them of ASCII, and each byte narrows it. So a character of ASCII comes from
its own byte and from nothing else, and such a byte ends whatever was begun before it: bytes are
read piece by piece between them. What a text is written as is read as that text.
-/

set_option autoImplicit false

namespace RoleGate.Text

theorem toNat_ofNat {code : Nat} (valid : code.isValidChar) : (Char.ofNat code).toNat = code := by
  rw [Char.ofNat, dif_pos valid]
  rfl

/-! ### Characters that have begun -/

namespace PartialChar

def least (begun : PartialChar) : Nat :=
  (64 * begun.code + (begun.low.toNat - 0x80)) * 64 ^ (begun.lacking - 1)

def limit (begun : PartialChar) : Nat :=
  (64 * begun.code + (begun.high.toNat - 0x80) + 1) * 64 ^ (begun.lacking - 1)

/-- Whatever bytes complete the character, it is one, and none of ASCII. -/
structure Sound (begun : PartialChar) : Prop where
  lacking : begun.lacking = 1 ∨ begun.lacking = 2 ∨ begun.lacking = 3
  tail : 0x80 ≤ begun.low.toNat
  beyondAscii : 0x80 ≤ begun.least
  characters : begun.limit ≤ 0xD800 ∨ (0xE000 ≤ begun.least ∧ begun.limit ≤ 0x110000)

variable {begun next : PartialChar} {byte : UInt8}

theorem sound_of_beginChar (begins : (beginChar byte).2 = some begun) : begun.Sound := by
  unfold beginChar at begins
  simp only [UInt8.lt_iff_toNat_lt, ← UInt8.toNat_inj, UInt8.reduceToNat] at begins
  split at begins
  · cases begins
  split at begins
  · cases begins
  split at begins
  · cases begins
    constructor <;> simp [least, limit] <;> omega
  -- The first byte decides on the range of the second one.
  split at begins
  · by_cases shortest : byte.toNat = 0xE0 <;> by_cases surrogates : byte.toNat = 0xED <;>
      cases begins <;> constructor <;> simp [least, limit, shortest, surrogates] <;> omega
  split at begins
  · by_cases shortest : byte.toNat = 0xF0 <;> by_cases last : byte.toNat = 0xF4 <;>
      cases begins <;> constructor <;> simp [least, limit, shortest, last] <;> omega
  · cases begins

def Takes (begun : PartialChar) (byte : UInt8) : Prop := begun.low ≤ byte ∧ byte ≤ begun.high

instance : Decidable (begun.Takes byte) := inferInstanceAs (Decidable (_ ∧ _))

def after (begun : PartialChar) (byte : UInt8) : PartialChar :=
  ⟨begun.lacking - 1, 0x80, 0xBF, 64 * begun.code + (byte.toNat - 0x80)⟩

theorem narrows_after (takes : begun.Takes byte) (more : 2 ≤ begun.lacking) :
    begun.least ≤ (begun.after byte).least ∧ (begun.after byte).limit ≤ begun.limit := by
  obtain ⟨fewer, lacks⟩ := Nat.exists_eq_add_of_le' more
  obtain ⟨fromLow, toHigh⟩ := takes
  simp only [UInt8.le_iff_toNat_le] at fromLow toHigh
  have least : (begun.after byte).least =
      (64 * begun.code + (byte.toNat - 0x80)) * 64 ^ (begun.lacking - 1) := by
    simp [after, PartialChar.least, lacks, Nat.pow_succ]
    ring
  have limit : (begun.after byte).limit =
      (64 * begun.code + (byte.toNat - 0x80) + 1) * 64 ^ (begun.lacking - 1) := by
    simp [after, PartialChar.limit, lacks, Nat.pow_succ]
    ring
  rw [least, limit]
  constructor <;> apply Nat.mul_le_mul_right <;> omega

theorem Sound.after (sound : begun.Sound) (takes : begun.Takes byte) (more : 2 ≤ begun.lacking) :
    (begun.after byte).Sound := by
  obtain ⟨least, limit⟩ := begun.narrows_after takes more
  obtain ⟨lacking, tail, beyondAscii, characters⟩ := sound
  constructor
  · simp only [PartialChar.after]
    omega
  · simp [PartialChar.after]
  · omega
  · omega

theorem Sound.last (sound : begun.Sound) (takes : begun.Takes byte) (last : begun.lacking ≤ 1) :
    0x80 ≤ (Char.ofNat (begun.after byte).code).toNat := by
  obtain ⟨lacking, tail, beyondAscii, characters⟩ := sound
  obtain ⟨fromLow, toHigh⟩ := takes
  simp only [UInt8.le_iff_toNat_le] at fromLow toHigh
  obtain one : begun.lacking = 1 := by omega
  simp only [least, limit, one, Nat.sub_self, Nat.pow_zero, Nat.mul_one] at beyondAscii characters
  have valid : (begun.after byte).code.isValidChar := by
    simp only [PartialChar.after, Nat.isValidChar]
    omega
  rw [toNat_ofNat valid]
  simp only [PartialChar.after]
  omega

end PartialChar

/-! ### One step -/

def OnTheWay (begun? : Option PartialChar) : Prop := ∀ begun ∈ begun?, begun.Sound

variable {begun : PartialChar} {begun? : Option PartialChar} {byte : UInt8} {c : Char}

theorem continueChar_takes (takes : begun.Takes byte) :
    continueChar (some begun) byte =
      if begun.lacking ≤ 1 then ([Char.ofNat (begun.after byte).code], none)
      else ([], some (begun.after byte)) := by
  simp only [continueChar, takes.1, takes.2, decide_true, Bool.and_self, if_true]
  rfl

theorem continueChar_breaks (breaks : ¬begun.Takes byte) :
    continueChar (some begun) byte = (replacement :: (beginChar byte).1, (beginChar byte).2) := by
  have outside : (begun.low ≤ byte && byte ≤ begun.high) = false := by
    simpa [PartialChar.Takes] using breaks
  simp only [continueChar, outside]
  rfl

theorem beginChar_ascii (ascii : byte < 0x80) :
    beginChar byte = ([Char.ofNat byte.toNat], none) := by
  simp [beginChar, ascii]

theorem onTheWay_beginChar (byte : UInt8) : OnTheWay (beginChar byte).2 :=
  fun _ begins => PartialChar.sound_of_beginChar begins

theorem onTheWay_none : OnTheWay none := by simp [OnTheWay]

theorem OnTheWay.step (way : OnTheWay begun?) (byte : UInt8) :
    OnTheWay (continueChar begun? byte).2 := by
  cases begun? with
  | none => exact onTheWay_beginChar byte
  | some begun =>
    by_cases takes : begun.Takes byte
    · rw [continueChar_takes takes]
      split
      · nofun
      · rintro _ ⟨⟩
        exact (way begun rfl).after takes (by omega)
    · rw [continueChar_breaks takes]
      exact onTheWay_beginChar byte

theorem eq_of_mem_beginChar (read : c ∈ (beginChar byte).1) (ascii : c.toNat < 0x80) :
    byte.toNat = c.toNat := by
  by_cases below : byte < 0x80
  · rw [beginChar_ascii below] at read
    obtain rfl := List.mem_singleton.mp read
    have valid : byte.toNat.isValidChar := .inl (Nat.lt_trans (UInt8.toNat_lt byte) (by decide))
    rw [toNat_ofNat valid]
  · have replaced : c = replacement := by
      rw [beginChar, if_neg below] at read
      split at read
      · exact List.mem_singleton.mp read
      iterate 3
        split at read
        · cases read
      exact List.mem_singleton.mp read
    subst replaced
    exact absurd ascii (by decide)

/-- A character of ASCII is read from its own byte only. -/
theorem OnTheWay.eq_of_mem (way : OnTheWay begun?) (read : c ∈ (continueChar begun? byte).1)
    (ascii : c.toNat < 0x80) : byte.toNat = c.toNat := by
  cases begun? with
  | none => exact eq_of_mem_beginChar read ascii
  | some begun =>
    by_cases takes : begun.Takes byte
    · rw [continueChar_takes takes] at read
      split at read
      · next last =>
        have made : c = Char.ofNat (begun.after byte).code := by simpa using read
        have beyond := (way begun rfl).last takes last
        rw [← made] at beyond
        exact absurd ascii (Nat.not_lt.mpr beyond)
      · nomatch read
    · rw [continueChar_breaks takes] at read
      rcases List.mem_cons.mp read with rfl | read
      · exact absurd ascii (by decide)
      · exact eq_of_mem_beginChar read ascii

theorem OnTheWay.ascii (way : OnTheWay begun?) (ascii : byte < 0x80) :
    continueChar begun? byte = (readUtf8From begun? [] ++ [Char.ofNat byte.toNat], none) := by
  cases begun? with
  | none => exact beginChar_ascii ascii
  | some begun =>
    have breaks : ¬begun.Takes byte := by
      rintro ⟨fromLow, -⟩
      have tail := (way begun rfl).tail
      rw [UInt8.le_iff_toNat_le] at fromLow
      simp only [UInt8.lt_iff_toNat_lt, UInt8.reduceToNat] at ascii
      omega
    rw [continueChar_breaks breaks, beginChar_ascii ascii]
    rfl

theorem isSome_of_continueChar (silent : (continueChar begun? byte).1 = []) :
    (continueChar begun? byte).2.isSome = true := by
  have begins (silent : (beginChar byte).1 = []) : (beginChar byte).2.isSome = true := by
    unfold beginChar at silent ⊢
    repeat' split
    all_goals simp_all
  cases begun? with
  | none => exact begins silent
  | some begun =>
    by_cases takes : begun.Takes byte
    · rw [continueChar_takes takes] at silent ⊢
      split
      · next last => simp [last] at silent
      · rfl
    · rw [continueChar_breaks takes] at silent
      nomatch silent

/-! ### All bytes -/

variable {bytes rest : List UInt8}

theorem readUtf8From_cons (begun? : Option PartialChar) (byte : UInt8) (rest : List UInt8) :
    readUtf8From begun? (byte :: rest) =
      (continueChar begun? byte).1 ++ readUtf8From (continueChar begun? byte).2 rest := rfl

theorem readUtf8From_eq_nil_iff : readUtf8From begun? bytes = [] ↔ begun? = none ∧ bytes = [] := by
  induction bytes generalizing begun? with
  | nil => cases begun? <;> simp [readUtf8From]
  | cons byte rest ih =>
    rw [readUtf8From_cons, List.append_eq_nil_iff, ih]
    refine iff_of_false ?_ fun empty => List.cons_ne_nil byte rest empty.2
    rintro ⟨silent, ended, -⟩
    exact absurd (isSome_of_continueChar silent) (by simp [ended])

theorem readUtf8_eq_nil_iff : readUtf8 bytes = [] ↔ bytes = [] := by
  simp [readUtf8, readUtf8From_eq_nil_iff]

theorem OnTheWay.mem_readUtf8From (way : OnTheWay begun?) (read : c ∈ readUtf8From begun? bytes)
    (ascii : c.toNat < 0x80) : ∃ byte ∈ bytes, byte.toNat = c.toNat := by
  induction bytes generalizing begun? with
  | nil =>
    have replaced : c = replacement := by
      cases begun? <;> simp_all [readUtf8From]
    subst replaced
    exact absurd ascii (by decide)
  | cons byte rest ih =>
    rcases List.mem_append.mp read with now | later
    · exact ⟨byte, List.mem_cons_self, way.eq_of_mem now ascii⟩
    · obtain ⟨found, member, same⟩ := ih (way.step byte) later
      exact ⟨found, List.mem_cons_of_mem byte member, same⟩

/-- A character of ASCII is read where its byte stands, and nowhere else. -/
theorem mem_readUtf8 (read : c ∈ readUtf8 bytes) (ascii : c.toNat < 0x80) :
    ∃ byte ∈ bytes, byte.toNat = c.toNat :=
  OnTheWay.mem_readUtf8From onTheWay_none read ascii

theorem OnTheWay.readUtf8From_append (way : OnTheWay begun?) (ascii : byte < 0x80)
    (first rest : List UInt8) :
    readUtf8From begun? (first ++ byte :: rest) =
      readUtf8From begun? first ++ Char.ofNat byte.toNat :: readUtf8 rest := by
  induction first generalizing begun? with
  | nil =>
    rw [List.nil_append, readUtf8From_cons, way.ascii ascii, List.append_assoc]
    rfl
  | cons other first ih =>
    rw [List.cons_append, readUtf8From_cons, readUtf8From_cons, ih (way.step other),
      List.append_assoc]

/-- Bytes are read piece by piece between those of ASCII. -/
theorem readUtf8_append (ascii : byte < 0x80) (first rest : List UInt8) :
    readUtf8 (first ++ byte :: rest) =
      readUtf8 first ++ Char.ofNat byte.toNat :: readUtf8 rest :=
  OnTheWay.readUtf8From_append onTheWay_none ascii first rest

/-! ### What a text is written as -/

theorem utf8EncodeChar_ascii (ascii : c.toNat ≤ 0x7F) :
    String.utf8EncodeChar c = [UInt8.ofNat c.toNat] :=
  if_pos ascii

theorem writeUtf8_cons_ascii (ascii : byte < 0x80) (text : List Char) :
    writeUtf8 (Char.ofNat byte.toNat :: text) = byte :: writeUtf8 text := by
  rw [UInt8.lt_iff_toNat_lt] at ascii
  have same : (Char.ofNat byte.toNat).toNat = byte.toNat :=
    toNat_ofNat (.inl (Nat.lt_trans ascii (by decide)))
  have encoded : String.utf8EncodeChar (Char.ofNat byte.toNat) = [byte] := by
    rw [utf8EncodeChar_ascii (same.trans_le (Nat.le_of_lt_succ ascii)), same, UInt8.ofNat_toNat]
  rw [writeUtf8, List.flatMap_cons, encoded]
  rfl

theorem le_of_mem_utf8EncodeChar (beyond : ¬c.toNat ≤ 0x7F) :
    ∀ byte ∈ String.utf8EncodeChar c, 0x80 ≤ byte.toNat := by
  have longer : String.utf8EncodeChar c = _ := if_neg beyond
  rw [longer]
  repeat' split
  all_goals
    simp only [List.forall_mem_cons, List.not_mem_nil, false_implies, implies_true, and_true,
      UInt8.toNat_ofNat']
    omega

theorem toNat_of_mem_utf8EncodeChar (written : byte ∈ String.utf8EncodeChar c)
    (ascii : byte.toNat < 0x80) : byte.toNat = c.toNat := by
  by_cases short : c.toNat ≤ 0x7F
  · rw [utf8EncodeChar_ascii short] at written
    rw [List.mem_singleton.mp written, UInt8.toNat_ofNat', Nat.mod_eq_of_lt (by omega)]
  · exact absurd ascii (Nat.not_lt.mpr (le_of_mem_utf8EncodeChar short byte written))

theorem mem_of_mem_writeUtf8 {text : List Char} (written : byte ∈ writeUtf8 text)
    (ascii : byte.toNat < 0x80) : Char.ofNat byte.toNat ∈ text := by
  obtain ⟨c, member, written⟩ := List.mem_flatMap.mp written
  rwa [toNat_of_mem_utf8EncodeChar written ascii, c.ofNat_toNat]

def tailByte (code toCome : Nat) : UInt8 := UInt8.ofNat (code / 64 ^ toCome % 64 + 0x80)

theorem toNat_tailByte (code toCome : Nat) :
    (tailByte code toCome).toNat = code / 64 ^ toCome % 64 + 0x80 := by
  rw [tailByte, UInt8.toNat_ofNat']
  omega

def tailBytes (code : Nat) : Nat → List UInt8
  | 0 => []
  | toCome + 1 => tailByte code toCome :: tailBytes code toCome

/-- So far the character has the leading bits of this code, and its next byte may come. -/
structure PartialChar.Leads (begun : PartialChar) (code toCome : Nat) : Prop where
  lacking : begun.lacking = toCome + 1
  soFar : begun.code = code / 64 ^ (toCome + 1)
  low : begun.low.toNat ≤ code / 64 ^ toCome % 64 + 0x80
  high : code / 64 ^ toCome % 64 + 0x80 ≤ begun.high.toNat

theorem PartialChar.Leads.takes {code toCome : Nat} (leads : begun.Leads code toCome) :
    begun.Takes (tailByte code toCome) := by
  simp only [Takes, UInt8.le_iff_toNat_le, toNat_tailByte]
  exact ⟨leads.low, leads.high⟩

theorem PartialChar.Leads.code_after {code toCome : Nat} (leads : begun.Leads code toCome) :
    (begun.after (tailByte code toCome)).code = code / 64 ^ toCome := by
  simp only [PartialChar.after, leads.soFar, toNat_tailByte, Nat.pow_succ, ← Nat.div_div_eq_div_mul]
  omega

theorem readUtf8From_tailBytes {code toCome : Nat} (leads : begun.Leads code toCome)
    (rest : List UInt8) :
    readUtf8From (some begun) (tailBytes code (toCome + 1) ++ rest) =
      Char.ofNat code :: readUtf8 rest := by
  induction toCome generalizing begun with
  | zero =>
    have last : begun.lacking ≤ 1 := leads.lacking.le
    rw [tailBytes, List.cons_append, readUtf8From_cons, continueChar_takes leads.takes, if_pos last,
      leads.code_after, Nat.pow_zero, Nat.div_one]
    rfl
  | succ toCome ih =>
    have more : ¬begun.lacking ≤ 1 := by
      rw [leads.lacking]
      omega
    rw [tailBytes, List.cons_append, readUtf8From_cons, continueChar_takes leads.takes, if_neg more]
    refine ih ⟨?_, leads.code_after, ?_, ?_⟩
    · simp [PartialChar.after, leads.lacking]
    · exact Nat.le_add_left _ _
    · simp only [PartialChar.after, UInt8.reduceToNat]
      omega

def Begins (byte : UInt8) (code toCome : Nat) : Prop :=
  ∃ begun, beginChar byte = ([], some begun) ∧ begun.Leads code toCome

theorem begins_two {code : Nat} (from80 : 0x80 ≤ code) (to7FF : code ≤ 0x7FF) :
    Begins (UInt8.ofNat (code / 64 % 32 + 0xC0)) code 0 := by
  have byte : (UInt8.ofNat (code / 64 % 32 + 0xC0)).toNat = code / 64 + 0xC0 := by
    rw [UInt8.toNat_ofNat']
    omega
  unfold Begins beginChar
  simp only [UInt8.lt_iff_toNat_lt, byte, UInt8.reduceToNat]
  rw [if_neg (by omega), if_neg (by omega), if_pos (by omega)]
  refine ⟨_, rfl, rfl, ?_, ?_, ?_⟩ <;> simp only [UInt8.reduceToNat] <;> omega

theorem begins_three {code : Nat} (from800 : 0x800 ≤ code) (toFFFF : code ≤ 0xFFFF)
    (valid : code.isValidChar) :
    Begins (UInt8.ofNat (code / 4096 % 16 + 0xE0)) code 1 := by
  have byte : (UInt8.ofNat (code / 4096 % 16 + 0xE0)).toNat = code / 4096 + 0xE0 := by
    rw [UInt8.toNat_ofNat']
    omega
  unfold Begins beginChar
  simp only [UInt8.lt_iff_toNat_lt, ← UInt8.toNat_inj, byte, UInt8.reduceToNat]
  rw [if_neg (by omega), if_neg (by omega), if_neg (by omega), if_pos (by omega)]
  refine ⟨_, rfl, rfl, ?_, ?_, ?_⟩
  · simp only
    omega
  · simp only
    split <;> simp only [UInt8.reduceToNat] <;> omega
  · simp only
    split <;> simp only [UInt8.reduceToNat] <;> omega

theorem begins_four {code : Nat} (from10000 : 0x10000 ≤ code) (valid : code.isValidChar) :
    Begins (UInt8.ofNat (code / 262144 % 8 + 0xF0)) code 2 := by
  have byte : (UInt8.ofNat (code / 262144 % 8 + 0xF0)).toNat = code / 262144 + 0xF0 := by
    rw [UInt8.toNat_ofNat']
    omega
  unfold Begins beginChar
  simp only [UInt8.lt_iff_toNat_lt, ← UInt8.toNat_inj, byte, UInt8.reduceToNat]
  rw [if_neg (by omega), if_neg (by omega), if_neg (by omega), if_neg (by omega),
    if_pos (by omega)]
  refine ⟨_, rfl, rfl, ?_, ?_, ?_⟩
  · simp only
    omega
  · simp only
    split <;> simp only [UInt8.reduceToNat] <;> omega
  · simp only
    split <;> simp only [UInt8.reduceToNat] <;> omega

theorem Begins.readUtf8 {code toCome : Nat} (begins : Begins byte code toCome)
    (rest : List UInt8) :
    readUtf8 (byte :: tailBytes code (toCome + 1) ++ rest) = Char.ofNat code :: readUtf8 rest := by
  obtain ⟨begun, begins, leads⟩ := begins
  have step : continueChar none byte = ([], some begun) := begins
  rw [List.cons_append, Text.readUtf8, readUtf8From_cons, step]
  exact readUtf8From_tailBytes leads rest

theorem utf8EncodeChar_eq (c : Char) :
    String.utf8EncodeChar c = if c.toNat ≤ 0x7F then [UInt8.ofNat c.toNat]
      else if c.toNat ≤ 0x7FF then UInt8.ofNat (c.toNat / 64 % 32 + 0xC0) :: tailBytes c.toNat 1
      else if c.toNat ≤ 0xFFFF then UInt8.ofNat (c.toNat / 4096 % 16 + 0xE0) :: tailBytes c.toNat 2
      else UInt8.ofNat (c.toNat / 262144 % 8 + 0xF0) :: tailBytes c.toNat 3 := by
  simp only [String.utf8EncodeChar, tailBytes, tailByte, Nat.pow_zero, Nat.div_one]
  rfl

theorem readUtf8_utf8EncodeChar (c : Char) (rest : List UInt8) :
    readUtf8 (String.utf8EncodeChar c ++ rest) = c :: readUtf8 rest := by
  have valid : c.toNat.isValidChar := c.valid
  rw [utf8EncodeChar_eq]
  split
  · next ascii =>
    have byte : (UInt8.ofNat c.toNat).toNat = c.toNat := by
      rw [UInt8.toNat_ofNat']
      omega
    have below : UInt8.ofNat c.toNat < 0x80 := by
      simp only [UInt8.lt_iff_toNat_lt, byte, UInt8.reduceToNat]
      omega
    rw [List.singleton_append, readUtf8_cons_ascii below, byte, c.ofNat_toNat]
  split
  · next beyond two =>
    rw [(begins_two (by omega) two).readUtf8, c.ofNat_toNat]
  split
  · next beyond three =>
    rw [(begins_three (by omega) three valid).readUtf8, c.ofNat_toNat]
  · next beyond =>
    rw [(begins_four (by omega) valid).readUtf8, c.ofNat_toNat]

theorem readUtf8_writeUtf8 (text : List Char) : readUtf8 (writeUtf8 text) = text := by
  induction text with
  | nil => rfl
  | cons c rest ih =>
    rw [writeUtf8, List.flatMap_cons, readUtf8_utf8EncodeChar]
    exact congrArg (c :: ·) ih

end RoleGate.Text
