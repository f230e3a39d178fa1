import Mathlib.Data.List.Basic
import Mathlib.Data.List.TakeWhile
import RoleGate.Proofs.Text.Percent
import RoleGate.Web.Layer

/-! What a site relies on in the web layer below it.

Paths are cut at their slashes, and decoding them before that leaves the slashes between segments
where they are. The standard layer keeps these laws.
-/

set_option autoImplicit false

namespace RoleGate

/-- A control character other than the tab, or DEL. -/
def IsControl (c : Char) : Prop := c ≠ '\t' ∧ (c.toNat < 0x20 ∨ c.toNat = 0x7F)

instance (c : Char) : Decidable (IsControl c) :=
  inferInstanceAs (Decidable (c ≠ '\t' ∧ (c.toNat < 0x20 ∨ c.toNat = 0x7F)))

structure SegmentOf (start path segment rest : List Char) : Prop where
  path_eq : path = start ++ (segment ++ rest)
  nonempty : segment ≠ []
  single : '/' ∉ segment
  ends : rest = [] ∨ ∃ tail, rest = '/' :: tail

namespace WebLayer

structure Lawful (web : WebLayer) : Prop where
  segment?_eq_some_iff : ∀ start path segment rest,
    web.segment? start path = some (segment, rest) ↔ SegmentOf start path segment rest
  lookupPath_slash : ∀ first rest,
    web.lookupPath (first ++ '/' :: rest) = web.lookupPath first ++ '/' :: web.lookupPath rest
  lookupPath_of_notMem : ∀ path, '%' ∉ path → web.lookupPath path = path
  slash_notMem_lookupPath : ∀ segment, '/' ∉ segment → '/' ∉ web.lookupPath segment
  lookupPath_eq_nil_iff : ∀ path, web.lookupPath path = [] ↔ path = []
  /-- A segment whose percent signs have their digits is decoded once. -/
  decode_lookupPath : ∀ segment, Text.IsEncoded segment →
    web.decode (web.lookupPath segment) = Text.percentDecode (fun _ => false) segment
  fitsHeader_eq_false_iff : ∀ c, web.fitsHeader c = false ↔ IsControl c

end WebLayer

/-! ### The standard layer -/

variable {start path segment rest : List Char}

theorem span_segment (single : '/' ∉ segment) (ends : rest = [] ∨ ∃ tail, rest = '/' :: tail) :
    (segment ++ rest).takeWhile (· != '/') = segment ∧
      (segment ++ rest).dropWhile (· != '/') = rest := by
  have inside : ∀ c ∈ segment, (c != '/') = true := by
    intro c member
    rw [bne_iff_ne]
    rintro rfl
    exact single member
  rw [List.takeWhile_append_of_pos inside, List.dropWhile_append_of_pos inside]
  rcases ends with rfl | ⟨tail, rfl⟩ <;> simp

theorem segment_of_span (path : List Char) :
    '/' ∉ path.takeWhile (· != '/') ∧
      (path.dropWhile (· != '/') = [] ∨ ∃ tail, path.dropWhile (· != '/') = '/' :: tail) := by
  constructor
  · intro member
    simpa using List.mem_takeWhile_imp member
  · cases left : path.dropWhile (· != '/') with
    | nil => exact .inl rfl
    | cons first tail =>
      have stops := List.head_dropWhile_not (· != '/') (left ▸ List.cons_ne_nil first tail)
      simp only [left, List.head_cons, bne_eq_false_iff_eq] at stops
      exact .inr ⟨tail, by rw [stops]⟩

theorem segmentBehind?_eq_some_iff :
    segmentBehind? start path = some (segment, rest) ↔ SegmentOf start path segment rest := by
  constructor
  · intro found
    unfold segmentBehind? at found
    split at found
    · cases found
    · next tail starts =>
      obtain rfl := List.isPrefixOf?_eq_some_iff_append_eq.mp starts
      obtain ⟨single, ends⟩ := segment_of_span tail
      split at found
      · cases found
      · next nonempty =>
        cases found
        exact ⟨by rw [List.takeWhile_append_dropWhile], nonempty, single, ends⟩
  · rintro ⟨rfl, nonempty, single, ends⟩
    obtain ⟨before, after⟩ := span_segment single ends
    have starts : start.isPrefixOf? (start ++ (segment ++ rest)) = some (segment ++ rest) :=
      List.isPrefixOf?_eq_some_iff_append_eq.mpr rfl
    unfold segmentBehind?
    rw [starts]
    simp only [before, after]

theorem inHeader_eq_false_iff {c : Char} : inHeader c = false ↔ IsControl c := by
  simp [inHeader, IsControl, imp_iff_not_or]

theorem percentDecode_keptInPath (encoded : Text.IsEncoded segment) :
    Text.percentDecode (fun _ => false) (Text.percentDecode keptInPath segment) =
      Text.percentDecode (fun _ => false) segment := by
  have ascii : ∀ byte, keptInPath byte = true → byte < 0x80 := by
    intro byte keeps
    simp only [keptInPath, Bool.or_eq_true, beq_iff_eq] at keeps
    rcases keeps with (rfl | rfl) | rfl <;> decide
  exact Text.percentDecode_percentDecode encoded (by decide) ascii

theorem WebLayer.lawful_standard : standard.Lawful where
  segment?_eq_some_iff _ _ _ _ := segmentBehind?_eq_some_iff
  lookupPath_slash := Text.percentDecode_slash
  lookupPath_of_notMem _ := Text.percentDecode_of_notMem
  slash_notMem_lookupPath _ := Text.slash_notMem_percentDecode (by decide)
  lookupPath_eq_nil_iff _ := Text.percentDecode_eq_nil_iff
  decode_lookupPath _ := percentDecode_keptInPath
  fitsHeader_eq_false_iff _ := inHeader_eq_false_iff

end RoleGate
