import Mathlib.Data.List.Dedup
import Mathlib.Data.List.Induction
import RoleGate.Expr.Cache

/-! What a cache of expressions holds.

Whatever was asked for, in whatever order, each entry is what its text is read as, and there is one
entry for each text that spells an expression. So nobody can tell from what is fetched whether it
was in the cache.
-/

set_option autoImplicit false

namespace RoleGate

def ParsedExpr.accepts (source : String) : Bool := (ParsedExpr.parse source).isOk

namespace ExprCache

def sources (cache : ExprCache) : List String := cache.entries.map fun entry => entry.parsed.source

def read (cache : ExprCache) (source : String) : Except ParseError ParsedExpr :=
  (cache.fetch source).map fun fetched => fetched.1.parsed

def after (cache : ExprCache) (source : String) : ExprCache :=
  match cache.fetch source with
  | .error _ => cache
  | .ok (_, next) => next

def ofTexts (texts : List String) : ExprCache := texts.foldl after {}

/-! ### One text -/

theorem read_cases (cache : ExprCache) (source : String) :
    (∃ entry, cache.find? source = some entry ∧ cache.read source = .ok entry.parsed ∧
      cache.after source = cache) ∨
    (∃ error, ParsedExpr.parse source = .error error ∧ cache.read source = .error error ∧
      cache.after source = cache) ∨
    ∃ parsed, cache.find? source = none ∧ ParsedExpr.parse source = .ok parsed ∧
      cache.read source = .ok parsed ∧
      cache.after source = ⟨⟨cache.size, parsed⟩ :: cache.entries⟩ := by
  unfold read after fetch
  cases found : cache.find? source with
  | some entry => exact .inl ⟨entry, rfl, rfl, rfl⟩
  | none =>
    cases result : ParsedExpr.parse source with
    | error error => exact .inr (.inl ⟨error, rfl, rfl, rfl⟩)
    | ok parsed => exact .inr (.inr ⟨parsed, rfl, rfl, rfl, rfl⟩)

/-- Each entry is what its text is read as, and no text has two. -/
structure Sound (cache : ExprCache) : Prop where
  parsed : ∀ entry ∈ cache.entries, ParsedExpr.parse entry.parsed.source = .ok entry.parsed
  distinct : cache.sources.Nodup

theorem sound_empty : Sound {} := ⟨nofun, List.nodup_nil⟩

section
variable {cache : ExprCache} {source other : String} {entry : CachedExpr}

theorem not_mem_sources_of_find? (missing : cache.find? source = none) :
    source ∉ cache.sources := by
  simpa [find?, sources] using missing

theorem mem_sources_of_find? (found : cache.find? source = some entry) :
    source ∈ cache.sources :=
  List.mem_map.mpr ⟨entry, List.mem_of_find?_eq_some found, source_of_find? found⟩

theorem Sound.parse_of_find? (sound : cache.Sound) (found : cache.find? source = some entry) :
    ParsedExpr.parse source = .ok entry.parsed := by
  have parsed := sound.parsed entry (List.mem_of_find?_eq_some found)
  rwa [source_of_find? found] at parsed

/-- What is fetched from a sound cache is what the text is read as without one. -/
theorem Sound.read_eq (sound : cache.Sound) (source : String) :
    cache.read source = ParsedExpr.parse source := by
  rcases cache.read_cases source with ⟨entry, found, read, _⟩ | ⟨error, refused, read, _⟩ |
    ⟨parsed, _, made, read, _⟩
  · rw [read, sound.parse_of_find? found]
  · rw [read, refused]
  · rw [read, made]

theorem Sound.after (sound : cache.Sound) (source : String) : (cache.after source).Sound := by
  rcases cache.read_cases source with ⟨entry, _, _, kept⟩ | ⟨error, _, _, kept⟩ |
    ⟨parsed, missing, made, _, grown⟩
  · rwa [kept]
  · rwa [kept]
  · -- The new entry has the text that was asked for, of which there was none.
    obtain rfl : parsed.source = source := (ParsedExpr.parse_eq_ok_iff.mp made).1
    have fresh := not_mem_sources_of_find? missing
    rw [grown]
    refine ⟨fun entry member => ?_, List.nodup_cons.mpr ⟨fresh, sound.distinct⟩⟩
    rcases List.mem_cons.mp member with rfl | member
    · exact made
    · exact sound.parsed entry member

theorem mem_sources_after :
    other ∈ (cache.after source).sources ↔
      other ∈ cache.sources ∨ (other = source ∧ ParsedExpr.accepts source = true) := by
  unfold ParsedExpr.accepts
  rcases cache.read_cases source with ⟨entry, found, _, kept⟩ | ⟨error, refused, _, kept⟩ |
    ⟨parsed, _, made, _, grown⟩
  · rw [kept]
    refine ⟨.inl, fun either => either.elim id ?_⟩
    rintro ⟨rfl, -⟩
    exact mem_sources_of_find? found
  · simp [kept, refused, Except.isOk, Except.toBool]
  · obtain rfl : parsed.source = source := (ParsedExpr.parse_eq_ok_iff.mp made).1
    simp [grown, made, sources, Except.isOk, Except.toBool, or_comm]

theorem size_le_size_after (cache : ExprCache) (source : String) :
    cache.size ≤ (cache.after source).size := by
  rcases cache.read_cases source with ⟨entry, _, _, kept⟩ | ⟨error, _, _, kept⟩ |
    ⟨parsed, _, _, _, grown⟩
  · exact Nat.le_of_eq (congrArg size kept.symm)
  · exact Nat.le_of_eq (congrArg size kept.symm)
  · rw [grown]
    exact Nat.le_succ _

theorem read_after (cache : ExprCache) (source : String) :
    (cache.after source).read source = cache.read source := by
  rcases cache.read_cases source with ⟨entry, _, _, kept⟩ | ⟨error, _, _, kept⟩ |
    ⟨parsed, _, made, read, grown⟩
  · rw [kept]
  · rw [kept]
  · obtain rfl : parsed.source = source := (ParsedExpr.parse_eq_ok_iff.mp made).1
    rw [read, grown]
    simp [ExprCache.read, fetch, find?, Except.map]

end

/-! ### Many texts -/

theorem ofTexts_append (texts : List String) (source : String) :
    ofTexts (texts ++ [source]) = (ofTexts texts).after source := by
  simp [ofTexts]

theorem sound_ofTexts (texts : List String) : (ofTexts texts).Sound := by
  induction texts using List.reverseRecOn with
  | nil => exact sound_empty
  | append_singleton texts source ih =>
    rw [ofTexts_append]
    exact ih.after source

theorem mem_sources_ofTexts {texts : List String} {source : String} :
    source ∈ (ofTexts texts).sources ↔ source ∈ texts.filter ParsedExpr.accepts := by
  induction texts using List.reverseRecOn with
  | nil => simp [ofTexts, sources]
  | append_singleton texts last ih =>
    rw [ofTexts_append, mem_sources_after, ih]
    simp only [List.filter_append, List.mem_append, List.mem_filter, List.mem_singleton]
    exact or_congr_right ⟨fun ⟨same, accepted⟩ => ⟨same, same ▸ accepted⟩,
      fun ⟨same, accepted⟩ => ⟨same, same ▸ accepted⟩⟩

/-- There is one entry for each text that spells an expression, however often it was asked for. -/
theorem size_ofTexts (texts : List String) :
    (ofTexts texts).size = (texts.filter ParsedExpr.accepts).dedup.length := by
  have same : (ofTexts texts).sources.Perm (texts.filter ParsedExpr.accepts).dedup := by
    refine (List.perm_ext_iff_of_nodup (sound_ofTexts texts).distinct (List.nodup_dedup _)).mpr ?_
    intro source
    rw [List.mem_dedup, mem_sources_ofTexts]
  simpa [size, sources] using same.length_eq

end ExprCache

end RoleGate
