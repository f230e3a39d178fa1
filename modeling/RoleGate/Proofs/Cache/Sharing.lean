import RoleGate.Proofs.Cache.Contents

/-! Who is handed the same expression by a cache.

The first call for a text makes its expression and every later call for that very text is handed it,
whatever is asked for in between. A serial number tells the expressions of a cache apart: no two are
made under one number, so texts that spell the same tree differently are kept apart.
-/

set_option autoImplicit false

namespace RoleGate.ExprCache

variable {cache : ExprCache} {source other : String} {entry otherEntry : CachedExpr}

/-! ### One call -/

def enter (cache : ExprCache) (parsed : ParsedExpr) : CachedExpr × ExprCache :=
  match cache.find? parsed.source with
  | some entry => (entry, cache)
  | none => (⟨cache.size, parsed⟩, ⟨⟨cache.size, parsed⟩ :: cache.entries⟩)

/-- A text that is read aside is entered as if it were asked for at that moment, whatever was asked
for since it was looked up. -/
theorem fetch_eq_enter {parsed : ParsedExpr} (made : ParsedExpr.parse source = .ok parsed) :
    cache.fetch source = .ok (cache.enter parsed) := by
  obtain rfl : parsed.source = source := (ParsedExpr.parse_eq_ok_iff.mp made).1
  unfold fetch enter
  cases cache.find? parsed.source with
  | some entry => rfl
  | none => simp [made]

theorem after_of_fetch {next : ExprCache} (fetched : cache.fetch source = .ok (entry, next)) :
    cache.after source = next := by
  simp [after, fetched]

theorem after_of_fetch_error {error : ParseError} (refused : cache.fetch source = .error error) :
    cache.after source = cache := by
  simp [after, refused]

theorem find?_after_iff :
    (cache.after source).find? source = some entry ↔
      (cache.fetch source).map Prod.fst = .ok entry := by
  cases fetched : cache.fetch source with
  | ok made =>
    obtain ⟨found, next⟩ := made
    rw [after_of_fetch fetched, find?_of_fetch fetched]
    simp [Except.map]
  | error error =>
    rw [after_of_fetch_error fetched]
    cases found : cache.find? source with
    | none => simp [Except.map]
    | some known => simp [fetch, found] at fetched

theorem after_cases (cache : ExprCache) (asked : String) :
    cache.after asked = cache ∨ ∃ parsed : ParsedExpr, cache.find? parsed.source = none ∧
      cache.after asked = ⟨⟨cache.size, parsed⟩ :: cache.entries⟩ := by
  rcases cache.read_cases asked with ⟨_, _, _, kept⟩ | ⟨_, _, _, kept⟩ |
    ⟨parsed, missing, made, _, grown⟩
  · exact .inl kept
  · exact .inl kept
  · obtain rfl : parsed.source = asked := (ParsedExpr.parse_eq_ok_iff.mp made).1
    exact .inr ⟨parsed, missing, grown⟩

theorem find?_after (found : cache.find? source = some entry) (asked : String) :
    (cache.after asked).find? source = some entry := by
  rcases cache.after_cases asked with kept | ⟨parsed, missing, grown⟩
  · rwa [kept]
  · -- The new entry has a text that had none, so it is not found for this one.
    have differs : parsed.source ≠ source := by
      intro same
      rw [same, found] at missing
      cases missing
    rw [grown]
    simpa [find?, differs] using found

theorem Sound.fetch_error_iff (sound : cache.Sound) {error : ParseError} :
    (cache.fetch source).map Prod.fst = .error error ↔
      ParsedExpr.parse source = .error error := by
  rw [← sound.read_eq, read]
  cases cache.fetch source <;> simp [Except.map]

theorem Sound.parse_of_fetch (sound : cache.Sound)
    (handed : (cache.fetch source).map Prod.fst = .ok entry) :
    ParsedExpr.parse source = .ok entry.parsed :=
  (sound.after source).parse_of_find? (find?_after_iff.mpr handed)

/-! ### Serial numbers -/

def Numbered (cache : ExprCache) : Prop :=
  cache.entries.map CachedExpr.serial = (List.range cache.size).reverse

theorem numbered_empty : Numbered {} := rfl

theorem Numbered.after (numbered : cache.Numbered) (source : String) :
    (cache.after source).Numbered := by
  rcases cache.after_cases source with kept | ⟨_, _, grown⟩
  · rwa [kept]
  · unfold Numbered size at numbered ⊢
    rw [grown]
    simp [numbered, List.range_succ, size]

theorem Numbered.serial_lt (numbered : cache.Numbered) (member : entry ∈ cache.entries) :
    entry.serial < cache.size := by
  have listed : entry.serial ∈ cache.entries.map CachedExpr.serial := List.mem_map_of_mem member
  rw [numbered] at listed
  simpa using listed

theorem Numbered.eq_of_serial_eq (numbered : cache.Numbered) (member : entry ∈ cache.entries)
    (also : otherEntry ∈ cache.entries) (same : entry.serial = otherEntry.serial) :
    entry = otherEntry := by
  have distinct : (cache.entries.map CachedExpr.serial).Nodup := by
    rw [numbered]
    exact List.nodup_reverse.mpr List.nodup_range
  exact List.inj_on_of_nodup_map distinct member also same

/-! ### Many calls -/

theorem numbered_ofTexts (texts : List String) : (ofTexts texts).Numbered := by
  induction texts using List.reverseRecOn with
  | nil => exact numbered_empty
  | append_singleton texts source ih =>
    rw [ofTexts_append]
    exact ih.after source

theorem find?_ofTexts_append {front : List String}
    (found : (ofTexts front).find? source = some entry) (back : List String) :
    (ofTexts (front ++ back)).find? source = some entry := by
  induction back using List.reverseRecOn with
  | nil => simpa using found
  | append_singleton back last ih =>
    rw [← List.append_assoc, ofTexts_append]
    exact find?_after ih last

theorem find?_ofTexts_take {texts : List String} {place later : Nat} (order : place ≤ later)
    (found : (ofTexts (texts.take place)).find? source = some entry) :
    (ofTexts (texts.take later)).find? source = some entry := by
  obtain ⟨back, same⟩ := List.take_prefix_take_left order (l := texts)
  rw [← same]
  exact find?_ofTexts_append found back

/-- The entry of a text was made by the first call for it, under a number that no entry had. -/
theorem exists_first_of_find? {texts : List String}
    (found : (ofTexts texts).find? source = some entry) :
    ∃ front back, texts = front ++ source :: back ∧ source ∉ front ∧
      (ofTexts (front ++ [source])).find? source = some entry ∧
      ∀ old ∈ (ofTexts front).entries, old.serial ≠ entry.serial := by
  have asked : source ∈ texts :=
    List.mem_of_mem_filter (mem_sources_ofTexts.mp (mem_sources_of_find? found))
  obtain ⟨front, back, rfl, first⟩ := List.eq_append_cons_of_mem asked
  have made := (sound_ofTexts _).parse_of_find? found
  rcases (ofTexts front).read_cases source with ⟨_, known, _, _⟩ | ⟨_, refused, _, _⟩ |
    ⟨parsed, _, fresh, _, grown⟩
  · have early := mem_sources_ofTexts.mp (mem_sources_of_find? known)
    exact absurd (List.mem_of_mem_filter early) first
  · rw [made] at refused
    cases refused
  · obtain rfl : parsed.source = source := (ParsedExpr.parse_eq_ok_iff.mp fresh).1
    have here : (ofTexts (front ++ [parsed.source])).find? parsed.source =
        some ⟨(ofTexts front).size, parsed⟩ := by
      rw [ofTexts_append, grown]
      simp [find?]
    have same : some entry = some ⟨(ofTexts front).size, parsed⟩ := by
      rw [← found, ← List.singleton_append, ← List.append_assoc]
      exact find?_ofTexts_append here back
    cases same
    exact ⟨front, back, rfl, first, here, fun old member =>
      Nat.ne_of_lt ((numbered_ofTexts front).serial_lt member)⟩

/-! ### Runs -/

theorem run_cons (cache : ExprCache) (source : String) (rest : List String) :
    cache.run (source :: rest) =
      ((cache.fetch source).map Prod.fst, cache.after source) :: (cache.after source).run rest := by
  cases fetched : cache.fetch source with
  | error error => simp [run, fetched, after_of_fetch_error fetched, Except.map]
  | ok made =>
    obtain ⟨entry, next⟩ := made
    simp [run, fetched, after_of_fetch fetched, Except.map]

theorem run_append (cache : ExprCache) (front back : List String) :
    cache.run (front ++ back) = cache.run front ++ (front.foldl after cache).run back := by
  induction front generalizing cache with
  | nil => rfl
  | cons source front ih => simp only [List.cons_append, run_cons, ih, List.foldl_cons]

theorem length_run (cache : ExprCache) (texts : List String) :
    (cache.run texts).length = texts.length := by
  induction texts generalizing cache with
  | nil => rfl
  | cons source rest ih => simp [run_cons, ih]

theorem run_getElem?_from {texts : List String} {place : Nat}
    (asked : texts[place]? = some source) :
    (cache.run texts)[place]? =
      some ((((texts.take place).foldl after cache).fetch source).map Prod.fst,
        (texts.take (place + 1)).foldl after cache) := by
  induction texts generalizing cache place with
  | nil => cases asked
  | cons head rest ih =>
    rw [run_cons]
    cases place with
    | zero =>
      cases asked
      rfl
    | succ place => exact ih asked

theorem run_getElem? {texts : List String} {place : Nat} (asked : texts[place]? = some source) :
    (run {} texts)[place]? =
      some (((ofTexts (texts.take place)).fetch source).map Prod.fst,
        ofTexts (texts.take (place + 1))) :=
  run_getElem?_from asked

/-- A run that goes on from a cache is the rest of the run that has made the cache. -/
theorem run_ofTexts (earlier texts : List String) :
    (ofTexts earlier).run texts = (run {} (earlier ++ texts)).drop earlier.length := by
  rw [run_append, List.drop_left' (length_run {} earlier)]
  rfl

theorem take_succ_of_getElem? {texts : List String} {place : Nat}
    (asked : texts[place]? = some source) :
    texts.take (place + 1) = texts.take place ++ [source] := by
  rw [List.take_add_one, asked, Option.toList_some]

def Hands (texts : List String) (place : Nat) (source : String) (entry : CachedExpr) : Prop :=
  texts[place]? = some source ∧ ∃ left, (run {} texts)[place]? = some (.ok entry, left)

theorem hands_iff {texts : List String} {place : Nat} :
    Hands texts place source entry ↔ texts[place]? = some source ∧
      (ofTexts (texts.take (place + 1))).find? source = some entry := by
  refine and_congr_right fun asked => ?_
  rw [run_getElem? asked, take_succ_of_getElem? asked, ofTexts_append, find?_after_iff]
  simp

theorem Hands.find? {texts : List String} {place : Nat} (hands : Hands texts place source entry) :
    (ofTexts texts).find? source = some entry := by
  obtain ⟨_, found⟩ := hands_iff.mp hands
  rw [← List.take_append_drop (place + 1) texts]
  exact find?_ofTexts_append found _

section
variable {texts : List String} {place otherPlace : Nat}

theorem Hands.eq_iff (hands : Hands texts place source entry)
    (otherHands : Hands texts otherPlace other otherEntry) :
    entry = otherEntry ↔ source = other := by
  have found := hands.find?
  have otherFound := otherHands.find?
  constructor
  · rintro rfl
    rw [← source_of_find? found, source_of_find? otherFound]
  · rintro rfl
    exact Option.some.inj (found.symm.trans otherFound)

theorem Hands.serial_eq_iff (hands : Hands texts place source entry)
    (otherHands : Hands texts otherPlace other otherEntry) :
    entry.serial = otherEntry.serial ↔ source = other := by
  rw [← hands.eq_iff otherHands]
  exact ⟨(numbered_ofTexts texts).eq_of_serial_eq (List.mem_of_find?_eq_some hands.find?)
    (List.mem_of_find?_eq_some otherHands.find?), congrArg CachedExpr.serial⟩

theorem Hands.exists_first (hands : Hands texts place source entry) :
    ∃ first ≤ place, Hands texts first source entry ∧
      (∀ earlier < first, texts[earlier]? ≠ some source) ∧
      ∀ old ∈ (ofTexts (texts.take first)).entries, old.serial ≠ entry.serial := by
  obtain ⟨asked, found⟩ := hands_iff.mp hands
  obtain ⟨front, back, split, first, here, fresh⟩ := exists_first_of_find? found
  have whole : texts = front ++ source :: (back ++ texts.drop (place + 1)) := by
    rw [← List.cons_append, ← List.append_assoc, ← split, List.take_append_drop]
  have within : front.length ≤ place := by
    have length := congrArg List.length split
    simp only [List.length_take, List.length_append, List.length_cons] at length
    omega
  have before : texts.take front.length = front := by
    rw [whole]
    exact List.take_left' rfl
  have atFirst : texts[front.length]? = some source := by
    rw [whole]
    simp
  have through : texts.take (front.length + 1) = front ++ [source] := by
    rw [take_succ_of_getElem? atFirst, before]
  refine ⟨front.length, within, hands_iff.mpr ⟨atFirst, through ▸ here⟩, ?_, before.symm ▸ fresh⟩
  intro earlier inFront same
  rw [whole, List.getElem?_append_left inFront] at same
  exact first (List.mem_of_getElem? same)

end

/-- What is to be said of the call at a place of a run that asks for the text, by the cache before
it, its result and the cache that it leaves. -/
structure Serves (texts : List String) (place : Nat) (source : String) (before : ExprCache)
    (result : Except ParseError CachedExpr) (left : ExprCache) : Prop where
  refused_iff : ∀ error, result = .error error ↔ ParsedExpr.parse source = .error error
  unchanged : ∀ error, result = .error error → left = before
  read : ∀ entry, result = .ok entry →
    entry.parsed.source = source ∧ ParsedExpr.parse source = .ok entry.parsed
  /-- The entry was made by the first call for the text. -/
  shared : ∀ entry, result = .ok entry → ∃ first ≤ place, Hands texts first source entry ∧
    (∀ earlier < first, texts[earlier]? ≠ some source) ∧
    ∀ old ∈ (ofTexts (texts.take first)).entries, old.serial ≠ entry.serial
  kept : ∀ other entry, before.find? other = some entry → left.find? other = some entry
  size_eq : left.size =
    ((texts.take (place + 1)).filter ParsedExpr.accepts).dedup.length

theorem serves_of_getElem? {texts : List String} {place : Nat}
    (asked : texts[place]? = some source) :
    Serves texts place source (ofTexts (texts.take place))
      (((ofTexts (texts.take place)).fetch source).map Prod.fst)
      (ofTexts (texts.take (place + 1))) where
  refused_iff _ := (sound_ofTexts _).fetch_error_iff
  unchanged error refused := by
    rw [take_succ_of_getElem? asked, ofTexts_append]
    cases fetched : (ofTexts (texts.take place)).fetch source with
    | error => exact after_of_fetch_error fetched
    | ok => simp [fetched, Except.map] at refused
  read entry handed := by
    have made := (sound_ofTexts _).parse_of_fetch handed
    exact ⟨(ParsedExpr.parse_eq_ok_iff.mp made).1, made⟩
  shared entry handed := by
    have hands : Hands texts place source entry :=
      ⟨asked, _, by rw [run_getElem? asked, handed]⟩
    exact hands.exists_first
  kept _ _ := find?_ofTexts_take (Nat.le_succ place)
  size_eq := size_ofTexts _

/-- A cache through any number of calls: each text is read once, by the first call for it, and two
calls are handed the same expression if and only if they ask for the same text. -/
theorem run_shares (texts : List String) :
    (∀ place source, texts[place]? = some source → ∃ result,
      (run {} texts)[place]? = some (result, ofTexts (texts.take (place + 1))) ∧
      Serves texts place source (ofTexts (texts.take place)) result
        (ofTexts (texts.take (place + 1)))) ∧
    (∀ place otherPlace source other entry otherEntry, Hands texts place source entry →
      Hands texts otherPlace other otherEntry →
      (entry.serial = otherEntry.serial ↔ source = other) ∧
      (entry = otherEntry ↔ source = other)) ∧
    (∀ earlier, (ofTexts earlier).run texts =
      (run {} (earlier ++ texts)).drop earlier.length) ∧
    ∀ (cache : ExprCache) source parsed, ParsedExpr.parse source = .ok parsed →
      cache.fetch source = .ok (cache.enter parsed) := by
  refine ⟨fun place source asked => ?_, fun _ _ _ _ _ _ hands otherHands => ?_,
    fun earlier => run_ofTexts earlier texts, fun _ _ _ => fetch_eq_enter⟩
  · exact ⟨_, run_getElem? asked, serves_of_getElem? asked⟩
  · exact ⟨hands.serial_eq_iff otherHands, hands.eq_iff otherHands⟩

/-- Two spellings of one tree are kept apart, also when the first is asked for again behind a text
that is refused. -/
theorem run_shares_spellings :
    let texts := ["a or b", "a || b", "a or", "a or b"]
    let tree : Expr := .binary (.atom (.role "a" false)) .or (.atom (.role "b" false))
    let words : CachedExpr := ⟨0, "a or b", tree⟩
    let signs : CachedExpr := ⟨1, "a || b", tree⟩
    Hands texts 0 "a or b" words ∧ Hands texts 1 "a || b" signs ∧ Hands texts 3 "a or b" words ∧
    (words.serial = signs.serial ↔ "a or b" = "a || b") ∧
    ParsedExpr.parse "a or" = .error .unexpectedEnd ∧
    ∃ first ≤ 3, Hands texts first "a or b" words ∧
      ∀ earlier < first, texts[earlier]? ≠ some "a or b" := by
  intro texts tree words signs
  have called : run {} texts =
      [(.ok words, ⟨[words]⟩), (.ok signs, ⟨[signs, words]⟩),
        (.error .unexpectedEnd, ⟨[signs, words]⟩), (.ok words, ⟨[signs, words]⟩)] := by
    decide +kernel
  have before : Hands texts 0 "a or b" words := ⟨rfl, _, by rw [called]; rfl⟩
  have between : Hands texts 1 "a || b" signs := ⟨rfl, _, by rw [called]; rfl⟩
  have again : Hands texts 3 "a or b" words := ⟨rfl, _, by rw [called]; rfl⟩
  obtain ⟨calls, same, -, -⟩ := run_shares texts
  obtain ⟨refused, at2, serves⟩ := calls 2 "a or" rfl
  obtain ⟨handed, at3, servesAgain⟩ := calls 3 "a or b" rfl
  rw [called] at at2 at3
  obtain rfl : .error .unexpectedEnd = refused := congrArg Prod.fst (Option.some.inj at2)
  obtain rfl : .ok words = handed := congrArg Prod.fst (Option.some.inj at3)
  obtain ⟨first, within, made, unasked, -⟩ := servesAgain.shared words rfl
  exact ⟨before, between, again, (same _ _ _ _ _ _ before between).1,
    (serves.refused_iff _).mp rfl, first, within, made, unasked⟩

end RoleGate.ExprCache
