import RoleGate.Expr.Parsed

/-! A cache of parsed expressions. Each text is parsed once, and whoever asks for it later is handed
the very expression that was made the first time. -/

set_option autoImplicit false

namespace RoleGate

structure CachedExpr where
  serial : Nat
  parsed : ParsedExpr
  deriving DecidableEq, Repr

/-- The expressions made so far, the newest first. -/
structure ExprCache where
  entries : List CachedExpr := []
  deriving DecidableEq, Repr

namespace ExprCache

def find? (cache : ExprCache) (source : String) : Option CachedExpr :=
  cache.entries.find? fun entry => entry.parsed.source == source

def size (cache : ExprCache) : Nat := cache.entries.length

def isEmpty (cache : ExprCache) : Bool := cache.entries.isEmpty

/-- The expression of a text, and the cache after it was asked for. A text that spells none leaves
the cache as it is. -/
def fetch (cache : ExprCache) (source : String) : Except ParseError (CachedExpr × ExprCache) :=
  match cache.find? source with
  | some entry => .ok (entry, cache)
  | none =>
    match ParsedExpr.parse source with
    | .error error => .error error
    | .ok parsed =>
      let entry : CachedExpr := ⟨cache.size, parsed⟩
      .ok (entry, ⟨entry :: cache.entries⟩)

def run (cache : ExprCache) : List String → List (Except ParseError CachedExpr × ExprCache)
  | [] => []
  | source :: rest =>
    match cache.fetch source with
    | .error error => (.error error, cache) :: cache.run rest
    | .ok (entry, after) => (.ok entry, after) :: after.run rest

theorem source_of_find? {cache : ExprCache} {source : String} {entry : CachedExpr}
    (found : cache.find? source = some entry) : entry.parsed.source = source := by
  simpa using List.find?_some found

theorem source_of_fetch {cache after : ExprCache} {source : String} {entry : CachedExpr}
    (fetched : cache.fetch source = .ok (entry, after)) : entry.parsed.source = source := by
  unfold fetch at fetched
  split at fetched
  · next found =>
    cases fetched
    exact source_of_find? found
  · split at fetched
    · cases fetched
    · next parsed =>
      cases fetched
      exact (ParsedExpr.parse_eq_ok_iff.mp parsed).1

theorem find?_of_fetch {cache after : ExprCache} {source : String} {entry : CachedExpr}
    (fetched : cache.fetch source = .ok (entry, after)) : after.find? source = some entry := by
  have same := source_of_fetch fetched
  unfold fetch at fetched
  split at fetched
  · next found =>
    cases fetched
    exact found
  · split at fetched
    · cases fetched
    · cases fetched
      simp only at same
      simp [find?, same]

end ExprCache

end RoleGate
