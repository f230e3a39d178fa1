import RoleGate.Proofs.Gate.Admission
import RoleGate.Proofs.Role.Contents
import RoleGate.Role.Fixed

/-! Guests are users without roles.

A guest, a principal under whom no roles can be looked up, and one whose identifier was granted
nothing are all refused every role. So where guests are allowed, the gate does the same for each of
them, by the same questions; only the reason of a denial tells a guest from the others. They are let
in by a negation or not at all.
-/

set_option autoImplicit false

namespace RoleGate

/-! ### Who holds no role -/

inductive RoleTable where
  | fixed (roles : FixedRoles)
  | granted (table : GrantTable)

namespace RoleTable

def source : RoleTable → RoleSource
  | fixed roles => roles.source
  | granted table => table.source

def HasGrant (id : String) : RoleTable → Prop
  | fixed roles => ∃ role, roles.holds id role = true
  | granted table => ∃ role scope, table.contains ⟨id, role, scope⟩ = true

inductive Roleless (roles : RoleTable) : Option Principal → Prop where
  | nobody : Roleless roles none
  | keyless {principal : Principal}
    (lacks : principal.id? = none ∨ principal.supportsRoles = false) :
    Roleless roles (some principal)
  | ungranted {principal : Principal} {id : String} (withId : principal.id? = some id)
    (ungranted : ¬roles.HasGrant id) : Roleless roles (some principal)

theorem hasGrant_of_hasRole {roles : RoleTable} {principal? : Option Principal} {role : String}
    {scope : Scope} (held : roles.source.hasRole principal? role scope = true) :
    ∃ principal id, principal? = some principal ∧ principal.id? = some id ∧
      principal.supportsRoles = true ∧ roles.HasGrant id := by
  cases roles with
  | fixed roles =>
    obtain ⟨principal, id, same, withId, supports, held⟩ := RoleSource.hasRole_ofHolders_iff.mp held
    exact ⟨principal, id, same, withId, supports, role, held⟩
  | granted table =>
    obtain ⟨principal, id, same, withId, supports, held⟩ := RoleSource.hasRole_ofHolders_iff.mp held
    obtain ⟨granted, member, -⟩ := GrantTable.holds_iff.mp held
    exact ⟨principal, id, same, withId, supports, role, granted, member⟩

theorem Roleless.refused {roles : RoleTable} {principal? : Option Principal}
    (roleless : roles.Roleless principal?) (role : String) (scope : Scope) :
    roles.source.hasRole principal? role scope = false := by
  refine Bool.eq_false_iff.mpr fun held => ?_
  obtain ⟨principal, id, rfl, withId, supports, granted⟩ := hasGrant_of_hasRole held
  cases roleless with
  | keyless lacks => simp [withId, supports] at lacks
  | ungranted otherId ungranted =>
    cases withId.symm.trans otherId
    exact ungranted granted

end RoleTable

/-! ### What becomes of them -/

def Query.question (query : Query) : String × Scope := (query.role, query.scope)

theorem Run.questions_askedBy {α : Type} (principal? : Option Principal) (run : Run α) :
    (run.askedBy principal?).queries.map Query.question = run.queries.map Query.question := by
  simp [askedBy, Query.question, Function.comp_def]

/-- All who hold no role get their verdicts from one run, in which each query is refused. -/
theorem GateCall.verdict_of_roleless (roles : RoleTable) (models : Registry) (call : GateCall)
    (read : Except ParseError ParsedExpr) :
    ∃ run : Run Bool, (∀ query ∈ run.queries, query.granted = false) ∧
      (∀ principal?, roles.Roleless principal? →
        call.verdict roles.source models principal? read =
          (run.askedBy principal?).map (Verdict.ofValue principal?)) ∧
      ∀ parsed, read = .ok parsed → parsed.expr.isPositive = true → run.result ≠ .ok true := by
  have nobody : ∀ role scope, roles.source.hasRole none role scope = false :=
    RoleTable.Roleless.nobody.refused
  cases read with
  | error cause => exact ⟨.fail (.malformed cause), nofun, fun _ _ => rfl, nofun⟩
  | ok parsed =>
    let context : Context := ⟨none, call.options.bindings, call.request.bindings⟩
    refine ⟨parsed.expr.evaluate roles.source models context, fun query member => ?_,
      fun principal? roleless => ?_, fun _ same positive => ?_⟩
    · have asked := (parsed.expr.evaluate_within roles.source models context).queries query member
      exact asked.2.trans (nobody query.role query.scope)
    · have alike : parsed.expr.evaluate roles.source models { context with principal? } =
          (parsed.expr.evaluate roles.source models context).askedBy principal? :=
        parsed.expr.evaluate_askedBy fun role scope =>
          (roleless.refused role scope).trans (nobody role scope).symm
      exact congrArg (Run.map (Verdict.ofValue principal?)) alike
    · cases same
      exact Expr.evaluate_ne_true nobody positive

def ActorSources.Presents (sources : ActorSources) (principal? : Option Principal) : Prop :=
  ∃ actor? lookups, sources.Tells actor? lookups ∧ actor?.bind Actor.principal? = principal?

/-- What a gate decides of a guest and of two principals is the same but for the reason of a denial,
and comes by the same questions, all of them refused. -/
structure AlikeWithoutRoles (guest first second : Outcome Verdict) : Prop where
  results :
    (∃ error, guest.result = .error error ∧ first.result = .error error ∧
      second.result = .error error) ∨
    (guest.result = .ok .allowed ∧ first.result = .ok .allowed ∧ second.result = .ok .allowed) ∨
    (guest.result = .ok (.denied .loginRequired) ∧
      first.result = .ok (.denied .permissionDenied) ∧
      second.result = .ok (.denied .permissionDenied))
  questions : first.queries.map Query.question = guest.queries.map Query.question ∧
    second.queries.map Query.question = guest.queries.map Query.question
  refused : ∀ query ∈ guest.queries ++ first.queries ++ second.queries, query.granted = false

/-- The outcome for somebody who asks, of what a run comes to whoever asks. -/
def Run.outcomeFor (run : Run Bool) (principal? : Option Principal) (lookups : Nat) :
    Outcome Verdict :=
  ⟨(run.askedBy principal?).map (Verdict.ofValue principal?), lookups⟩

theorem Run.refused_outcomeFor {run : Run Bool}
    (refused : ∀ query ∈ run.queries, query.granted = false) (principal? : Option Principal)
    (lookups : Nat) :
    ∀ query ∈ (run.outcomeFor principal? lookups).queries, query.granted = false := by
  intro query member
  obtain ⟨asked, inRun, rfl⟩ := List.mem_map.mp member
  exact refused asked inRun

theorem Run.outcomeFor_ne_allowed {run : Run Bool} (shut : run.result ≠ .ok true)
    (principal? : Option Principal) (lookups : Nat) :
    (run.outcomeFor principal? lookups).result ≠ .ok .allowed := by
  change run.result.map (Verdict.ofValue principal?) ≠ _
  intro allowed
  cases result : run.result with
  | error error =>
    rw [result] at allowed
    nomatch allowed
  | ok value =>
    cases value with
    | true => exact shut result
    | false =>
      rw [result] at allowed
      nomatch allowed

theorem Run.alike_outcomeFor {run : Run Bool}
    (refused : ∀ query ∈ run.queries, query.granted = false) (first second : Principal)
    (guestLookups firstLookups secondLookups : Nat) :
    AlikeWithoutRoles (run.outcomeFor none guestLookups) (run.outcomeFor (some first) firstLookups)
      (run.outcomeFor (some second) secondLookups) where
  results := by
    have result (principal? : Option Principal) (lookups : Nat) :
        (run.outcomeFor principal? lookups).result = run.result.map (Verdict.ofValue principal?) :=
      rfl
    simp only [result]
    cases run.result with
    | error error => exact .inl ⟨error, rfl, rfl, rfl⟩
    | ok value =>
      cases value with
      | true => exact .inr (.inl ⟨rfl, rfl, rfl⟩)
      | false => exact .inr (.inr ⟨rfl, rfl, rfl⟩)
  questions := by
    have asked (principal? : Option Principal) (lookups : Nat) :
        (run.outcomeFor principal? lookups).queries.map Query.question =
          run.queries.map Query.question :=
      Run.questions_askedBy principal? run
    simp only [asked, and_self]
  refused := by
    simp only [List.mem_append]
    rintro query ((member | member) | member) <;>
      exact Run.refused_outcomeFor refused _ _ query member

namespace Gate

variable {sources : ActorSources} {principal? : Option Principal} {call : GateCall}

theorem decide_withSources (presents : sources.Presents principal?)
    (guests : call.options.allowGuests = true) (gate : Gate) (source : RoleSource) :
    ∃ lookups, (gate.decide source (call.withSources sources)).1 =
      ⟨call.verdict source gate.models principal? (gate.cache.read call.text), lookups⟩ := by
  obtain ⟨actor?, lookups, tells, rfl⟩ := presents
  have acts : (call.withSources sources).sources.Tells actor? lookups := tells
  have judged : gate.decide source (call.withSources sources) = _ :=
    decide_of_judged acts (.inl guests)
  exact ⟨lookups, congrArg Prod.fst judged⟩

/-- Where guests are allowed, a gate over either kind of roles decides alike of a guest, of a
principal under whom no roles can be looked up, and of one without a grant; and none of them is let
in by an expression without a negation. -/
theorem decide_guest_alike (gate : Gate) (roles : RoleTable) (call : GateCall)
    (guests : call.options.allowGuests = true) {guest keyless ungranted : ActorSources}
    {account user : Principal} {id : String} (guestActs : guest.Presents none)
    (accountActs : keyless.Presents (some account))
    (lacks : account.id? = none ∨ account.supportsRoles = false)
    (userActs : ungranted.Presents (some user)) (withId : user.id? = some id)
    (noGrant : ¬roles.HasGrant id) :
    let outcome (sources : ActorSources) :=
      (gate.decide roles.source (call.withSources sources)).1
    AlikeWithoutRoles (outcome guest) (outcome keyless) (outcome ungranted) ∧
      (gate.Reachable → ∀ tree, Expr.parse call.text = .ok tree → tree.isPositive = true →
        ∀ sources ∈ [guest, keyless, ungranted], (outcome sources).result ≠ .ok .allowed) := by
  obtain ⟨run, refused, judged, positive⟩ := GateCall.verdict_of_roleless roles gate.models call
    (gate.cache.read call.text)
  -- Each of the three is decided by that one run.
  have outcome {sources : ActorSources} {principal? : Option Principal}
      (presents : sources.Presents principal?) (roleless : roles.Roleless principal?) :
      ∃ lookups, (gate.decide roles.source (call.withSources sources)).1 =
        run.outcomeFor principal? lookups := by
    obtain ⟨lookups, decided⟩ := decide_withSources presents guests gate roles.source
    exact ⟨lookups, by rw [decided, judged principal? roleless, Run.outcomeFor]⟩
  obtain ⟨guestLookups, guestOutcome⟩ := outcome guestActs .nobody
  obtain ⟨firstLookups, firstOutcome⟩ := outcome accountActs (.keyless lacks)
  obtain ⟨secondLookups, secondOutcome⟩ := outcome userActs (.ungranted withId noGrant)
  intro decided
  have alike : AlikeWithoutRoles (decided guest) (decided keyless) (decided ungranted) := by
    simp only [decided, guestOutcome, firstOutcome, secondOutcome]
    exact Run.alike_outcomeFor refused account user _ _ _
  refine ⟨alike, fun reached tree parsed isPositive => ?_⟩
  have read : gate.cache.read call.text = .ok ⟨call.text, tree⟩ := by
    rw [reached.sound.read_eq]
    exact ParsedExpr.parse_eq_ok_iff.mpr ⟨rfl, parsed⟩
  have shut := positive _ read isPositive
  simp only [List.mem_cons, List.not_mem_nil, or_false, forall_eq_or_imp, forall_eq, decided,
    guestOutcome, firstOutcome, secondOutcome]
  exact ⟨Run.outcomeFor_ne_allowed shut _ _, Run.outcomeFor_ne_allowed shut _ _,
    Run.outcomeFor_ne_allowed shut _ _⟩

/-- Neither a guest nor an account without an identifier nor a user without a grant is an editor. -/
theorem decide_guest_alike_editor :
    let roles := RoleTable.granted (.ofList [⟨"1", "admin", .global⟩])
    let call : GateCall := { text := "editor", options := { allowGuests := true } }
    let guest : ActorSources := ⟨none, some .guest, none⟩
    let account : ActorSources := ⟨some (.someone (.account none true)), none, none⟩
    let user : ActorSources := ⟨none, none, some (.someone (.user ⟨"7", "mallory"⟩))⟩
    let outcome (sources : ActorSources) :=
      (decide {} roles.source (call.withSources sources)).1
    AlikeWithoutRoles (outcome guest) (outcome account) (outcome user) ∧
      ∀ sources ∈ [guest, account, user], (outcome sources).result ≠ .ok .allowed := by
  intro roles call guest account user outcome
  have noGrant : ¬roles.HasGrant "7" := by
    rintro ⟨role, scope, held⟩
    rw [GrantTable.contains_ofList] at held
    simp at held
  have parsed : Expr.parse call.text = .ok (.atom (.role "editor" false)) := by
    decide +kernel
  have guestActs : guest.Presents none := ⟨_, _, .lookup .guest none, rfl⟩
  have accountActs : account.Presents (some (.account none true)) :=
    ⟨_, _, .user _ none none, rfl⟩
  have userActs : user.Presents (some (.user ⟨"7", "mallory"⟩)) := ⟨_, _, .currentUser _, rfl⟩
  obtain ⟨alike, shut⟩ := decide_guest_alike {} roles call rfl guestActs accountActs (.inl rfl)
    userActs rfl noGrant
  exact ⟨alike, shut (.made {} {}) _ parsed rfl⟩

end Gate

end RoleGate
