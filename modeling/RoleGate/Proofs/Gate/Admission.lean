import RoleGate.Proofs.Evaluation.Queries
import RoleGate.Proofs.Gate.Decision

/-! What a gate settles before it looks at the expression.

Who acts is told by the first of three sources that knows: the caller, the hook, the request. Where
guests are not allowed, everybody is turned away but a principal with an identifier whose roles can
be looked up; no expression is read for the others, nothing is asked, and nothing stays behind.
Whoever gets past is judged by the expression.
-/

set_option autoImplicit false

namespace RoleGate

/-! ### Who acts -/

structure ActorSources where
  user? : Option Actor
  lookup? : Option Actor
  currentUser? : Option Actor

/-- Who acts by the first source that tells, and how often the hook is asked. -/
inductive ActorSources.Tells : ActorSources → Option Actor → Nat → Prop where
  | user (actor : Actor) (lookup? currentUser? : Option Actor) :
    Tells ⟨some actor, lookup?, currentUser?⟩ (some actor) 0
  | lookup (actor : Actor) (currentUser? : Option Actor) :
    Tells ⟨none, some actor, currentUser?⟩ (some actor) 1
  | currentUser (actor : Actor) : Tells ⟨none, none, some actor⟩ (some actor) 0
  | nobody : Tells ⟨none, none, none⟩ none 0

namespace GateCall

def sources (call : GateCall) : ActorSources where
  user? := call.options.user?
  lookup? := call.options.lookup?
  currentUser? := call.request.currentUser?

def withSources (call : GateCall) (sources : ActorSources) : GateCall where
  text := call.text
  request := { call.request with currentUser? := sources.currentUser? }
  options := { call.options with user? := sources.user?, lookup? := sources.lookup? }

end GateCall

section
variable {sources : ActorSources} {call : GateCall} {actor? : Option Actor} {lookups : Nat}

theorem ActorSources.exists_tells (sources : ActorSources) :
    ∃ actor? lookups, sources.Tells actor? lookups := by
  match sources with
  | ⟨some actor, lookup?, currentUser?⟩ => exact ⟨_, _, .user actor lookup? currentUser?⟩
  | ⟨none, some actor, currentUser?⟩ => exact ⟨_, _, .lookup actor currentUser?⟩
  | ⟨none, none, some actor⟩ => exact ⟨_, _, .currentUser actor⟩
  | ⟨none, none, none⟩ => exact ⟨_, _, .nobody⟩

theorem GateCall.findActor_withSources (tells : sources.Tells actor? lookups) (call : GateCall) :
    (call.withSources sources).options.findActor (call.withSources sources).request =
      ⟨actor?, lookups⟩ := by
  cases tells with
  | user | lookup | currentUser | nobody => rfl

theorem GateCall.findActor_eq (tells : call.sources.Tells actor? lookups) :
    call.options.findActor call.request = ⟨actor?, lookups⟩ :=
  call.findActor_withSources tells

end

/-! ### Who gets past -/

inductive TurnedAway : Option Actor → Except AccessError Verdict → Prop where
  | unknown : TurnedAway none (.error .noCurrentUser)
  | guest : TurnedAway (some .guest) (.ok (.denied .loginRequired))
  | withoutId {principal : Principal} (id : principal.id? = none) :
    TurnedAway (some (.someone principal)) (.error .userWithoutId)
  | withoutRoles {principal : Principal} {id : String} (withId : principal.id? = some id)
    (roles : principal.supportsRoles = false) :
    TurnedAway (some (.someone principal)) (.error .userWithoutRoles)

inductive Capable : Option Actor → Prop where
  | mk {principal : Principal} {id : String} (withId : principal.id? = some id)
    (roles : principal.supportsRoles = true) : Capable (some (.someone principal))

theorem turnedAway_or_capable (actor? : Option Actor) :
    (∃ result, TurnedAway actor? result) ∨ Capable actor? := by
  match actor? with
  | none => exact .inl ⟨_, .unknown⟩
  | some .guest => exact .inl ⟨_, .guest⟩
  | some (.someone principal) =>
    cases withId : principal.id? with
    | none => exact .inl ⟨_, .withoutId withId⟩
    | some id =>
      cases roles : principal.supportsRoles with
      | false => exact .inl ⟨_, .withoutRoles withId roles⟩
      | true => exact .inr ⟨withId, roles⟩

theorem GateCall.past_or_turnedAway (call : GateCall) (actor? : Option Actor) :
    (call.options.allowGuests = true ∨ Capable actor?) ∨
      (call.options.allowGuests = false ∧ ∃ result, TurnedAway actor? result) := by
  cases guests : call.options.allowGuests with
  | true => exact .inl (.inl rfl)
  | false =>
    rcases turnedAway_or_capable actor? with turned | capable
    · exact .inr ⟨rfl, turned⟩
    · exact .inl (.inr capable)

theorem PermitOptions.admit_of_capable {options : PermitOptions} {actor? : Option Actor}
    (past : options.allowGuests = true ∨ Capable actor?) :
    options.admit actor? = .ok (.admitted (actor?.bind Actor.principal?)) := by
  unfold PermitOptions.admit
  rcases past with allowed | capable
  · simp [allowed]
  · cases capable with
    | mk withId roles => simp [Actor.principal?, withId, roles]

/-! ### Errors and denials of those who are judged -/

def AccessError.IsOfExpression (error : AccessError) : Prop :=
  (∃ cause, error = .malformed cause) ∨ error.IsOfName

theorem Verdict.reason_of_ofValue {principal? : Option Principal} {value : Bool}
    {reason : DenialReason} (denied : ofValue principal? value = .denied reason) :
    reason = .loginRequired ↔ principal? = none := by
  cases value with
  | true => nomatch denied
  | false =>
    cases denied
    cases principal? <;> simp

namespace GateCall

variable {call : GateCall} {source : RoleSource} {models : Registry}
  {principal? : Option Principal} {read : Except ParseError ParsedExpr}

theorem verdict_within (call : GateCall) (source : RoleSource) (models : Registry)
    (principal? : Option Principal) (read : Except ParseError ParsedExpr) :
    (call.verdict source models principal? read).Within AccessError.IsOfExpression
      fun query => query.principal? = principal? := by
  cases read with
  | error cause =>
    refine ⟨fun error failed => ?_, nofun⟩
    cases failed
    exact .inl ⟨cause, rfl⟩
  | ok parsed =>
    refine Run.Within.map ?_ _
    have within := parsed.expr.evaluate_within source models
      ⟨principal?, call.options.bindings, call.request.bindings⟩
    exact ⟨fun error failed => .inr (within.result error failed),
      fun query member => (within.queries query member).1⟩

theorem reason_of_verdict {reason : DenialReason}
    (denied : (call.verdict source models principal? read).result = .ok (.denied reason)) :
    reason = .loginRequired ↔ principal? = none := by
  cases read with
  | error cause => nomatch denied
  | ok parsed =>
    simp only [verdict, Run.map] at denied
    generalize (parsed.expr.evaluate _ _ _).result = result at denied
    cases result with
    | error error => cases denied
    | ok value => exact Verdict.reason_of_ofValue (Except.ok.inj denied)

end GateCall

namespace Gate

variable {gate : Gate} {source : RoleSource} {call : GateCall} {actor? : Option Actor}
  {lookups : Nat}

theorem decide_of_turnedAway {result : Except AccessError Verdict}
    (tells : call.sources.Tells actor? lookups) (guests : call.options.allowGuests = false)
    (turned : TurnedAway actor? result) :
    gate.decide source call = (⟨⟨result, []⟩, lookups⟩, gate) := by
  unfold decide PermitOptions.admit
  rw [GateCall.findActor_eq tells, guests]
  cases turned with
  | unknown | guest => rfl
  | withoutId id => simp [Actor.principal?, id, Run.fail]
  | withoutRoles withId roles => simp [Actor.principal?, withId, roles, Run.fail]

theorem decide_of_judged (tells : call.sources.Tells actor? lookups)
    (past : call.options.allowGuests = true ∨ Capable actor?) :
    gate.decide source call =
      (⟨call.verdict source gate.models (actor?.bind Actor.principal?)
        (gate.cache.read call.text), lookups⟩,
        { gate with cache := gate.cache.after call.text }) := by
  simp only [decide, GateCall.findActor_eq tells, PermitOptions.admit_of_capable past, judge_eq]

theorem answer_withSources {other : ActorSources} (tells : call.sources.Tells actor? lookups)
    (alike : other.Tells actor? lookups) (gate : Gate) (source : RoleSource) (entry : GateEntry) :
    gate.answer source entry (call.withSources other) = gate.answer source entry call := by
  have decided : gate.decide source (call.withSources other) = gate.decide source call := by
    simp only [decide, GateCall.findActor_eq tells, call.findActor_withSources alike]
    rfl
  rw [answer_eq, answer_eq, decided]
  cases entry with
  | check | enforce | permit | decide => rfl

/-- What is settled of a call by who acts, as the sources tell, before the expression matters. -/
structure Settles (gate : Gate) (source : RoleSource) (call : GateCall) (actor? : Option Actor)
    (lookups : Nat) : Prop where
  hook : (gate.decide source call).1.lookups = lookups
  /-- Sources that are not needed to tell who acts change nothing, however the gate is called. -/
  sources : ∀ other : ActorSources, other.Tells actor? lookups → ∀ entry,
    gate.answer source entry (call.withSources other) = gate.answer source entry call
  /-- Nothing is read, asked or kept of whoever is turned away, whatever the expression. -/
  turnedAway : call.options.allowGuests = false → ∀ result, TurnedAway actor? result →
    ∀ text other, gate.decide other { call with text } = (⟨⟨result, []⟩, lookups⟩, gate)
  reported : call.options.allowGuests = false → ∀ result, TurnedAway actor? result →
    ∀ text other entry, gate.answer other entry { call with text } =
      (gate.report call.options ⟨⟨result, []⟩, lookups⟩ entry, gate)
  /-- All others get the verdict on the expression, with whoever acts as the one who asks. -/
  judged : call.options.allowGuests = true ∨ Capable actor? →
    gate.decide source call =
      (⟨call.verdict source gate.models (actor?.bind Actor.principal?)
        (gate.cache.read call.text), lookups⟩,
        { gate with cache := gate.cache.after call.text })
  asked : ∀ query ∈ (gate.decide source call).1.queries,
    query.principal? = actor?.bind Actor.principal?
  guests : call.options.allowGuests = true → ∀ error,
    (gate.decide source call).1.result = .error error →
      error ≠ .noCurrentUser ∧ error ≠ .userWithoutId ∧ error ≠ .userWithoutRoles
  denied : ∀ reason, (gate.decide source call).1.result = .ok (.denied reason) →
    (reason = .loginRequired ↔ actor?.bind Actor.principal? = none)
  loginRequired : call.options.allowGuests = false →
    ((gate.decide source call).1.result = .ok (.denied .loginRequired) ↔ actor? = some .guest)
  capable : call.options.allowGuests = false →
    ((gate.decide source call).1.result = .ok .allowed ∨
      (gate.decide source call).1.queries ≠ [] ∨ (gate.decide source call).2 ≠ gate) →
    Capable actor?

theorem decide_lookups (tells : call.sources.Tells actor? lookups) :
    (gate.decide source call).1.lookups = lookups := by
  unfold decide
  rw [GateCall.findActor_eq tells]
  dsimp only
  split <;> rfl

theorem answer_of_turnedAway {result : Except AccessError Verdict}
    (tells : call.sources.Tells actor? lookups) (guests : call.options.allowGuests = false)
    (turned : TurnedAway actor? result) (entry : GateEntry) :
    gate.answer source entry call =
      (gate.report call.options ⟨⟨result, []⟩, lookups⟩ entry, gate) := by
  rw [answer_eq, decide_of_turnedAway tells guests turned]

theorem decide_within_of_judged (tells : call.sources.Tells actor? lookups)
    (past : call.options.allowGuests = true ∨ Capable actor?) :
    (gate.decide source call).1.run.Within AccessError.IsOfExpression
      fun query => query.principal? = actor?.bind Actor.principal? := by
  rw [decide_of_judged tells past]
  exact call.verdict_within source gate.models _ _

theorem reason_of_decide (tells : call.sources.Tells actor? lookups) {reason : DenialReason}
    (denied : (gate.decide source call).1.result = .ok (.denied reason)) :
    reason = .loginRequired ↔ actor?.bind Actor.principal? = none := by
  rcases call.past_or_turnedAway actor? with past | ⟨guests, result, turned⟩
  · rw [decide_of_judged tells past] at denied
    exact GateCall.reason_of_verdict denied
  · rw [decide_of_turnedAway tells guests turned] at denied
    cases turned with
    | guest =>
      cases denied
      exact iff_of_true rfl rfl
    | unknown | withoutId | withoutRoles => nomatch denied

theorem decide_loginRequired_iff (tells : call.sources.Tells actor? lookups)
    (guests : call.options.allowGuests = false) :
    (gate.decide source call).1.result = .ok (.denied .loginRequired) ↔ actor? = some .guest := by
  rcases turnedAway_or_capable actor? with ⟨result, turned⟩ | capable
  · rw [decide_of_turnedAway tells guests turned]
    cases turned with
    | guest => exact iff_of_true rfl rfl
    | unknown | withoutId | withoutRoles => exact iff_of_false nofun nofun
  · cases capable with
    | mk withId roles =>
      refine iff_of_false (fun denied => ?_) nofun
      nomatch (reason_of_decide tells denied).mp rfl

theorem capable_of_decide (tells : call.sources.Tells actor? lookups)
    (guests : call.options.allowGuests = false)
    (seen : (gate.decide source call).1.result = .ok .allowed ∨
      (gate.decide source call).1.queries ≠ [] ∨ (gate.decide source call).2 ≠ gate) :
    Capable actor? := by
  refine (turnedAway_or_capable actor?).resolve_left fun ⟨result, turned⟩ => ?_
  rw [decide_of_turnedAway tells guests turned] at seen
  rcases seen with allowed | asked | kept
  · cases turned <;> nomatch allowed
  · exact asked rfl
  · exact kept rfl

/-- For every call there is somebody, or nobody, of whom the sources tell that they act, and this
settles what the expression cannot change. -/
theorem decide_settles (gate : Gate) (source : RoleSource) (call : GateCall) :
    ∃ actor? lookups, call.sources.Tells actor? lookups ∧
      gate.Settles source call actor? lookups := by
  obtain ⟨actor?, lookups, tells⟩ := call.sources.exists_tells
  have retold (text : String) : ({ call with text } : GateCall).sources.Tells actor? lookups :=
    tells
  refine ⟨actor?, lookups, tells, ?_⟩
  exact {
    hook := decide_lookups tells
    sources := fun other alike entry => answer_withSources tells alike gate source entry
    turnedAway := fun guests result turned text other =>
      decide_of_turnedAway (retold text) guests turned
    reported := fun guests result turned text other entry =>
      answer_of_turnedAway (retold text) guests turned entry
    judged := decide_of_judged tells
    asked := by
      rcases call.past_or_turnedAway actor? with past | ⟨guests, result, turned⟩
      · exact (decide_within_of_judged tells past).queries
      · rw [decide_of_turnedAway tells guests turned]
        nofun
    guests := fun allowed error failed => by
      have blamed := (decide_within_of_judged tells (.inl allowed)).result error failed
      rcases blamed with ⟨cause, rfl⟩ | ⟨name, rfl | rfl⟩ <;> simp
    denied := fun reason denied => reason_of_decide tells denied
    loginRequired := decide_loginRequired_iff tells
    capable := capable_of_decide tells }

/-- The account that the caller gives has no identifier, and neither the hook nor the request makes
up for it. Without that account the guest that the hook finds is asked to log in, though the request
knows bob. -/
theorem decide_settles_unidentified :
    let gate : Gate := {}
    let call (user? : Option Actor) : GateCall := {
      text := "editor"
      request := { currentUser? := some (.someone (.user ⟨"2", "bob"⟩)) }
      options := { user?, lookup? := some .guest } }
    let account : Actor := .someone (.account none false)
    (∀ text source, gate.decide source { call (some account) with text } =
      (⟨.fail .userWithoutId, 0⟩, gate)) ∧
    ∀ text source, gate.decide source { call none with text } =
      (⟨.pure (.denied .loginRequired), 1⟩, gate) := by
  intro gate call account
  obtain ⟨_, _, given, settles⟩ := decide_settles gate (.exactly []) (call (some account))
  obtain ⟨_, _, found, settlesGuest⟩ := decide_settles gate (.exactly []) (call none)
  cases given
  cases found
  exact ⟨settles.turnedAway rfl _ (.withoutId rfl), settlesGuest.turnedAway rfl _ .guest⟩

end Gate

end RoleGate
