import RoleGate.Proofs.Gate.Decision

/-! The four ways to call a gate, held against each other.

Each of them takes the same decision by the same steps and leaves the gate alike; they differ in
what they tell of it. A denial that is handed over is made of the texts for its own reason: what the
call says of that reason comes before what the settings say, and the texts for the other reason are
not looked at.
-/

set_option autoImplicit false

namespace RoleGate

/-! ### What a denial is made of -/

/-- The text that a call gives goes before the one that is configured. -/
inductive Prevails : Option String → String → String → Prop where
  | given (text configured : String) : Prevails (some text) configured text
  | configured (text : String) : Prevails none text text

theorem prevails_getD (given? : Option String) (configured : String) :
    Prevails given? configured (given?.getD configured) := by
  cases given? with
  | none => exact .configured configured
  | some text => exact .given text configured

theorem Prevails.eq {given? : Option String} {configured text other : String}
    (prevails : Prevails given? configured text) (also : Prevails given? configured other) :
    text = other := by
  cases prevails <;> cases also <;> rfl

inductive PermitOptions.Makes (options : PermitOptions) (settings : Settings) :
    DenialReason → Denial → Prop where
  | loginRequired {location message : String}
    (sentTo : Prevails options.loginRequiredRedirection? settings.loginRequiredRedirection location)
    (told : Prevails options.loginRequiredMessage? settings.loginRequiredMessage message) :
    Makes options settings .loginRequired ⟨.loginRequired, location, message⟩
  | permissionDenied {location message : String}
    (sentTo : Prevails options.permissionDeniedRedirection? settings.permissionDeniedRedirection
      location)
    (told : Prevails options.permissionDeniedMessage? settings.permissionDeniedMessage message) :
    Makes options settings .permissionDenied ⟨.permissionDenied, location, message⟩

namespace PermitOptions

variable {options : PermitOptions} {settings : Settings} {reason : DenialReason}

theorem makes_denial (options : PermitOptions) (settings : Settings) (reason : DenialReason) :
    options.Makes settings reason (options.denial settings reason) := by
  cases reason with
  | loginRequired => exact .loginRequired (prevails_getD _ _) (prevails_getD _ _)
  | permissionDenied => exact .permissionDenied (prevails_getD _ _) (prevails_getD _ _)

theorem Makes.eq {denial other : Denial} (made : options.Makes settings reason denial)
    (also : options.Makes settings reason other) : denial = other := by
  cases made with
  | loginRequired sentTo told =>
    cases also with
    | loginRequired otherSentTo otherTold => rw [sentTo.eq otherSentTo, told.eq otherTold]
  | permissionDenied sentTo told =>
    cases also with
    | permissionDenied otherSentTo otherTold => rw [sentTo.eq otherSentTo, told.eq otherTold]

def withTexts (options : PermitOptions) (redirection? message? : Option String) :
    DenialReason → PermitOptions
  | .loginRequired =>
    { options with
      loginRequiredRedirection? := redirection?
      loginRequiredMessage? := message? }
  | .permissionDenied =>
    { options with
      permissionDeniedRedirection? := redirection?
      permissionDeniedMessage? := message? }

end PermitOptions

def Settings.withTexts (settings : Settings) (redirection message : String) :
    DenialReason → Settings
  | .loginRequired =>
    { settings with
      loginRequiredRedirection := redirection
      loginRequiredMessage := message }
  | .permissionDenied =>
    { settings with
      permissionDeniedRedirection := redirection
      permissionDeniedMessage := message }

/-! ### What a call tells -/

/-- The denials that are handed over by the time a call returns. -/
def Enforcement.handedOver : Except AccessError Enforcement → List Denial
  | .ok enforcement => enforcement.handed?.toList
  | .error _ => []

theorem Enforcement.map_handed?_eq_ok_iff {enforced : Except AccessError Enforcement}
    {denial? : Option Denial} :
    enforced.map Enforcement.handed? = .ok denial? ↔
      (∃ answer, enforced.map Enforcement.allowed = .ok answer) ∧
        denial?.toList = handedOver enforced := by
  cases enforced with
  | error error => simp [Except.map]
  | ok enforcement =>
    obtain ⟨allowed, handed?⟩ := enforcement
    cases denial? <;> cases handed? <;> simp [Except.map, handedOver, eq_comm]

theorem Outcome.map_congr {α β : Type} {outcome : Outcome α} {f g : α → β}
    (same : ∀ value, outcome.result = .ok value → f value = g value) :
    outcome.map f = outcome.map g := by
  obtain ⟨⟨result, queries⟩, lookups⟩ := outcome
  cases result with
  | error error => rfl
  | ok value => simp only [map, Run.map, Except.map, same value rfl]

namespace GateAnswer

def queries : GateAnswer → List Query
  | checked outcome => outcome.queries
  | enforced outcome => outcome.queries
  | permitted outcome => outcome.queries
  | decided outcome => outcome.queries

def lookups : GateAnswer → Nat
  | checked outcome => outcome.lookups
  | enforced outcome => outcome.lookups
  | permitted outcome => outcome.lookups
  | decided outcome => outcome.lookups

end GateAnswer

/-- What is enforced on a decision. A denial is handed over unless the options say not to act upon
it; nothing is handed over of an allowed call or of one that fails. -/
inductive PermitOptions.Enforces (options : PermitOptions) (settings : Settings) :
    Except AccessError Verdict → Except AccessError Enforcement → Prop where
  | failed (error : AccessError) : Enforces options settings (.error error) (.error error)
  | allowed : Enforces options settings (.ok .allowed) (.ok ⟨true, none⟩)
  | suppressed (reason : DenialReason) (silent : options.redirect? = some false) :
    Enforces options settings (.ok (.denied reason)) (.ok ⟨false, none⟩)
  | handedOver {reason : DenialReason} {denial : Denial} (acted : options.redirect? ≠ some false)
    (made : options.Makes settings reason denial) :
    Enforces options settings (.ok (.denied reason)) (.ok ⟨false, some denial⟩)

namespace Gate

theorem enforcement_of_suppressed {options : PermitOptions}
    (silent : options.redirect? = some false) (gate : Gate) (reason : DenialReason) :
    gate.enforcement options (.denied reason) = ⟨false, none⟩ := by
  simp only [enforcement, silent, Option.getD_some, Bool.false_eq_true, ite_false]

theorem enforcement_of_acted {options : PermitOptions} (acted : options.redirect? ≠ some false)
    (gate : Gate) (reason : DenialReason) :
    gate.enforcement options (.denied reason) =
      ⟨false, some (options.denial gate.settings reason)⟩ := by
  have redirected : options.redirect?.getD true = true := by
    -- Where the options say nothing of it, a denial is acted upon.
    match same : options.redirect? with
    | none | some true => rfl
    | some false => exact absurd same acted
  simp only [enforcement, redirected, ite_true]

theorem enforces_enforcement (gate : Gate) (options : PermitOptions)
    (result : Except AccessError Verdict) :
    options.Enforces gate.settings result (result.map (gate.enforcement options)) := by
  match result with
  | .error error => exact .failed error
  | .ok .allowed => exact .allowed
  | .ok (.denied reason) =>
    by_cases silent : options.redirect? = some false
    · rw [Except.map, enforcement_of_suppressed silent]
      exact .suppressed reason silent
    · rw [Except.map, enforcement_of_acted silent]
      exact .handedOver silent (options.makes_denial gate.settings reason)

end Gate

/-! ### The other ways to call a gate, by what is enforced -/

namespace PermitOptions.Enforces

variable {options : PermitOptions} {settings : Settings} {decided : Except AccessError Verdict}
  {enforced : Except AccessError Enforcement}

theorem allowed_true_iff (enforces : options.Enforces settings decided enforced) :
    enforced.map Enforcement.allowed = .ok true ↔ decided = .ok .allowed := by
  cases enforces <;> simp [Except.map]

theorem allowed_false_iff (enforces : options.Enforces settings decided enforced) :
    enforced.map Enforcement.allowed = .ok false ↔ ∃ reason, decided = .ok (.denied reason) := by
  cases enforces <;> simp [Except.map]

theorem error_iff {α : Type} {error : AccessError} (f : Enforcement → α)
    (enforces : options.Enforces settings decided enforced) :
    enforced.map f = .error error ↔ decided = .error error := by
  cases enforces <;> simp [Except.map]

theorem handedOver_eq_singleton_iff {denial : Denial}
    (enforces : options.Enforces settings decided enforced) :
    Enforcement.handedOver enforced = [denial] ↔
      options.redirect? ≠ some false ∧
        ∃ reason, decided = .ok (.denied reason) ∧ options.Makes settings reason denial := by
  cases enforces with
  | failed error | allowed => simp [Enforcement.handedOver]
  | suppressed reason silent => simp [Enforcement.handedOver, silent]
  | @handedOver reason other acted made =>
    simp only [Enforcement.handedOver, Option.toList_some, List.cons.injEq, and_true, acted, ne_eq,
      not_false_eq_true, true_and, Except.ok.injEq, Verdict.denied.injEq]
    constructor
    · rintro rfl
      exact ⟨reason, rfl, made⟩
    · rintro ⟨_, rfl, also⟩
      exact made.eq also

theorem exists_handedOver_iff (enforces : options.Enforces settings decided enforced) :
    (∃ denial, Enforcement.handedOver enforced = [denial]) ↔
      options.redirect? ≠ some false ∧ ∃ reason, decided = .ok (.denied reason) := by
  constructor
  · rintro ⟨denial, handed⟩
    obtain ⟨acted, reason, came, -⟩ := enforces.handedOver_eq_singleton_iff.mp handed
    exact ⟨acted, reason, came⟩
  · rintro ⟨acted, reason, came⟩
    have made := options.makes_denial settings reason
    exact ⟨_, enforces.handedOver_eq_singleton_iff.mpr ⟨acted, reason, came, made⟩⟩

theorem handedOver_eq_nil_iff (enforces : options.Enforces settings decided enforced) :
    Enforcement.handedOver enforced = [] ↔
      ¬(options.redirect? ≠ some false ∧ ∃ reason, decided = .ok (.denied reason)) := by
  cases enforces with
  | failed error | allowed => simp [Enforcement.handedOver]
  | suppressed reason silent => simp [Enforcement.handedOver, silent]
  | handedOver acted made => simp [Enforcement.handedOver, acted]

end PermitOptions.Enforces

/-! ### Texts for another reason -/

def Gate.withTexts (gate : Gate) (redirection message : String) (reason : DenialReason) : Gate :=
  { gate with settings := gate.settings.withTexts redirection message reason }

def GateCall.withTexts (call : GateCall) (redirection? message? : Option String)
    (reason : DenialReason) : GateCall :=
  { call with options := call.options.withTexts redirection? message? reason }

namespace Gate

variable {gate : Gate} {source : RoleSource} {call : GateCall} {reason : DenialReason}

theorem decide_withTexts (gate : Gate) (source : RoleSource) (call : GateCall)
    (redirection message : String) (redirection? message? : Option String)
    (reason : DenialReason) :
    (gate.withTexts redirection message reason).decide source
        (call.withTexts redirection? message? reason) =
      ((gate.decide source call).1,
        (gate.decide source call).2.withTexts redirection message reason) := by
  let changed := gate.withTexts redirection message reason
  have asked : changed.decide source (call.withTexts redirection? message? reason) =
      changed.decide source call := by
    -- Of its options a call needs only the bindings before there is a verdict.
    cases reason <;> rfl
  refine asked.trans (Prod.ext ?_ ?_)
  · exact decide_congr source call rfl rfl
  · simp only [decide_gate]
    split <;> rfl

theorem enforcement_withTexts {verdict : Verdict} (unlike : verdict ≠ .denied reason) (gate : Gate)
    (options : PermitOptions) (redirection message : String)
    (redirection? message? : Option String) :
    (gate.withTexts redirection message reason).enforcement
        (options.withTexts redirection? message? reason) verdict =
      gate.enforcement options verdict := by
  match verdict, reason with
  | .allowed, _ => rfl
  | .denied .loginRequired, .permissionDenied | .denied .permissionDenied, .loginRequired => rfl
  | .denied .loginRequired, .loginRequired | .denied .permissionDenied, .permissionDenied =>
    exact absurd rfl unlike

/-- Where a call is not denied for the reason, the texts for it change nothing that is told. -/
theorem answer_withTexts
    (unlike : (gate.decide source call).1.result ≠ .ok (.denied reason)) (entry : GateEntry)
    (redirection message : String) (redirection? message? : Option String) :
    (gate.withTexts redirection message reason).answer source entry
        (call.withTexts redirection? message? reason) =
      ((gate.answer source entry call).1,
        (gate.answer source entry call).2.withTexts redirection message reason) := by
  have enforced : (gate.decide source call).1.map
        ((gate.withTexts redirection message reason).enforcement
          (call.options.withTexts redirection? message? reason)) =
      (gate.decide source call).1.map (gate.enforcement call.options) :=
    Outcome.map_congr fun verdict came =>
      enforcement_withTexts (fun same => unlike (same ▸ came)) gate call.options redirection message
        redirection? message?
  rw [answer_eq, answer_eq, decide_withTexts]
  refine Prod.ext ?_ rfl
  cases entry with
  | check | decide => rfl
  | enforce => exact congrArg GateAnswer.enforced enforced
  | permit =>
    exact congrArg (fun outcome => GateAnswer.permitted (outcome.map Enforcement.handed?)) enforced

/-! ### Agreement -/

/-- What the four ways to call a gate tell of a call, each by itself and in the same state. -/
structure EntriesAgree (gate : Gate) (source : RoleSource) (call : GateCall) : Prop where
  check_true : (gate.check source call).1.result = .ok true ↔
    (gate.decide source call).1.result = .ok .allowed
  check_false : (gate.check source call).1.result = .ok false ↔
    ∃ reason, (gate.decide source call).1.result = .ok (.denied reason)
  check_error : ∀ error, (gate.check source call).1.result = .error error ↔
    (gate.decide source call).1.result = .error error
  enforce_check : (gate.enforce source call).1.result.map Enforcement.allowed =
    (gate.check source call).1.result
  /-- One denial is handed over if the call is denied, unless the options suppress it. -/
  handedOver_once : (∃ denial,
      Enforcement.handedOver (gate.enforce source call).1.result = [denial]) ↔
    call.options.redirect? ≠ some false ∧
      ∃ reason, (gate.decide source call).1.result = .ok (.denied reason)
  handedOver_never : Enforcement.handedOver (gate.enforce source call).1.result = [] ↔
    ¬(call.options.redirect? ≠ some false ∧
      ∃ reason, (gate.decide source call).1.result = .ok (.denied reason))
  /-- It is the one that options and settings make for the reason. -/
  handedOver_made : ∀ denial,
    Enforcement.handedOver (gate.enforce source call).1.result = [denial] ↔
      call.options.redirect? ≠ some false ∧
        ∃ reason, (gate.decide source call).1.result = .ok (.denied reason) ∧
          call.options.Makes gate.settings reason denial
  permit_ok : ∀ denial?, (gate.permit source call).1.result = .ok denial? ↔
    (∃ answer, (gate.check source call).1.result = .ok answer) ∧
      denial?.toList = Enforcement.handedOver (gate.enforce source call).1.result
  permit_error : ∀ error, (gate.permit source call).1.result = .error error ↔
    (gate.decide source call).1.result = .error error
  /-- Texts for a reason that the call is not denied for have no influence. -/
  otherTexts : ∀ reason, (gate.decide source call).1.result ≠ .ok (.denied reason) →
    ∀ entry redirection message redirection? message?,
      (gate.withTexts redirection message reason).answer source entry
          (call.withTexts redirection? message? reason) =
        ((gate.answer source entry call).1,
          (gate.answer source entry call).2.withTexts redirection message reason)
  queries : ∀ entry, (gate.answer source entry call).1.queries =
    (gate.decide source call).1.queries
  lookups : ∀ entry, (gate.answer source entry call).1.lookups =
    (gate.decide source call).1.lookups
  left : ∀ entry, (gate.answer source entry call).2 = (gate.decide source call).2

/-- `check` tells of a verdict whether it is to allow, as `enforce` does. -/
theorem check_result (gate : Gate) (source : RoleSource) (call : GateCall) :
    (gate.check source call).1.result =
      (gate.enforce source call).1.result.map Enforcement.allowed := by
  change (gate.decide source call).1.result.map _ = ((gate.decide source call).1.result.map _).map _
  match (gate.decide source call).1.result with
  | .error error => rfl
  | .ok .allowed => rfl
  | .ok (.denied reason) => rfl

/-- However a gate is called, it takes one decision and leaves the same behind. -/
theorem entries_agree (gate : Gate) (source : RoleSource) (call : GateCall) :
    gate.EntriesAgree source call := by
  have enforces : call.options.Enforces gate.settings (gate.decide source call).1.result
      (gate.enforce source call).1.result :=
    gate.enforces_enforcement call.options (gate.decide source call).1.result
  have checked := gate.check_result source call
  exact {
    check_true := checked ▸ enforces.allowed_true_iff
    check_false := checked ▸ enforces.allowed_false_iff
    check_error := fun _ => checked ▸ enforces.error_iff Enforcement.allowed
    enforce_check := checked.symm
    handedOver_once := enforces.exists_handedOver_iff
    handedOver_never := enforces.handedOver_eq_nil_iff
    handedOver_made := fun _ => enforces.handedOver_eq_singleton_iff
    permit_ok := fun _ => checked ▸ Enforcement.map_handed?_eq_ok_iff
    permit_error := fun _ => enforces.error_iff Enforcement.handed?
    otherTexts := fun _ unlike entry redirection message redirection? message? =>
      answer_withTexts unlike entry redirection message redirection? message?
    queries := fun entry => by cases entry <;> rfl
    lookups := fun entry => by cases entry <;> rfl
    left := fun entry => by rw [answer_eq] }

/-- Somebody is denied who has logged in. They are sent where the call says and told what is
configured, and nothing that is said of a login changes this. -/
theorem entries_agree_carol :
    let gate : Gate := {}
    let source : RoleSource := GrantTable.source {}
    let call : GateCall := {
      text := "admin"
      request := { currentUser? := some (.someone (.user ⟨"3", "carol"⟩)) }
      options := { permissionDeniedRedirection? := some "/home" } }
    (gate.decide source call).1.result = .ok (.denied .permissionDenied) ∧
      Enforcement.handedOver (gate.enforce source call).1.result =
        [⟨.permissionDenied, "/home", gate.settings.permissionDeniedMessage⟩] ∧
      ((gate.withTexts "/sign-in" "Who are you?" .loginRequired).answer source .permit
        (call.withTexts (some "/join") none .loginRequired)).1 =
          (gate.answer source .permit call).1 := by
  intro gate source call
  have agree := entries_agree gate source call
  have denied : (gate.decide source call).1.result = .ok (.denied .permissionDenied) := by
    decide +kernel
  have acted : call.options.redirect? ≠ some false := nofun
  have unlike : (gate.decide source call).1.result ≠ .ok (.denied .loginRequired) := by
    rw [denied]
    nofun
  refine ⟨denied, (agree.handedOver_made _).mpr ⟨acted, _, denied, ?_⟩, ?_⟩
  · exact .permissionDenied (.given "/home" _) (.configured _)
  · rw [agree.otherTexts .loginRequired unlike]

end Gate

end RoleGate
