import RoleGate.Gate.Session
import RoleGate.Proofs.Cache.Contents

/-! What a call reads of a gate, and what it leaves behind.

There are four ways to call a gate, and each reports one decision. The decision depends on the gate
by the classes it knows and by what its cache reads the text as; afterwards the cache may have one
more entry, and nothing else has changed.
-/

set_option autoImplicit false

namespace RoleGate

def GateCall.isAdmitted (call : GateCall) : Bool :=
  match call.options.admit (call.options.findActor call.request).actor? with
  | .ok (.admitted _) => true
  | .ok .refused => false
  | .error _ => false

def GateCall.verdict (call : GateCall) (source : RoleSource) (models : Registry)
    (principal? : Option Principal) : Except ParseError ParsedExpr → Run Verdict
  | .error cause => .fail (.malformed cause)
  | .ok parsed =>
    let context : Context := ⟨principal?, call.options.bindings, call.request.bindings⟩
    (parsed.expr.evaluate source models context).map (Verdict.ofValue principal?)

def Gate.report (gate : Gate) (options : PermitOptions) (decided : Outcome Verdict) :
    GateEntry → GateAnswer
  | .check => .checked (decided.map Verdict.isAllowed)
  | .enforce => .enforced (decided.map (gate.enforcement options))
  | .permit => .permitted ((decided.map (gate.enforcement options)).map Enforcement.handed?)
  | .decide => .decided decided

namespace Gate

variable {gate other : Gate}

theorem judge_eq (gate : Gate) (source : RoleSource) (call : GateCall)
    (principal? : Option Principal) :
    gate.judge source call principal? =
      (call.verdict source gate.models principal? (gate.cache.read call.text),
        { gate with cache := gate.cache.after call.text }) := by
  unfold judge ExprCache.read ExprCache.after
  cases gate.cache.fetch call.text with
  | error cause => rfl
  | ok fetched => rfl

theorem decide_gate (gate : Gate) (source : RoleSource) (call : GateCall) :
    (gate.decide source call).2 =
      if call.isAdmitted then { gate with cache := gate.cache.after call.text } else gate := by
  unfold decide GateCall.isAdmitted
  dsimp only
  cases call.options.admit (call.options.findActor call.request).actor? with
  | error error => rfl
  | ok admission =>
    cases admission with
    | refused => rfl
    | admitted principal? => exact congrArg Prod.snd (judge_eq gate source call principal?)

theorem decide_congr (source : RoleSource) (call : GateCall) (models : gate.models = other.models)
    (read : gate.cache.read call.text = other.cache.read call.text) :
    (gate.decide source call).1 = (other.decide source call).1 := by
  unfold decide
  dsimp only
  split
  · rfl
  · rfl
  · simp only [judge_eq, models, read]

/-- The four ways to call a gate report one decision, and leave the gate alike. -/
theorem answer_eq (gate : Gate) (source : RoleSource) (entry : GateEntry) (call : GateCall) :
    gate.answer source entry call =
      (gate.report call.options (gate.decide source call).1 entry,
        (gate.decide source call).2) := by
  cases entry with
  | check | enforce | permit | decide => rfl

theorem report_congr (settings : gate.settings = other.settings) (options : PermitOptions)
    (decided : Outcome Verdict) (entry : GateEntry) :
    gate.report options decided entry = other.report options decided entry := by
  have same : gate.enforcement options = other.enforcement options := by
    funext verdict
    cases verdict with
    | allowed => rfl
    | denied reason => simp only [enforcement, settings]
  unfold report
  rw [same]

theorem answer_congr (source : RoleSource) (entry : GateEntry) (call : GateCall)
    (settings : gate.settings = other.settings) (models : gate.models = other.models)
    (read : gate.cache.read call.text = other.cache.read call.text) :
    (gate.answer source entry call).1 = (other.answer source entry call).1 := by
  simp only [answer_eq, decide_congr source call models read]
  exact report_congr settings call.options _ entry

/-! ### The gates that come about -/

inductive Reachable : Gate → Prop where
  | made (settings : Settings) (models : Registry) : Reachable { settings, models }
  | called {gate : Gate} (reached : Reachable gate) (source : RoleSource) (entry : GateEntry)
    (call : GateCall) : Reachable (gate.answer source entry call).2

theorem Reachable.sound (reached : gate.Reachable) : gate.cache.Sound := by
  induction reached with
  | made settings models => exact ExprCache.sound_empty
  | called reached source entry call ih =>
    rw [answer_eq]
    dsimp only
    rw [decide_gate]
    split
    · exact ih.after call.text
    · exact ih

end Gate

end RoleGate
