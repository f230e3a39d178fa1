import RoleGate.Access.Evaluation
import RoleGate.Expr.Cache
import RoleGate.Gate.Admission

/-! Gates, which decide whether whoever acts may do what an expression guards.

A gate keeps its settings, the classes it knows and the expressions it has parsed. The role source
is handed in with each call, as it stands at the time of the call.
-/

set_option autoImplicit false

namespace RoleGate

structure Gate where
  settings : Settings := {}
  models : Registry := {}
  cache : ExprCache := {}

structure GateCall where
  text : String
  request : Request := {}
  options : PermitOptions := {}
  deriving DecidableEq, Repr

/-- What a call comes to, the queries it made and how often it asked the hook for the user. -/
structure Outcome (α : Type) where
  run : Run α
  lookups : Nat

namespace Outcome

variable {α β : Type}

def result (outcome : Outcome α) : Except AccessError α := outcome.run.result

def queries (outcome : Outcome α) : List Query := outcome.run.queries

def map (f : α → β) (outcome : Outcome α) : Outcome β := ⟨outcome.run.map f, outcome.lookups⟩

end Outcome

/-- The verdict on an expression of this value. Where it is false, a principal lacks a permission,
and a guest has to log in first. -/
def Verdict.ofValue (principal? : Option Principal) (value : Bool) : Verdict :=
  if value then .allowed
  else .denied (if principal?.isSome then .permissionDenied else .loginRequired)

/-- What was decided, and the denial that was handed over to be acted upon. -/
structure Enforcement where
  allowed : Bool
  handed? : Option Denial := none
  deriving DecidableEq, Repr

namespace Gate

def judge (gate : Gate) (source : RoleSource) (call : GateCall) (principal? : Option Principal) :
    Run Verdict × Gate :=
  match gate.cache.fetch call.text with
  | .error cause => (.fail (.malformed cause), gate)
  | .ok (entry, cache) =>
    let context : Context := ⟨principal?, call.options.bindings, call.request.bindings⟩
    let value := entry.parsed.expr.evaluate source gate.models context
    (value.map (Verdict.ofValue principal?), { gate with cache := cache })

def decide (gate : Gate) (source : RoleSource) (call : GateCall) : Outcome Verdict × Gate :=
  let found := call.options.findActor call.request
  match call.options.admit found.actor? with
  | .error error => (⟨.fail error, found.lookups⟩, gate)
  | .ok .refused => (⟨.pure (.denied .loginRequired), found.lookups⟩, gate)
  | .ok (.admitted principal?) =>
    let (run, after) := gate.judge source call principal?
    (⟨run, found.lookups⟩, after)

def check (gate : Gate) (source : RoleSource) (call : GateCall) : Outcome Bool × Gate :=
  let (outcome, after) := gate.decide source call
  (outcome.map Verdict.isAllowed, after)

/-- What becomes of a verdict: a denial is handed over unless the options say not to. -/
def enforcement (gate : Gate) (options : PermitOptions) : Verdict → Enforcement
  | .allowed => ⟨true, none⟩
  | .denied reason =>
    let denial := options.denial gate.settings reason
    ⟨false, if options.redirect?.getD true then some denial else none⟩

def enforce (gate : Gate) (source : RoleSource) (call : GateCall) : Outcome Enforcement × Gate :=
  let (outcome, after) := gate.decide source call
  (outcome.map (gate.enforcement call.options), after)

def permit (gate : Gate) (source : RoleSource) (call : GateCall) : Outcome (Option Denial) × Gate :=
  let (outcome, after) := gate.enforce source call
  (outcome.map Enforcement.handed?, after)

end Gate

end RoleGate
