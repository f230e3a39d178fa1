import RoleGate.Gate
import RoleGate.Role.Command

/-! Sessions: calls of one gate, mixed with changes of the grants it works with. -/

set_option autoImplicit false

namespace RoleGate

inductive GateEntry where
  | check
  | enforce
  | permit
  | decide
  deriving DecidableEq, Repr

inductive GateAnswer where
  | checked (outcome : Outcome Bool)
  | enforced (outcome : Outcome Enforcement)
  | permitted (outcome : Outcome (Option Denial))
  | decided (outcome : Outcome Verdict)

def Gate.answer (gate : Gate) (source : RoleSource) (entry : GateEntry) (call : GateCall) :
    GateAnswer × Gate :=
  match entry with
  | .check => (gate.check source call).map .checked id
  | .enforce => (gate.enforce source call).map .enforced id
  | .permit => (gate.permit source call).map .permitted id
  | .decide => (gate.decide source call).map .decided id

inductive RoleStore where
  | live (table : GrantTable)
  | fixed (source : RoleSource)

def RoleStore.source : RoleStore → RoleSource
  | live table => table.source
  | fixed source => source

structure Session where
  gate : Gate
  store : RoleStore

inductive SessionStep where
  | grants (command : GrantCommand)
  | call (entry : GateEntry) (call : GateCall)
  deriving DecidableEq, Repr

inductive SessionAnswer where
  | grants (answer : GrantAnswer)
  | call (answer : GateAnswer)

namespace Session

/-- Takes one step. There is no answer to a command about grants where the source stays. -/
def step (session : Session) : SessionStep → Option (SessionAnswer × Session)
  | .grants command =>
    match session.store with
    | .live table =>
      some (.grants (table.answer command), { session with store := .live (table.apply command) })
    | .fixed _ => none
  | .call entry call =>
    let (answer, gate) := session.gate.answer session.store.source entry call
    some (.call answer, { session with gate := gate })

def run (session : Session) : List SessionStep → Option (List (SessionAnswer × Session))
  | [] => some []
  | step :: rest =>
    match session.step step with
    | none => none
    | some (answer, after) => (after.run rest).map ((answer, after) :: ·)

end Session

end RoleGate
