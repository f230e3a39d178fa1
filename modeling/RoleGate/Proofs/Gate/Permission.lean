import RoleGate.Proofs.Gate.Decision

/-! What it means that `permit` hands over no denial.

Whoever calls it goes on with the guarded action then. That is right wherever denials are acted
upon, as they are unless the options say otherwise; where they say so, no denial is ever handed
over, and `permit` does not tell whether there was one.
-/

set_option autoImplicit false

namespace RoleGate

namespace Gate

theorem handed?_enforcement_eq_none_iff {gate : Gate} {options : PermitOptions}
    {verdict : Verdict} :
    (gate.enforcement options verdict).handed? = none ↔
      verdict = .allowed ∨
        (options.redirect? = some false ∧ ∃ reason, verdict = .denied reason) := by
  cases verdict with
  | allowed => simp [enforcement]
  | denied reason =>
    cases redirect : options.redirect? with
    | none => simp [enforcement, redirect]
    | some acted => cases acted <;> simp [enforcement, redirect]

theorem permit_result (gate : Gate) (source : RoleSource) (call : GateCall) :
    (gate.permit source call).1.result =
      (gate.decide source call).1.result.map fun verdict =>
        (gate.enforcement call.options verdict).handed? := by
  change ((gate.decide source call).1.result.map _).map _ = _
  cases (gate.decide source call).1.result with
  | error error => rfl
  | ok verdict => rfl

/-- A call is decided again as it was decided before. -/
theorem decide_after (gate : Gate) (source : RoleSource) (call : GateCall) :
    ((gate.decide source call).2.decide source call).1 = (gate.decide source call).1 := by
  rw [decide_gate]
  split
  · exact decide_congr source call rfl (gate.cache.read_after call.text)
  · rfl

/-- `permit` hands over nothing exactly if the call is allowed, or if it is denied and the options
say that a denial is not to be acted upon; so it is, whether it is decided before or afterwards. -/
theorem permit_eq_none_iff (gate : Gate) (source : RoleSource) (call : GateCall) :
    ((gate.permit source call).1.result = .ok none ↔
      (gate.decide source call).1.result = .ok .allowed ∨
        (call.options.redirect? = some false ∧
          ∃ reason, (gate.decide source call).1.result = .ok (.denied reason))) ∧
    ((gate.permit source call).2.decide source call).1 = (gate.decide source call).1 := by
  refine ⟨?_, decide_after gate source call⟩
  rw [permit_result]
  cases (gate.decide source call).1.result with
  | error error => simp [Except.map]
  | ok verdict =>
    simp only [Except.map, Except.ok.injEq]
    exact handed?_enforcement_eq_none_iff

/-- Nobody holds the role, but the denial is not to be acted upon: nothing is handed over. -/
theorem permit_silent_on_denial :
    let call : GateCall := {
      text := "admin"
      request := { currentUser? := some (.someone (.user ⟨"3", "carol"⟩)) }
      options := { redirect? := some false } }
    (permit {} (GrantTable.source {}) call).1.result = .ok none ∧
      (decide {} (GrantTable.source {}) call).1.result = .ok (.denied .permissionDenied) := by
  decide +kernel

end Gate

end RoleGate
