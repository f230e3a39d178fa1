import RoleGate.Access.Error
import RoleGate.Role.Source

/-! Runs: what asking a role source leads to, with the questions asked on the way. -/

set_option autoImplicit false

namespace RoleGate

structure Query where
  principal? : Option Principal
  role : String
  scope : Scope
  granted : Bool
  deriving DecidableEq, Repr

/-- A value or a mistake, and the queries that led to it, first one first. -/
structure Run (α : Type) where
  result : Except AccessError α
  queries : List Query := []

namespace Run

variable {α β γ : Type}

def pure (value : α) : Run α where
  result := .ok value

def fail (error : AccessError) : Run α where
  result := .error error

def ask (source : RoleSource) (principal? : Option Principal) (role : String) (scope : Scope) :
    Run Bool :=
  let granted := source.hasRole principal? role scope
  ⟨.ok granted, [⟨principal?, role, scope, granted⟩]⟩

/-- Goes on with the value; after a mistake nothing more is asked. -/
def bind (run : Run α) (next : α → Run β) : Run β :=
  match run.result with
  | .error error => ⟨.error error, run.queries⟩
  | .ok value =>
    match next value with
    | ⟨result, queries⟩ => ⟨result, run.queries ++ queries⟩

def map (f : α → β) (run : Run α) : Run β := ⟨run.result.map f, run.queries⟩

@[simp] theorem pure_bind (value : α) (next : α → Run β) : (pure value).bind next = next value := by
  simp [pure, bind]

theorem bind_pure (run : Run α) : run.bind pure = run := by
  obtain ⟨result, queries⟩ := run
  cases result <;> simp [bind, pure]

theorem bind_assoc (run : Run α) (first : α → Run β) (second : β → Run γ) :
    (run.bind first).bind second = run.bind fun value => (first value).bind second := by
  obtain ⟨result, queries⟩ := run
  cases result with
  | error => rfl
  | ok value =>
    simp only [bind]
    cases (first value).result <;> simp

theorem map_eq_bind (f : α → β) (run : Run α) :
    run.map f = run.bind fun value => pure (f value) := by
  obtain ⟨result, queries⟩ := run
  cases result <;> simp [map, bind, pure, Except.map]

end Run

end RoleGate
