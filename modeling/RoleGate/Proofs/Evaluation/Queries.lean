import RoleGate.Proofs.Evaluation.Equivalence

/-! What an evaluation asks, and of whom.

Each query is about whoever asks and is answered by the source, and an evaluation fails only on a
name that stands for nothing. Who asks matters by the answers alone: where they are the same, so are
the questions and the result. Whoever holds no role is refused each time, and is let in by nothing
but a negation.
-/

set_option autoImplicit false

namespace RoleGate

namespace Run

variable {α β : Type}

/-! ### What holds of all errors and all queries -/

structure Within (run : Run α) (failing : AccessError → Prop) (asking : Query → Prop) : Prop where
  result : ∀ error, run.result = .error error → failing error
  queries : ∀ query ∈ run.queries, asking query

variable {failing : AccessError → Prop} {asking : Query → Prop} {run : Run α}

theorem within_pure (value : α) : (pure value).Within failing asking := ⟨nofun, nofun⟩

theorem Within.map (within : run.Within failing asking) (f : α → β) :
    (run.map f).Within failing asking := by
  obtain ⟨result, queries⟩ := run
  refine ⟨fun error failed => within.result error ?_, within.queries⟩
  cases result with
  | error other => simpa [Run.map, Except.map] using failed
  | ok value => cases failed

theorem Within.bind (within : run.Within failing asking) {next : α → Run β}
    (nextWithin : ∀ value, (next value).Within failing asking) :
    (run.bind next).Within failing asking := by
  obtain ⟨result, queries⟩ := run
  cases result with
  | error other =>
    exact ⟨fun error failed => within.result error (by simpa [Run.bind] using failed),
      within.queries⟩
  | ok value =>
    refine ⟨(nextWithin value).result, fun query member => ?_⟩
    exact (List.mem_append.mp member).elim (within.queries query) ((nextWithin value).queries query)

/-! ### The value of a run that goes on -/

theorem bind_result_eq_ok {next : α → Run β} {value : β} :
    (run.bind next).result = .ok value ↔
      ∃ first, run.result = .ok first ∧ (next first).result = .ok value := by
  obtain ⟨result, queries⟩ := run
  cases result <;> simp [bind]

/-! ### Another asker -/

/-- The run with all queries made about somebody else, as if the answers were the same. -/
def askedBy (principal? : Option Principal) (run : Run α) : Run α where
  result := run.result
  queries := run.queries.map fun query => { query with principal? }

theorem askedBy_map (principal? : Option Principal) (run : Run α) (f : α → β) :
    (run.map f).askedBy principal? = (run.askedBy principal?).map f := rfl

theorem askedBy_bind (principal? : Option Principal) (run : Run α) (next : α → Run β) :
    (run.bind next).askedBy principal? =
      (run.askedBy principal?).bind fun value => (next value).askedBy principal? := by
  obtain ⟨result, queries⟩ := run
  cases result with
  | error error => rfl
  | ok value => simp [askedBy, bind]

end Run

section
variable {source other : RoleSource} {models : Registry} {context : Context}

/-! ### One atom -/

def AccessError.IsOfName (error : AccessError) : Prop :=
  ∃ name, error = .unknownClass name ∨ error = .unboundModel name

theorem Atom.scope_error {atom : Atom} {error : AccessError}
    (failed : atom.scope models context = .error error) : error.IsOfName := by
  match atom with
  | .role _ true | .role _ false | .model (.object _) => nomatch failed
  | .model (.className name) | .scoped _ (.className name) =>
    simp only [scope, ModelName.referent, Registry.referent_eq] at failed
    split at failed
    · cases failed
    · cases failed
      exact ⟨name, .inl rfl⟩
  | .scoped _ (.object name) =>
    simp only [scope, ModelName.referent] at failed
    split at failed
    · cases failed
    · cases failed
      exact ⟨name, .inr rfl⟩

def Query.IsAsked (source : RoleSource) (context : Context) (query : Query) : Prop :=
  query.principal? = context.principal? ∧
    query.granted = source.hasRole context.principal? query.role query.scope

theorem Atom.evaluate_within (source : RoleSource) (models : Registry) (context : Context)
    (atom : Atom) :
    (atom.evaluate source models context).Within AccessError.IsOfName
      (Query.IsAsked source context) := by
  unfold evaluate
  cases resolved : atom.scope models context with
  | error error =>
    refine ⟨fun failed same => ?_, nofun⟩
    cases same
    exact scope_error resolved
  | ok scope =>
    refine ⟨nofun, fun query member => ?_⟩
    cases List.mem_singleton.mp member
    exact ⟨rfl, rfl⟩

theorem Atom.evaluate_askedBy {principal? : Option Principal}
    (alike : ∀ role scope,
      other.hasRole principal? role scope = source.hasRole context.principal? role scope)
    (atom : Atom) :
    atom.evaluate other models { context with principal? } =
      (atom.evaluate source models context).askedBy principal? := by
  have resolved : atom.scope models { context with principal? } = atom.scope models context := by
    match atom with
    | .role _ true | .role _ false => rfl
    | .model (.object _) | .model (.className _) => rfl
    | .scoped _ (.object _) | .scoped _ (.className _) => rfl
  unfold evaluate
  rw [resolved]
  cases atom.scope models context with
  | error error => rfl
  | ok scope => simp [Run.ask, Run.askedBy, alike]

/-! ### Whole expressions -/

namespace Expr

theorem evaluate_within (source : RoleSource) (models : Registry) (context : Context)
    (tree : Expr) :
    (tree.evaluate source models context).Within AccessError.IsOfName
      (Query.IsAsked source context) := by
  induction tree with
  | atom leaf => exact leaf.evaluate_within source models context
  | binary left op right leftWithin rightWithin =>
    refine leftWithin.bind fun value => ?_
    split
    · exact Run.within_pure value
    · exact rightWithin
  | not operand ih => exact ih.map (!·)
  | group inner ih => exact ih

/-- Where the answers are the same, another asker comes to the same by the same questions. -/
theorem evaluate_askedBy {principal? : Option Principal}
    (alike : ∀ role scope,
      other.hasRole principal? role scope = source.hasRole context.principal? role scope)
    (tree : Expr) :
    tree.evaluate other models { context with principal? } =
      (tree.evaluate source models context).askedBy principal? := by
  induction tree with
  | atom leaf => exact leaf.evaluate_askedBy alike
  | binary left op right leftAlike rightAlike =>
    simp only [evaluate, leftAlike, rightAlike, Run.askedBy_bind]
    congr 1
    funext value
    split <;> rfl
  | not operand ih => rw [evaluate, ih, evaluate, Run.askedBy_map]
  | group inner ih => exact ih

/-! ### Askers without roles -/

def isPositive : Expr → Bool
  | .atom _ => true
  | .binary left _ right => left.isPositive && right.isPositive
  | .not _ => false
  | .group inner => inner.isPositive

/-- Without a negation, nobody is let in who holds no role. -/
theorem evaluate_ne_true
    (refused : ∀ role scope, source.hasRole context.principal? role scope = false)
    {tree : Expr} (positive : tree.isPositive = true) :
    (tree.evaluate source models context).result ≠ .ok true := by
  induction tree with
  | atom leaf =>
    simp only [evaluate, Atom.evaluate]
    split
    · simp [Run.ask, refused]
    · intro allowed
      cases allowed
  | binary left op right leftRefused rightRefused =>
    obtain ⟨leftPositive, rightPositive⟩ := Bool.and_eq_true_iff.mp positive
    intro allowed
    obtain ⟨value, leftValue, allowed⟩ := Run.bind_result_eq_ok.mp allowed
    split at allowed
    · cases allowed
      exact leftRefused leftPositive leftValue
    · exact rightRefused rightPositive allowed
  | not operand => cases positive
  | group inner ih => exact ih positive

end Expr

end

end RoleGate
