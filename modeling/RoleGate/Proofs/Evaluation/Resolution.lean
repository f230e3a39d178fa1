import RoleGate.Access.Evaluation

/-! What an atom asks, and when it cannot ask.

The rules stand here by themselves, case by case. Each atom either asks for its role on one scope or
fails for one reason.
-/

set_option autoImplicit false

namespace RoleGate

/-- The scope on which an atom asks for its role. A name that is bound to an object stands for it;
an unbound name is asked for on everything, unless it stands after a role. -/
inductive Atom.AsksOn (models : Registry) (context : Context) : Atom → Scope → Prop where
  | quoted (name : String) : AsksOn models context (.role name true) .global
  | boundRole {name : String} {model : Model} (bound : context.find? name = some model) :
    AsksOn models context (.role name false) (.ofModel model)
  | unboundRole {name : String} (unbound : context.find? name = none) :
    AsksOn models context (.role name false) .global
  | boundObject {name : String} {model : Model} (bound : context.find? name = some model) :
    AsksOn models context (.model (.object name)) (.ofModel model)
  | unboundObject {name : String} (unbound : context.find? name = none) :
    AsksOn models context (.model (.object name)) .global
  | modelClass {name : String} (known : models.contains name = true) :
    AsksOn models context (.model (.className name)) (.ofClass name)
  | scopedObject (role : String) {name : String} {model : Model}
    (bound : context.find? name = some model) :
    AsksOn models context (.scoped role (.object name)) (.ofModel model)
  | scopedClass (role : String) {name : String} (known : models.contains name = true) :
    AsksOn models context (.scoped role (.className name)) (.ofClass name)

inductive Atom.FailsWith (models : Registry) (context : Context) : Atom → AccessError → Prop where
  | modelClass {name : String} (unknown : models.contains name = false) :
    FailsWith models context (.model (.className name)) (.unknownClass name)
  | scopedClass (role : String) {name : String} (unknown : models.contains name = false) :
    FailsWith models context (.scoped role (.className name)) (.unknownClass name)
  | scopedObject (role : String) {name : String} (unbound : context.find? name = none) :
    FailsWith models context (.scoped role (.object name)) (.unboundModel name)

/-- An atom that asks makes this query: for its role, on its scope, in the name of whoever asks. -/
structure Atom.Asks (source : RoleSource) (models : Registry) (context : Context) (atom : Atom)
    (query : Query) : Prop where
  scope : atom.AsksOn models context query.scope
  principal : query.principal? = context.principal?
  role : query.role = atom.roleName
  granted : query.granted = source.hasRole query.principal? query.role query.scope

def Atom.Resolves (models : Registry) (context : Context) (atom : Atom) : Prop :=
  ∃ scope, atom.AsksOn models context scope

def Atom.Fails (models : Registry) (context : Context) (atom : Atom) : Prop :=
  ∃ error, atom.FailsWith models context error

section
variable {source : RoleSource} {models : Registry} {context : Context} {atom : Atom}
  {scope : Scope} {error : AccessError}

theorem Registry.referent_of_contains {name : String} (known : models.contains name = true) :
    models.referent name = .ok (.modelClass name) := by
  rw [referent_eq, if_pos known]

theorem Registry.referent_of_not_contains {name : String} (unknown : models.contains name = false) :
    models.referent name = .error (.unknownClass name) := by
  rw [referent_eq, unknown]
  rfl

theorem Atom.AsksOn.scope_eq (asks : atom.AsksOn models context scope) :
    atom.scope models context = .ok scope := by
  cases asks with
  | quoted => rfl
  | boundRole bound | unboundRole bound | boundObject bound | unboundObject bound =>
    simp only [Atom.scope, Context.referent, bound, Referent.scope]
  | modelClass known => simp only [Atom.scope, Registry.referent_of_contains known]; rfl
  | scopedObject role bound => simp only [Atom.scope, ModelName.referent, bound]; rfl
  | scopedClass role known =>
    simp only [Atom.scope, ModelName.referent, Registry.referent_of_contains known]; rfl

theorem Atom.FailsWith.scope_eq (fails : atom.FailsWith models context error) :
    atom.scope models context = .error error := by
  cases fails with
  | modelClass unknown => simp only [Atom.scope, Registry.referent_of_not_contains unknown]; rfl
  | scopedClass role unknown =>
    simp only [Atom.scope, ModelName.referent, Registry.referent_of_not_contains unknown]; rfl
  | scopedObject role unbound => simp only [Atom.scope, ModelName.referent, unbound]; rfl

theorem Atom.resolves_or_fails (models : Registry) (context : Context) (atom : Atom) :
    atom.Resolves models context ∨ atom.Fails models context := by
  match atom with
  | .role name true => exact .inl ⟨_, .quoted name⟩
  | .role name false =>
    cases found : context.find? name with
    | none => exact .inl ⟨_, .unboundRole found⟩
    | some model => exact .inl ⟨_, .boundRole found⟩
  | .model (.object name) =>
    cases found : context.find? name with
    | none => exact .inl ⟨_, .unboundObject found⟩
    | some model => exact .inl ⟨_, .boundObject found⟩
  | .model (.className name) =>
    cases known : models.contains name with
    | false => exact .inr ⟨_, .modelClass known⟩
    | true => exact .inl ⟨_, .modelClass known⟩
  | .scoped asked (.object name) =>
    cases found : context.find? name with
    | none => exact .inr ⟨_, .scopedObject asked found⟩
    | some model => exact .inl ⟨_, .scopedObject asked found⟩
  | .scoped asked (.className name) =>
    cases known : models.contains name with
    | false => exact .inr ⟨_, .scopedClass asked known⟩
    | true => exact .inl ⟨_, .scopedClass asked known⟩

theorem Atom.Resolves.not_fails (resolves : atom.Resolves models context) :
    ¬atom.Fails models context := by
  obtain ⟨scope, asks⟩ := resolves
  rintro ⟨error, fails⟩
  nomatch asks.scope_eq.symm.trans fails.scope_eq

/-! ### The run of an atom -/

theorem Atom.evaluate_of_asksOn (source : RoleSource) (asks : atom.AsksOn models context scope) :
    atom.evaluate source models context =
      .ask source context.principal? atom.roleName scope := by
  rw [evaluate, asks.scope_eq]

theorem Atom.evaluate_of_failsWith (source : RoleSource)
    (fails : atom.FailsWith models context error) :
    atom.evaluate source models context = .fail error := by
  rw [evaluate, fails.scope_eq]

end

end RoleGate
