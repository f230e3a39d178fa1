import RoleGate.Access.Context
import RoleGate.Access.Error
import RoleGate.Expr
import RoleGate.Model.Registry
import RoleGate.Role.Scope

/-! What the names in an expression stand for: a role, an object or a class of models. The same name
is an object where it is bound, and a role where it is not. -/

set_option autoImplicit false

namespace RoleGate

inductive Referent where
  | role (name : String)
  | object (name : String) (model : Model)
  | modelClass (name : String)
  deriving DecidableEq, Repr

/-- The scope on which a role is asked for. A name that is only a role is asked for on
everything. -/
def Referent.scope : Referent → Scope
  | role _ => .global
  | object _ model => .ofModel model
  | modelClass name => .ofClass name

/-- What a name stands for that may be that of an object or of a role. -/
def Context.referent (context : Context) (name : String) : Referent :=
  match context.find? name with
  | some model => .object name model
  | none => .role name

def Registry.referent (models : Registry) (name : String) : Except AccessError Referent :=
  match models.find? name with
  | some found => .ok (.modelClass found)
  | none => .error (.unknownClass name)

/-- What the model after a role stands for. There is no role to fall back on here: a name that is
bound to no object is a mistake. -/
def ModelName.referent (models : Registry) (context : Context) :
    ModelName → Except AccessError Referent
  | .className name => models.referent name
  | .object name =>
    match context.find? name with
    | some model => .ok (.object name model)
    | none => .error (.unboundModel name)

def Atom.scope (models : Registry) (context : Context) : Atom → Except AccessError Scope
  | .role _ true => .ok .global
  | .role name false => .ok (context.referent name).scope
  | .model (.object name) => .ok (context.referent name).scope
  | .model (.className name) => (models.referent name).map Referent.scope
  | .scoped _ reference => (reference.referent models context).map Referent.scope

theorem Registry.referent_eq (models : Registry) (name : String) :
    models.referent name =
      if models.contains name then .ok (.modelClass name) else .error (.unknownClass name) := by
  simp only [referent, find?]
  by_cases known : models.contains name = true <;> simp [known]

end RoleGate
