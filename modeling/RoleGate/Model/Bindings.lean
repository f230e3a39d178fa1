import RoleGate.Model

/-! Models bound to names, as the objects that an expression may speak of. -/

set_option autoImplicit false

namespace RoleGate

/-- Names with the models they stand for, in the order in which they were bound. -/
structure Bindings where
  entries : List (String × Model) := []
  deriving DecidableEq, Repr

namespace Bindings

def find? (bindings : Bindings) (name : String) : Option Model := bindings.entries.lookup name

/-- Binds a name; what it stood for before is forgotten. -/
def insert (bindings : Bindings) (name : String) (model : Model) : Bindings where
  entries := bindings.entries.filter (fun entry => entry.1 != name) ++ [(name, model)]

def insertAll (bindings : Bindings) (entries : List (String × Model)) : Bindings :=
  entries.foldl (fun bound entry => bound.insert entry.1 entry.2) bindings

def ofList (entries : List (String × Model)) : Bindings := insertAll {} entries

@[simp] theorem find?_empty (name : String) : find? {} name = none := rfl

theorem lookup_filter_ne (entries : List (String × Model)) (name other : String) :
    (entries.filter fun entry => entry.1 != name).lookup other =
      if other = name then none else entries.lookup other := by
  induction entries with
  | nil => simp
  | cons head rest ih =>
    obtain ⟨key, model⟩ := head
    by_cases same : key = name
    · subst same
      by_cases asked : other = key
      · subst asked
        simpa using ih
      · have differs : (other == key) = false := by simpa using asked
        simpa [List.lookup_cons, differs, asked] using ih
    · by_cases here : other = key
      · subst here
        simp [same]
      · have differs : (other == key) = false := by simpa using here
        simpa [List.lookup_cons, differs, same] using ih

theorem find?_insert (bindings : Bindings) (name other : String) (model : Model) :
    (bindings.insert name model).find? other =
      if other = name then some model else bindings.find? other := by
  simp only [find?, insert, List.lookup_append, lookup_filter_ne]
  by_cases same : other = name
  · simp [same]
  · have differs : (other == name) = false := by simpa using same
    simp [same, List.lookup_cons, differs]

end Bindings

end RoleGate
