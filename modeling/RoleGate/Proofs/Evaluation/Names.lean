import RoleGate.Proofs.Evaluation.Leaves

/-! What an evaluation sees of its context.

It looks up the names that its atoms have for objects and for classes, and nothing else of the
bindings or of the registry. Of a name that is bound it sees the object, but not whether the call
or the request brought it along.
-/

set_option autoImplicit false

namespace RoleGate

/-! ### The names in an expression -/

/-- The name under which an atom looks for an object. A role that is quoted or stands before a model
is not looked for among the objects, and a class is not either. -/
def Atom.objectName? : Atom → Option String
  | .role name false | .model (.object name) | .scoped _ (.object name) => some name
  | .role _ true | .model (.className _) | .scoped _ (.className _) => none

def Atom.className? : Atom → Option String
  | .model (.className name) | .scoped _ (.className name) => some name
  | .role _ _ | .model (.object _) | .scoped _ (.object _) => none

namespace Expr

def objectNames (tree : Expr) : List String := tree.leaves.filterMap (·.atom.objectName?)

def classNames (tree : Expr) : List String := tree.leaves.filterMap (·.atom.className?)

variable {tree : Expr} {leaf : Leaf} {name : String}

theorem mem_objectNames (member : leaf ∈ tree.leaves) (named : leaf.atom.objectName? = some name) :
    name ∈ tree.objectNames :=
  List.mem_filterMap.mpr ⟨leaf, member, named⟩

theorem mem_classNames (member : leaf ∈ tree.leaves) (named : leaf.atom.className? = some name) :
    name ∈ tree.classNames :=
  List.mem_filterMap.mpr ⟨leaf, member, named⟩

end Expr

/-! ### Bindings that are forgotten or moved -/

def Bindings.erase (bindings : Bindings) (name : String) : Bindings where
  entries := bindings.entries.filter fun entry => entry.1 != name

theorem Bindings.find?_erase (bindings : Bindings) (name other : String) :
    (bindings.erase name).find? other = if other = name then none else bindings.find? other :=
  lookup_filter_ne bindings.entries name other

theorem Bindings.find?_insertAll_of_notMem {name : String} (bindings : Bindings)
    (entries : List (String × Model)) (absent : ∀ entry ∈ entries, name ≠ entry.1) :
    (bindings.insertAll entries).find? name = bindings.find? name := by
  induction entries generalizing bindings with
  | nil => rfl
  | cons entry rest ih =>
    obtain ⟨differs, others⟩ := List.forall_mem_cons.mp absent
    calc (bindings.insertAll (entry :: rest)).find? name
      _ = (bindings.insert entry.1 entry.2).find? name := ih _ others
      _ = bindings.find? name := by rw [find?_insert, if_neg differs]

namespace Context

/-- The context in which the object of that name belongs to the request, if the call handed one
over. Whatever the request had under the name is forgotten. -/
def moveToRequest (context : Context) (name : String) : Context :=
  match context.options.find? name with
  | none => context
  | some model =>
    { context with
      options := context.options.erase name
      bindings := context.bindings.insert name model }

def moveAllToRequest (context : Context) (names : List String) : Context :=
  names.foldl moveToRequest context

theorem principal?_moveToRequest (context : Context) (name : String) :
    (context.moveToRequest name).principal? = context.principal? := by
  unfold moveToRequest
  split <;> rfl

theorem find?_moveToRequest (context : Context) (name other : String) :
    (context.moveToRequest name).find? other = context.find? other := by
  unfold moveToRequest
  split
  · rfl
  · next model handed =>
    by_cases same : other = name
    · subst same
      simp [find?, Bindings.find?_erase, Bindings.find?_insert, handed]
    · simp [find?, Bindings.find?_erase, Bindings.find?_insert, same]

theorem principal?_moveAllToRequest (context : Context) (names : List String) :
    (context.moveAllToRequest names).principal? = context.principal? := by
  induction names generalizing context with
  | nil => rfl
  | cons name rest ih => exact (ih _).trans (context.principal?_moveToRequest name)

theorem find?_moveAllToRequest (context : Context) (names : List String) (other : String) :
    (context.moveAllToRequest names).find? other = context.find? other := by
  induction names generalizing context with
  | nil => rfl
  | cons name rest ih => exact (ih _).trans (context.find?_moveToRequest name other)

end Context

/-! ### What an evaluation depends on -/

section
variable {source : RoleSource} {models otherModels : Registry} {context other : Context}

theorem Atom.scope_congr {atom : Atom}
    (objects : ∀ name, atom.objectName? = some name → context.find? name = other.find? name)
    (classes : ∀ name, atom.className? = some name →
      models.contains name = otherModels.contains name) :
    atom.scope models context = atom.scope otherModels other := by
  match atom with
  | .role name true => rfl
  | .role name false | .model (.object name) =>
    simp only [scope, Context.referent, objects name rfl]
  | .scoped asked (.object name) => simp only [scope, ModelName.referent, objects name rfl]
  | .model (.className name) | .scoped asked (.className name) =>
    simp only [scope, ModelName.referent, Registry.referent_eq, classes name rfl]

namespace Expr

/-- Of the context and the registry, an evaluation depends on who asks and on the scopes of the
leaves. -/
theorem evaluate_congr {tree : Expr} (principal : context.principal? = other.principal?)
    (scopes : ∀ leaf ∈ tree.leaves,
      leaf.atom.scope models context = leaf.atom.scope otherModels other) :
    tree.evaluate source models context = tree.evaluate source otherModels other := by
  induction tree with
  | atom leaf =>
    have same := scopes ⟨[], leaf⟩ (List.mem_singleton.mpr rfl)
    simp only [evaluate, Atom.evaluate, same, principal]
  | binary left op right leftIh rightIh =>
    -- A leaf of an operand is a leaf of the whole expression too, one turn further down.
    have onLeft := leftIh fun leaf member =>
      scopes (leaf.below .left) ((below_mem_leaves rfl).mpr member)
    have onRight := rightIh fun leaf member =>
      scopes (leaf.below .right) ((below_mem_leaves rfl).mpr member)
    simp only [evaluate, onLeft, onRight]
  | not operand ih | group operand ih =>
    have inside := ih fun leaf member =>
      scopes (leaf.below .inward) ((below_mem_leaves rfl).mpr member)
    simp only [evaluate, inside]

/-- In both contexts the same principal asks, and each name in the expression stands for the same
object or for none; of the classes in it, both registries know the same. -/
structure SeesAlike (tree : Expr) (models otherModels : Registry) (context other : Context) :
    Prop where
  principal : context.principal? = other.principal?
  objects : ∀ name ∈ tree.objectNames, context.find? name = other.find? name
  classes : ∀ name ∈ tree.classNames, models.contains name = otherModels.contains name

theorem SeesAlike.evaluate_eq {tree : Expr}
    (alike : tree.SeesAlike models otherModels context other) (source : RoleSource) :
    tree.evaluate source models context = tree.evaluate source otherModels other :=
  evaluate_congr alike.principal fun _ member =>
    Atom.scope_congr (fun name named => alike.objects name (mem_objectNames member named))
      fun name named => alike.classes name (mem_classNames member named)

theorem evaluate_eq_of_find? {tree : Expr} (source : RoleSource) (models : Registry)
    (principal : context.principal? = other.principal?)
    (objects : ∀ name ∈ tree.objectNames, context.find? name = other.find? name) :
    tree.evaluate source models context = tree.evaluate source models other :=
  SeesAlike.evaluate_eq ⟨principal, objects, fun _ _ => rfl⟩ source

/-- An evaluation sees its context and its registry through the names in the expression alone. What
the request has under a name that the call hands over too does not matter, nor does what is bound to
a name that the expression does not look for; and objects of the call might as well belong to the
request. -/
theorem evaluate_sees_names (source : RoleSource) (tree : Expr) :
    (∀ models otherModels context other, tree.SeesAlike models otherModels context other →
      tree.evaluate source models context = tree.evaluate source otherModels other) ∧
    (∀ models context bindings,
      (∀ name, context.options.find? name = none →
        bindings.find? name = context.bindings.find? name) →
      tree.evaluate source models { context with bindings } =
        tree.evaluate source models context) ∧
    (∀ models context entries, (∀ entry ∈ entries, entry.1 ∉ tree.objectNames) →
      tree.evaluate source models
          { context with options := context.options.insertAll entries } =
        tree.evaluate source models context ∧
      tree.evaluate source models
          { context with bindings := context.bindings.insertAll entries } =
        tree.evaluate source models context) ∧
    ∀ models context names,
      tree.evaluate source models (context.moveAllToRequest names) =
        tree.evaluate source models context := by
  refine ⟨fun models otherModels context other alike => alike.evaluate_eq source, ?_, ?_, ?_⟩
  · intro models context bindings unhidden
    apply evaluate_eq_of_find? source models (by rfl)
    intro name _
    -- The request is not looked at where the call hands an object over.
    cases handed : context.options.find? name with
    | none => simp only [Context.find?, handed, unhidden name handed]
    | some model => simp only [Context.find?, handed, Option.some_or]
  · intro models context entries foreign
    have unbound (name : String) (looked : name ∈ tree.objectNames) (bindings : Bindings) :
        (bindings.insertAll entries).find? name = bindings.find? name :=
      bindings.find?_insertAll_of_notMem entries fun entry member same =>
        foreign entry member (same ▸ looked)
    constructor
    · apply evaluate_eq_of_find? source models (by rfl)
      intro name looked
      simp only [Context.find?, unbound name looked]
    · apply evaluate_eq_of_find? source models (by rfl)
      intro name looked
      simp only [Context.find?, unbound name looked]
  · intro models context names
    apply evaluate_eq_of_find? source models (context.principal?_moveAllToRequest names)
    intro name _
    exact context.find?_moveAllToRequest names name

/-- The call hands over a document, which hides the one of the request. The same document may as
well be all that the request has, since nobody looks for objects named as the quoted role, as the
role that is asked for or as the class. -/
theorem evaluate_sees_names_document :
    let tree : Expr := .binary (.atom (.scoped "owner" (.object "doc"))) .and
      (.not (.binary (.atom (.role "banned" true)) .or (.atom (.model (.className "Document")))))
    let source : RoleSource := .exactly [("owner", .ofModel ⟨"Document", "1"⟩)]
    let models : Registry := .ofList ["Document", "Team"]
    let otherModels : Registry := .ofList ["Document"]
    let context : Context := {
      principal? := some (.user ⟨"2", "bob"⟩)
      options := .ofList [("doc", ⟨"Document", "1"⟩)]
      bindings := .ofList [("doc", ⟨"Document", "2"⟩), ("banned", ⟨"Team", "5"⟩)] }
    let other : Context := {
      principal? := some (.user ⟨"2", "bob"⟩)
      bindings := .ofList [("Document", ⟨"Team", "6"⟩), ("doc", ⟨"Document", "1"⟩),
        ("owner", ⟨"Team", "7"⟩)] }
    tree.SeesAlike models otherModels context other ∧
      tree.evaluate source models context = tree.evaluate source otherModels other ∧
      (tree.evaluate source otherModels other).result = .ok true := by
  intro tree source models otherModels context other
  have objects : tree.objectNames = ["doc"] := rfl
  have classes : tree.classNames = ["Document"] := rfl
  have alike : tree.SeesAlike models otherModels context other := by
    refine ⟨rfl, ?_, ?_⟩
    · rw [objects]
      decide
    · rw [classes]
      decide
  exact ⟨alike, (evaluate_sees_names source tree).1 models otherModels context other alike,
    rfl⟩

end Expr

end

end RoleGate
