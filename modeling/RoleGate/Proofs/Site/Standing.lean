import RoleGate.Proofs.Evaluation.Truth
import RoleGate.Proofs.Gate.GlobalRoles
import RoleGate.Proofs.Parsing.Exactness
import RoleGate.Site.Accounts

/-! Which roles the users of the site hold.

Both kinds of roles come from the same grants; one of them regards what a role is granted on, and
the other does not.
-/

set_option autoImplicit false

namespace RoleGate.Site

variable {kind : RoleSourceKind} {user : User} {role : String} {scope : Scope}

theorem holds_fixedRoles_iff {id : String} : fixedRoles.holds id role = true ↔
    (id = "1" ∧ role = "admin") ∨ (id = "2" ∧ role = "editor") ∨ (id = "2" ∧ role = "owner") ∨
    (id = "3" ∧ role = "reviewer") ∨ (id = "4" ∧ role = "banned") := by
  rw [fixedRoles, FixedRoles.holds_ofList_iff]
  simp [or_and_right, exists_or, and_assoc, and_comm, eq_comm]

theorem holds_grants_iff {id : String} : grants.holds id role scope = true ↔
    (id = "1" ∧ role = "admin") ∨ (id = "2" ∧ role = "editor") ∨
    (id = "2" ∧ role = "owner" ∧ (Scope.ofModel (document "1")).covers scope = true) ∨
    (id = "3" ∧ role = "reviewer" ∧ (Scope.ofClass "Document").covers scope = true) ∨
    (id = "4" ∧ role = "banned") := by
  rw [grants, GrantTable.holds_iff]
  simp only [GrantTable.contains_ofList, List.contains_iff_mem]
  simp [or_and_right, exists_or, and_assoc, Scope.covers]

/-- Roles are held on everything, but for the owner of the first document and the reviewer of
documents where roles are not fixed. -/
theorem hasRole_iff : (source kind).hasRole (some (.user user)) role scope = true ↔
    (user.id = "1" ∧ role = "admin") ∨ (user.id = "2" ∧ role = "editor") ∨
    (user.id = "2" ∧ role = "owner" ∧
      (kind = .hardwired ∨ (Scope.ofModel (document "1")).covers scope = true)) ∨
    (user.id = "3" ∧ role = "reviewer" ∧
      (kind = .hardwired ∨ (Scope.ofClass "Document").covers scope = true)) ∨
    (user.id = "4" ∧ role = "banned") := by
  cases kind with
  | hardwired =>
    rw [source, FixedRoles.source, RoleSource.hasRole_ofHolders_iff]
    simp [Principal.id?, Principal.supportsRoles, holds_fixedRoles_iff]
  | objectRoles =>
    rw [source, GrantTable.source, RoleSource.hasRole_ofHolders_iff]
    simp [Principal.id?, Principal.supportsRoles, holds_grants_iff]

/-! ### The guards of documents -/

/-- Bob owns the first document, and all of them where it does not matter on what he is an owner. -/
def IsBobs (kind : RoleSourceKind) (id : String) : Prop := id = "1" ∨ kind = .hardwired

def MaySee (kind : RoleSourceKind) (id userId : String) : Prop :=
  userId = "1" ∨ userId = "3" ∨ (userId = "2" ∧ IsBobs kind id)

def MayEdit (kind : RoleSourceKind) (id userId : String) : Prop :=
  userId = "1" ∨ (userId = "2" ∧ IsBobs kind id)

def showGuard : Expr :=
  .binary
    (.binary (.atom (.role "admin" false)) .or (.atom (.scoped "owner" (.object "document"))))
    .or (.atom (.scoped "reviewer" (.className "Document")))

def editGuard : Expr :=
  .binary
    (.group (.binary
      (.binary (.atom (.role "editor" false)) .and (.atom (.scoped "owner" (.object "document"))))
      .or (.atom (.role "admin" false))))
    .and (.not (.atom (.role "banned" false)))

theorem parse_of_tokenize {text : String} {tokens : List Token} {tree : Expr}
    (split : tokenize text.toList = .ok tokens) (derived : Derives (.chain .or) tokens tree)
    (fits : tree.need ≤ maxDepth) : Expr.parse text = .ok tree := by
  rw [Expr.parse, split]
  exact Expr.parseTokens_eq_ok_iff.mpr ⟨derived, fits⟩

theorem derives_role {name : String} (plain : isClassName name = false) :
    Derives .primary [.word name] (.atom (.role name false)) :=
  .atom (.role (.word plain))

theorem parse_showGuard :
    Expr.parse "admin or owner of :document or reviewer of Document" = .ok showGuard := by
  have admin : Derives (.chain .or) [.word "admin"] (.atom (.role "admin" false)) :=
    (derives_role (by decide)).loosen (by decide)
  have owner : Derives (.chain .and) [.word "owner", .word "of", .symbol "document"]
      (.atom (.scoped "owner" (.object "document"))) :=
    .single (.primary (.atom (.preposition (.word (by decide)) (by decide) .symbol)))
  have reviewer : Derives (.chain .and) [.word "reviewer", .word "of", .word "Document"]
      (.atom (.scoped "reviewer" (.className "Document"))) :=
    .single (.primary
      (.atom (.preposition (.word (by decide)) (by decide) (.className (by decide)))))
  exact parse_of_tokenize (by decide +kernel) ((admin.snoc owner).snoc reviewer) (by decide)

theorem parse_editGuard :
    Expr.parse "(editor and owner(:document) or admin) and not banned" = .ok editGuard := by
  have editor : Derives (.chain .and) [.word "editor"] (.atom (.role "editor" false)) :=
    (derives_role (by decide)).loosen (by decide)
  have owner : Derives .negation [.word "owner", .leftParen, .symbol "document", .rightParen]
      (.atom (.scoped "owner" (.object "document"))) :=
    .primary (.atom (.call (.word (by decide)) .symbol))
  have admin : Derives (.chain .and) [.word "admin"] (.atom (.role "admin" false)) :=
    (derives_role (by decide)).loosen (by decide)
  have banned : Derives .negation [.word "banned"] (.atom (.role "banned" false)) :=
    (derives_role (by decide)).loosen (by decide)
  have editorOrAdmin := (Derives.single (editor.snoc owner) : Derives (.chain .or) _ _).snoc admin
  have whole : Derives (.chain .and) _ editGuard :=
    Derives.snoc (.single (.primary (.group editorOrAdmin))) (.not banned)
  exact parse_of_tokenize (by decide +kernel) (.single whole) (by decide)

structure AsksAbout (context : Context) (user : User) (id : String) : Prop where
  principal : context.principal? = some (.user user)
  document : context.find? "document" = some (document id)
  unbound : ∀ name, name ≠ "document" → context.find? name = none

section
variable {context : Context} {id : String}

theorem AsksAbout.result_role (asks : AsksAbout context user id) (kind : RoleSourceKind)
    (role : String) (other : role ≠ "document") :
    ((Expr.atom (.role role false)).evaluate (source kind) models context).result =
      .ok ((source kind).hasRole (some (.user user)) role .global) := by
  rw [← asks.principal]
  exact Expr.result_atom (.unboundRole (asks.unbound role other))

theorem AsksAbout.result_owner (asks : AsksAbout context user id) (kind : RoleSourceKind) :
    ((Expr.atom (.scoped "owner" (.object "document"))).evaluate (source kind) models
        context).result =
      .ok ((source kind).hasRole (some (.user user)) "owner" (.ofModel (Site.document id))) := by
  rw [← asks.principal]
  exact Expr.result_atom (.scopedObject "owner" asks.document)

theorem AsksAbout.result_reviewer (asks : AsksAbout context user id) (kind : RoleSourceKind) :
    ((Expr.atom (.scoped "reviewer" (.className "Document"))).evaluate (source kind) models
        context).result =
      .ok ((source kind).hasRole (some (.user user)) "reviewer" (.ofClass "Document")) := by
  rw [← asks.principal]
  exact Expr.result_atom (.scopedClass "reviewer" (by decide))

theorem hasRole_owner_iff :
    (source kind).hasRole (some (.user user)) "owner" (.ofModel (document id)) = true ↔
      user.id = "2" ∧ IsBobs kind id := by
  have same : (Scope.ofModel (document "1")).covers (.ofModel (document id)) = true ↔ id = "1" := by
    rw [Scope.covers, beq_iff_eq, document, document, Model.mk.injEq, and_iff_right rfl, eq_comm]
  rw [hasRole_iff, same]
  simp [IsBobs, or_comm]

theorem hasRole_reviewer_iff :
    (source kind).hasRole (some (.user user)) "reviewer" (.ofClass "Document") = true ↔
      user.id = "3" := by
  simp [hasRole_iff, Scope.covers]

theorem AsksAbout.result_showGuard (asks : AsksAbout context user id) (kind : RoleSourceKind) :
    ∃ value, (showGuard.evaluate (source kind) models context).result = .ok value ∧
      (value = true ↔ MaySee kind id user.id) := by
  have adminOrOwner :=
    Expr.result_binary .or (asks.result_role kind "admin" (by decide)) (asks.result_owner kind)
  refine ⟨_, Expr.result_binary .or adminOrOwner (asks.result_reviewer kind), ?_⟩
  simp only [BinaryOp.apply, Bool.or_eq_true, hasRole_owner_iff, hasRole_reviewer_iff]
  rw [or_right_comm, or_assoc]
  simp [hasRole_iff, MaySee]

theorem AsksAbout.result_editGuard (asks : AsksAbout context user id) (kind : RoleSourceKind) :
    ∃ value, (editGuard.evaluate (source kind) models context).result = .ok value ∧
      (value = true ↔ MayEdit kind id user.id) := by
  have editorAndOwner :=
    Expr.result_binary .and (asks.result_role kind "editor" (by decide)) (asks.result_owner kind)
  have orAdmin :=
    Expr.result_binary .or editorAndOwner (asks.result_role kind "admin" (by decide))
  have notBanned := Expr.result_not (asks.result_role kind "banned" (by decide))
  refine ⟨_, Expr.result_binary .and orAdmin notBanned, ?_⟩
  simp only [BinaryOp.apply, Bool.and_eq_true, Bool.or_eq_true, Bool.not_eq_true',
    Bool.eq_false_iff, hasRole_owner_iff]
  have unbanned : user.id = "2" ∧ IsBobs kind id ∨ user.id = "1" → user.id ≠ "4" := by
    rintro (⟨bob, -⟩ | alice)
    · simp [bob]
    · simp [alice]
  simpa [hasRole_iff, MayEdit, or_comm] using unbanned

end

end RoleGate.Site
