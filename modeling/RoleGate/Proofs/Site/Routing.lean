import RoleGate.Proofs.Web.Layer
import RoleGate.Site.Page

/-! Which document a request is for.

A document is named by one segment of a path, which stands between slashes as long as the rest of
the path is decoded, and is decoded itself once it has been cut out. So an encoded slash is a part
of the name, and every segment that is not empty names a document.
-/

set_option autoImplicit false

namespace RoleGate.Site

def namedDocument (web : WebLayer) (segment : List Char) : String :=
  String.ofList (web.decode segment)

inductive DocumentPath (web : WebLayer) : List Char → String → List Char → Prop where
  | mk {path segment rest : List Char} (cut : SegmentOf "/documents/".toList path segment rest) :
    DocumentPath web path (namedDocument web segment) rest

variable {web : WebLayer} {path segment rest : List Char} {id : String} {request : WebRequest}

theorem documentSegment?_eq_some_iff (lawful : web.Lawful) :
    documentSegment? web path = some (id, rest) ↔ DocumentPath web path id rest := by
  constructor
  · intro found
    obtain ⟨⟨segment, _⟩, cut, same⟩ := Option.map_eq_some_iff.mp found
    cases same
    exact .mk ((lawful.segment?_eq_some_iff _ _ _ _).mp cut)
  · rintro ⟨cut⟩
    rw [documentSegment?, (lawful.segment?_eq_some_iff _ _ _ _).mpr cut]
    rfl

def otherPaths : List String :=
  ["/", "/login", "/permission_denied", "/reviews", "/admin", "/admin/audit"]

theorem documentSegment?_otherPaths (lawful : web.Lawful) :
    ∀ text ∈ otherPaths, documentSegment? web text.toList = none := by
  intro text member
  have apart : ∀ text ∈ otherPaths, ¬"/documents/".toList <+: text.toList := by decide
  refine Option.map_eq_none_iff.mpr (Option.eq_none_iff_forall_not_mem.mpr ?_)
  rintro ⟨segment, rest⟩ cut
  have starts := ((lawful.segment?_eq_some_iff _ _ _ _).mp cut).path_eq
  exact apart text member ⟨_, starts.symm⟩

theorem ofReadPath?_eq_some_iff (lawful : web.Lawful) :
    Page.ofReadPath? web path = some (.showDocument id) ↔ DocumentPath web path id [] := by
  rw [← documentSegment?_eq_some_iff lawful]
  constructor
  · intro found
    unfold Page.ofReadPath? at found
    iterate 6
      split at found
      · cases found
    split at found
    · next named =>
      cases found
      exact named
    · cases found
  · intro named
    have apart : ∀ text ∈ otherPaths, path ≠ text.toList := by
      rintro text member rfl
      cases (documentSegment?_otherPaths lawful text member).symm.trans named
    simp only [otherPaths, List.forall_mem_cons] at apart
    simp only [Page.ofReadPath?, apart, named, if_false]

theorem ofSendPath?_eq_some_iff (lawful : web.Lawful) :
    Page.ofSendPath? web path = some (.editDocument id) ↔
      DocumentPath web path id "/edit".toList := by
  rw [← documentSegment?_eq_some_iff lawful, Page.ofSendPath?]
  cases documentSegment? web path with
  | none => simp
  | some named =>
    obtain ⟨name, rest⟩ := named
    simp [and_comm]

theorem ofRequest?_showDocument_iff (lawful : web.Lawful) :
    Page.ofRequest? web request = some (.showDocument id) ↔
      request.method = "GET" ∧ DocumentPath web (request.path web) id [] := by
  unfold Page.ofRequest?
  split
  · next get => rw [ofReadPath?_eq_some_iff lawful, and_iff_right get]
  · next get =>
    refine iff_of_false ?_ fun named => get named.1
    unfold Page.ofSendPath?
    repeat' split
    all_goals nofun

theorem ofRequest?_editDocument_iff (lawful : web.Lawful) :
    Page.ofRequest? web request = some (.editDocument id) ↔
      request.method = "POST" ∧ DocumentPath web (request.path web) id "/edit".toList := by
  unfold Page.ofRequest?
  split
  · next get =>
    refine iff_of_false ?_ fun named => ?_
    · unfold Page.ofReadPath?
      repeat' split
      all_goals nofun
    · exact absurd (get.symm.trans named.1) (by decide)
  · split
    · next post => rw [ofSendPath?_eq_some_iff lawful, and_iff_right post]
    · next post => exact iff_of_false nofun fun named => post named.1

/-! ### Targets -/

/-- The document that a segment of a target names: a part of its encoding is undone when the path
is looked up, and the rest when the segment has been cut out. -/
def targetDocument (web : WebLayer) (segment : List Char) : String :=
  namedDocument web (web.lookupPath segment)

theorem lookupPath_documents (lawful : web.Lawful) (rest : List Char) :
    web.lookupPath ("/documents/".toList ++ rest) =
      "/documents/".toList ++ web.lookupPath rest := by
  have split (rest : List Char) : "/documents/".toList ++ rest =
      [] ++ '/' :: ("documents".toList ++ '/' :: rest) :=
    rfl
  rw [split, split, lawful.lookupPath_slash, lawful.lookupPath_slash,
    lawful.lookupPath_of_notMem [] (by decide),
    lawful.lookupPath_of_notMem "documents".toList (by decide)]

theorem documentPath_of_target (lawful : web.Lawful)
    (target : web.targetPath request.target.toList =
      "/documents/".toList ++ (segment ++ rest)) (nonempty : segment ≠ [])
    (single : '/' ∉ segment) (ends : rest = [] ∨ rest = "/edit".toList) :
    DocumentPath web (request.path web) (targetDocument web segment) rest := by
  have path : request.path web =
      "/documents/".toList ++ (web.lookupPath segment ++ rest) := by
    rw [WebRequest.path, target, lookupPath_documents lawful]
    rcases ends with rfl | rfl
    · rw [List.append_nil, List.append_nil]
    · have edit : segment ++ "/edit".toList = segment ++ '/' :: "edit".toList := rfl
      rw [edit, lawful.lookupPath_slash, lawful.lookupPath_of_notMem "edit".toList (by decide)]
      rfl
  refine .mk ⟨path, ?_, lawful.slash_notMem_lookupPath segment single, ?_⟩
  · rwa [Ne, lawful.lookupPath_eq_nil_iff]
  · exact ends.imp_right fun edit => ⟨"edit".toList, edit⟩

end RoleGate.Site
