import RoleGate.Proofs.Gate.Admission
import RoleGate.Proofs.Gate.Permission
import RoleGate.Proofs.Site.Routing
import RoleGate.Proofs.Site.Serving
import RoleGate.Proofs.Site.Standing

/-! Who may see and edit which document.

The answer to a request for a document depends on the client, whom the first header for it names.
Users who may see or edit the document get what they asked for, all others are sent elsewhere, and
clients that are no users have to log in.
-/

set_option autoImplicit false

namespace RoleGate

/-! ### Locations -/

def HoldsControl (text : String) : Prop := ∃ c ∈ text.toList, IsControl c

instance (text : String) : Decidable (HoldsControl text) :=
  decidable_of_iff (text.toList.any (IsControl ·) = true) (by simp [HoldsControl])

namespace Response

def found (location : String) : Response where
  status := 302
  location? := some location

variable {web : WebLayer} {location : String}

theorem all_fitsHeader_eq_false_iff (lawful : web.Lawful) :
    location.toList.all web.fitsHeader = false ↔ HoldsControl location := by
  simp only [List.all_eq_false, Bool.not_eq_true, lawful.fitsHeader_eq_false_iff, HoldsControl]

theorem redirect_of_fits (lawful : web.Lawful) (fits : ¬HoldsControl location) :
    redirect web location = found location :=
  if_pos (Bool.of_not_eq_false (mt (all_fitsHeader_eq_false_iff lawful).mp fits))

theorem redirect_of_control (lawful : web.Lawful) (control : HoldsControl location) :
    redirect web location = serverError web.headerError :=
  if_neg (Bool.eq_false_iff.mp ((all_fitsHeader_eq_false_iff lawful).mpr control))

end Response

/-! ### Calls for a client -/

structure GateCall.ActsFor (call : GateCall) (actor : Actor) : Prop where
  tells : call.sources.Tells (some actor) 0
  guests : call.options.allowGuests = false
  redirects : call.options.redirect? = none

namespace Gate

variable {gate : Gate} {source : RoleSource} {call : GateCall} {user : User}

theorem permit_of_guest (acts : call.ActsFor .guest) :
    (gate.permit source call).1.result =
      .ok (some (call.options.denial gate.settings .loginRequired)) := by
  rw [permit_result, decide_of_turnedAway acts.tells acts.guests .guest]
  simp [Outcome.result, Except.map, enforcement, acts.redirects]

theorem permit_of_user {tree : Expr} {value : Bool} (acts : call.ActsFor (.someone (.user user)))
    (sound : gate.cache.Sound) (parsed : Expr.parse call.text = .ok tree)
    (evaluated : (tree.evaluate source gate.models
      ⟨some (.user user), call.options.bindings, call.request.bindings⟩).result = .ok value) :
    (gate.permit source call).1.result =
      .ok (if value then none else some (call.options.denial gate.settings .permissionDenied)) := by
  have read : gate.cache.read call.text = .ok ⟨call.text, tree⟩ := by
    rw [sound.read_eq]
    exact ParsedExpr.parse_eq_ok_iff.mpr ⟨rfl, parsed⟩
  rw [permit_result, decide_of_judged acts.tells (.inr (.mk rfl rfl)), read]
  simp only [Outcome.result, GateCall.verdict, Option.bind_some, Actor.principal?, Run.map]
  rw [evaluated]
  cases value with
  | true => rfl
  | false => simp [Except.map, Verdict.ofValue, enforcement, acts.redirects]

end Gate

namespace Site

variable {web : WebLayer} {settings : Settings} {request : WebRequest} {page : Page}
  {call : GateCall} {user : User} {id : String}

/-! ### Clients -/

theorem client_of_user (known : user ∈ users) (header : request.header? "x-user" = some user.id) :
    client request = .someone (.user user) := by
  have found : ∀ user ∈ users, users.find? (fun other => other.id == user.id) = some user := by
    decide
  rw [client, header]
  simp only [found user known]

theorem client_of_stranger (stranger : ∀ user ∈ users, request.header? "x-user" ≠ some user.id) :
    client request = .guest := by
  unfold client
  split
  · rfl
  · next id header =>
    have unknown : users.find? (fun user => user.id == id) = none := by
      refine List.find?_eq_none.mpr fun user known same => stranger user known ?_
      rw [header, beq_iff_eq.mp same]
    rw [unknown]

/-! ### Guarded pages -/

/-- The page shows this text, and is guarded by these calls for whoever the client is; these are the
users who get past the guard. -/
structure GuardedBy (kind : RoleSourceKind) (page : Page) (shown : String)
    (call : Actor → GateCall) (allowed : String → Prop) : Prop where
  body : ∀ actor, page.body (some actor) = shown
  guard : ∀ actor, page.guard? (some actor) = some (call actor)
  acts : ∀ actor, (call actor).ActsFor actor
  judged : ∀ user, ∃ tree value, Expr.parse (call (.someone (.user user))).text = .ok tree ∧
    (tree.evaluate (source kind) models ⟨some (.user user),
      (call (.someone (.user user))).options.bindings,
      (call (.someone (.user user))).request.bindings⟩).result = .ok value ∧
    (value = true ↔ allowed user.id)
  named : ∀ userId, allowed userId → ∃ user ∈ users, user.id = userId

/-- How a request is answered by the user whom its header names: these users are shown what they
asked for, all others get a refusal, and clients that are no users have to log in. -/
structure Granted (settings : Settings) (request : WebRequest) (allowed : String → Prop)
    (shown : String) (refusal answer : Response) : Prop where
  ok_iff : answer.status = 200 ∧ answer.body = shown ↔
    ∃ userId, request.header? "x-user" = some userId ∧ allowed userId
  shown : ∀ userId, request.header? "x-user" = some userId → allowed userId → answer = .page shown
  refused : ∀ user ∈ users, request.header? "x-user" = some user.id → ¬allowed user.id →
    answer = refusal
  stranger : (∀ user ∈ users, request.header? "x-user" ≠ some user.id) →
    answer = .found settings.loginRequiredRedirection

section
variable {call : Actor → GateCall} {allowed : String → Prop} {shown : String} {refusal : Response}

theorem answer_of_guarded (found : Page.ofRequest? web request = some page)
    (guarded : GuardedBy settings.roleSource page shown call allowed) :
    Server.answer settings true web request =
      (Response.ofDenial? (Gate.permit { settings, models } (source settings.roleSource)
        (call (client request))).1.result web).getD (.page shown) := by
  have guard : page.guard? (Server.identified? true request) = some (call (client request)) :=
    guarded.guard (client request)
  rw [Server.answer, Server.respond_of_guarded found guard, ← guarded.body (client request)]
  rfl

theorem answer_of_stranger (found : Page.ofRequest? web request = some page)
    (guarded : GuardedBy settings.roleSource page shown call allowed)
    (stranger : ∀ user ∈ users, request.header? "x-user" ≠ some user.id) :
    Server.answer settings true web request =
      .redirect web ((call .guest).options.denial settings .loginRequired).location := by
  rw [answer_of_guarded found guarded, client_of_stranger stranger,
    Gate.permit_of_guest (guarded.acts .guest)]
  rfl

theorem answer_of_user (found : Page.ofRequest? web request = some page)
    (guarded : GuardedBy settings.roleSource page shown call allowed) (known : user ∈ users)
    (header : request.header? "x-user" = some user.id) :
    (allowed user.id → Server.answer settings true web request = .page shown) ∧
    (¬allowed user.id → Server.answer settings true web request =
      .redirect web ((call (.someone (.user user))).options.denial settings
        .permissionDenied).location) := by
  obtain ⟨tree, value, parsed, evaluated, passes⟩ := guarded.judged user
  rw [answer_of_guarded found guarded, client_of_user known header,
    Gate.permit_of_user (guarded.acts _) ExprCache.sound_empty parsed evaluated, ← passes]
  cases value with
  | true => exact ⟨fun _ => rfl, fun refused => absurd rfl refused⟩
  | false => exact ⟨nofun, fun _ => rfl⟩

theorem granted_of_guarded (found : Page.ofRequest? web request = some page)
    (guarded : GuardedBy settings.roleSource page shown call allowed)
    (login : Response.redirect web ((call .guest).options.denial settings .loginRequired).location =
      .found settings.loginRequiredRedirection)
    (denied : ∀ user, Response.redirect web ((call (.someone (.user user))).options.denial settings
      .permissionDenied).location = refusal) (refuses : refusal.status ≠ 200) :
    Granted settings request allowed shown refusal (Server.answer settings true web request) := by
  have isShown (userId : String) (header : request.header? "x-user" = some userId)
      (allows : allowed userId) : Server.answer settings true web request = .page shown := by
    obtain ⟨user, known, rfl⟩ := guarded.named userId allows
    exact (answer_of_user found guarded known header).1 allows
  have refused (user : User) (known : user ∈ users)
      (header : request.header? "x-user" = some user.id) (refused : ¬allowed user.id) :
      Server.answer settings true web request = refusal :=
    ((answer_of_user found guarded known header).2 refused).trans (denied user)
  have stranger (stranger : ∀ user ∈ users, request.header? "x-user" ≠ some user.id) :
      Server.answer settings true web request = .found settings.loginRequiredRedirection :=
    (answer_of_stranger found guarded stranger).trans login
  refine ⟨⟨fun ok => ?_, ?_⟩, isShown, refused, stranger⟩
  · -- Neither a stranger nor a user who is refused gets such an answer.
    by_cases isStranger : ∀ user ∈ users, request.header? "x-user" ≠ some user.id
    · rw [stranger isStranger] at ok
      nomatch ok.1
    · push Not at isStranger
      obtain ⟨user, known, header⟩ := isStranger
      refine ⟨user.id, header, Classical.byContradiction fun isRefused => ?_⟩
      rw [refused user known header isRefused] at ok
      exact refuses ok.1
  · rintro ⟨userId, header, allows⟩
    rw [isShown userId header allows]
    exact ⟨rfl, rfl⟩

end

/-! ### Documents -/

def showCall (id : String) (actor : Actor) : GateCall where
  text := "admin or owner of :document or reviewer of Document"
  request := { currentUser? := some actor, bindings := .ofList [("document", document id)] }

def editCall (id : String) (actor : Actor) : GateCall where
  text := "(editor and owner(:document) or admin) and not banned"
  request := { currentUser? := some actor }
  options := {
    bindings := .ofList [("document", document id)]
    permissionDeniedRedirection? := some ("/documents/" ++ id) }

theorem find?_document (id name : String) :
    (Bindings.ofList [("document", document id)]).find? name =
      if name = "document" then some (document id) else none :=
  Bindings.find?_insert {} "document" name (document id)

theorem guardedBy_showCall (kind : RoleSourceKind) (id : String) :
    GuardedBy kind (.showDocument id) ("Document " ++ id) (showCall id) (MaySee kind id) where
  body _ := rfl
  guard _ := rfl
  acts actor := ⟨.currentUser actor, rfl, rfl⟩
  judged user := by
    have asks : AsksAbout ⟨some (.user user), {}, .ofList [("document", document id)]⟩ user id :=
      ⟨rfl, by simp [Context.find?, find?_document],
        fun name other => by simp [Context.find?, find?_document, other]⟩
    obtain ⟨value, evaluated, passes⟩ := asks.result_showGuard kind
    exact ⟨showGuard, value, parse_showGuard, evaluated, passes⟩
  named userId allows := by
    rcases allows with rfl | rfl | ⟨rfl, -⟩ <;> decide

theorem guardedBy_editCall (kind : RoleSourceKind) (id : String) :
    GuardedBy kind (.editDocument id) ("Document " ++ id ++ " updated") (editCall id)
      (MayEdit kind id) where
  body _ := rfl
  guard _ := rfl
  acts actor := ⟨.currentUser actor, rfl, rfl⟩
  judged user := by
    have asks : AsksAbout ⟨some (.user user), .ofList [("document", document id)], {}⟩ user id :=
      ⟨rfl, by simp [Context.find?, find?_document],
        fun name other => by simp [Context.find?, find?_document, other]⟩
    obtain ⟨value, evaluated, passes⟩ := asks.result_editGuard kind
    exact ⟨editGuard, value, parse_editGuard, evaluated, passes⟩
  named userId allows := by
    rcases allows with rfl | ⟨rfl, -⟩ <;> decide

structure DocumentAccess (web : WebLayer) (settings : Settings) : Prop where
  /-- A response depends on its own request only. -/
  alone : ∀ requests, (Server.start settings true web).serve requests =
    requests.map (Server.answer settings true web)
  seen : ∀ request id, request.method = "GET" → DocumentPath web (request.path web) id [] →
    Granted settings request (MaySee settings.roleSource id) ("Document " ++ id)
      (.found settings.permissionDeniedRedirection) (Server.answer settings true web request)
  edited : ∀ request id, request.method = "POST" →
    DocumentPath web (request.path web) id "/edit".toList →
    Granted settings request (MayEdit settings.roleSource id) ("Document " ++ id ++ " updated")
      (if HoldsControl id then .serverError web.headerError else .found ("/documents/" ++ id))
      (Server.answer settings true web request)
  /-- Each segment of a target that is not empty names a document. -/
  named : ∀ (request : WebRequest) segment rest,
    web.targetPath request.target.toList = "/documents/".toList ++ (segment ++ rest) →
    segment ≠ [] → '/' ∉ segment → (rest = [] ∨ rest = "/edit".toList) →
    DocumentPath web (request.path web) (targetDocument web segment) rest
  /-- It is what the segment decodes to. -/
  decoded : ∀ segment, Text.IsEncoded segment → targetDocument web segment =
    String.ofList (Text.percentDecode (fun _ => false) segment)

theorem redirect_document (lawful : web.Lawful) (id : String) :
    Response.redirect web ("/documents/" ++ id) =
      if HoldsControl id then .serverError web.headerError
      else .found ("/documents/" ++ id) := by
  have plain : ¬HoldsControl "/documents/" := by decide
  have same : HoldsControl ("/documents/" ++ id) ↔ HoldsControl id := by
    unfold HoldsControl at plain ⊢
    simp only [String.toList_append, List.mem_append, or_and_right, exists_or, plain, false_or]
  split
  · next control => exact Response.redirect_of_control lawful (same.mpr control)
  · next fits => exact Response.redirect_of_fits lawful (mt same.mp fits)

theorem documentAccess (lawful : web.Lawful)
    (login : ¬HoldsControl settings.loginRequiredRedirection)
    (denied : ¬HoldsControl settings.permissionDeniedRedirection) :
    DocumentAccess web settings where
  alone := Server.serve_eq_map settings true web
  seen request id get path := by
    have found : Page.ofRequest? web request = some (.showDocument id) :=
      (ofRequest?_showDocument_iff lawful).mpr ⟨get, path⟩
    exact granted_of_guarded found (guardedBy_showCall settings.roleSource id)
      (Response.redirect_of_fits lawful login) (fun _ => Response.redirect_of_fits lawful denied)
      nofun
  edited request id post path := by
    have found : Page.ofRequest? web request = some (.editDocument id) :=
      (ofRequest?_editDocument_iff lawful).mpr ⟨post, path⟩
    refine granted_of_guarded found (guardedBy_editCall settings.roleSource id)
      (Response.redirect_of_fits lawful login) (fun _ => redirect_document lawful id) ?_
    split <;> nofun
  named _ _ _ := documentPath_of_target lawful
  decoded segment encoded := congrArg String.ofList (lawful.decode_lookupPath segment encoded)

/-- If both redirections of the settings may stand in a header, documents are seen and edited by
whom they may be, on the standard web layer as on any other that keeps its laws. -/
theorem documents_access (settings : Settings)
    (login : ¬HoldsControl settings.loginRequiredRedirection)
    (denied : ¬HoldsControl settings.permissionDeniedRedirection) :
    DocumentAccess .standard settings ∧
      ∀ web : WebLayer, web.Lawful → DocumentAccess web settings :=
  ⟨documentAccess WebLayer.lawful_standard login denied,
    fun _ lawful => documentAccess lawful login denied⟩

/-- Bob sees the first document but not the second one; Carol may not edit what she may see, and
cannot be sent back to a document with a line break in its name; nobody knows a fifth user. -/
theorem documents_access_bob_carol :
    let get (segment user : String) : WebRequest :=
      { method := "GET", target := "/documents/" ++ segment, headers := [("X-User", user)] }
    let post (segment user : String) : WebRequest :=
      { method := "POST", target := "/documents/" ++ segment ++ "/edit",
        headers := [("X-User", user)] }
    (¬HoldsControl "/login" ∧ ¬HoldsControl "/permission_denied") ∧
    (Server.start {} true).serve [get "1" "2", get "2" "2", post "1%0A" "3", get "1" "5"] =
      [.page "Document 1", .found "/permission_denied",
        .serverError "failed to parse header value", .found "/login"] := by
  intro get post
  have login : ¬HoldsControl "/login" := by decide
  have denied : ¬HoldsControl "/permission_denied" := by decide
  have access : DocumentAccess .standard {} :=
    (documents_access {} login denied).2 .standard WebLayer.lawful_standard
  have named {path : List Char} {id : String} {rest : List Char}
      (cut : documentSegment? .standard path = some (id, rest)) :
      DocumentPath .standard path id rest :=
    (documentSegment?_eq_some_iff WebLayer.lawful_standard).mp cut
  have first : Server.answer {} true .standard (get "1" "2") = .page "Document 1" := by
    have granted := access.seen (get "1" "2") "1" rfl (named (by decide +kernel))
    exact granted.shown "2" (by decide +kernel) (.inr (.inr ⟨rfl, .inl rfl⟩))
  have second : Server.answer {} true .standard (get "2" "2") = .found "/permission_denied" := by
    have granted := access.seen (get "2" "2") "2" rfl (named (by decide +kernel))
    exact granted.refused ⟨"2", "bob"⟩ (by decide) (by decide +kernel) (by simp [MaySee, IsBobs])
  have third : Server.answer {} true .standard (post "1%0A" "3") =
      .serverError "failed to parse header value" := by
    have granted := access.edited (post "1%0A" "3") "1\n" rfl (named (by decide +kernel))
    exact granted.refused ⟨"3", "carol"⟩ (by decide) (by decide +kernel) (by simp [MayEdit])
  have fourth : Server.answer {} true .standard (get "1" "5") = .found "/login" := by
    have granted := access.seen (get "1" "5") "1" rfl (named (by decide +kernel))
    have header : (get "1" "5").header? "x-user" = some "5" := by decide +kernel
    refine granted.stranger ?_
    rw [header]
    decide
  refine ⟨⟨login, denied⟩, ?_⟩
  rw [access.alone, List.map_cons, List.map_cons, List.map_cons, List.map_cons, List.map_nil, first,
    second, third, fourth]

end Site

end RoleGate
