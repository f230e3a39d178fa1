import RoleGate.Proofs.Gate.Memory
import RoleGate.Site.Server

/-! The site answers each request by itself.

From one request to the next its gate keeps nothing but the expressions that it has read, and these
do not show. So every answer is what a site that was just started would give.
-/

set_option autoImplicit false

namespace RoleGate.Site.Server

def identified? (identifies : Bool) (request : WebRequest) : Option Actor :=
  if identifies then some (client request) else none

section
variable {server : Server} {request : WebRequest} {page : Page} {call : GateCall}

theorem respond_of_notFound (missing : Page.ofRequest? server.web request = none) :
    server.respond request = (.notFound, server) := by
  rw [respond, missing]

theorem respond_of_open (found : Page.ofRequest? server.web request = some page)
    (unguarded : page.guard? (identified? server.identifies request) = none) :
    server.respond request =
      (.page (page.body (identified? server.identifies request)), server) := by
  rw [identified?] at unguarded
  rw [respond, found]
  simp only [unguarded, identified?]

theorem respond_of_guarded (found : Page.ofRequest? server.web request = some page)
    (guarded : page.guard? (identified? server.identifies request) = some call) :
    server.respond request =
      ((Response.ofDenial?
          (server.gate.permit (source server.gate.settings.roleSource) call).1.result
          server.web).getD
        (.page (page.body (identified? server.identifies request))),
      { server with
        gate := (server.gate.permit (source server.gate.settings.roleSource) call).2 }) := by
  rw [identified?] at guarded
  rw [respond, found]
  simp only [guarded, identified?]

end

variable (settings : Settings) (identifies : Bool) (web : WebLayer)

def answer (request : WebRequest) : Response :=
  ((Server.start settings identifies web).respond request).1

def reached (texts : List String) : Server where
  gate := ⟨settings, models, .ofTexts texts⟩
  identifies := identifies
  web := web

theorem permit_ofTexts (texts : List String) (source : RoleSource) (call : GateCall) :
    Gate.permit ⟨settings, models, .ofTexts texts⟩ source call =
      ((Gate.permit { settings, models } source call).1,
        ⟨settings, models,
          .ofTexts (texts ++ (SessionStep.call .permit call).readText?.toList)⟩) := by
  have answered := Session.answer_fst_ofTexts settings models texts source .permit call
  have left := Session.answer_snd_ofTexts settings models texts source .permit call
  exact Prod.ext (GateAnswer.permitted.inj answered) left

/-- Whatever was asked before, a request is answered as if it were the first one. -/
theorem respond_reached (texts : List String) (request : WebRequest) :
    ∃ read, (reached settings identifies web texts).respond request =
      (answer settings identifies web request,
        reached settings identifies web (texts ++ read)) := by
  have unread : reached settings identifies web texts =
      reached settings identifies web (texts ++ []) := by
    rw [List.append_nil]
  cases found : Page.ofRequest? web request with
  | none =>
    refine ⟨[], ?_⟩
    rw [answer, respond_of_notFound found, respond_of_notFound found, ← unread]
  | some page =>
    cases guarded : page.guard? (identified? identifies request) with
    | none =>
      refine ⟨[], ?_⟩
      rw [answer, respond_of_open found guarded, respond_of_open found guarded, ← unread]
      rfl
    | some call =>
      refine ⟨(SessionStep.call .permit call).readText?.toList, ?_⟩
      rw [answer, respond_of_guarded found guarded, respond_of_guarded found guarded]
      dsimp only [reached]
      rw [permit_ofTexts]
      rfl

theorem serve_reached (texts : List String) (requests : List WebRequest) :
    (reached settings identifies web texts).serve requests =
      requests.map (answer settings identifies web) := by
  induction requests generalizing texts with
  | nil => rfl
  | cons request rest ih =>
    obtain ⟨read, responded⟩ := respond_reached settings identifies web texts request
    rw [serve, responded, List.map_cons]
    exact congrArg (answer settings identifies web request :: ·) (ih (texts ++ read))

theorem serve_eq_map (requests : List WebRequest) :
    (start settings identifies web).serve requests =
      requests.map (answer settings identifies web) :=
  serve_reached settings identifies web [] requests

end RoleGate.Site.Server
