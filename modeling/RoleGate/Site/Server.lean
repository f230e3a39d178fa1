import RoleGate.Site.Page
import RoleGate.Web.Response

/-! The demonstration site: one gate in front of all pages. -/

set_option autoImplicit false

namespace RoleGate.Site

/-- The site as it runs; without `identifies` every client is a guest. -/
structure Server where
  gate : Gate
  identifies : Bool
  web : WebLayer

def Server.start (settings : Settings) (identifies : Bool) (web : WebLayer := .standard) :
    Server where
  gate := { settings, models }
  identifies := identifies
  web := web

/-- Answers a request: the page if it is open or the gate lets the client in, else what the gate
says instead. -/
def Server.respond (server : Server) (request : WebRequest) : Response × Server :=
  match Page.ofRequest? server.web request with
  | none => (.notFound, server)
  | some page =>
    let identified? := if server.identifies then some (client request) else none
    let shown : Response := .page (page.body identified?)
    match page.guard? identified? with
    | none => (shown, server)
    | some call =>
      let (outcome, gate) :=
        server.gate.permit (source server.gate.settings.roleSource) call
      ((Response.ofDenial? outcome.result server.web).getD shown, { server with gate := gate })

def Server.serve (server : Server) : List WebRequest → List Response
  | [] => []
  | request :: rest =>
    let (response, after) := server.respond request
    response :: after.serve rest

end RoleGate.Site
