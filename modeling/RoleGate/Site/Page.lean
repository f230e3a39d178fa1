import RoleGate.Site.Accounts

/-! The pages of the demonstration site: where they are found, who may see them, and what they
show. -/

set_option autoImplicit false

namespace RoleGate.Site

inductive Page where
  | home
  | login
  | permissionDenied
  | showDocument (id : String)
  | editDocument (id : String)
  | reviews
  | dashboard
  | audit
  deriving DecidableEq, Repr

/-- The document that a path names, with what follows its segment. The encoding of the segment is
undone only after it has been cut out. -/
def documentSegment? (web : WebLayer) (path : List Char) : Option (String × List Char) :=
  (web.segment? "/documents/".toList path).map fun cut =>
    (String.ofList (web.decode cut.1), cut.2)

def Page.ofReadPath? (web : WebLayer) (path : List Char) : Option Page :=
  if path = "/".toList then some home
  else if path = "/login".toList then some login
  else if path = "/permission_denied".toList then some permissionDenied
  else if path = "/reviews".toList then some reviews
  else if path = "/admin".toList then some dashboard
  else if path = "/admin/audit".toList then some audit
  else
    match documentSegment? web path with
    | some (id, []) => some (showDocument id)
    | _ => none

def Page.ofSendPath? (web : WebLayer) (path : List Char) : Option Page :=
  match documentSegment? web path with
  | some (id, rest) => if rest = "/edit".toList then some (editDocument id) else none
  | none => none

def Page.ofRequest? (web : WebLayer) (request : WebRequest) : Option Page :=
  if request.method = "GET" then Page.ofReadPath? web (request.path web)
  else if request.method = "POST" then Page.ofSendPath? web (request.path web)
  else none

def Page.guard? (identified? : Option Actor) (page : Page) : Option GateCall :=
  let request := Request.ofClient identified?
  match page with
  | home => some { text := "not banned", request, options := { allowGuests := true } }
  | login => none
  | permissionDenied => none
  | showDocument id => some {
      text := "admin or owner of :document or reviewer of Document"
      request := { request with bindings := .ofList [("document", document id)] } }
  | editDocument id => some {
      text := "(editor and owner(:document) or admin) and not banned"
      request
      options := {
        bindings := .ofList [("document", document id)]
        permissionDeniedRedirection? := some ("/documents/" ++ id) } }
  | reviews => some { text := "reviewer of Document", request }
  | dashboard => some { text := "admin", request }
  -- No ledger is ever bound, so the guard fails for whoever is logged in.
  | audit => some { text := "auditor of :ledger", request }

def Page.body (identified? : Option Actor) : Page → String
  | home =>
    match (identified?.bind Actor.principal?).bind Principal.id? with
    | some id => "Welcome, user " ++ id ++ "!"
    | none => "Welcome, guest!"
  | login => "Login page"
  | permissionDenied => "Permission denied"
  | showDocument id => "Document " ++ id
  | editDocument id => "Document " ++ id ++ " updated"
  | reviews => "Review queue"
  | dashboard => "Admin dashboard"
  | audit => "Audit log"

end RoleGate.Site
