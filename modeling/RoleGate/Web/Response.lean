import RoleGate.Access.Error
import RoleGate.Gate.Verdict
import RoleGate.Web.Layer

/-! Answers to web requests. -/

set_option autoImplicit false

namespace RoleGate

structure Response where
  status : Nat
  location? : Option String := none
  body : String := ""
  deriving DecidableEq, Repr

namespace Response

def page (body : String) : Response where
  status := 200
  body := body

def notFound : Response where
  status := 404

def serverError (body : String) : Response where
  status := 500
  body := body

def redirect (web : WebLayer) (location : String) : Response :=
  if location.toList.all web.fitsHeader then { status := 302, location? := some location }
  else serverError web.headerError

end Response

def Denial.response (web : WebLayer) (denial : Denial) : Response := .redirect web denial.location

def AccessError.response (error : AccessError) : Response := .serverError error.message

/-- The answer that stands in for a guarded page: none if the page may be shown. -/
def Response.ofDenial? (result : Except AccessError (Option Denial))
    (web : WebLayer := .standard) : Option Response :=
  match result with
  | .error error => some error.response
  | .ok denial? => denial?.map (Denial.response web)

end RoleGate
