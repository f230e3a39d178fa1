import RoleGate.Web.Layer

/-! Web requests. -/

set_option autoImplicit false

namespace RoleGate

structure WebRequest where
  method : String
  target : String
  headers : List (String × String) := []
  deriving DecidableEq, Repr

namespace WebRequest

def path (web : WebLayer) (request : WebRequest) : List Char :=
  web.lookupPath (web.targetPath request.target.toList)

/-- The first header of that name, which is given in lower case. -/
def header? (request : WebRequest) (name : String) : Option String :=
  (request.headers.find? fun header => header.1.toLower == name).map Prod.snd

end WebRequest

end RoleGate
