import RoleGate.Gate.Request
import RoleGate.Gate.Settings
import RoleGate.Text.Escaped

/-! The options of a single call to a gate. -/

set_option autoImplicit false

namespace RoleGate

structure PermitOptions where
  allowGuests : Bool := false
  /-- Whether a denial is to be acted upon. -/
  redirect? : Option Bool := none
  /-- Who acts, given by the caller. -/
  user? : Option Actor := none
  /-- Who acts, as a hook of the caller finds it when it is asked. -/
  lookup? : Option Actor := none
  bindings : Bindings := {}
  loginRequiredRedirection? : Option String := none
  permissionDeniedRedirection? : Option String := none
  loginRequiredMessage? : Option String := none
  permissionDeniedMessage? : Option String := none
  deriving DecidableEq, Repr

/-- Who acts, if that is known, and how often the hook was asked for it. -/
structure FoundActor where
  actor? : Option Actor
  lookups : Nat := 0
  deriving DecidableEq, Repr

namespace PermitOptions

def redirection? (options : PermitOptions) : DenialReason → Option String
  | .loginRequired => options.loginRequiredRedirection?
  | .permissionDenied => options.permissionDeniedRedirection?

def message? (options : PermitOptions) : DenialReason → Option String
  | .loginRequired => options.loginRequiredMessage?
  | .permissionDenied => options.permissionDeniedMessage?

/-- Finds out who acts: the user that the caller gives, else whom the hook finds when it is asked,
else the current user of the request. -/
def findActor (options : PermitOptions) (request : Request) : FoundActor :=
  match options.user? with
  | some actor => { actor? := some actor }
  | none =>
    match options.lookup? with
    | some actor => { actor? := some actor, lookups := 1 }
    | none => { actor? := request.currentUser? }

/-- What is done about a denial; what the options say comes before what the settings say. -/
def denial (options : PermitOptions) (settings : Settings) (reason : DenialReason) : Denial where
  reason := reason
  location := (options.redirection? reason).getD (settings.redirection reason)
  message := (options.message? reason).getD (settings.denialMessage reason)

end PermitOptions

/-! Options are described for their readers as records with named fields. -/

def describeRecord (name : String) (fields : List (String × String)) : String :=
  let entries := fields.map fun field => field.1 ++ ": " ++ field.2
  name ++ " \x7b " ++ String.intercalate ", " entries ++ " \x7d"

def describeOption : Option String → String
  | some text => "Some(" ++ text ++ ")"
  | none => "None"

def Principal.description : Principal → String
  | .user known =>
    describeRecord "User" [("id", Text.quoted known.id), ("username", Text.quoted known.username)]
  | .account accountId hasRoles =>
    describeRecord "Account"
      [("id", describeOption (accountId.map Text.quoted)), ("roles", toString hasRoles)]

def Actor.description : Actor → String
  | .someone principal => "User(" ++ principal.description ++ ")"
  | .guest => "NotAuthenticated"

def Model.description (model : Model) : String :=
  describeRecord "ModelRef" [("class", Text.quoted model.className), ("id", Text.quoted model.id)]

def Bindings.description (bindings : Bindings) : String :=
  let entries := bindings.entries.map fun entry =>
    Text.quoted entry.1 ++ ": " ++ entry.2.description
  "\x7b" ++ String.intercalate ", " entries ++ "\x7d"

/-- Overrides of redirections and messages are left out. -/
def PermitOptions.description (options : PermitOptions) : String :=
  let fields := [
    ("allow_guests", toString options.allowGuests),
    ("redirect", describeOption (options.redirect?.map toString)),
    ("user", describeOption (options.user?.map Actor.description)),
    ("user_lookup", toString options.lookup?.isSome),
    ("bindings", options.bindings.description)]
  "PermitOptions \x7b " ++
    String.join (fields.map fun field => field.1 ++ ": " ++ field.2 ++ ", ") ++ ".. \x7d"

end RoleGate
