import RoleGate.Text.Percent

/-! The web layer between requests and a site.

Taking targets and paths apart and checking what goes into a header is left to the layer, so that a
site can be had on any. `WebLayer.standard` does it as the standards of URIs and headers have it.
-/

set_option autoImplicit false

namespace RoleGate

structure WebLayer where
  /-- The path of a target, as it was sent. -/
  targetPath : List Char → List Char
  /-- The path by which a page is found: decoded, but for what would change its segments. -/
  lookupPath : List Char → List Char
  /-- The segment of a path that comes behind a fixed start, with what follows it. -/
  segment? (start path : List Char) : Option (List Char × List Char)
  /-- What a segment that has been cut out stands for. -/
  decode : List Char → List Char
  fitsHeader : Char → Bool
  /-- What is said of a text that does not fit. -/
  headerError : String

/-! ### The standard layer -/

def afterScheme? : List Char → Option (List Char)
  | ':' :: '/' :: '/' :: rest => some rest
  | _ :: rest => afterScheme? rest
  | [] => none

def withoutQuery (target : List Char) : List Char :=
  target.takeWhile fun c => c != '?' && c != '#'

/-- What comes after the scheme and the host, if a target names them, and before its query. -/
def uriPath (target : List Char) : List Char :=
  match target with
  | '/' :: _ => withoutQuery target
  | _ =>
    match afterScheme? target with
    | none => []
    | some rest =>
      match withoutQuery (rest.dropWhile fun c => c != '/' && c != '?' && c != '#') with
      | [] => ['/']
      | path => path

/-- The bytes that stay encoded in a path, as they would read otherwise without the encoding: the
percent sign, the slash and the plus sign. -/
def keptInPath (byte : UInt8) : Bool := byte == 0x25 || byte == 0x2F || byte == 0x2B

def segmentBehind? (start path : List Char) : Option (List Char × List Char) :=
  match start.isPrefixOf? path with
  | none => none
  | some rest =>
    match rest.takeWhile (· != '/') with
    | [] => none
    | segment => some (segment, rest.dropWhile (· != '/'))

def inHeader (c : Char) : Bool := c == '\t' || (0x20 ≤ c.toNat && c.toNat != 0x7F)

def WebLayer.standard : WebLayer where
  targetPath := uriPath
  lookupPath := Text.percentDecode keptInPath
  segment? := segmentBehind?
  decode := Text.percentDecode fun _ => false
  fitsHeader := inHeader
  headerError := "failed to parse header value"

end RoleGate
