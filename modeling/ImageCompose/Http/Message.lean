import ImageCompose.Text.Basic

/-!
# Messages

A request (`Http.Request`) and a response (`Http.Response`) without their transport. Names of
headers have no case, and of several headers of a name the first counts. `isHeaderValue` says which
texts can be sent as a header, and `visible?` which of those can be read back as text.

A request can be limited to the jobs of one tenant by a header. Without it, or if its value is blank
or cannot be read, the request sees every job (the empty channel).
-/

namespace ImageCompose.Http

/-- A request. -/
structure Request where
  method : String
  target : String
  headers : List (String × String) := []
  body : String := ""
  deriving DecidableEq

/-- A response. -/
structure Response where
  status : Nat
  body : String := ""
  deriving DecidableEq

/-- The characters of methods and header names. -/
def isTokenChar (c : Char) : Bool :=
  c.isAlphanum || "!#$%&'*+-.^_\x60|~".toList.contains c

/-- A text of one or more token characters. -/
def isToken (s : String) : Bool :=
  s ≠ "" && s.toList.all isTokenChar

/-- Whether a text can be sent as the value of a header: it may hold tabs and no other control
characters. -/
def isHeaderValue (s : String) : Bool :=
  s.toList.all fun c => c = '\t' || (0x20 ≤ c.toNat && c.toNat ≠ 0x7F)

/-- The text of a header, if all of it is visible ASCII, blanks and tabs. -/
def visible? (value : String) : Option String :=
  if value.toList.all fun c => c = '\t' || (0x20 ≤ c.toNat && c.toNat < 0x7F) then some value
  else none

/-- A name without case. -/
def foldCase (s : String) : String := s.map Char.toLower

namespace Request

/-- The first header of a name. -/
def header? (r : Request) (name : String) : Option String :=
  (r.headers.find? fun (k, _) => foldCase k == foldCase name).map (·.2)

end Request

/-- The header that names the tenant channel. -/
def channelHeader : String := "X-Tenant-Channel"

/-- The tenant channel of a request. -/
def Request.channel (r : Request) : String :=
  match (r.header? channelHeader).bind visible? with
  | some value => Text.trim value
  | none => ""

end ImageCompose.Http
