import ImageCompose.Http.Message

/-!
# Media types

The value of a content type: a type and a subtype, perhaps with a suffix after a plus sign, and
parameters. `isJson` says whether it announces JSON: `application/json`, or any `application` type
with the suffix `json`.
-/

namespace ImageCompose.Http

/-- Where a reader of parameters is. -/
inductive ParameterState
  | start
  | name
  | equals
  | value
  /-- After the quote that opens a value. -/
  | quote
  | quoted
  | closed
  deriving DecidableEq

namespace ParameterState

/-- Whether a character may stand in a quoted value. -/
def isQuotedChar (c : Char) : Bool := 31 < c.toNat && c.toNat ≠ 127

/-- Reads one character. -/
def step : ParameterState → Char → Option ParameterState
  | .start, c => if c = ' ' then some .start else if isTokenChar c then some .name else none
  | .name, c => if c = '=' then some .equals else if isTokenChar c then some .name else none
  | .equals, c => if c = '"' then some .quote else if isTokenChar c then some .value else none
  | .value, c => if c = ';' then some .start else if isTokenChar c then some .value else none
  | .quote, c => if isQuotedChar c then some .quoted else none
  | .quoted, c => if c = '"' then some .closed else if isQuotedChar c then some .quoted else none
  | .closed, c => if c = ';' then some .start else if c = ' ' then some .closed else none

/-- Whether parameters may end here: not in a name, and not in a quoted value. -/
def isEnd : ParameterState → Bool
  | .start | .equals | .value | .closed => true
  | .name | .quote | .quoted => false

end ParameterState

/-- Whether a text after a semicolon is a list of parameters. After its last semicolon there may be
nothing. -/
def areParameters (cs : List Char) : Bool :=
  (cs.foldlM ParameterState.step .start).any (·.isEnd)

/-- A subtype without its suffix, and the suffix after its last plus sign. A plus sign at the start
belongs to the subtype. -/
def splitSuffix (subtype : List Char) : List Char × Option (List Char) :=
  let suffix := (subtype.reverse.takeWhile (· ≠ '+')).reverse
  let rest := subtype.take (subtype.length - suffix.length)
  if rest.length ≤ 1 then (subtype, none) else (rest.dropLast, some suffix)

/-- Whether a content type announces JSON. -/
def isJson (contentType : String) : Bool :=
  let cs := contentType.toList.map Char.toLower
  let essence := cs.takeWhile (· ≠ ';')
  let type := essence.takeWhile (· ≠ '/')
  match essence.drop type.length with
  | '/' :: subtype =>
    let (name, suffix) := splitSuffix subtype
    let parameters := match cs.drop essence.length with
      | _ :: rest => areParameters rest
      | [] => true
    subtype.all isTokenChar && parameters && type == "application".toList &&
      (name == "json".toList || suffix == some "json".toList)
  | _ => false

end ImageCompose.Http
