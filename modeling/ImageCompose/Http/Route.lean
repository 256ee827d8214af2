import ImageCompose.Api.Reference
import ImageCompose.Http.Message

/-!
# Routes

The paths that are served (`Route`), each for one method. `Route.ofPath?` finds the route of a path;
what stands in the path for an identifier is not read yet. `Route.path` writes the path of a route.
-/

namespace ImageCompose.Http

/-- What is served; identifiers are as they stand in the path. -/
inductive Route
  | health
  | compose
  | composeStatus (id : String)
  /-- What went into the image of a compose. -/
  | composeMetadata (id : String)
  /-- What the jobs of a compose reported. -/
  | composeLogs (id : String)
  | composeManifests (id : String)
  | cloneCompose (id : String)
  | cloneStatus (id : String)
  deriving DecidableEq

/-- The parts of a path between slashes, after the slash at its start. -/
def segments (path : String) : List String :=
  match path.toList with
  | '/' :: cs => (split cs).map String.ofList
  | _ => []
where
  /-- The parts of a text between slashes. -/
  split : List Char → List (List Char)
    | [] => [[]]
    | c :: cs =>
      match c, split cs with
      | '/', parts => [] :: parts
      | c, part :: parts => (c :: part) :: parts
      | c, [] => [[c]]

namespace Route

/-- The route of the parts of a path under the base path. An identifier at the end of a path may not
be empty. -/
def ofSegments? : List String → Option Route
  | ["compose"] => some .compose
  | ["composes", id] => if id = "" then none else some (.composeStatus id)
  | ["composes", id, "metadata"] => some (.composeMetadata id)
  | ["composes", id, "logs"] => some (.composeLogs id)
  | ["composes", id, "manifests"] => some (.composeManifests id)
  | ["composes", id, "clone"] => some (.cloneCompose id)
  | ["clones", id] => if id = "" then none else some (.cloneStatus id)
  | _ => none

/-- The route of a path. -/
def ofPath? (path : String) : Option Route :=
  let base := segments basePath
  let parts := segments path
  if parts = ["health"] then some .health
  else if base.isPrefixOf parts then ofSegments? (parts.drop base.length)
  else none

/-- The path of a route. -/
def path : Route → String
  | .health => "/health"
  | .compose => basePath ++ "/compose"
  | .composeStatus id => basePath ++ "/composes/" ++ id
  | .composeMetadata id => basePath ++ "/composes/" ++ id ++ "/metadata"
  | .composeLogs id => basePath ++ "/composes/" ++ id ++ "/logs"
  | .composeManifests id => basePath ++ "/composes/" ++ id ++ "/manifests"
  | .cloneCompose id => basePath ++ "/composes/" ++ id ++ "/clone"
  | .cloneStatus id => basePath ++ "/clones/" ++ id

/-- The method of a route. -/
def method : Route → String
  | .compose | .cloneCompose _ => "POST"
  | _ => "GET"

/-- Whether a route answers a method. What can be read can also be asked for without its body. -/
def allows (route : Route) (method : String) : Bool :=
  method == route.method || (route.method == "GET" && method == "HEAD")

end Route

end ImageCompose.Http
