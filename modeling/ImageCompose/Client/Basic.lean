import ImageCompose.Api.Clone
import ImageCompose.Api.ComposeRequest
import ImageCompose.Api.Report
import ImageCompose.Client.Error
import ImageCompose.Http.Message
import ImageCompose.Http.Route
import ImageCompose.Http.Target
import ImageCompose.Json.Printer

/-!
# The client

A `Client` knows the address of a server and perhaps a tenant channel. Each call of the API is a
request for one route (`Client.request?`), whose response is read as the answer of the call
(`Client.read`). What lies between is a parameter (`Transport`).
-/

namespace ImageCompose

/-- A client of the API. -/
structure Client where
  /-- The address of the server, without a slash at its end. -/
  baseUrl : String
  /-- The tenant channel that requests are limited to. -/
  channel : Option String := none

/-- Brings a request to a server and its response back, if that succeeds. -/
abbrev Transport := Http.Request → Option Http.Response

namespace Client

/-- A text without the slashes at its end. -/
def withoutSlashes (s : String) : String :=
  String.ofList (s.toList.reverse.dropWhile (· = '/')).reverse

/-- A client of the server at an address. -/
def new (baseUrl : String) : Client := { baseUrl := withoutSlashes baseUrl }

/-- Limits the requests of a client to a tenant channel. -/
def withChannel (c : Client) (channel : String) : Client :=
  { c with channel := some channel }

/-- The address of a route. -/
def url (c : Client) (route : Http.Route) : String := c.baseUrl ++ route.path

/-- The request for a route, unless the address is none or the channel cannot be sent. -/
def request? (c : Client) (route : Http.Route) (body : Option Json) : Option Http.Request := do
  let target ← Http.originForm? (c.url route)
  guard (c.channel.all Http.isHeaderValue)
  return {
    method := route.method
    target := target
    headers :=
      (c.channel.map (Http.channelHeader, ·)).toList ++
        (body.map fun _ => ("content-type", "application/json")).toList
    body := (body.map Json.render).getD "" }

/-- Reads the response to a call. -/
def read [Wire α] (response : Http.Response) : Except ClientError α :=
  if 200 ≤ response.status ∧ response.status < 300 then
    (Decoder.ofText Wire.decoder response.body).mapError fun _ =>
      .parse "Failed to parse JSON response: error decoding response body"
  else .error (.ofResponse response.status response.body)

/-- Makes a call. -/
def call [Wire α] (c : Client) (transport : Transport) (route : Http.Route)
    (body : Option Json) : Except ClientError α :=
  match c.request? route body with
  | none => .error (.requestFailed "builder error")
  | some request =>
    match transport request with
    | none => .error (.requestFailed "error sending request")
    | some response => read response

/-- Submits a compose. -/
def postCompose (c : Client) (transport : Transport) (request : ComposeRequest) :
    Except ClientError ComposeId :=
  c.call transport .compose (some (encode request))

/-- Asks how far a compose has come. -/
def composeStatus (c : Client) (transport : Transport) (id : Uuid) :
    Except ClientError ComposeStatus :=
  c.call transport (.composeStatus id.render) none

/-- Asks what went into the image of a compose. -/
def composeMetadata (c : Client) (transport : Transport) (id : Uuid) :
    Except ClientError ComposeMetadata :=
  c.call transport (.composeMetadata id.render) none

/-- Asks what the jobs of a compose reported. -/
def composeLogs (c : Client) (transport : Transport) (id : Uuid) :
    Except ClientError ComposeLogs :=
  c.call transport (.composeLogs id.render) none

/-- Asks for the manifests of a compose. -/
def composeManifests (c : Client) (transport : Transport) (id : Uuid) :
    Except ClientError ComposeManifests :=
  c.call transport (.composeManifests id.render) none

/-- Clones a compose. -/
def cloneCompose (c : Client) (transport : Transport) (id : Uuid) (request : CloneRequest) :
    Except ClientError CloneId :=
  c.call transport (.cloneCompose id.render) (some (encode request))

/-- Asks how far a clone has come. -/
def cloneStatus (c : Client) (transport : Transport) (id : Uuid) :
    Except ClientError CloneStatus :=
  c.call transport (.cloneStatus id.render) none

end Client

end ImageCompose
