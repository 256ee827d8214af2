import ImageCompose.Http.Failure
import ImageCompose.Http.MediaType
import ImageCompose.Http.Message
import ImageCompose.Http.Route
import ImageCompose.Http.Target
import ImageCompose.Service.Clone
import ImageCompose.Service.Logs
import ImageCompose.Service.Metadata
import ImageCompose.Service.Status
import ImageCompose.Submission.Plan

/-!
# The server

`respond` answers a request from a job store. The route is found first, then the method is checked,
then the identifier in the path is read, and then the body.
-/

namespace ImageCompose.Http

/-- Reads an identifier in a path. -/
def parseId (text : String) : Except ServiceError Uuid :=
  match Uuid.parse? text with
  | some id => .ok id
  | none => .error (.invalidComposeId text)

/-- The size that a body may have. -/
def bodyLimit : Nat := 2097152

/-- Reads the body of a request. -/
def decodeBody [Wire α] (r : Request) : Except ServiceError α :=
  let announced := ((r.header? "content-type").bind visible?).any isJson
  if !announced then
    .error (.bodyDecoding "Expected request with \x60Content-Type: application/json\x60")
  else if bodyLimit < r.body.utf8ByteSize then
    .error (.bodyDecoding "Failed to buffer the request body: length limit exceeded")
  else
    (Decoder.ofText Wire.decoder r.body).mapError fun fault =>
      .bodyDecoding (match fault with
        | .wrongShape =>
          s!"Failed to deserialize the JSON body into the target type: {fault.message}"
        | .malformed => s!"Failed to parse the request body as JSON: {fault.message}")

/-- The response to a request that ends in a value or a failure. -/
def answer [Wire α] (status : Nat) : Except ServiceError α → Response
  | .ok a => ⟨status, (encode a).render⟩
  | .error e => e.response

/-- The response to a request whose path cannot be read. -/
def unreadablePath : Response := ⟨400, "Invalid URL: Invalid UTF-8 in \x60id\x60"⟩

/-- Answers a request that reads. -/
def answerRead [Wire α] (snapshot : Snapshot) (channel : String)
    (operation : Snapshot → Uuid → String → Except ServiceError α) (id : String) : Response :=
  match percentDecode? id with
  | none => unreadablePath
  | some text => answer 200 (do operation snapshot (← parseId text) channel)

/-- Answers a request that submits jobs. -/
def answerAction [Wire α] (backend : Backend σ) (action : Except ServiceError (Action α)) (s : σ) :
    Response × σ :=
  match action with
  | .ok action =>
    let (result, s) := action.run backend s
    (answer 201 result, s)
  | .error e => (e.response, s)

/-- Answers a request for a route. -/
def serve (config : Config) (backend : Backend σ) (fresh : Fresh) (r : Request) (route : Route)
    (s : σ) : Response × σ :=
  let snapshot := backend.snapshot s
  match route with
  | .health => (⟨200, "OK"⟩, s)
  | .compose =>
    let action := do
      let request : ComposeRequest ← decodeBody r
      return submitCompose config request fresh r.channel
    answerAction backend action s
  | .composeStatus id => (answerRead snapshot r.channel Snapshot.composeStatus id, s)
  | .composeMetadata id => (answerRead snapshot r.channel Snapshot.composeMetadata id, s)
  | .composeLogs id => (answerRead snapshot r.channel Snapshot.composeLogs id, s)
  | .composeManifests id => (answerRead snapshot r.channel Snapshot.composeManifests id, s)
  | .cloneCompose id =>
    match percentDecode? id with
    | none => (unreadablePath, s)
    | some text =>
      let action := do
        let id ← parseId text
        let request : CloneRequest ← decodeBody r
        return cloneCompose id request fresh r.channel
      answerAction backend action s
  | .cloneStatus id => (answerRead snapshot r.channel Snapshot.cloneStatus id, s)

/-- Answers a request. -/
def respond (config : Config) (backend : Backend σ) (fresh : Fresh) (r : Request) (s : σ) :
    Response × σ :=
  match (path? r.target).bind Route.ofPath? with
  | none => (⟨404, ""⟩, s)
  | some route =>
    if route.allows r.method then
      let (response, s) := serve config backend fresh r route s
      if r.method = "HEAD" then ({ response with body := "" }, s) else (response, s)
    else (⟨405, ""⟩, s)

end ImageCompose.Http
