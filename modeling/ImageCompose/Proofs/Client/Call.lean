import ImageCompose.Proofs.Api.Reports
import ImageCompose.Proofs.Api.Requests
import ImageCompose.Proofs.Clone.Call
import ImageCompose.Proofs.Http.Address
import ImageCompose.Proofs.Http.Channel
import ImageCompose.Proofs.Http.Server
import ImageCompose.Proofs.Service.Answers

/-!
# The client and the server agree

A client and the server know the routes, the headers and the forms of bodies independently of each
other. For each `Call` of the API, the request that a client sends has the path and the method of
one route, the server answers it by the operation that belongs to the call, on the tenant channel of
the client, and the client reads from the response what the operation ended with
(`Call.client_agrees`).
-/

namespace ImageCompose

open Http (Origin IsChannel Route)

/-- A call of the API. -/
inductive Call
  | postCompose (request : ComposeRequest)
  | composeStatus (id : Uuid)
  | composeMetadata (id : Uuid)
  | composeLogs (id : Uuid)
  | composeManifests (id : Uuid)
  | cloneCompose (id : Uuid) (request : CloneRequest)
  | cloneStatus (id : Uuid)

namespace Call

/-- What a call is answered with. -/
abbrev Answer : Call → Type
  | postCompose _ => ComposeId
  | composeStatus _ => ComposeStatus
  | composeMetadata _ => ComposeMetadata
  | composeLogs _ => ComposeLogs
  | composeManifests _ => ComposeManifests
  | cloneCompose .. => CloneId
  | cloneStatus _ => CloneStatus

instance (call : Call) : Wire call.Answer :=
  match call with
  | postCompose _ => inferInstanceAs (Wire ComposeId)
  | composeStatus _ => inferInstanceAs (Wire ComposeStatus)
  | composeMetadata _ => inferInstanceAs (Wire ComposeMetadata)
  | composeLogs _ => inferInstanceAs (Wire ComposeLogs)
  | composeManifests _ => inferInstanceAs (Wire ComposeManifests)
  | cloneCompose .. => inferInstanceAs (Wire CloneId)
  | cloneStatus _ => inferInstanceAs (Wire CloneStatus)

/-- A client makes a call. -/
def make (c : Client) (transport : Transport) : (call : Call) → Except ClientError call.Answer
  | postCompose request => c.postCompose transport request
  | composeStatus id => c.composeStatus transport id
  | composeMetadata id => c.composeMetadata transport id
  | composeLogs id => c.composeLogs transport id
  | composeManifests id => c.composeManifests transport id
  | cloneCompose id request => c.cloneCompose transport id request
  | cloneStatus id => c.cloneStatus transport id

/-- The service runs the operation of a call on a tenant channel. -/
def run (config : Config) (backend : Backend σ) (fresh : Fresh) (channel : String) (s : σ) :
    (call : Call) → Except ServiceError call.Answer × σ
  | postCompose request => (submitCompose config request fresh channel).run backend s
  | composeStatus id => ((backend.snapshot s).composeStatus id channel, s)
  | composeMetadata id => ((backend.snapshot s).composeMetadata id channel, s)
  | composeLogs id => ((backend.snapshot s).composeLogs id channel, s)
  | composeManifests id => ((backend.snapshot s).composeManifests id channel, s)
  | cloneCompose id request => (ImageCompose.cloneCompose id request fresh channel).run backend s
  | cloneStatus id => ((backend.snapshot s).cloneStatus id channel, s)

/-- The route of a call. -/
def route : Call → Route
  | postCompose _ => .compose
  | composeStatus id => .composeStatus id.render
  | composeMetadata id => .composeMetadata id.render
  | composeLogs id => .composeLogs id.render
  | composeManifests id => .composeManifests id.render
  | cloneCompose id _ => .cloneCompose id.render
  | cloneStatus id => .cloneStatus id.render

/-- The body that a call is sent with. -/
def body : Call → Option Json
  | postCompose request => some (encode request)
  | cloneCompose _ request => some (encode request)
  | _ => none

/-- The status of the response if the operation of a call succeeds. -/
def status : Call → Nat
  | postCompose _ | cloneCompose .. => 201
  | _ => 200

/-- The request of a call, if it has one, was decoded. -/
def Decoded : Call → Prop
  | postCompose request => ∃ v, decode? v = some request
  | cloneCompose _ request => ∃ v, decode? v = some request
  | _ => True

/-- The body of a call, if it has one, can be sent: its text is read as the body, and is not too
long. -/
def Sendable (call : Call) : Prop :=
  ∀ v ∈ call.body, v.Faithful ∧ v.render.utf8ByteSize ≤ Http.bodyLimit

/-! ## The request -/

/-- The request of a call on a tenant channel. -/
def request (call : Call) (channel : Option String) : Http.Request where
  method := call.route.method
  target := call.route.path
  headers := (channel.map (Http.channelHeader, ·)).toList ++
    (call.body.map fun _ => ("content-type", "application/json")).toList
  body := (call.body.map Json.render).getD ""

/-- A client makes every call alike: it sends a request for the route of the call. -/
theorem make_eq_call (c : Client) (transport : Transport) (call : Call) :
    call.make c transport = c.call transport call.route call.body := by
  cases call <;> rfl

/-- The parts of the path of a call need no encoding. -/
theorem isPlainPart_parts (call : Call) :
    ∀ p ∈ call.route.parts, Http.isPlainPart p = true := by
  refine Route.isPlainPart_parts fun text named => ?_
  obtain ⟨id, rfl⟩ : ∃ id : Uuid, id.render = text := by
    cases call with
    | postCompose => cases named
    | composeStatus id | composeMetadata id | composeLogs id | composeManifests id
    | cloneCompose id | cloneStatus id => exact ⟨id, Option.some.inj named⟩
  exact Http.isPlainPart_iff.2 <|
    id.forall_mem_render (P := fun c => c ≠ '/' ∧ Http.isPathChar c = true) (by decide) (by decide)

/-- The path of a call is cut into the parts that it was put together from. -/
theorem segments_path (call : Call) : Http.segments call.route.path = call.route.parts :=
  Route.segments_path call.isPlainPart_parts

/-- The path of a call is found to be the path of its route. -/
theorem ofPath?_path (call : Call) : Route.ofPath? call.route.path = some call.route := by
  refine Route.ofPath?_eq_some_iff.2 ⟨call.segments_path, ?_⟩
  cases call with
  | composeStatus id | cloneStatus id => exact id.render_ne_empty
  | postCompose | composeMetadata | composeLogs | composeManifests | cloneCompose => exact trivial

/-- The path of a call needs no change to be sent as the target of a request. -/
theorem path?_path (call : Call) : Http.path? call.route.path = some call.route.path := by
  obtain ⟨cs, shape⟩ := call.route.toList_path_eq_cons
  refine Http.path?_eq_self shape fun c hc => ?_
  rw [Route.toList_path] at hc
  obtain ⟨p, member, hc⟩ := List.mem_flatMap.1 hc
  rcases List.mem_cons.1 hc with rfl | hc
  · decide
  · exact (Http.isPlainPart_iff.1 (call.isPlainPart_parts p member) c hc).2

/-- The request of a call is sent to the server, whatever slashes follow its address. -/
theorem request?_eq (call : Call) (o : Origin) (channel : Option String)
    (named : ∀ ch ∈ channel, IsChannel ch) :
    Client.request? ⟨o.render, channel⟩ call.route call.body = some (call.request channel) := by
  obtain ⟨cs, shape⟩ := call.route.toList_path_eq_cons
  have target : Http.originForm? (Client.url ⟨o.render, channel⟩ call.route) =
      some call.route.path := Http.originForm?_origin o shape
  have sendable : channel.all Http.isHeaderValue = true := by
    cases channel with
    | none => rfl
    | some ch => exact (named ch rfl).isHeaderValue
  simp only [Client.request?, target, sendable]
  rfl

/-- The server reads the tenant channel that the client names. -/
theorem channel_request (call : Call) {channel : Option String}
    (named : ∀ ch ∈ channel, IsChannel ch) : (call.request channel).channel = channel.getD "" := by
  cases channel with
  | some ch =>
    have found : (call.request (some ch)).header? Http.channelHeader = some ch := by
      simp [Http.Request.header?, request]
    rw [Http.Request.channel, found, Option.bind_some, (named ch rfl).visible?_eq]
    exact (named ch rfl).trim_eq
  | none =>
    have other : (Http.foldCase "content-type" == Http.foldCase Http.channelHeader) = false := by
      decide +kernel
    have missing : (call.request none).header? Http.channelHeader = none := by
      cases body : call.body <;> simp [Http.Request.header?, request, body, other]
    rw [Http.Request.channel, missing]
    rfl

/-- The body of a call is announced as JSON. -/
theorem header?_request (call : Call) (channel : Option String) {v : Json}
    (body : call.body = some v) :
    (call.request channel).header? "content-type" = some "application/json" := by
  have other : (Http.foldCase Http.channelHeader == Http.foldCase "content-type") = false := by
    decide +kernel
  cases channel <;> simp [Http.Request.header?, request, body, other]

/-! ## The response -/

variable {σ : Type} (config : Config) (backend : Backend σ) (fresh : Fresh)

/-- What an operation tells is read back as it is written. -/
theorem readBack_run (call : Call) {channel : String} {s : σ}
    (settled : (backend.snapshot s).SettledResults) {v : call.Answer}
    (h : (call.run config backend fresh channel s).1 = .ok v) : ReadBack v := by
  cases call with
  | postCompose => exact .of_roundTrip (α := ComposeId) v
  | composeStatus => exact Snapshot.readBack_composeStatus h
  | composeMetadata => exact .of_roundTrip (α := ComposeMetadata) v
  | composeLogs => exact Snapshot.readBack_composeLogs settled h
  | composeManifests => exact Snapshot.readBack_composeManifests h
  | cloneCompose => exact .of_roundTrip (α := CloneId) v
  | cloneStatus => exact .of_roundTrip (α := CloneStatus) v

/-- The server serves the route of a call by the operation of the call. -/
theorem serve_route (call : Call) (decoded : call.Decoded) (sendable : call.Sendable)
    (channel : Option String) (s : σ) :
    Http.serve config backend fresh (call.request channel) call.route s =
      (Http.answer call.status
          (call.run config backend fresh (call.request channel).channel s).1,
        (call.run config backend fresh (call.request channel).channel s).2) := by
  generalize sent : call.request channel = r
  have body : ∀ v, call.body = some v → r.body = v.render ∧
      r.header? "content-type" = some "application/json" := by
    rintro v body
    subst sent
    exact ⟨by simp [request, body], call.header?_request channel body⟩
  cases call with
  | composeStatus id | composeMetadata id | composeLogs id | composeManifests id
  | cloneStatus id => exact congrArg (·, s) (Http.answerRead_render ..)
  | postCompose request =>
    obtain ⟨v, decoded⟩ := decoded
    obtain ⟨text, announced⟩ := body _ rfl
    obtain ⟨faithful, fits⟩ := sendable _ rfl
    have read : Http.decodeBody r = .ok request :=
      Http.decodeBody_of_decode? announced text fits faithful (decode?_encode_of_decode? decoded)
    simp only [route, Http.serve, read]
    rfl
  | cloneCompose id request =>
    obtain ⟨text, announced⟩ := body _ rfl
    obtain ⟨faithful, fits⟩ := sendable _ rfl
    have read : Http.decodeBody r = .ok request :=
      Http.decodeBody_of_decode? announced text fits faithful (decode?_encode request)
    simp only [route, Http.serve, Http.percentDecode?_render, Http.parseId_render, read]
    rfl

/-- What a client reads from the response to an operation that succeeded. -/
theorem read_answer (call : Call) {v : call.Answer} (faithful : (encode v).Faithful)
    (back : ReadBack v) : Client.read (Http.answer call.status (.ok v)) = .ok v := by
  have success : 200 ≤ call.status ∧ call.status < 300 := by
    cases call <;> simp [status]
  have read := Decoder.ofText_render faithful back
  rw [Http.answer, Client.read, if_pos success, read]
  rfl

/-- A client and a server agree on a call, which is a request between them. -/
structure Agrees (call : Call) (c : Client) (channel : String) (s : σ) (request : Http.Request) :
    Prop where
  /-- The client sends the request, and reads its answer from the response. -/
  sent : ∀ transport, call.make c transport =
    match transport request with
    | none => .error (.requestFailed "error sending request")
    | some response => Client.read response
  /-- The path and the method of the request are those of one route, that of the call. -/
  routed : ∀ route : Route, ((∃ path, Http.path? request.target = some path ∧
    Http.segments path = route.parts) ∧ route.allows request.method) ↔ route = call.route
  /-- The server runs the operation of the call, and responds with what it ends with. -/
  handled : Http.respond config backend fresh request s =
    (Http.answer call.status (call.run config backend fresh channel s).1,
      (call.run config backend fresh channel s).2)
  /-- If the operation succeeds, over results as they are read from JSON, the client is told what it
  ends with. -/
  answered : (backend.snapshot s).SettledResults →
    ∀ v, (call.run config backend fresh channel s).1 = .ok v → (encode v).Faithful →
      call.make c (fun r => some (Http.respond config backend fresh r s).1) = .ok v

/-- **The client and the server agree.** A client that knows the origin of a server, whatever
slashes follow it, and a tenant channel, or none. -/
theorem client_agrees (call : Call) (decoded : call.Decoded) (sendable : call.Sendable)
    (o : Origin) (slashes : Nat) (channel : Option String) (named : ∀ ch ∈ channel, IsChannel ch)
    (s : σ) :
    ∃ request, call.Agrees config backend fresh
      { Client.new (o.render ++ String.ofList (List.replicate slashes '/')) with
        channel := channel }
      (channel.getD "") s request := by
  refine ⟨call.request channel, ?_⟩
  rw [Client.new_origin]
  have sent : ∀ transport, call.make ⟨o.render, channel⟩ transport =
      match transport (call.request channel) with
      | none => .error (.requestFailed "error sending request")
      | some response => Client.read response := by
    intro transport
    rw [make_eq_call, Client.call]
    cases answered : transport (call.request channel) <;>
      simp only [call.request?_eq o channel named, answered]
  have handled : Http.respond config backend fresh (call.request channel) s =
      (Http.answer call.status (call.run config backend fresh (channel.getD "") s).1,
        (call.run config backend fresh (channel.getD "") s).2) := by
    have found : (Http.path? (call.request channel).target).bind Route.ofPath? =
        some call.route := by
      rw [request, call.path?_path]
      exact call.ofPath?_path
    rw [Http.respond_of_route config backend fresh s found rfl,
      call.serve_route config backend fresh decoded sendable, call.channel_request named]
  constructor
  · exact sent
  · intro route
    constructor
    · rintro ⟨⟨path, found, parts⟩, -⟩
      obtain rfl := Option.some.inj (call.path?_path.symm.trans found)
      exact Route.parts_injective (parts.symm.trans call.segments_path)
    · rintro rfl
      exact ⟨⟨_, call.path?_path, call.segments_path⟩, by simp [Route.allows, request]⟩
  · exact handled
  · intro settled v succeeded faithful
    rw [sent, handled, succeeded]
    exact call.read_answer faithful (call.readBack_run config backend fresh settled succeeded)

/-- A request for an EC2 image is submitted on a tenant channel, to an address that ends in two
slashes. -/
theorem client_agrees_ec2Request :
    let backend := Store.backend (Fresh.jobIds 0) (.ofSeconds 0)
    let client := (Client.new "http://localhost:8080//").withChannel "own"
    ∃ id, ((submitCompose {} Store.ec2Request (.ofRandom 0 0) "own").run backend {}).1 = .ok id ∧
      client.postCompose (fun r => some (Http.respond {} backend (.ofRandom 0 0) r {}).1)
        Store.ec2Request = .ok id := by
  intro backend client
  have sendable : (Call.postCompose Store.ec2Request).Sendable := by
    rintro v ⟨⟩
    exact ⟨Json.readDoc_render rfl, by decide +kernel⟩
  have own : ∀ ch ∈ some "own", IsChannel ch := by
    rintro _ ⟨⟩
    exact ⟨by simp, by decide, by decide⟩
  have empty : (backend.snapshot {}).SettledResults := nofun
  obtain ⟨request, agrees⟩ := client_agrees {} backend (.ofRandom 0 0)
    (.postCompose Store.ec2Request) ⟨encode Store.ec2Request, rfl⟩ sendable
    ⟨"http", "localhost:8080", .inl rfl, by decide⟩ 2 (some "own") own {}
  obtain ⟨id, submitted, plain⟩ : ∃ id : ComposeId,
      ((submitCompose {} Store.ec2Request (.ofRandom 0 0) "own").run backend {}).1 = .ok id ∧
        (encode id).isPlain Json.depthLimit := ⟨_, rfl, rfl⟩
  exact ⟨id, submitted, agrees.answered empty id submitted (Json.readDoc_render plain)⟩

end Call

end ImageCompose
