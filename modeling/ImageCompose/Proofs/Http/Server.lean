import ImageCompose.Http.Server
import ImageCompose.Proofs.Http.Route
import ImageCompose.Proofs.Json.Text
import ImageCompose.Proofs.Uuid

/-!
# What the server reads

An identifier in a path is read as it is written (`answerRead_render`), and a body that is announced
as JSON is decoded (`decodeBody_of_decode?`). A request whose path has a route with its method is
served as that route (`respond_of_route`).
-/

namespace ImageCompose.Http

/-- The written form of an identifier needs no encoding in a path. -/
theorem percentDecode?_render (id : Uuid) : percentDecode? id.render = some id.render := by
  have plain : '%' ∉ id.render.toList := fun h =>
    id.forall_mem_render (P := (· ≠ '%')) (by decide) (by decide) _ h rfl
  exact if_neg (by simpa using plain)

/-- An identifier is read from its written form. -/
theorem parseId_render (id : Uuid) : parseId id.render = .ok id := by
  rw [parseId, Uuid.parse?_render]

/-- A request about an identifier in its written form is answered about that identifier. -/
theorem answerRead_render {α : Type} [Wire α] (snapshot : Snapshot) (channel : String)
    (operation : Snapshot → Uuid → String → Except ServiceError α) (id : Uuid) :
    answerRead snapshot channel operation id.render =
      answer 200 (operation snapshot id channel) := by
  rw [answerRead, percentDecode?_render]
  simp only [parseId_render]
  rfl

/-- A body that is announced as JSON is read as what it decodes as. -/
theorem decodeBody_of_decode? {α : Type} [Wire α] {r : Request} {v : Json} {a : α}
    (announced : r.header? "content-type" = some "application/json") (body : r.body = v.render)
    (fits : v.render.utf8ByteSize ≤ bodyLimit) (faithful : v.Faithful)
    (decoded : decode? v = some a) : decodeBody r = .ok a := by
  have json : (!((r.header? "content-type").bind visible?).any isJson) = false := by
    rw [announced]
    decide
  have read : Decoder.ofText (Wire.decoder : Decoder α) v.render = .ok a :=
    Decoder.ofText_render faithful decoded
  rw [decodeBody, json, body]
  simp only [if_neg (Nat.not_lt.2 fits), read]
  rfl

/-- A request for a route by its method is served. -/
theorem respond_of_route {σ : Type} (config : Config) (backend : Backend σ) (fresh : Fresh)
    {r : Request} {route : Route} (s : σ) (found : (path? r.target).bind Route.ofPath? = some route)
    (method : r.method = route.method) :
    respond config backend fresh r s = serve config backend fresh r route s := by
  have allowed : route.allows r.method = true := by simp [Route.allows, method]
  have not_head : r.method ≠ "HEAD" := by
    rw [method]
    cases route <;> simp [Route.method]
  rw [respond, found]
  simp only [allowed, if_true, if_neg not_head]

end ImageCompose.Http
