import ImageCompose.Http.Server
import ImageCompose.Store.Indexed

/-!
# Exchanges in JSON

A request and its response as JSON objects, for a server that is fed by another program. The request
comes with the time, because the server has no clock of its own. `exchange` answers a line of text
from a store in memory.
-/

namespace ImageCompose.Http

/-- A request and when it came, in seconds since 1970. -/
structure Arrival where
  time : UInt64
  request : Request

namespace Request

/-- The members of the JSON form. -/
def fields : Fields Request :=
  Request.mk
    <$> Fields.member "method" .string
    <*> Fields.member "target" .string
    <*> Fields.defaulted "headers" (.dictionary .string) []
    <*> Fields.defaulted "body" .string ""

end Request

namespace Arrival

/-- Reads a request and its time. -/
def decoder : Decoder Arrival :=
  (Arrival.mk <$> Fields.member "time" .uint64 <*> Request.fields.flattened).decoder

end Arrival

/-- The JSON form of a response. -/
def Response.toJson (r : Response) : Json :=
  .obj [("status", Json.nat r.status), ("body", .str r.body)]

/-- Answers a line of text from a store in memory. -/
def exchange (config : Config) (random : Nat) (line : String) (s : IndexedStore) :
    Json × IndexedStore :=
  match Decoder.ofText Arrival.decoder line with
  | .error fault => (.obj [("error", .str fault.message)], s)
  | .ok arrival =>
    if arrival.request.isValid then
      let backend := IndexedStore.backend (Fresh.jobIds random) (.ofSeconds arrival.time.toNat)
      let (response, s) :=
        respond config backend (.ofRandom random arrival.time) arrival.request s
      (response.toJson, s)
    else (.obj [("error", .str "the request cannot be sent")], s)

end ImageCompose.Http
