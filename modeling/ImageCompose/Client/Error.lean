import ImageCompose.Api.ErrorResponse

/-!
# Failures of a client

Why a call of the API brings no answer (`ClientError`). A response that reports a failure may carry
an error object or any other body (`ClientError.ofResponse`).
-/

namespace ImageCompose

/-- Why a call of the API brings no answer. -/
inductive ClientError
  /-- The request was not sent, or no response came. -/
  | requestFailed (reason : String)
  | service (status : Nat) (error : ErrorResponse)
  /-- The response reports a failure without an error object. -/
  | api (status : Nat) (body : String)
  | parse (reason : String)
  deriving DecidableEq

namespace ClientError

/-- The failure in words. -/
def message : ClientError → String
  | .requestFailed reason => s!"HTTP request failed: {reason}"
  | .service status error => s!"API error (status {status}, {error.code}): {error.reason}"
  | .api status body => s!"API error (status {status}): {body}"
  | .parse reason => s!"Failed to parse response: {reason}"

/-- The failure that a response reports. -/
def ofResponse (status : Nat) (body : String) : ClientError :=
  match Decoder.ofText (Wire.decoder : Decoder ErrorResponse) body with
  | .ok error =>
    if error.kind = ErrorResponse.errorKind then .service status error else .api status body
  | .error _ => .api status body

/-- The status code of the response. -/
def status : ClientError → Option Nat
  | .service status _ | .api status _ => some status
  | .requestFailed _ | .parse _ => none

/-- The number of the failure that the API reports. -/
def serviceCode : ClientError → Option UInt32
  | .service _ error => error.serviceCode
  | _ => none

/-- Whether something does not exist. -/
def isNotFound (e : ClientError) : Bool := e.status == some 404

/-- Whether the request is to blame. -/
def isClientError (e : ClientError) : Bool :=
  e.status.any fun status => 400 ≤ status && status < 500

/-- Whether the server is to blame. -/
def isServerError (e : ClientError) : Bool :=
  e.status.any fun status => 500 ≤ status

end ClientError

end ImageCompose
