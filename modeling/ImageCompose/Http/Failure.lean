import ImageCompose.Api.ErrorResponse
import ImageCompose.Http.Message
import ImageCompose.Json.Printer
import ImageCompose.Service.Error

/-!
# Failures as responses

Each failure of the service has a number that never changes (`ServiceError.code`), and a status code
that says who is to blame (`ErrorKind.status`). The response to a failed request tells what went
wrong only if the request is to blame (`ServiceError.publicReason`).
-/

namespace ImageCompose

/-- The status code of a failure. -/
def ErrorKind.status : ErrorKind → Nat
  | .malformedInput | .unsupported => 400
  | .notFound => 404
  | .invariantViolation | .enqueue => 500

namespace ServiceError

/-- The number of a failure. -/
def code : ServiceError → UInt32
  | .invalidComposeId _ => 1
  | .bodyDecoding _ => 2
  | .invalidNumberOfImages => 3
  | .missingUploadTarget => 4
  | .invalidUploadOptions _ _ => 5
  | .invalidRepository => 6
  | .noGpgKey => 7
  | .localSaveNotEnabled => 8
  | .composeNotFound _ => 10
  | .unsupportedDistribution _ => 20
  | .unsupportedArchitecture _ => 21
  | .unsupportedUploadType _ => 22
  | .invalidJobType _ _ => 23
  | .composeBadState _ => 24
  | .severalUploadTargets _ _ => 25
  | .unsupportedCloneTarget _ => 26
  | .unknownUploadTarget _ => 30
  | .malformedChain _ _ => 31
  | .malformedJob _ _ => 32
  | .missingBuildOutput _ => 33
  | .missingManifest _ => 34
  | .store _ => 35
  | .missingJob _ => 36
  | .enqueue _ _ => 40

/-- The status code of a failure. -/
def status (e : ServiceError) : Nat := e.kind.status

/-- What a client is told about a failure. -/
def publicReason (e : ServiceError) : String :=
  if 500 ≤ e.status then "Internal server error" else e.message

/-- The error object of a failure. -/
def errorResponse (e : ServiceError) : ErrorResponse :=
  .new e.code e.publicReason

/-- The response to a failed request. -/
def response (e : ServiceError) : Http.Response :=
  ⟨e.status, (encode e.errorResponse).render⟩

end ServiceError

end ImageCompose
