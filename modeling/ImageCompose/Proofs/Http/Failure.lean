import ImageCompose.Client.Error
import ImageCompose.Http.Failure
import ImageCompose.Proofs.Api.Requests
import ImageCompose.Proofs.Json.Text

/-!
# Failures reach the client

What a client makes of the response to a failed request: the status code, the number and the error
object of the failure (`ServiceError.failure_told`). The number tells which way of failing it is,
and of a failure that the server is to blame for the response tells no more than that.
-/

namespace ImageCompose

/-- The number of a failure is read back from its error object. -/
theorem ErrorResponse.serviceCode_new (code : UInt32) (reason : String) :
    (new code reason).serviceCode = some code := by
  show (Text.unsigned? 4294967296 (toString code.toNat)).map UInt32.ofNat = some code
  rw [Text.unsigned?_toString code.toNat_lt]
  simp

/-- An error object is read back from its text. -/
theorem ErrorResponse.ofText_render (e : ErrorResponse) :
    Decoder.ofText (Wire.decoder : Decoder ErrorResponse) (encode e).render = .ok e :=
  Decoder.ofText_render (Json.readDoc_render rfl) (RoundTrip.ofJson?_encode e)

namespace ServiceError

/-! ## The ways of failing -/

/-- The number and the blame of each way of failing, in the order of the ways. -/
def forms : List (UInt32 × ErrorKind) := [
  (1, .malformedInput), (2, .malformedInput), (3, .malformedInput), (4, .malformedInput),
  (5, .malformedInput), (6, .malformedInput), (7, .malformedInput), (8, .malformedInput),
  (10, .notFound), (20, .unsupported), (21, .unsupported), (22, .unsupported), (23, .unsupported),
  (24, .unsupported), (25, .unsupported), (26, .unsupported), (30, .invariantViolation),
  (31, .invariantViolation), (32, .invariantViolation), (33, .invariantViolation),
  (34, .invariantViolation), (36, .invariantViolation), (35, .invariantViolation), (40, .enqueue)]

/-- The table says of every failure what its number is and who is to blame. -/
theorem getElem?_forms (e : ServiceError) : forms[e.ctorIdx]? = some (e.code, e.kind) := by
  cases e <;> rfl

/-- Failures have the same number exactly if they fail the same way. -/
theorem code_eq_iff (e e' : ServiceError) : e.code = e'.code ↔ e.ctorIdx = e'.ctorIdx := by
  have distinct : (forms.map (·.1)).Nodup := by decide
  have code : ∀ e : ServiceError, (forms.map (·.1))[e.ctorIdx]? = some e.code := fun e => by
    rw [List.getElem?_map, getElem?_forms]
    rfl
  constructor
  · intro same
    obtain ⟨bound, -⟩ := List.getElem?_eq_some_iff.1 (code e)
    exact (List.getElem?_inj bound distinct).1 ((code e).trans (same ▸ (code e').symm))
  · intro same
    exact Option.some.inj ((code e).symm.trans (same ▸ code e'))

/-- Who is to blame depends on the way of failing alone. -/
theorem kind_eq_of_ctorIdx {e e' : ServiceError} (same : e.ctorIdx = e'.ctorIdx) :
    e.kind = e'.kind := by
  have forms_eq := (getElem?_forms e).symm.trans (same ▸ getElem?_forms e')
  exact congrArg Prod.snd (Option.some.inj forms_eq)

/-- Only what a request names can be not found. -/
theorem kind_eq_notFound (e : ServiceError) :
    e.kind = .notFound ↔ ∃ id, e = .composeNotFound id := by
  cases e <;> simp [kind]

/-- The server is to blame. -/
def IsInternal (e : ServiceError) : Prop :=
  e.kind = .invariantViolation ∨ e.kind = .enqueue

/-- A failure that the server is to blame for is answered as an internal error. -/
theorem status_of_internal {e : ServiceError} (h : e.IsInternal) : e.status = 500 := by
  rcases h with h | h <;> simp [status, h, ErrorKind.status]

/-- Every other failure is answered as an error of the client. -/
theorem status_of_not_internal {e : ServiceError} (h : ¬e.IsInternal) :
    400 ≤ e.status ∧ e.status < 500 := by
  cases blame : e.kind with
  | malformedInput | notFound | unsupported => simp [status, blame, ErrorKind.status]
  | invariantViolation => exact absurd (.inl blame) h
  | enqueue => exact absurd (.inr blame) h

/-- A failure that the server is to blame for is answered as every other of the same way. -/
theorem response_of_internal {e e' : ServiceError} (h : e.IsInternal)
    (same : e.ctorIdx = e'.ctorIdx) : e'.response = e.response := by
  have kinds := kind_eq_of_ctorIdx same
  have internal : e'.IsInternal := by rwa [IsInternal, ← kinds]
  have reason : ∀ {e : ServiceError}, e.IsInternal → e.publicReason = "Internal server error" :=
    fun h => if_pos (by rw [status_of_internal h])
  rw [response, response, errorResponse, errorResponse, reason h, reason internal,
    (code_eq_iff e e').2 same, status_of_internal h, status_of_internal internal]

/-! ## What the client is told -/

/-- What a client makes of the response to a failure. -/
structure Told (e : ServiceError) (c : ClientError) : Prop where
  service : c = .service e.response.status e.errorResponse
  /-- The number of the failure is read back. -/
  serviceCode : c.serviceCode = some e.code
  isNotFound : c.isNotFound ↔ ∃ id, e = .composeNotFound id
  /-- The server is to blame for jobs that are not what they should be or cannot be stored. -/
  isServerError : c.isServerError ↔ e.kind = .invariantViolation ∨ e.kind = .enqueue
  isClientError : c.isClientError ↔ ¬(e.kind = .invariantViolation ∨ e.kind = .enqueue)

/-- The response to a failure is read as that failure. -/
theorem ofResponse_response (e : ServiceError) :
    ClientError.ofResponse e.response.status e.response.body =
      .service e.response.status e.errorResponse := by
  have read : Decoder.ofText (Wire.decoder : Decoder ErrorResponse) e.response.body =
      .ok e.errorResponse := e.errorResponse.ofText_render
  rw [ClientError.ofResponse, read]
  exact if_pos rfl

/-- The client is told so of every failure. -/
theorem told_ofResponse (e : ServiceError) :
    e.Told (ClientError.ofResponse e.response.status e.response.body) := by
  rw [ofResponse_response]
  have status_eq : (ClientError.service e.response.status e.errorResponse).status =
      some e.status := rfl
  refine ⟨rfl, ErrorResponse.serviceCode_new _ _, ?_, ?_, ?_⟩
  · rw [← kind_eq_notFound, ClientError.isNotFound, status_eq]
    unfold status
    cases e.kind <;> simp [ErrorKind.status]
  · rw [ClientError.isServerError, status_eq]
    unfold status
    cases e.kind <;> simp [ErrorKind.status]
  · rw [ClientError.isClientError, status_eq]
    unfold status
    cases e.kind <;> simp [ErrorKind.status]

/-- **A failure reaches the client and leaks nothing internal.** -/
theorem failure_told (e : ServiceError) :
    e.Told (ClientError.ofResponse e.response.status e.response.body) ∧
    (∀ e' : ServiceError, e.code = e'.code ↔ e.ctorIdx = e'.ctorIdx) ∧
    (e.response.status < 500 → e.errorResponse.reason = e.message) ∧
    (500 ≤ e.response.status →
      ∀ e' : ServiceError, e.ctorIdx = e'.ctorIdx → e'.response = e.response) := by
  refine ⟨told_ofResponse e, code_eq_iff e, fun request_error => ?_, fun server_error e' same => ?_⟩
  · exact if_neg (Nat.not_le.2 request_error)
  · have internal : e.IsInternal := by
      by_contra other
      exact absurd server_error (Nat.not_le.2 (status_of_not_internal other).2)
    exact response_of_internal internal same

/-- The cause of an internal failure stays on the server: the client is told the number alone. -/
theorem failure_told_store :
    (store (.database "no such table")).Told
      (ClientError.ofResponse (store (.database "no such table")).response.status
        (store (.database "no such table")).response.body) ∧
    500 ≤ (store (.database "no such table")).response.status ∧
    (store (.database "disk full")).response = (store (.database "no such table")).response := by
  have ⟨told, _, _, internal⟩ := failure_told (.store (.database "no such table"))
  exact ⟨told, by decide, internal (by decide) _ rfl⟩

end ServiceError

end ImageCompose
