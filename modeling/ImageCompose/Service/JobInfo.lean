import ImageCompose.Job.Payload
import ImageCompose.Service.Error

/-!
# Jobs with their results decoded

A `JobInfo ρ` is a stored job of the kind that the results `ρ` belong to, with its result decoded. A
job that has none yet counts as one with the empty result. A job is seen only on its own tenant
channel and by requests without a channel (`JobInfo.ensureChannel`).
-/

namespace ImageCompose

/-- A job with its result decoded. -/
structure JobInfo (ρ : Type) where
  id : Uuid
  /-- The tenant channel that the job was submitted on. -/
  channel : String
  status : JobStatus
  dependencies : List Uuid
  dependents : List Uuid
  result : ρ
  rawArgs : Json
  rawResult : Option Json

/-- Decodes a part of a stored job. -/
def decodeStored [Wire α] (id : Uuid) (v : Json) : Except ServiceError α :=
  match decode? v with
  | some a => .ok a
  | none => .error (.malformedJob id .undecodable)

namespace JobInfo

/-- The job of a record, which must be of the kind that the results belong to. -/
def ofRecord [ResultOf ρ] (id : Uuid) (r : JobRecord) : Except ServiceError (JobInfo ρ) := do
  if r.kind ≠ ResultOf.kind ρ then
    throw (.ofStore (.kindMismatch id (ResultOf.kind ρ) r.kind))
  let result ← match r.result with
    | some v => decodeStored id v
    | none => pure ResultOf.empty
  return {
    id := id
    channel := r.channel
    status := r.status
    dependencies := r.dependencies
    dependents := r.dependents
    result := result
    rawArgs := r.args
    rawResult := r.result }

/-- The arguments of a job. -/
def args [Wire α] (job : JobInfo ρ) : Except ServiceError α :=
  decodeStored job.id job.rawArgs

/-- The result as it is stored, `null` if there is none. -/
def log (job : JobInfo ρ) : Json :=
  job.rawResult.getD .null

/-- Hides jobs of other tenants. A request without a channel sees every job. -/
def ensureChannel (job : JobInfo ρ) (channel : String) : Except ServiceError Unit :=
  if channel ≠ "" ∧ job.channel ≠ channel then .error (.composeNotFound job.id) else .ok ()

end JobInfo

/-- The kind of the job that a request names: a missing job is an error of the request. -/
def composeKind (id : Uuid) : Except StoreError JobKind → Except ServiceError JobKind
  | .ok kind => .ok kind
  | .error (.notFound _) => .error (.composeNotFound id)
  | .error e => .error (.ofStore e)

namespace Snapshot

/-- The kind of the job that a request names. -/
def composeKind (s : Snapshot) (id : Uuid) : Except ServiceError JobKind :=
  ImageCompose.composeKind id (s.jobKind id)

/-- The kind of a job that another one refers to. -/
def referredKind (s : Snapshot) (id : Uuid) : Except ServiceError JobKind :=
  (s.jobKind id).mapError .ofStore

/-- A job with its result decoded. -/
def jobInfo [ResultOf ρ] (s : Snapshot) (id : Uuid) : Except ServiceError (JobInfo ρ) := do
  let record ← (s.job id).mapError .ofStore
  JobInfo.ofRecord id record

end Snapshot

end ImageCompose
