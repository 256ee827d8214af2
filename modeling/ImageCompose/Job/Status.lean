import ImageCompose.Timestamp

/-!
# Progress of a job

When a job was queued, started and finished, and whether it was canceled (`JobStatus`), and the
error that it ended in (`JobError`).
-/

namespace ImageCompose

/-- How far a job has come. -/
structure JobStatus where
  queued : Option Timestamp := none
  started : Option Timestamp := none
  finished : Option Timestamp := none
  canceled : Bool := false

namespace JobStatus

/-- Whether a worker started the job. -/
def isStarted (s : JobStatus) : Bool := s.started.isSome

/-- Whether the job finished. -/
def isFinished (s : JobStatus) : Bool := s.finished.isSome

/-- The members of the JSON form. -/
def fields : Fields JobStatus :=
  JobStatus.mk
    <$> Fields.nullable "queued" Wire.decoder
    <*> Fields.nullable "started" Wire.decoder
    <*> Fields.nullable "finished" Wire.decoder
    <*> Fields.member "canceled" .bool

instance : Wire JobStatus where
  encode s := .obj [
    ("queued", Json.nullable encode s.queued),
    ("started", Json.nullable encode s.started),
    ("finished", Json.nullable encode s.finished),
    ("canceled", encode s.canceled)]
  decoder := fields.decoder

end JobStatus

/-- The error that a job ended in. -/
structure JobError where
  /-- The number of the kind of error. -/
  id : UInt32
  reason : String
  details : Option Json := none

namespace JobError

/-- The members of the JSON form. -/
def fields : Fields JobError :=
  JobError.mk
    <$> Fields.member "id" .uint32
    <*> Fields.member "reason" .string
    <*> Fields.possible "details" .any

instance : Wire JobError where
  encode e := .obj <|
    [("id", Json.nat e.id.toNat), ("reason", encode e.reason)] ++
    Json.given "details" encode e.details
  decoder := fields.decoder

end JobError

end ImageCompose
