import ImageCompose.Store.Record

/-!
# The store in memory

A `Store` is the list of its jobs in the order they were submitted. A job is only ever added at the
end, and only if the jobs it waits for are there (`Store.enqueue`); workers change the result and
the status of a job and nothing else (`Store.start`, `Store.finish`, `Store.cancel`). The server
keeps its jobs with an index (`IndexedStore`), and shows such a list.
-/

namespace ImageCompose

/-- A job of the store in memory. -/
structure StoredJob where
  id : Uuid
  kind : JobKind
  /-- The tenant channel that the job was submitted on. -/
  channel : String
  args : Json
  /-- The result, once a worker reported it. -/
  result : Option Json
  status : JobStatus
  /-- The jobs that this one waits for. -/
  dependencies : List Uuid

/-- A job store in memory. -/
structure Store where
  jobs : List StoredJob := []

namespace StoredJob

/-- A worker picks the job up. -/
def start (now : Timestamp) (j : StoredJob) : StoredJob :=
  { j with status := { j.status with started := some now } }

/-- A worker reports a result; the job counts as started from then on at the latest. -/
def finish (result : Json) (now : Timestamp) (j : StoredJob) : StoredJob :=
  { j with
    result := some result
    status := { j.status with
      started := some (j.status.started.getD now)
      finished := some now } }

/-- The job is canceled. -/
def cancel (j : StoredJob) : StoredJob :=
  { j with status := { j.status with canceled := true } }

/-- What a store tells about the job, given the jobs that wait for it. -/
def record (j : StoredJob) (dependents : List Uuid) : JobRecord where
  kind := j.kind
  channel := j.channel
  args := j.args
  result := j.result
  status := j.status
  dependencies := j.dependencies
  dependents := dependents

end StoredJob

/-- The job as it is stored under an identifier once it is submitted. -/
def NewJob.stored (new : NewJob) (id : Uuid) (now : Timestamp) : StoredJob where
  id := id
  kind := new.kind
  channel := new.channel
  args := new.args
  result := none
  status := { queued := some now }
  dependencies := new.dependencies

namespace Store

/-- The identifiers of the jobs, oldest first. -/
def ids (s : Store) : List Uuid := s.jobs.map (·.id)

/-- The job with an identifier. -/
def find? (s : Store) (id : Uuid) : Option StoredJob :=
  s.jobs.find? fun j => j.id == id

/-- The jobs that wait for a job, oldest first. -/
def dependents (s : Store) (id : Uuid) : List Uuid :=
  (s.jobs.filter fun j => j.dependencies.contains id).map (·.id)

/-- What the store tells about one of its jobs. -/
def record (s : Store) (j : StoredJob) : JobRecord :=
  j.record (s.dependents j.id)

/-- What the store answers now. -/
def snapshot (s : Store) : Snapshot :=
  ⟨s.jobs.map fun j => (j.id, .ok (s.record j))⟩

/-- The first of a list of jobs that is not in the store. -/
def firstMissing? (s : Store) (ids : List Uuid) : Option Uuid :=
  ids.find? fun id => !s.ids.contains id

/-- Adds a job under an identifier, unless a job that it waits for is missing. -/
def enqueue (s : Store) (new : NewJob) (id : Uuid) (now : Timestamp) : Except StoreError Store :=
  match s.firstMissing? new.dependencies with
  | some missing => .error (.notFound missing)
  | none => .ok ⟨s.jobs ++ [new.stored id now]⟩

/-- Changes one job. -/
def update (s : Store) (id : Uuid) (change : StoredJob → StoredJob) : Store :=
  ⟨s.jobs.map fun j => if j.id = id then change j else j⟩

/-- A worker picks a job up. -/
def start (s : Store) (id : Uuid) (now : Timestamp) : Store :=
  s.update id (.start now)

/-- A worker reports the result of a job. -/
def finish (s : Store) (id : Uuid) (result : Json) (now : Timestamp) : Store :=
  s.update id (.finish result now)

/-- A job is canceled. -/
def cancel (s : Store) (id : Uuid) : Store :=
  s.update id .cancel

end Store

end ImageCompose
