import ImageCompose.Store.Program

/-!
# Skewed stores

A `SkewedStore` is a store in memory whose answers others have tampered with: parts of a record are
shown changed, a job is hidden or unreadable, and a submission can be made to fail. What is in the
store decides which jobs can be submitted and who waits for whom; the changes are laid over its
answers. This is how a service meets dependencies that dangle or go round, records of the wrong
kind, and submissions that fail half-way.
-/

namespace ImageCompose

/-- What is shown of a job instead of what is stored. -/
structure Override where
  kind : Option JobKind := none
  channel : Option String := none
  args : Option Json := none
  result : Option (Option Json) := none
  started : Option (Option Timestamp) := none
  finished : Option (Option Timestamp) := none
  canceled : Option Bool := none
  dependencies : Option (List Uuid) := none
  hidden : Bool := false
  /-- Why the job cannot be read, if so. -/
  unreadable : Option String := none

namespace Override

/-- The changed record. -/
def record (o : Override) (r : JobRecord) : JobRecord where
  kind := o.kind.getD r.kind
  channel := o.channel.getD r.channel
  args := o.args.getD r.args
  result := o.result.getD r.result
  status := {
    queued := r.status.queued
    started := o.started.getD r.status.started
    finished := o.finished.getD r.status.finished
    canceled := o.canceled.getD r.status.canceled }
  dependencies := o.dependencies.getD r.dependencies
  dependents := r.dependents

/-- The changed answer about a job. -/
def answer (o : Override) (id : Uuid) (r : JobRecord) : Except StoreError JobRecord :=
  if o.hidden then .error (.notFound id)
  else match o.unreadable with
    | some reason => .error (.malformed id reason)
    | none => .ok (o.record r)

end Override

/-- A store with changes laid over it. -/
structure SkewedStore where
  store : Store := {}
  /-- What is shown of each job that was tampered with. -/
  overrides : List (Uuid × Override) := []
  /-- How many submissions go through before one fails, and how it fails. -/
  refusal : Option (Nat × StoreError) := none

namespace SkewedStore

/-- What is shown of a job. -/
def override (s : SkewedStore) (id : Uuid) : Override :=
  (s.overrides.lookup id).getD {}

/-- Changes what is shown of a job. -/
def distort (s : SkewedStore) (id : Uuid) (change : Override → Override) : SkewedStore :=
  { s with overrides := (id, change (s.override id)) :: s.overrides.filter fun (k, _) => k ≠ id }

/-- What the store answers. -/
def snapshot (s : SkewedStore) : Snapshot :=
  ⟨s.store.jobs.map fun j => (j.id, (s.override j.id).answer j.id (s.store.record j))⟩

/-- A worker picks a job up, and is shown to. -/
def start (s : SkewedStore) (id : Uuid) (now : Timestamp) : SkewedStore :=
  { s with store := s.store.start id now }.distort id fun o => { o with started := none }

/-- A worker reports the result of a job, and is shown to. -/
def finish (s : SkewedStore) (id : Uuid) (result : Json) (now : Timestamp) : SkewedStore :=
  { s with store := s.store.finish id result now }.distort id fun o =>
    { o with started := none, finished := none, result := none }

/-- A job is canceled, and shown to be. -/
def cancel (s : SkewedStore) (id : Uuid) : SkewedStore :=
  { s with store := s.store.cancel id }.distort id fun o => { o with canceled := none }

/-- Submits a job, unless a refusal is due. -/
def submit (supply : Nat → Uuid) (now : Timestamp) (new : NewJob) (s : SkewedStore) :
    Except StoreError Uuid × SkewedStore :=
  match s.refusal with
  | some (0, e) => (.error e, { s with refusal := none })
  | refusal =>
    let (answer, store) := s.store.submit supply now new
    (answer, { s with store := store, refusal := refusal.map fun (n, e) => (n - 1, e) })

/-- A skewed store as a backend. -/
def backend (supply : Nat → Uuid) (now : Timestamp) : Backend SkewedStore :=
  ⟨snapshot, submit supply now⟩

end SkewedStore

end ImageCompose
