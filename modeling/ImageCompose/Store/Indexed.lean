import ImageCompose.Store.Program
import Mathlib.Data.List.Nodup

/-!
# The store in memory, with an index

An `IndexedStore` finds its jobs in a map from identifiers, and remembers in what order they were
submitted in a list beside it. Nothing in the type ties the two together: which jobs wait for a job
is worked out from both (`IndexedStore.dependents`), and every call has to change them in step. What
is told of such a store is what a `Store` tells that holds its jobs as one list.
-/

namespace ImageCompose

/-- A job store in memory that finds its jobs by identifier. -/
structure IndexedStore where
  jobs : Std.HashMap Uuid StoredJob := {}
  /-- The identifiers of the jobs, oldest first. -/
  order : List Uuid := []

namespace IndexedStore

/-- The jobs that wait for a job, in the order of their submission. -/
def dependents (s : IndexedStore) (id : Uuid) : List Uuid :=
  s.order.filter fun other => s.jobs[other]?.any (·.dependencies.contains id)

/-- What the store tells about a job. -/
def job (s : IndexedStore) (id : Uuid) : Except StoreError JobRecord :=
  match s.jobs[id]? with
  | some j => .ok (j.record (s.dependents id))
  | none => .error (.notFound id)

/-- What the store answers now: it is asked for each job of its order. -/
def snapshot (s : IndexedStore) : Snapshot :=
  ⟨s.order.map fun id => (id, s.job id)⟩

/-- The first of a list of jobs that the map does not know. -/
def firstMissing? (s : IndexedStore) (ids : List Uuid) : Option Uuid :=
  ids.find? fun id => !s.jobs.contains id

/-- Submits a job under the next of a supply of identifiers, unless a job that it waits for is
missing. -/
def submit (supply : Nat → Uuid) (now : Timestamp) (new : NewJob) (s : IndexedStore) :
    Except StoreError Uuid × IndexedStore :=
  match s.firstMissing? new.dependencies with
  | some missing => (.error (.notFound missing), s)
  | none =>
    let id := supply s.order.length
    (.ok id, ⟨s.jobs.insert id (new.stored id now), s.order ++ [id]⟩)

/-- Changes one job, if it is there. -/
def update (s : IndexedStore) (id : Uuid) (change : StoredJob → StoredJob) : IndexedStore :=
  { s with jobs := s.jobs.modify id change }

/-- A worker picks a job up. -/
def start (s : IndexedStore) (id : Uuid) (now : Timestamp) : IndexedStore :=
  s.update id (.start now)

/-- A worker reports the result of a job. -/
def finish (s : IndexedStore) (id : Uuid) (result : Json) (now : Timestamp) : IndexedStore :=
  s.update id (.finish result now)

/-- A job is canceled. -/
def cancel (s : IndexedStore) (id : Uuid) : IndexedStore :=
  s.update id .cancel

/-- The store as a backend. -/
def backend (supply : Nat → Uuid) (now : Timestamp) : Backend IndexedStore :=
  ⟨snapshot, submit supply now⟩

end IndexedStore

end ImageCompose
