import ImageCompose.Job.Kind
import ImageCompose.Job.Status
import ImageCompose.Uuid

/-!
# Stored jobs

What a job store tells about a job (`JobRecord`) or why it does not (`StoreError`), and what it is
given to store one (`NewJob`). A `Snapshot` is all that a store answers at one moment. Nothing is
assumed about it: a job may depend on one that is missing, on itself, or be unreadable.
-/

namespace ImageCompose

/-- Why a job store does not do what it is asked. -/
inductive StoreError
  | notFound (id : Uuid)
  | malformed (id : Uuid) (reason : String)
  /-- The job is of another kind than the one asked for. -/
  | kindMismatch (id : Uuid) (expected found : JobKind)
  | database (reason : String)
  deriving DecidableEq

/-- The error in words. -/
def StoreError.message : StoreError → String
  | .notFound id => s!"job {id} not found"
  | .malformed id reason => s!"job {id} is malformed: {reason}"
  | .kindMismatch id expected found =>
    s!"job {id} is of kind {found.name}, expected {expected.name}"
  | .database reason => s!"database error: {reason}"

/-- A job as it is stored; arguments and result are not interpreted. -/
structure JobRecord where
  kind : JobKind
  /-- The tenant channel that the job was submitted on; empty for none. -/
  channel : String
  args : Json
  /-- The result, once a worker reported it. -/
  result : Option Json
  status : JobStatus
  /-- The jobs that this one waits for, in the order of its submission. -/
  dependencies : List Uuid
  /-- The jobs that wait for this one, oldest first. -/
  dependents : List Uuid

/-- A job to be stored. -/
structure NewJob where
  kind : JobKind
  args : Json
  dependencies : List Uuid
  /-- The tenant channel that it is submitted on. -/
  channel : String

/-- All that a store answers at one moment. -/
structure Snapshot where
  /-- What is answered about each known identifier; of several answers the first counts. -/
  entries : List (Uuid × Except StoreError JobRecord)

namespace Snapshot

/-- What the store answers about a job. -/
def job (s : Snapshot) (id : Uuid) : Except StoreError JobRecord :=
  match s.entries.lookup id with
  | some answer => answer
  | none => .error (.notFound id)

/-- What the store answers about the kind of a job. -/
def jobKind (s : Snapshot) (id : Uuid) : Except StoreError JobKind :=
  JobRecord.kind <$> s.job id

/-- All identifiers that some job depends on. -/
def mentioned (s : Snapshot) : List Uuid :=
  s.entries.flatMap fun (_, answer) =>
    match answer with
    | .ok record => record.dependencies
    | .error _ => []

/-- The dependencies of a job are mentioned. -/
theorem mem_mentioned {s : Snapshot} {id dep : Uuid} {record : JobRecord}
    (h : s.job id = .ok record) (hd : dep ∈ record.dependencies) : dep ∈ s.mentioned := by
  have found : s.entries.lookup id = some (.ok record) := by
    unfold job at h
    split at h
    · next answer found => rw [found, h]
    · simp at h
  have member : ∃ other, (other, Except.ok record) ∈ s.entries := by
    clear h hd
    generalize s.entries = entries at found
    induction entries with
    | nil => simp at found
    | cons entry rest ih =>
      obtain ⟨other, answer⟩ := entry
      rw [List.lookup_cons] at found
      split at found
      · exact ⟨other, by simp_all⟩
      · obtain ⟨other, h⟩ := ih found
        exact ⟨other, List.mem_cons_of_mem _ h⟩
  obtain ⟨other, member⟩ := member
  exact List.mem_flatMap.2 ⟨_, member, by simpa using hd⟩

end Snapshot

end ImageCompose
