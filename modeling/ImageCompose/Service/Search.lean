import ImageCompose.Service.JobInfo

/-!
# Search among dependencies

`Snapshot.search` visits a job and everything it depends on, nearest first, each job once: it keeps
a queue of jobs to visit and the list of all jobs that were ever put there. It ends because every
step takes a job off the queue and puts only jobs there that were not seen before, of which there
are finitely many.

Two questions are answered this way: the error that a job ended in, be it its own or that of
something it depends on (`Snapshot.chainError`), and the nearest dependency of a kind
(`Snapshot.findDependency`).
-/

namespace ImageCompose

/-- Puts the jobs of a list that were not seen yet at the end of the queue. Gives the jobs seen and
the queue. -/
def discover (seen queue : List Uuid) : List Uuid → List Uuid × List Uuid
  | [] => (seen, queue)
  | dep :: rest =>
    if dep ∈ seen then discover seen queue rest else discover (dep :: seen) (queue ++ [dep]) rest

namespace Snapshot

/-- The number of dependencies that were not seen yet. -/
def unseen (s : Snapshot) (seen : List Uuid) : Nat :=
  (s.mentioned.filter fun id => id ∉ seen).length

/-- Once a mentioned job is seen, fewer are unseen. -/
theorem unseen_cons_lt {s : Snapshot} {seen : List Uuid} {id : Uuid} (h : id ∈ s.mentioned)
    (fresh : id ∉ seen) : s.unseen (id :: seen) < s.unseen seen := by
  unfold unseen
  generalize s.mentioned = ids at h
  have step : ∀ ids : List Uuid,
      ids.filter (fun other => other ∉ id :: seen) =
        (ids.filter fun other => other ∉ seen).filter (fun other => other ≠ id) := by
    intro ids
    rw [List.filter_filter]
    congr 1
    funext other
    simp
  rw [step]
  exact List.length_filter_lt_length_iff_exists.2
    ⟨id, List.mem_filter.2 ⟨h, by simpa using fresh⟩, by simp⟩

/-- What is put on the queue is no longer unseen. -/
theorem unseen_discover_le (s : Snapshot) (seen queue : List Uuid) {deps : List Uuid}
    (h : ∀ dep ∈ deps, dep ∈ s.mentioned) :
    s.unseen (discover seen queue deps).1 + (discover seen queue deps).2.length ≤
      s.unseen seen + queue.length := by
  induction deps generalizing seen queue with
  | nil => simp [discover]
  | cons dep rest ih =>
    have tail := fun other ho => h other (List.mem_cons_of_mem _ ho)
    unfold discover
    split
    · exact ih _ _ tail
    · next fresh =>
      have := ih (dep :: seen) (queue ++ [dep]) tail
      have := unseen_cons_lt (h dep (List.mem_cons_self ..)) fresh
      simp at *
      omega

/-- Visits the jobs of a queue and everything they depend on, nearest first, until a visit gives an
answer. -/
def search (s : Snapshot) (visit : Uuid → JobRecord → Except ServiceError (Option α))
    (seen : List Uuid) : List Uuid → Except ServiceError (Option α)
  | [] => .ok none
  | id :: queue =>
    match _ : s.job id with
    | .error e => .error (.ofStore e)
    | .ok record =>
      match visit id record with
      | .error e => .error e
      | .ok (some answer) => .ok (some answer)
      | .ok none =>
        s.search visit (discover seen queue record.dependencies).1
          (discover seen queue record.dependencies).2
termination_by queue => s.unseen seen + queue.length
decreasing_by
  have := unseen_discover_le s seen queue fun _ hd => mem_mentioned ‹_› hd
  simp only [List.length_cons]
  omega

/-- The error that a job reports itself, whatever its kind. -/
def ownError (id : Uuid) (r : JobRecord) : Except ServiceError (Option JobError) :=
  match r.result with
  | none => .ok none
  | some v =>
    match AnyResult.decoder.ofJson? v with
    | some result => .ok result.jobError
    | none => .error (.malformedJob id .undecodable)

/-- The first error of a job and everything it depends on. The error of the job itself wins, and
after that the nearest one. -/
def chainError (s : Snapshot) (id : Uuid) : Except ServiceError (Option JobError) :=
  s.search ownError [id] [id]

/-- The nearest job of a kind among the dependencies, direct or not. -/
def findDependency (s : Snapshot) (dependencies : List Uuid) (kind : JobKind) :
    Except ServiceError (Option Uuid) :=
  s.search (fun id r => .ok (if r.kind = kind then some id else none)) dependencies dependencies

end Snapshot

end ImageCompose
