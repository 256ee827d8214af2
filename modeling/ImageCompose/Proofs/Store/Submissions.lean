import ImageCompose.Proofs.Service.Reads
import ImageCompose.Proofs.Store.Jobs
import ImageCompose.Service.Action
import ImageCompose.Store.Skew

/-!
# What a run submits

A run of a program against a backend submits some jobs, whether or not they are accepted
(`StoreProgram.submissions`). An action acts if it succeeds or submits a job (`Action.Acts`): one
that does not act has told nothing but that it failed, and has left the store alone.

A backend may refuse whatever it likes. It `Appends` if a job that it accepts is stored after all
others as it was submitted, and one that it refuses is not stored. Both the store in memory and the
skewed one do.
-/

namespace ImageCompose

variable {σ : Type}

/-- The jobs that a run of a program submits, accepted or not. -/
def StoreProgram.submissions (backend : Backend σ) : StoreProgram α → σ → List NewJob
  | .done _, _ => []
  | .jobKind id next, s => (next ((backend.snapshot s).jobKind id)).submissions backend s
  | .job id next, s => (next ((backend.snapshot s).job id)).submissions backend s
  | .enqueue new next, s =>
    let (answer, s) := backend.enqueue new s
    new :: (next answer).submissions backend s

namespace Action

/-! ## Runs in parts -/

section
variable {backend : Backend σ} {s s' : σ} {x : Action α}

/-- Two actions in turn run as the second from where the first ended, unless that failed. -/
theorem run_bind (f : α → Action β) :
    (x >>= f).run backend s = match x.run backend s with
      | (.ok a, s') => (f a).run backend s'
      | (.error e, s') => (.error e, s') := by
  have parts : (x >>= f).run backend s =
      (ExceptT.bindCont f (x.run backend s).1).run backend (x.run backend s).2 :=
    StoreProgram.run_bind ..
  rw [parts]
  rcases x.run backend s with ⟨e | a, s'⟩ <;> rfl

/-- After a success, the second action runs from where the first ended. -/
theorem run_bind_of_ok {a : α} (f : α → Action β) (first : x.run backend s = (.ok a, s')) :
    (x >>= f).run backend s = (f a).run backend s' := by
  rw [run_bind, first]

/-- After a failure, it does not run. -/
theorem run_bind_of_error {e : ServiceError} (f : α → Action β)
    (first : x.run backend s = (.error e, s')) : (x >>= f).run backend s = (.error e, s') := by
  rw [run_bind, first]

end

/-! ## Actions that act -/

/-- The jobs that a run of an action submits, accepted or not. -/
def submissions (backend : Backend σ) (action : Action α) (s : σ) : List NewJob :=
  StoreProgram.submissions backend (ExceptT.run action) s

/-- An action succeeds or submits a job. -/
def Acts (backend : Backend σ) (s : σ) (action : Action α) : Prop :=
  (∃ a, (action.run backend s).1 = .ok a) ∨ action.submissions backend s ≠ []

variable {backend : Backend σ} {s : σ}

/-- An action that only fails does nothing. -/
theorem not_acts_throw (e : ServiceError) : ¬(throw e : Action α).Acts backend s := by
  rintro (⟨a, impossible⟩ | submits)
  · cases impossible
  · exact submits rfl

/-- What is known without the store has to be a success, or nothing is done. -/
theorem Acts.of_bind {result : Except ServiceError α} {f : α → Action β}
    (h : (Action.of result >>= f).Acts backend s) :
    ∃ a, result = .ok a ∧ (f a).Acts backend s := by
  cases result with
  | error e => exact absurd h (not_acts_throw e)
  | ok a => exact ⟨a, rfl, h⟩

/-- The kind that is asked for has to be answered, or nothing is done. -/
theorem Acts.composeKind_bind {id : Uuid} {f : JobKind → Action β}
    (h : (Action.composeKind id >>= f).Acts backend s) :
    ∃ kind, (backend.snapshot s).composeKind id = .ok kind ∧ (f kind).Acts backend s :=
  of_bind (show (Action.of ((backend.snapshot s).composeKind id) >>= f).Acts backend s from h)

/-- The job that is read has to be readable, or nothing is done. -/
theorem Acts.jobInfo_bind {ρ : Type} [ResultOf ρ] {id : Uuid} {f : JobInfo ρ → Action β}
    (h : (Action.jobInfo id >>= f).Acts backend s) :
    ∃ job, (backend.snapshot s).jobInfo id = .ok job ∧ (f job).Acts backend s :=
  of_bind (show (Action.of ((backend.snapshot s).jobInfo id) >>= f).Acts backend s from h)

end Action

/-! ## Backends that store jobs in order -/

/-- A backend keeps a list of jobs: it puts a job that it accepts at the end, and does not store one
that it refuses. -/
def Backend.Appends (backend : Backend σ) (jobs : σ → List StoredJob) : Prop :=
  ∀ new s, (∃ id now s', backend.enqueue new s = (.ok id, s') ∧
      jobs s' = jobs s ++ [new.stored id now]) ∨
    ∃ e s', backend.enqueue new s = (.error e, s') ∧ jobs s' = jobs s

/-- A job was submitted with some arguments, to wait for some jobs, on a tenant channel, and nothing
has happened to it since. -/
structure StoredJob.Is (j : StoredJob) (args : JobArgs) (dependencies : List Uuid)
    (channel : String) : Prop where
  kind : j.kind = args.kind
  args : j.args = args.toJson
  dependencies : j.dependencies = dependencies
  channel : j.channel = channel
  waiting : ∃ now, j.status = { queued := some now } ∧ j.result = none

/-- A job is submitted and stored after all others, or refused and not stored. -/
theorem Action.run_enqueue_cases {backend : Backend σ} {jobs : σ → List StoredJob}
    (appends : backend.Appends jobs) (args : JobArgs) (dependencies : List Uuid) (channel : String)
    (s : σ) :
    (∃ j s', (Action.enqueue args dependencies channel).run backend s = (.ok j.id, s') ∧
      jobs s' = jobs s ++ [j] ∧ j.Is args dependencies channel) ∨
    ∃ e s', (Action.enqueue args dependencies channel).run backend s =
      (.error (.enqueue args.kind e), s') ∧ jobs s' = jobs s := by
  have run : (Action.enqueue args dependencies channel).run backend s =
      let (answer, s') := backend.enqueue ⟨args.kind, args.toJson, dependencies, channel⟩ s
      (answer.mapError (.enqueue args.kind), s') := rfl
  rcases appends ⟨args.kind, args.toJson, dependencies, channel⟩ s with
    ⟨id, now, s', accepted, later⟩ | ⟨e, s', refused, same⟩
  · rw [run, accepted]
    exact .inl ⟨_, s', rfl, later, rfl, rfl, rfl, rfl, now, rfl, rfl⟩
  · rw [run, refused]
    exact .inr ⟨e, s', rfl, same⟩

/-- The store in memory adds a submission as its last job, or refuses it and stays as it is. -/
theorem Store.submit_cases (supply : Nat → Uuid) (now : Timestamp) (new : NewJob) (s : Store) :
    (∃ id s', s.submit supply now new = (.ok id, s') ∧
      s'.jobs = s.jobs ++ [new.stored id now]) ∨
    ∃ e, s.submit supply now new = (.error e, s) := by
  simp only [submit]
  cases added : s.enqueue new (supply s.jobs.length) now with
  | error e => exact .inr ⟨e, rfl⟩
  | ok s' => exact .inl ⟨_, s', rfl, (enqueue_ok added).2⟩

/-- So the store in memory keeps its jobs in the order of submission. -/
theorem Store.appends_backend (supply : Nat → Uuid) (now : Timestamp) :
    (backend supply now).Appends Store.jobs := by
  intro new s
  rcases submit_cases supply now new s with ⟨id, s', accepted, jobs⟩ | ⟨e, refused⟩
  · exact .inl ⟨id, now, s', accepted, jobs⟩
  · exact .inr ⟨e, s, refused, rfl⟩

/-- A skewed store keeps its jobs as the store in memory does, whatever it shows of them. -/
theorem SkewedStore.appends_backend (supply : Nat → Uuid) (now : Timestamp) :
    (backend supply now).Appends fun s => s.store.jobs := by
  intro new s
  simp only [backend, submit]
  split
  · exact .inr ⟨_, _, rfl, rfl⟩
  · rcases Store.submit_cases supply now new s.store with ⟨id, s', accepted, jobs⟩ | ⟨e, refused⟩
    · rw [accepted]
      exact .inl ⟨id, now, _, rfl, jobs⟩
    · rw [refused]
      exact .inr ⟨e, _, rfl, rfl⟩

end ImageCompose
