import ImageCompose.Proofs.Except
import ImageCompose.Proofs.Service.Operations
import ImageCompose.Store.Skew

/-!
# Missing jobs

A store lacks a job if it answers that the job is not found. Jobs that a stored job lists can be
missing, as others tamper with the store. An error is inner (`Snapshot.Inner`) if it is not about
the job that a request names: it does not say that a job is not found, and one that says that a job
is missing is right and names a listed job. What is decoded of a stored job fails with other errors
altogether (`ServiceError.NotMissing`).
-/

namespace ImageCompose

/-! ## What is missing -/

/-- An error that is not about a missing job. -/
def ServiceError.NotMissing : ServiceError → Prop
  | .composeNotFound _ | .missingJob _ => False
  | _ => True

/-- Such an error does not say that a job is not found. -/
theorem ServiceError.NotMissing.found {e : ServiceError} (h : e.NotMissing) (x : Uuid) :
    e ≠ .composeNotFound x := by
  rintro rfl
  exact h

/-- Nor does it say that a listed job is missing. -/
theorem ServiceError.NotMissing.present {e : ServiceError} (h : e.NotMissing) (y : Uuid) :
    e ≠ .missingJob y := by
  rintro rfl
  exact h

namespace Snapshot

variable (s : Snapshot)

/-- The store tells that a job is missing by the identifier that it was asked for. -/
def Honest : Prop := ∀ id x, s.job id = .error (.notFound x) → x = id

/-- The store has no job of an identifier. -/
def Lacks (id : Uuid) : Prop := s.job id = .error (.notFound id)

/-- A stored job waits for a job, or the job for it. -/
def Lists (y : Uuid) : Prop :=
  ∃ id r, s.job id = .ok r ∧ (y ∈ r.dependencies ∨ y ∈ r.dependents)

/-- A job that an operation may come to: a stored job or one that a stored job lists. -/
def Known (y : Uuid) : Prop := (∃ r, s.job y = .ok r) ∨ s.Lists y

/-- An error that is not about the job that the request names: if it is about a missing job, that
job is missing, and listed. -/
structure Inner (e : ServiceError) : Prop where
  found : ∀ x, e ≠ .composeNotFound x
  /-- What is said to be missing is. -/
  missing : ∀ y, e = .missingJob y → s.Lacks y ∧ s.Lists y

variable {s}

/-- An error that is not about a missing job is an inner one. -/
theorem Inner.of_notMissing {e : ServiceError} (h : e.NotMissing) : s.Inner e :=
  ⟨h.found, fun y same => absurd same (h.present y)⟩

/-- A store tells of missing jobs by the identifiers it was asked for if its entries do. -/
theorem Honest.of_entries
    (h : ∀ id x, (id, Except.error (.notFound x)) ∈ s.entries → x = id) : s.Honest := by
  intro id x failed
  unfold job at failed
  split at failed
  · next answer found =>
    subst failed
    obtain ⟨before, after, shape, -⟩ := List.lookup_eq_some_iff.1 found
    exact h id x (shape ▸ List.mem_append_right _ List.mem_cons_self)
  · cases failed
    rfl

/-- A known job that is missing is listed. -/
theorem Known.lists {y : Uuid} (h : s.Known y) (missing : s.Lacks y) : s.Lists y := by
  rcases h with ⟨r, found⟩ | listed
  · rw [Lacks, found] at missing
    cases missing
  · exact listed

/-- What a stored job waits for is known. -/
theorem known_of_dependency {id y : Uuid} {r : JobRecord} (h : s.job id = .ok r)
    (member : y ∈ r.dependencies) : s.Known y :=
  .inr ⟨id, r, h, .inl member⟩

/-- The jobs of a chain that is read off a stored job are known. -/
theorem known_chain {id finalize : Uuid} {r : JobRecord} {chain : KojiChain}
    (h : s.job id = .ok r) (chained : KojiChain.ofFinalize finalize r.dependencies = .ok chain) :
    s.Known chain.init ∧ ∀ b ∈ chain.builds, s.Known b := by
  have members := KojiChain.finalizeDependencies_of_ofFinalize chained
  refine List.forall_mem_cons.1 fun d member => known_of_dependency h ?_
  exact members ▸ member

/-- What a build of a compose in Koji waits for is known. -/
theorem known_of_kojiBuild {id : Uuid} {build : JobInfo BuildResult}
    (h : s.kojiBuild id = .ok build) : ∀ d ∈ build.dependencies, s.Known d := by
  obtain ⟨kind, -, h⟩ := Except.bind_ok h
  split at h
  · cases h
  · obtain ⟨r, found, -, _, rfl⟩ := jobInfo_ok h
    exact fun d member => known_of_dependency found member

/-- What the store says about a known job that it does not show is an inner error. -/
theorem inner_ofStore (honest : s.Honest) {y : Uuid} {e : StoreError} (known : s.Known y)
    (failed : s.job y = .error e) : s.Inner (.ofStore e) := by
  constructor
  · intro x h
    cases e <;> cases h
  · intro x h
    cases e with
    | notFound z =>
      cases h
      obtain rfl := honest _ _ failed
      exact ⟨failed, known.lists failed⟩
    | malformed | kindMismatch | database => cases h

end Snapshot

/-- The store in memory never answers that a job is missing but of itself. -/
theorem Store.honest_snapshot (s : Store) : s.snapshot.Honest := by
  refine .of_entries fun id x member => ?_
  obtain ⟨j, -, shape⟩ := List.mem_map.1 member
  cases shape

/-- Neither does a skewed store, as it hides jobs under their own identifiers. -/
theorem SkewedStore.honest_snapshot (s : SkewedStore) : s.snapshot.Honest := by
  refine .of_entries fun id x member => ?_
  obtain ⟨j, -, shape⟩ := List.mem_map.1 member
  obtain ⟨rfl, answered⟩ := Prod.mk.inj shape
  unfold Override.answer at answered
  split at answered
  · cases answered
    rfl
  · split at answered <;> cases answered

/-! ## Errors of what was read -/

/-- A part of a stored job that does not decode is there. -/
theorem notMissing_of_decodeStored [Wire α] {id : Uuid} {v : Json} {e : ServiceError}
    (h : (decodeStored id v : Except ServiceError α) = .error e) : e.NotMissing := by
  unfold decodeStored at h
  split at h <;> cases h
  exact trivial

/-- A record that is read as a job of another kind, or that cannot be read, is there. -/
theorem JobInfo.notMissing_of_ofRecord {ρ : Type} [ResultOf ρ] {id : Uuid} {r : JobRecord}
    {e : ServiceError} (h : (ofRecord id r : Except ServiceError (JobInfo ρ)) = .error e) :
    e.NotMissing := by
  by_cases kind : r.kind ≠ ResultOf.kind ρ
  · rw [ofRecord, if_pos kind] at h
    cases h
    exact trivial
  · rw [ofRecord, if_neg kind] at h
    cases stored : r.result with
    | none =>
      simp only [stored] at h
      cases h
    | some v =>
      simp only [stored] at h
      rcases Except.bind_error h with undecoded | ⟨_, _, h⟩
      · exact notMissing_of_decodeStored undecoded
      · cases h

/-- Upload statuses are computed of results that are there. -/
theorem notMissing_of_uploadStatuses {results : List TargetResult} {status : UploadStatusValue}
    {e : ServiceError} (h : uploadStatuses results status = .error e) : e.NotMissing := by
  obtain ⟨r, -, failed⟩ := Except.mapM_error h
  split at failed <;> cases failed
  exact trivial

/-- A job whose dependencies are no chain is there. -/
theorem KojiChain.notMissing_of_ofFinalize {id : Uuid} {dependencies : List Uuid}
    {e : ServiceError} (h : ofFinalize id dependencies = .error e) : e.NotMissing := by
  unfold ofFinalize at h
  split at h <;> cases h
  exact trivial

/-- The output that stages are missing from is there. -/
theorem notMissing_of_payloadStages {id : Uuid} {output : BuildOutput} {pipelines : List String}
    {e : ServiceError} (h : payloadStages id output pipelines = .error e) : e.NotMissing := by
  rcases Except.bind_error h with failed | ⟨_, -, h⟩
  · obtain ⟨pipeline, -, failed⟩ := Except.mapM_error failed
    obtain ⟨stage, -, failed⟩ := Except.mapM_error failed
    cases stage <;> cases failed
    exact trivial
  · cases h

/-- A job that is unsound itself is there. -/
theorem Snapshot.notMissing_of_ownError {id : Uuid} {r : JobRecord} {e : ServiceError}
    (h : ownError id r = .error e) : e.NotMissing := by
  unfold ownError at h
  split at h
  · cases h
  · split at h <;> cases h
    exact trivial

/-- A build that cannot be cloned is there. -/
theorem CloneSource.notMissing_of_ofBuild {build : JobInfo BuildResult} {e : ServiceError}
    (h : ofBuild build = .error e) : e.NotMissing := by
  by_cases unfit : (!build.status.isFinished || !build.result.success) = true
  · rw [ofBuild, if_pos unfit] at h
    cases h
    exact trivial
  rw [ofBuild, if_neg unfit] at h
  simp only at h
  split at h
  · next result _ =>
    split at h
    · cases h
      exact trivial
    · cases h
      exact trivial
    rcases Except.bind_error h with failed | ⟨upload, -, h⟩
    · cases told : UploadStatus.ofResult result <;> rw [told] at failed <;> cases failed
      exact trivial
    rcases Except.bind_error h with failed | ⟨args, -, h⟩
    · exact notMissing_of_decodeStored failed
    split at h
    · split at h <;> cases h <;> exact trivial
    · cases h
      exact trivial
  · cases h
    exact trivial

end ImageCompose
