import ImageCompose.Proofs.Except
import ImageCompose.Proofs.Job.Results
import ImageCompose.Service.JobInfo

/-!
# Reading one job

Every operation that is asked about a job first asks the store for the kind of the job and then for
the job itself, and decodes its result. What comes of that is decided by the record of the job: the
kind is that of the record (`Snapshot.composeKind_of_job`), and the job is read if it is of the kind
that is read and its result, if any, decodes (`JobRecord.Readable`).
-/

namespace ImageCompose

/-- The result of a job, if it has one, decodes as the result of its kind. -/
def JobRecord.Readable (r : JobRecord) : Prop := ∀ v, r.result = some v → r.kind.ReadsResult v

/-- A result is what is read from a stored one, or the empty one if none is stored. -/
def ResultOf.Reads {ρ : Type} [ResultOf ρ] (stored : Option Json) (result : ρ) : Prop :=
  stored = none ∧ result = ResultOf.empty ∨ ∃ v, stored = some v ∧ decode? v = some result

namespace JobInfo

/-- A job on a tenant channel is shown to the requests of that channel and to those without one. -/
theorem ensureChannel_ok {ρ : Type} {job : JobInfo ρ} {channel : String}
    (scope : channel = "" ∨ channel = job.channel) : job.ensureChannel channel = .ok () := by
  rw [JobInfo.ensureChannel, if_neg]
  rintro ⟨given, other⟩
  rcases scope with rfl | rfl
  · exact given rfl
  · exact other rfl

/-- The arguments of a job are read from the stored ones. -/
theorem args_ok {ρ α : Type} [Wire α] {job : JobInfo ρ} {a : α} (h : job.args = .ok a) :
    decode? job.rawArgs = some a := by
  unfold args decodeStored at h
  split at h <;> cases h
  assumption

/-- The arguments of a job are read if they decode. -/
theorem args_of_decode? {ρ α : Type} [Wire α] {job : JobInfo ρ} {a : α}
    (decoded : decode? job.rawArgs = some a) : job.args = .ok a := by
  rw [args, decodeStored, decoded]

variable {ρ : Type} [ResultOf ρ]

/-- A job that is read shows its record and a result. -/
theorem ofRecord_ok {id : Uuid} {r : JobRecord} {job : JobInfo ρ} (h : ofRecord id r = .ok job) :
    r.kind = ResultOf.kind ρ ∧ ∃ result, job =
      ⟨id, r.channel, r.status, r.dependencies, r.dependents, result, r.args, r.result⟩ := by
  by_cases kind : r.kind ≠ ResultOf.kind ρ
  · rw [ofRecord, if_pos kind] at h
    cases h
  · rw [ofRecord, if_neg kind] at h
    refine ⟨Decidable.not_not.1 kind, ?_⟩
    cases hr : r.result with
    | none =>
      simp only [hr] at h
      cases h
      exact ⟨_, rfl⟩
    | some v =>
      simp only [hr] at h
      obtain ⟨result, -, h⟩ := Except.bind_ok h
      cases h
      exact ⟨result, rfl⟩

/-- The result of a job that is read is read from that of its record. -/
theorem reads_of_ofRecord {id : Uuid} {r : JobRecord} {job : JobInfo ρ}
    (h : ofRecord id r = .ok job) : ResultOf.Reads r.result job.result := by
  by_cases kind : r.kind ≠ ResultOf.kind ρ
  · rw [ofRecord, if_pos kind] at h
    cases h
  rw [ofRecord, if_neg kind] at h
  cases stored : r.result with
  | none =>
    simp only [stored] at h
    cases h
    exact .inl ⟨rfl, rfl⟩
  | some v =>
    simp only [stored] at h
    obtain ⟨result, decoded, h⟩ := Except.bind_ok h
    cases h
    unfold decodeStored at decoded
    split at decoded <;> cases decoded
    next read => exact .inr ⟨v, rfl, read⟩

/-- A job of the right kind is read with what is read from its result. -/
theorem ofRecord_of_reads (id : Uuid) {r : JobRecord} {result : ρ}
    (kind : r.kind = ResultOf.kind ρ) (reads : ResultOf.Reads r.result result) : ofRecord id r =
      .ok ⟨id, r.channel, r.status, r.dependencies, r.dependents, result, r.args, r.result⟩ := by
  rw [ofRecord, if_neg (not_not_intro kind)]
  rcases reads with ⟨none_stored, rfl⟩ | ⟨v, stored, decoded⟩
  · rw [none_stored]
    rfl
  · rw [stored]
    simp only [decodeStored, decoded]
    rfl

/-- A job of the right kind is read if its result decodes. -/
theorem ofRecord_of_readable [LawfulResult ρ] (id : Uuid) {r : JobRecord}
    (kind : r.kind = ResultOf.kind ρ) (readable : r.Readable) :
    ∃ result : ρ,
      (r.result = none ∧ result = ResultOf.empty ∨
        ∃ v, r.result = some v ∧ decode? v = some result) ∧
      ofRecord id r = .ok
        ⟨id, r.channel, r.status, r.dependencies, r.dependents, result, r.args, r.result⟩ := by
  obtain ⟨result, reads⟩ : ∃ result : ρ, ResultOf.Reads r.result result := by
    cases hr : r.result with
    | none => exact ⟨ResultOf.empty, .inl ⟨rfl, rfl⟩⟩
    | some v =>
      obtain ⟨result, decoded⟩ := (LawfulResult.readsResult v).1 (kind ▸ readable v hr)
      exact ⟨result, .inr ⟨v, rfl, decoded⟩⟩
  exact ⟨result, reads, ofRecord_of_reads id kind reads⟩

/-- A job of the right kind is not read if its result does not decode. -/
theorem ofRecord_of_not_readable [LawfulResult ρ] {id : Uuid} {r : JobRecord}
    (kind : r.kind = ResultOf.kind ρ) (unreadable : ¬r.Readable) :
    (ofRecord id r : Except ServiceError (JobInfo ρ)) =
      .error (.malformedJob id .undecodable) := by
  rw [ofRecord, if_neg (not_not_intro kind)]
  cases hr : r.result with
  | none => exact absurd (fun v h => by simp [hr] at h) unreadable
  | some v =>
    have undecoded : (decode? v : Option ρ) = none := by
      refine Option.eq_none_iff_forall_ne_some.2 fun result decoded => unreadable fun w hw => ?_
      obtain rfl := Option.some.inj (hr.symm.trans hw)
      rw [kind]
      exact (LawfulResult.readsResult _).2 ⟨result, decoded⟩
    simp only [decodeStored, undecoded]
    rfl

/-- A job is not read because it is of another kind or its result does not decode. -/
theorem ofRecord_error {id : Uuid} {r : JobRecord} {e : ServiceError}
    (h : (ofRecord id r : Except ServiceError (JobInfo ρ)) = .error e) :
    ∃ defect, e = .malformedJob id defect := by
  by_cases kind : r.kind ≠ ResultOf.kind ρ
  · rw [ofRecord, if_pos kind] at h
    cases h
    exact ⟨_, rfl⟩
  rw [ofRecord, if_neg kind] at h
  cases stored : r.result with
  | none =>
    simp only [stored] at h
    cases h
  | some v =>
    simp only [stored] at h
    rcases Except.bind_error h with failed | ⟨result, -, h⟩
    · unfold decodeStored at failed
      split at failed <;> cases failed
      exact ⟨_, rfl⟩
    · cases h

end JobInfo

namespace Snapshot

variable {s : Snapshot} {id : Uuid} {r : JobRecord}

/-- A job that a request names has the kind of its record. -/
theorem composeKind_of_job (h : s.job id = .ok r) : s.composeKind id = .ok r.kind := by
  rw [composeKind, jobKind, h]
  rfl

/-- A job that a request names is not found if it is not there. -/
theorem composeKind_of_missing {other : Uuid} (h : s.job id = .error (.notFound other)) :
    s.composeKind id = .error (.composeNotFound id) := by
  rw [composeKind, jobKind, h]
  rfl

/-- So has a job that a stored job lists. -/
theorem referredKind_of_job (h : s.job id = .ok r) : s.referredKind id = .ok r.kind := by
  rw [referredKind, jobKind, h]
  rfl

/-- A kind that is told is that of a stored job. -/
theorem referredKind_ok {k : JobKind} (h : s.referredKind id = .ok k) :
    ∃ r, s.job id = .ok r ∧ r.kind = k := by
  cases hj : s.job id with
  | ok r =>
    rw [referredKind_of_job hj] at h
    cases h
    exact ⟨r, rfl, rfl⟩
  | error e =>
    rw [referredKind, jobKind, hj] at h
    cases h

/-- A stored job is read off its record. -/
theorem jobInfo_of_job {ρ : Type} [ResultOf ρ] (h : s.job id = .ok r) :
    (s.jobInfo id : Except ServiceError (JobInfo ρ)) = JobInfo.ofRecord id r := by
  rw [jobInfo, h]
  rfl

/-- A job is read from its record. -/
theorem jobInfo_ok {ρ : Type} [ResultOf ρ] {job : JobInfo ρ} (h : s.jobInfo id = .ok job) :
    ∃ r, s.job id = .ok r ∧ r.kind = ResultOf.kind ρ ∧ ∃ result, job =
      ⟨id, r.channel, r.status, r.dependencies, r.dependents, result, r.args, r.result⟩ := by
  cases hj : s.job id with
  | ok r =>
    rw [jobInfo_of_job hj] at h
    exact ⟨r, rfl, JobInfo.ofRecord_ok h⟩
  | error e =>
    rw [jobInfo, hj] at h
    cases h

/-- A job is only read as one of its own kind. -/
theorem kind_unique {ρ ρ' : Type} [ResultOf ρ] [ResultOf ρ'] {job : JobInfo ρ} {job' : JobInfo ρ'}
    (read : s.jobInfo id = .ok job) (read' : s.jobInfo id = .ok job') :
    ResultOf.kind ρ = ResultOf.kind ρ' := by
  obtain ⟨r, found, kind, -⟩ := jobInfo_ok read
  obtain ⟨r', found', kind', -⟩ := jobInfo_ok read'
  cases found.symm.trans found'
  exact kind.symm.trans kind'

/-- Jobs of different kinds are read under different identifiers. -/
theorem id_ne_of_kind_ne {ρ ρ' : Type} [ResultOf ρ] [ResultOf ρ'] {job : JobInfo ρ}
    {job' : JobInfo ρ'} (other : ResultOf.kind ρ ≠ ResultOf.kind ρ')
    (read : s.jobInfo job.id = .ok job) (read' : s.jobInfo job'.id = .ok job') :
    job.id ≠ job'.id :=
  fun same => other (kind_unique (same ▸ read) read')

/-- A job is not read if the store does not answer or it is malformed. -/
theorem jobInfo_error {ρ : Type} [ResultOf ρ] {e : ServiceError}
    (h : (s.jobInfo id : Except ServiceError (JobInfo ρ)) = .error e) :
    (∃ cause, e = .ofStore cause) ∨ ∃ defect, e = .malformedJob id defect := by
  cases hj : s.job id with
  | ok r =>
    rw [jobInfo_of_job hj] at h
    exact .inr (JobInfo.ofRecord_error h)
  | error cause =>
    rw [jobInfo, hj] at h
    cases h
    exact .inl ⟨cause, rfl⟩

end Snapshot

end ImageCompose
