import ImageCompose.Proofs.Service.Reads
import ImageCompose.Proofs.Store.Jobs

/-!
# What the store in memory shows of a job

Whatever an operation has read from the store in memory, there is a stored job that it was read
from (`Store.jobInfo_ok`), and a stored job is read if its result can be (`Store.jobInfo_of_find?`).
-/

namespace ImageCompose

namespace Store

variable {s : Store} {id : Uuid}

/-- A kind that is told is that of a stored job. -/
theorem referredKind_ok {k : JobKind} (h : s.snapshot.referredKind id = .ok k) :
    ∃ j, s.find? id = some j ∧ j.kind = k := by
  obtain ⟨r, shown, rfl⟩ := Snapshot.referredKind_ok h
  obtain ⟨j, found, rfl⟩ := find?_of_snapshot_job shown
  exact ⟨j, found, rfl⟩

/-- A job that was read is a stored job with its result decoded. -/
theorem jobInfo_ok {ρ : Type} [ResultOf ρ] {job : JobInfo ρ} (h : s.snapshot.jobInfo id = .ok job) :
    ∃ j, s.find? id = some j ∧ j.kind = ResultOf.kind ρ ∧ ∃ result,
      ResultOf.Reads j.result result ∧ job = ⟨id, j.channel, j.status, j.dependencies,
        s.dependents id, result, j.args, j.result⟩ := by
  obtain ⟨r, shown, kind, result, rfl⟩ := Snapshot.jobInfo_ok h
  rw [Snapshot.jobInfo_of_job shown] at h
  have read := JobInfo.reads_of_ofRecord h
  obtain ⟨j, found, rfl⟩ := find?_of_snapshot_job shown
  obtain ⟨-, rfl⟩ := find?_some found
  exact ⟨j, found, kind, result, read, rfl⟩

/-- A stored job of the kind is read if its result is. -/
theorem jobInfo_of_find? {ρ : Type} [ResultOf ρ] {j : StoredJob} {result : ρ}
    (found : s.find? id = some j) (kind : j.kind = ResultOf.kind ρ)
    (reads : ResultOf.Reads j.result result) :
    s.snapshot.jobInfo id = .ok (⟨id, j.channel, j.status, j.dependencies, s.dependents id, result,
      j.args, j.result⟩ : JobInfo ρ) := by
  obtain ⟨-, rfl⟩ := find?_some found
  rw [Snapshot.jobInfo_of_job (snapshot_job_of_find? found)]
  exact JobInfo.ofRecord_of_reads j.id (r := s.record j) kind reads

end Store

end ImageCompose
