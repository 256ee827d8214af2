import ImageCompose.Proofs.Graph.Store
import ImageCompose.Proofs.Service.Reads
import ImageCompose.Proofs.Store.Reachable
import ImageCompose.Service.Search

/-!
# Stores whose results decode

`StoredJob.ReportsResult` is what a worker is expected to report: an object that decodes as the
result of the kind of its job. If workers report nothing else, every result that is ever stored is
of this form (`Store.Reachable.reported`), and every stored job can be read
(`Store.Reported.jobInfo`).
-/

namespace ImageCompose

/-- A report on a job is an object that decodes as the result of its kind. -/
def StoredJob.ReportsResult (j : StoredJob) (v : Json) : Prop :=
  (∃ ms, v = .obj ms) ∧ j.kind.ReadsResult v

namespace Store

variable {s : Store}

/-- Every result of a store is such a report. -/
def Reported (s : Store) : Prop := ∀ j ∈ s.jobs, ∀ v, j.result = some v → j.ReportsResult v

/-- If workers report results, every result of a reachable store is one. -/
theorem Reachable.reported (h : Reachable StoredJob.ReportsResult s) : s.Reported :=
  show s.Results fun kind v => (∃ ms, v = .obj ms) ∧ kind.ReadsResult v from
    Moves.results (Steps.moves h)

/-- The record of a stored job can be read. -/
theorem Reported.readable (rep : s.Reported) {j : StoredJob} (hj : j ∈ s.jobs) :
    (s.record j).Readable :=
  fun v hv => (rep j hj v hv).2

/-- The error of a stored job can be read. -/
theorem Reported.ownError (rep : s.Reported) {j : StoredJob} (hj : j ∈ s.jobs) (id : Uuid) :
    ∃ e, Snapshot.ownError id (s.record j) = .ok e := by
  unfold Snapshot.ownError
  split
  · exact ⟨none, rfl⟩
  · next v hv =>
    obtain ⟨⟨ms, rfl⟩, reads⟩ := rep j hj v hv
    obtain ⟨r, hr⟩ := reads.anyResult
    rw [hr]
    exact ⟨r.jobError, rfl⟩

/-- A stored job whose results decode can be read as what it is. -/
theorem Reported.jobInfo {ρ : Type} [ResultOf ρ] [LawfulResult ρ] (rep : s.Reported) {id : Uuid}
    {n : JobNode Uuid} (place : s.look id = some n) (kind : n.args.kind = ResultOf.kind ρ) :
    ∃ (j : StoredJob) (job : JobInfo ρ), s.snapshot.jobInfo id = .ok job ∧
      j ∈ s.jobs ∧ j.kind = ResultOf.kind ρ ∧
      job.id = id ∧ job.channel = n.channel ∧ job.dependencies = n.dependencies ∧
      JobArgs.read? job.rawArgs n.args.kind = some n.args ∧
      (job.result = ResultOf.empty ∨
        ∃ ms, j.result = some (.obj ms) ∧ decode? (.obj ms) = some job.result) := by
  obtain ⟨j, found, hn⟩ := look_some place
  obtain ⟨member, -⟩ := find?_some found
  obtain ⟨args, same_kind, channel, waits⟩ := StoredJob.of_node? hn
  have record_kind : (s.record j).kind = ResultOf.kind ρ := same_kind.symm.trans kind
  obtain ⟨result, origin, read⟩ := JobInfo.ofRecord_of_readable id record_kind
    (rep.readable member)
  refine ⟨j, _, (Snapshot.jobInfo_of_job (snapshot_job_of_find? found)).trans read, member,
    record_kind, rfl, channel.symm, waits.symm, same_kind ▸ args, ?_⟩
  rcases origin with ⟨-, e⟩ | ⟨v, hv, decoded⟩
  · exact .inl e
  · obtain ⟨⟨ms, rfl⟩, -⟩ := rep j member v hv
    exact .inr ⟨ms, hv, decoded⟩

end Store

end ImageCompose
