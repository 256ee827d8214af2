import ImageCompose.Proofs.Service.BreadthFirst
import ImageCompose.Proofs.Service.Reads

/-!
# Two readers of one result

The result of a job is read twice. The rules by which a status is told go by the whole result, read
as the type that belongs to the kind of the job. The search for the error behind a job reads the
error alone, whatever the kind, and passes over everything else. `ReadersAgree` says that the two
find the same error, with its number, its reason and its details, wherever the first finds a result
in an object. So no status is told by one error and explained by another. All six types of results
have this (`results_read_alike`).

In an array, a result is read by the order of its parts, and there the two differ.
-/

namespace ImageCompose

/-- The result of a job, if one is stored, is an object. -/
def JobInfo.HoldsObject (job : JobInfo ρ) : Prop :=
  ∀ v, job.rawResult = some v → ∃ ms, v = .obj ms

/-- Results of a type are read with the same error by the rules for a status and by the search for
an error. -/
structure ReadersAgree (ρ : Type) [ResultOf ρ] : Prop where
  /-- An object that is a result of the type has an error to be read, and it is that of the
  result. -/
  decoded : ∀ (ms : List (String × Json)) (result : ρ), decode? (.obj ms) = some result →
    ∃ any, AnyResult.decoder.ofJson? (.obj ms) = some any ∧
      any.jobError = ResultOf.jobError result
  /-- A search that comes to a job sees the error in it that the rules for a status see. -/
  seen : ∀ (s : Snapshot) (id : Uuid) (job : JobInfo ρ), s.jobInfo id = .ok job →
    job.HoldsObject → s.consult Snapshot.ownError id = .ok (ResultOf.jobError job.result)
  /-- A search that starts at a job with an error tells that error. -/
  told : ∀ (s : Snapshot) (id : Uuid) (job : JobInfo ρ) (error : JobError),
    s.jobInfo id = .ok job → job.HoldsObject → ResultOf.jobError job.result = some error →
    s.chainError id = .ok (some error)

section
variable {ρ : Type} [ResultOf ρ] [LawfulResult ρ]

/-- A job that was read has the error, read for itself, that its result has. -/
theorem Snapshot.ownError_of_jobInfo {s : Snapshot} {id : Uuid} {job : JobInfo ρ}
    (read : s.jobInfo id = .ok job) (object : job.HoldsObject) :
    ∃ r, s.job id = .ok r ∧ r.dependencies = job.dependencies ∧
      ownError id r = .ok (ResultOf.jobError job.result) := by
  obtain ⟨r, found, -, result, rfl⟩ := jobInfo_ok read
  rw [jobInfo_of_job found] at read
  refine ⟨r, found, rfl, ?_⟩
  rcases JobInfo.reads_of_ofRecord read with ⟨none_stored, rfl⟩ | ⟨v, stored, decoded⟩
  · simp only [ownError, none_stored, LawfulResult.jobError_empty]
  · obtain ⟨ms, rfl⟩ := object v stored
    simp only [ownError, stored, LawfulResult.jobError ms result decoded]

/-- The readers agree on the results of every lawful type. -/
theorem ReadersAgree.of_lawful : ReadersAgree ρ where
  decoded ms result read := ⟨_, LawfulResult.jobError ms result read, rfl⟩
  seen s id job read object := by
    obtain ⟨r, found, -, own⟩ := Snapshot.ownError_of_jobInfo read object
    exact (Snapshot.consult_of_job found).trans own
  told s id job error read object failed := by
    obtain ⟨r, found, -, own⟩ := Snapshot.ownError_of_jobInfo read object
    rw [Snapshot.chainError, Snapshot.search_cons found]
    simp only [own, failed]

end

/-- The results of every kind of job are read with the same error by both readers. -/
theorem results_read_alike :
    ReadersAgree BuildResult ∧ ReadersAgree ManifestResult ∧ ReadersAgree KojiInitResult ∧
      ReadersAgree KojiFinalizeResult ∧ ReadersAgree CopyResult ∧ ReadersAgree ShareResult :=
  ⟨.of_lawful, .of_lawful, .of_lawful, .of_lawful, .of_lawful, .of_lawful⟩

/-- An array with the parts of the result of a build ends in its error, but it is no array from
which the error alone is read. -/
example :
    let v : Json := .arr [.bool false, .null, .arr [], .obj [("id", .nat 10), ("reason", .str "r")]]
    ((decode? v : Option BuildResult).bind (·.jobError)).map (·.reason) = some "r" ∧
      (AnyResult.decoder.ofJson? v).isNone := by
  decide +kernel

end ImageCompose
