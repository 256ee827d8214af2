import ImageCompose.Proofs.Job.Arguments
import ImageCompose.Proofs.Store.Progress
import ImageCompose.Proofs.Store.Shown
import ImageCompose.Service.Clone

/-!
# Builds that are cloned and their copies

What a clone relies on, said of stored jobs: the build delivered one EC2 image
(`StoredJob.Delivers`), a job copies it into a region (`StoredJob.CopiesInto`), and the copy failed
(`StoredJob.CopyFailed`). All of this stays so when jobs move forward, so that a clone may rely on
it long after it was read.
-/

namespace ImageCompose

/-- A delivery failed if its job ended in an error or was canceled. -/
theorem deliveryStatus_eq_failure {status : JobStatus} {error : Option JobError} :
    deliveryStatus status error = .failure ↔ error.isSome = true ∨ status.canceled = true := by
  unfold deliveryStatus
  split
  · next failed => simpa using failed
  · next fine =>
    have fine : ¬(error.isSome = true ∨ status.canceled = true) := by simpa using fine
    refine ⟨fun told => ?_, fun failed => absurd failed fine⟩
    split at told
    · cases told
    · split at told <;> cases told

/-! ## Accounts -/

/-- Accounts that are added one by one, each if it is not there yet, are put after those that were
there without repeats. -/
theorem foldl_accounts (added accounts : List String) :
    added.foldl (fun accounts account =>
      if account ∈ accounts then accounts else accounts ++ [account]) accounts =
      accounts ++ (added.removeAll accounts).eraseDups := by
  induction added generalizing accounts with
  | nil => simp [List.removeAll]
  | cons account rest ih =>
    rw [List.foldl_cons, ih]
    by_cases known : account ∈ accounts
    · simp [List.removeAll, known]
    · have later : rest.removeAll (accounts ++ [account]) =
          (rest.removeAll accounts).filter fun other => !other == account := by
        simp only [List.removeAll, List.filter_filter]
        refine List.filter_congr fun other _ => ?_
        by_cases same : other = account <;> simp [same]
      have first : (account :: rest).removeAll accounts = account :: rest.removeAll accounts := by
        simp [List.removeAll, known]
      rw [if_neg known, later, first, List.eraseDups_cons, List.append_assoc]
      rfl

/-- The accounts to share with are the declared and the requested ones without repeats. -/
theorem shareAccounts_eq (declared requested : List String) :
    shareAccounts declared requested = (declared ++ requested).eraseDups := by
  rw [shareAccounts, foldl_accounts]
  simp [List.removeAll]

/-- The accounts to share with start with the declared ones. -/
theorem prefix_shareAccounts (declared requested : List String) :
    declared.eraseDups <+: shareAccounts declared requested := by
  rw [shareAccounts_eq, List.eraseDups_append]
  exact List.prefix_append _ _

/-- An image is shared with no account twice. -/
theorem nodup_shareAccounts (declared requested : List String) :
    (shareAccounts declared requested).Nodup := by
  unfold shareAccounts
  refine List.foldlRecOn (motive := List.Nodup) _ _ List.nodup_nil ?_
  intro accounts nodup account _
  split
  · exact nodup
  · next other =>
    rw [List.nodup_append]
    refine ⟨nodup, by simp, fun x hx y hy e => other ?_⟩
    obtain rfl := List.mem_singleton.1 hy
    exact e ▸ hx

namespace StoredJob

variable {j j' : StoredJob}

/-! ## Builds -/

/-- A build finished well, reported one EC2 image and nothing else, and was to deliver that and
nothing else. -/
structure Delivers (j : StoredJob) (source : CloneSource) : Prop where
  kind : j.kind = .osbuild
  finished : j.status.isFinished
  /-- The only target result is the image. -/
  result : ∃ v, j.result = some v ∧ ∃ r : BuildResult, decode? v = some r ∧ r.success = true ∧
    r.targetResults = [.aws source.ami source.region]
  /-- The only target declares the accounts. -/
  declared : ∃ a : BuildArgs, decode? j.args = some a ∧ ∃ target region key snapshot,
    a.targets = [target] ∧ target.options = .aws region key source.declaredAccounts snapshot

namespace Delivers

variable {source : CloneSource}

/-- A build that has delivered its image goes on to have delivered it, whatever is done on it. -/
theorem becomes (h : j.Delivers source) (later : j.Becomes j') : j'.Delivers source where
  kind := later.kind.trans h.kind
  finished := later.finished h.finished
  result := by
    obtain ⟨v, stored, r, read⟩ := h.result
    exact ⟨v, later.result v stored, r, read⟩
  declared := by
    rw [later.args]
    exact h.declared

/-- A build delivers one image. -/
theorem unique {source' : CloneSource} (h : j.Delivers source) (h' : j.Delivers source') :
    source = source' := by
  obtain ⟨v, stored, r, decoded, -, results⟩ := h.result
  obtain ⟨v', stored', r', decoded', -, results'⟩ := h'.result
  obtain rfl := Option.some.inj (stored.symm.trans stored')
  obtain rfl := Option.some.inj (decoded.symm.trans decoded')
  obtain ⟨a, read, target, _, _, _, targets, options⟩ := h.declared
  obtain ⟨a', read', target', _, _, _, targets', options'⟩ := h'.declared
  obtain rfl := Option.some.inj (read.symm.trans read')
  cases targets.symm.trans targets'
  obtain ⟨ami, region, accounts⟩ := source
  obtain ⟨ami', region', accounts'⟩ := source'
  cases results.symm.trans results'
  cases options.symm.trans options'
  rfl

end Delivers

/-- The image of a build is only settled on if the build delivers it. -/
theorem delivers_of_ofBuild {id : Uuid} {waiting : List Uuid} {result : BuildResult}
    {source : CloneSource} (kind : j.kind = .osbuild) (read : ResultOf.Reads j.result result)
    (h : CloneSource.ofBuild ⟨id, j.channel, j.status, j.dependencies, waiting, result, j.args,
      j.result⟩ = .ok source) : j.Delivers source := by
  obtain ⟨success, output, results, error⟩ := result
  unfold CloneSource.ofBuild at h
  simp only at h
  split at h
  · cases h
  next fine =>
  obtain ⟨finished, rfl⟩ : j.status.isFinished = true ∧ success = true := by simpa using fine
  -- An empty result is none of success, so there is a result.
  obtain ⟨v, stored, decoded⟩ := read.resolve_left fun none_stored => by cases none_stored.2
  cases results with
  | nil => cases h
  | cons result rest =>
  cases rest with
  | cons => cases h
  | nil =>
  cases result with
  | workerServer | koji | unknown => cases h
  | aws ami region =>
    obtain ⟨upload, told, h⟩ := Except.bind_ok h
    cases told
    obtain ⟨args, args_read, h⟩ := Except.bind_ok h
    split at h
    · next target targets =>
      simp only at h
      split at h
      · next told options =>
        cases told
        cases h
        exact ⟨kind, finished, ⟨v, stored, _, decoded, rfl, rfl⟩,
          ⟨args, JobInfo.args_ok args_read, target, _, _, _, targets, options⟩⟩
      · cases h
      · cases h
    · cases h
  | _ =>
    obtain ⟨upload, told, h⟩ := Except.bind_ok h
    cases told
    obtain ⟨args, -, h⟩ := Except.bind_ok h
    split at h
    · simp only at h
      cases h
    · cases h

/-! ## Copies -/

/-- A job copies the image of a build into a region. -/
def CopiesInto (j : StoredJob) (build : Uuid) (region : String) : Prop :=
  j.kind = .awsEc2Copy ∧ build ∈ j.dependencies ∧
    ∃ a : CopyArgs, decode? j.args = some a ∧ a.targetRegion = region

/-- A copy was canceled or ended in an error. -/
def CopyFailed (j : StoredJob) : Prop :=
  j.status.canceled = true ∨
    ∃ v, j.result = some v ∧ ∃ r : CopyResult, decode? v = some r ∧ r.jobError.isSome = true

/-- A copy stays one, and no other job becomes one. -/
theorem Becomes.copiesInto_iff (later : j.Becomes j') {build : Uuid} {region : String} :
    j'.CopiesInto build region ↔ j.CopiesInto build region := by
  rw [CopiesInto, later.kind, later.dependencies, later.args, CopiesInto]

/-- A failure is final. -/
theorem CopyFailed.becomes (h : j.CopyFailed) (later : j.Becomes j') : j'.CopyFailed := by
  rcases h with canceled | ⟨v, stored, failed⟩
  · exact .inl (later.canceled canceled)
  · exact .inr ⟨v, later.result v stored, failed⟩

/-- A job is a copy of the image of a build into a region and has not failed. -/
def LiveCopy (j : StoredJob) (build : Uuid) (region : String) : Prop :=
  j.CopiesInto build region ∧ ¬j.CopyFailed

/-- A live copy was one all along. -/
theorem LiveCopy.before {build : Uuid} {region : String} (later : j.Becomes j')
    (h : j'.LiveCopy build region) : j.LiveCopy build region :=
  ⟨later.copiesInto_iff.1 h.1, fun failed => h.2 (failed.becomes later)⟩

/-- What is told of a copy tells whether it failed. -/
theorem copyFailed_iff {result : CopyResult} (read : ResultOf.Reads j.result result) :
    j.CopyFailed ↔ deliveryStatus j.status result.jobError = .failure := by
  rw [deliveryStatus_eq_failure, CopyFailed, or_comm]
  refine or_congr_left ⟨?_, fun failed => ?_⟩
  · rintro ⟨v, stored, r, decoded, failed⟩
    rcases read with ⟨none_stored, -⟩ | ⟨w, stored', decoded'⟩
    · rw [none_stored] at stored
      cases stored
    · obtain rfl := Option.some.inj (stored.symm.trans stored')
      obtain rfl := Option.some.inj (decoded.symm.trans decoded')
      exact failed
  · rcases read with ⟨-, rfl⟩ | ⟨v, stored, decoded⟩
    · cases failed
    · exact ⟨v, stored, result, decoded, failed⟩

end StoredJob

end ImageCompose
