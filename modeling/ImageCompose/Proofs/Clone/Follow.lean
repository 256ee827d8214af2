import ImageCompose.Proofs.Clone.Call
import ImageCompose.Proofs.Graph.Reachable
import ImageCompose.Proofs.Store.Reported

/-!
# How a clone is followed

A clone ends with the job that it is to be followed by. If the request submitted that job, it is on
the channel of the request, and its status is told there (`Store.clone_followed`). But a copy that
was there already is used whichever channel it is on, and is hidden from the requests of another
one: whoever asked for such a clone is told that it does not exist (`Store.clone_unfollowed`).
-/

namespace ImageCompose

/-- What is told of a copy or a share: how far it has come, by its status and its error, and the
image it reported. -/
inductive StoredJob.Tells (j : StoredJob) : UploadStatus → Prop
  | copy {result : CopyResult} (kind : j.kind = .awsEc2Copy)
      (reads : ResultOf.Reads j.result result) :
      Tells j ⟨some (deliveryStatus j.status result.jobError), .aws result.ami result.region⟩
  | share {result : ShareResult} (kind : j.kind = .awsEc2Share)
      (reads : ResultOf.Reads j.result result) :
      Tells j ⟨some (deliveryStatus j.status result.jobError), .aws result.ami result.region⟩

namespace Store

variable {s s' : Store} {reports : StoredJob → Json → Prop}

/-- What a request on a channel is told of a job that it follows, if it is told an upload. -/
def followed (id : Uuid) (j : StoredJob) (upload : UploadStatus) (channel : String) :
    Except ServiceError CloneStatus :=
  if channel ≠ "" ∧ j.channel ≠ channel then .error (.composeNotFound id)
  else .ok ⟨.at_ s!"/clones/{id}" id "CloneComposeStatus", upload⟩

/-- The status of a copy or a share is told to its own channel and to requests without one. -/
theorem cloneStatus_of_tells {id : Uuid} {j : StoredJob} {upload : UploadStatus}
    (found : s.find? id = some j) (tells : j.Tells upload) (channel : String) :
    s.snapshot.cloneStatus id channel = followed id j upload channel := by
  have asked := Snapshot.composeKind_of_job (snapshot_job_of_find? found)
  have guarded : ∀ {ρ : Type} {job : JobInfo ρ} {told : CloneStatus}, job.id = id →
      job.channel = j.channel → told = ⟨.at_ s!"/clones/{id}" id "CloneComposeStatus", upload⟩ →
      (do job.ensureChannel channel; return told) = followed id j upload channel := by
    rintro ρ job told rfl same rfl
    rw [JobInfo.ensureChannel, followed, same]
    split <;> rfl
  cases tells with
  | copy kind reads =>
    replace asked : s.snapshot.composeKind id = .ok .awsEc2Copy := asked.trans (congrArg _ kind)
    have read := jobInfo_of_find? (ρ := CopyResult) found kind reads
    simp only [Snapshot.cloneStatus, asked, read]
    exact guarded rfl rfl rfl
  | share kind reads =>
    replace asked : s.snapshot.composeKind id = .ok .awsEc2Share := asked.trans (congrArg _ kind)
    have read := jobInfo_of_find? (ρ := ShareResult) found kind reads
    simp only [Snapshot.cloneStatus, asked, read]
    exact guarded rfl rfl rfl

/-- The job that a clone is followed by is one on the channel of the request, or a copy that was
there on any channel. Right afterwards, its status is told to whoever requested the clone, unless
they are on a channel and the job is on another one. -/
theorem clone_followed {build : Uuid} {request : CloneRequest} {fresh : Fresh} {channel : String}
    {answer : CloneId} (h : Reachable reports s)
    (run : (cloneCompose build request fresh channel).Runs s (.ok answer) s')
    (other : answer.reference.id ≠ build) :
    ∃ j ∈ s'.jobs, j.id = answer.reference.id ∧
      (j.channel = channel ∨ j ∈ s.jobs ∧ j.kind = .awsEc2Copy) ∧
      ∃ upload, j.Tells upload ∧ s'.snapshot.cloneStatus answer.reference.id channel =
        if channel ≠ "" ∧ j.channel ≠ channel then .error (.composeNotFound answer.reference.id)
        else .ok ⟨.at_ s!"/clones/{answer.reference.id}" answer.reference.id "CloneComposeStatus",
          upload⟩ := by
  let c : CloneCall := ⟨build, request, fresh, channel⟩
  have ends := (c.action_safe .idle h.graph.nodup).ends run
  generalize answer.reference.id = last at other ends ⊢
  obtain ⟨j, found, origin, upload, tells⟩ : ∃ j, s'.find? last = some j ∧
      (j.channel = channel ∨ j ∈ s.jobs ∧ j.kind = .awsEc2Copy) ∧ ∃ upload, j.Tells upload := by
    cases ends with
    | image _ image =>
      cases image with
      | stays => exact absurd rfl other
      | found _ same found reusable =>
        cases same
        obtain ⟨result, reads, -⟩ := reusable.fine
        exact ⟨_, found, .inr ⟨(find?_some found).1, reusable.copies.1⟩, _,
          .copy reusable.copies.1 reads⟩
      | made may fresh added =>
        exact ⟨_, find?_enqueue_self fresh added, .inl rfl, _, .copy rfl (.inl ⟨rfl, rfl⟩)⟩
    | share may fresh added =>
      exact ⟨_, find?_enqueue_self fresh added, .inl rfl, _, .share rfl (.inl ⟨rfl, rfl⟩)⟩
  obtain ⟨member, is_last⟩ := find?_some found
  exact ⟨j, member, is_last, origin, upload, tells, cloneStatus_of_tells found tells channel⟩

/-- A build may report that it delivered the image. -/
theorem reportsResult_ec2Result {j : StoredJob} (kind : j.kind = .osbuild) :
    j.ReportsResult ec2Result := by
  refine ⟨⟨_, rfl⟩, ?_⟩
  rw [kind]
  exact ⟨_, rfl⟩

/-- A clone that makes a copy can be followed by whoever requested it. -/
theorem clone_followed_deliveredStore :
    Reachable StoredJob.ReportsResult deliveredStore ∧ ∃ answer s',
      (cloneEc2 2 "own").action.Runs deliveredStore (.ok answer) s' ∧
      answer.reference.id ≠ ec2Build ∧
      ∃ told, s'.snapshot.cloneStatus answer.reference.id "own" = .ok told := by
  have reached : Reachable StoredJob.ReportsResult deliveredStore :=
    reachable_deliveredStore fun _ kind _ => reportsResult_ec2Result kind
  have run : (cloneEc2 2 "own").action.Runs deliveredStore
      (.ok ⟨.at_ s!"/composes/{ec2Build}/clone" (Fresh.jobIds 0 2) "CloneComposeId"⟩) _ :=
    StoreProgram.runs_run (Fresh.jobIds 0) (.ofSeconds 2) _ _ (by decide +kernel)
  have other : Fresh.jobIds 0 2 ≠ ec2Build := by decide
  refine ⟨reached, _, _, run, other, ?_⟩
  obtain ⟨j, -, -, origin, upload, -, told⟩ := clone_followed reached run other
  have no_copy : ∀ j ∈ deliveredStore.jobs, j.kind ≠ .awsEc2Copy := by decide +kernel
  have own : j.channel = "own" := origin.resolve_right fun ⟨member, kind⟩ => no_copy j member kind
  rw [if_neg fun hidden => hidden.2 own] at told
  exact ⟨_, told⟩

/-- A tenant whose image was copied before by a request without a channel is given that copy to
follow, and is then told that there is no such job. -/
theorem clone_unfollowed :
    Reachable StoredJob.ReportsResult (clonedStore "") ∧ ∃ answer s',
      (cloneEc2 3 "own").action.Runs (clonedStore "") (.ok answer) s' ∧
      answer.reference.id ≠ ec2Build ∧
      s'.snapshot.cloneStatus answer.reference.id "own" =
        .error (.composeNotFound answer.reference.id) := by
  have reached : Reachable StoredJob.ReportsResult (clonedStore "") :=
    reachable_clonedStore (fun _ kind _ => reportsResult_ec2Result kind) (by decide +kernel)
  have run : (cloneEc2 3 "own").action.Runs (clonedStore "")
      (.ok ⟨.at_ s!"/composes/{ec2Build}/clone" (Fresh.jobIds 0 2) "CloneComposeId"⟩) _ :=
    StoreProgram.runs_run (Fresh.jobIds 0) (.ofSeconds 3) _ _ (by decide +kernel)
  exact ⟨reached, _, _, run, (by decide : Fresh.jobIds 0 2 ≠ ec2Build), rfl⟩

end Store

end ImageCompose
