import ImageCompose.Proofs.Clone.Call
import ImageCompose.Proofs.Compose.Told
import ImageCompose.Proofs.Store.Submissions

/-!
# Builds that can be cloned

A request to clone a compose does nothing at all unless its build finished and reported success. It
does not ask whether the build was canceled, which the status of the compose does. So if a clone
acts, the compose counts as a success exactly if its build was not canceled
(`Action.Acts.cloned_build`), and a build that was canceled after it finished is cloned although its
compose failed (`Store.canceled_cloned`).
-/

namespace ImageCompose

variable {σ : Type} {backend : Backend σ} {s : σ} {id : Uuid} {channel : String}

/-- A compose that is a build succeeds if the build was not canceled, finished and reported
success. -/
theorem buildComposeStatus_eq_success {status : JobStatus} {result : BuildResult} :
    buildComposeStatus status result = .success ↔
      status.canceled = false ∧ status.isFinished = true ∧ result.success = true := by
  unfold buildComposeStatus
  cases status.canceled <;> cases status.isFinished <;> cases result.success <;> simp

/-- Only an image of a build that finished and reported success is settled on. -/
theorem CloneSource.ofBuild_ok {build : JobInfo BuildResult} {source : CloneSource}
    (h : CloneSource.ofBuild build = .ok source) :
    build.status.isFinished = true ∧ build.result.success = true := by
  by_cases unfit : (!build.status.isFinished || !build.result.success) = true
  · rw [ofBuild, if_pos unfit] at h
    cases h
  · simpa using unfit

/-- The status of a compose that is a build is told by the rule for builds. -/
theorem Snapshot.status_of_build {shown : Snapshot} {build : JobInfo BuildResult}
    {told : ComposeStatus} (read : shown.jobInfo id = .ok build)
    (tells : shown.composeStatus id channel = .ok told) :
    told.status = buildComposeStatus build.status build.result := by
  cases composeStatus_ok tells with
  | build read' status =>
    cases read.symm.trans read'
    exact status
  | koji read' =>
    cases kind_unique read read'

/-- If a request to clone a compose succeeds or submits anything, the compose is a build that
finished and reported success. Its status is a success exactly if it was not canceled. -/
theorem Action.Acts.cloned_build {request : CloneRequest} {fresh : Fresh}
    (acts : (cloneCompose id request fresh channel).Acts backend s) :
    ∃ build : JobInfo BuildResult, (backend.snapshot s).jobInfo id = .ok build ∧
      build.status.isFinished = true ∧ build.result.success = true ∧
      (buildComposeStatus build.status build.result = .success ↔ build.status.canceled = false) ∧
      ∀ channel' told, (backend.snapshot s).composeStatus id channel' = .ok told →
        told.status = buildComposeStatus build.status build.result := by
  obtain ⟨kind, -, acts⟩ := acts.composeKind_bind
  split at acts
  · exact absurd acts (not_acts_throw _)
  obtain ⟨build, read, acts⟩ := acts.jobInfo_bind
  obtain ⟨_, -, acts⟩ := acts.of_bind
  obtain ⟨source, settled, -⟩ := acts.of_bind
  obtain ⟨finished, success⟩ := CloneSource.ofBuild_ok settled
  refine ⟨build, read, finished, success, ?_, fun _ _ tells => Snapshot.status_of_build read tells⟩
  simp [buildComposeStatus_eq_success, finished, success]

/-! ## A build that is canceled after it was delivered -/

namespace Store

/-- The delivered build is cloned, and as its compose is a success it was not canceled. -/
theorem cloned_build_deliveredStore :
    let run := (cloneEc2 2 "own").action.run (Store.backend (Fresh.jobIds 0) (.ofSeconds 2))
      deliveredStore
    (∃ answer, run.1 = .ok answer) ∧
      ∃ build : JobInfo BuildResult, deliveredStore.snapshot.jobInfo ec2Build = .ok build ∧
        build.status.canceled = false := by
  intro run
  have cloned : ∃ answer, run.1 = .ok answer := ⟨_, rfl⟩
  obtain ⟨build, read, -, -, judged, told_as⟩ := Action.Acts.cloned_build (.inl cloned)
  obtain ⟨told, tells, success⟩ := Snapshot.told_of_status
    (by decide +kernel : (deliveredStore.snapshot.composeStatus ec2Build "own").toOption.map
      (·.status) = some .success)
  exact ⟨cloned, build, read, judged.1 ((told_as "own" told tells).symm.trans success)⟩

/-- Once it is canceled, its compose is a failure, and yet it is cloned. -/
theorem canceled_cloned :
    let canceled := deliveredStore.cancel ec2Build
    let run := (cloneEc2 2 "own").action.run (Store.backend (Fresh.jobIds 0) (.ofSeconds 2))
      canceled
    (canceled.snapshot.composeStatus ec2Build "own").toOption.map (·.status) = some .failure ∧
      run.1.isOk = true ∧ run.2.jobs.map (·.kind) = [.manifestIdOnly, .osbuild, .awsEc2Copy] := by
  decide +kernel

end Store

end ImageCompose
