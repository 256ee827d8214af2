import ImageCompose.Proofs.Compose.Told
import ImageCompose.Proofs.Service.Reads
import ImageCompose.Store.Memory

/-!
# Successful composes in Koji

A compose in Koji is judged by what its jobs reported, and an image by its build, which may have
been canceled besides. So if a compose counts as a success, an image of it counts as a failure
exactly if its build was canceled (`Snapshot.failures_of_success`). That this happens is shown by
`Snapshot.success_with_failure`.
-/

namespace ImageCompose

/-- A compose in Koji succeeds if its last job finished and none of its jobs reported a failure. -/
theorem kojiComposeStatus_eq_success {status : JobStatus} {init : KojiInitResult}
    {builds : List BuildResult} {finalize : KojiFinalizeResult} :
    kojiComposeStatus status init builds finalize = .success ↔
      status.canceled = false ∧ status.isFinished = true ∧ init.jobError = none ∧
        (∀ build ∈ builds, build.isGoodForKoji = true) ∧ finalize.jobError = none := by
  unfold kojiComposeStatus
  cases status.canceled with
  | true => simp
  | false =>
    cases status.isFinished with
    | false => simp
    | true => simp [and_assoc]

/-- An image that goes into Koji fails if its build was canceled, if the build in Koji could not be
opened, or if its build finished and reported a failure. -/
theorem kojiImageStatus_eq_failure {status : JobStatus} {init : KojiInitResult}
    {build : BuildResult} :
    kojiImageStatus status init build = .failure ↔
      status.canceled = true ∨ init.jobError.isSome = true ∨
        status.isStarted = true ∧ status.isFinished = true ∧ build.isGoodForKoji = false := by
  unfold kojiImageStatus
  cases status.canceled <;> cases init.jobError.isSome <;> cases status.isStarted <;>
    cases status.isFinished <;> cases build.isGoodForKoji <;> simp

namespace Snapshot

variable {s : Snapshot} {id : Uuid}

/-- What a build reports keeps no image from succeeding once the compose succeeded, so only a
canceled build does. -/
theorem kojiImage_failure_iff {init : KojiInitResult} {told : ImageStatus × BuildResult}
    (shown : s.kojiImage init id = .ok told) (opened : init.jobError = none)
    (good : told.2.isGoodForKoji = true) :
    ∃ r, s.job id = .ok r ∧ (told.1.status = .failure ↔ r.status.canceled = true) := by
  obtain ⟨build, read, status, result⟩ := kojiImage_ok shown
  obtain ⟨r, found, -, _, rfl⟩ := jobInfo_ok read
  rw [result] at good
  refine ⟨r, found, ?_⟩
  rw [status, kojiImageStatus_eq_failure]
  simp [opened, good]

/-- Of images whose builds reported no failure, each failed exactly if its build was canceled. -/
theorem kojiImages_failure_iff {init : KojiInitResult} {builds : List Uuid}
    {images : List (ImageStatus × BuildResult)}
    (shown : List.Forall₂ (fun build told => s.kojiImage init build = .ok told) builds images)
    (opened : init.jobError = none) (good : ∀ told ∈ images, told.2.isGoodForKoji = true) :
    List.Forall₂ (fun build image => ∃ r, s.job build = .ok r ∧
      (image.status = .failure ↔ r.status.canceled = true)) builds (images.map (·.1)) := by
  induction shown with
  | nil => exact .nil
  | cons first _ ih =>
    rw [List.forall_mem_cons] at good
    exact .cons (kojiImage_failure_iff first opened good.1) (ih good.2)

/-- If each image counts as a failure exactly if its build was canceled, none does exactly if no
build was canceled. -/
theorem no_failure_iff {builds : List Uuid} {images : List ImageStatus}
    (each : List.Forall₂ (fun build image => ∃ r, s.job build = .ok r ∧
      (image.status = .failure ↔ r.status.canceled = true)) builds images) :
    (∀ image ∈ images, image.status ≠ .failure) ↔
      ∀ build ∈ builds, ∀ r, s.job build = .ok r → r.status.canceled = false := by
  induction each with
  | nil => simp
  | cons first _ ih =>
    obtain ⟨r, found, failed⟩ := first
    simp [found, failed, ih]

/-- If a compose in Koji counts as a success, each image counts as a failure exactly if its build
was canceled. So none does exactly if no build was canceled. -/
theorem failures_of_success {r : JobRecord} {channel : String} {told : ComposeStatus}
    (found : s.job id = .ok r) (kind : r.kind = .kojiFinalize)
    (tells : s.composeStatus id channel = .ok told) (success : told.status = .success) :
    ∃ (chain : KojiChain) (images : List ImageStatus),
      KojiChain.ofFinalize id r.dependencies = .ok chain ∧ told.imageStatuses = some images ∧
      List.Forall₂ (fun build image => ∃ rb, s.job build = .ok rb ∧
        (image.status = .failure ↔ rb.status.canceled = true)) chain.builds images ∧
      ((∀ image ∈ images, image.status ≠ .failure) ↔
        ∀ build ∈ chain.builds, ∀ rb, s.job build = .ok rb → rb.status.canceled = false) := by
  cases composeStatus_ok tells with
  | build read =>
    obtain ⟨r', found', kind', -⟩ := jobInfo_ok read
    cases found.symm.trans found'
    cases kind.symm.trans kind'
  | koji read chained _ each status _ all =>
    obtain ⟨r', found', -, _, rfl⟩ := jobInfo_ok read
    cases found.symm.trans found'
    rw [success] at status
    obtain ⟨-, -, opened, good, -⟩ := kojiComposeStatus_eq_success.1 status.symm
    rw [List.forall_mem_map] at good
    have failures := kojiImages_failure_iff (Except.mapM_ok each) opened good
    exact ⟨_, _, chained, all, failures, no_failure_iff failures⟩

/-- The jobs of two images that are imported into Koji, all but the second build finished. -/
def importPair : Store :=
  let done : JobStatus :=
    { queued := some (.ofSeconds 0), started := some (.ofSeconds 1),
      finished := some (.ofSeconds 2) }
  ⟨[
    ⟨.ofNat 0, .kojiInit, "own", .obj [], some (.obj []), done, []⟩,
    ⟨.ofNat 1, .osbuild, "own", .obj [], some (.obj []), done, [.ofNat 0]⟩,
    ⟨.ofNat 2, .osbuild, "own", .obj [], none, { queued := some (.ofSeconds 0) }, [.ofNat 0]⟩,
    ⟨.ofNat 3, .kojiFinalize, "own", .obj [], some (.obj []), done,
      [.ofNat 0, .ofNat 1, .ofNat 2]⟩]⟩

/-- Once the second build finished, no image of the two counts as a failure. -/
theorem failures_of_success_importPair :
    let s := (importPair.finish (.ofNat 2) (.obj []) (.ofSeconds 3)).snapshot
    ∃ told images, s.composeStatus (.ofNat 3) "own" = .ok told ∧ told.status = .success ∧
      told.imageStatuses = some images ∧ ∀ image ∈ images, image.status ≠ .failure := by
  intro s
  obtain ⟨told, tells, success⟩ := told_of_status
    (by decide +kernel : (s.composeStatus (.ofNat 3) "own").toOption.map (·.status) =
      some .success)
  obtain ⟨chain, images, chained, all, -, none_failed⟩ :=
    failures_of_success rfl rfl tells success
  refine ⟨told, images, tells, success, all, none_failed.2 ?_⟩
  cases chained
  intro build member r found
  have either : build = .ofNat 1 ∨ build = .ofNat 2 := by simpa using member
  rcases either with rfl | rfl <;> (cases found; rfl)

/-- If the second build is canceled instead, the compose counts as a success and its second image as
a failure. -/
theorem success_with_failure :
    let s := (importPair.cancel (.ofNat 2)).snapshot
    (s.composeStatus (.ofNat 3) "own").toOption.map (fun told =>
        (told.status, told.imageStatuses.map (·.map (·.status)))) =
      some (.success, some [.success, .failure]) := by
  decide +kernel

end Snapshot

end ImageCompose
