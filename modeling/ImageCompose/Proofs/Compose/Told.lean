import ImageCompose.Proofs.Service.Reads
import ImageCompose.Service.Status

/-!
# What a status is told from

If the status of a compose is told, it is told from a build alone, or from the job that imports into
Koji, the one that opens the build there, and the builds in between (`Snapshot.composeStatus_ok`).
-/

namespace ImageCompose

/-- The images that are told of. A compose that is not imported into Koji has one. -/
def ComposeStatus.images (told : ComposeStatus) : List ImageStatus :=
  told.imageStatuses.getD [told.imageStatus]

namespace Snapshot

variable {s : Snapshot} {id : Uuid}

/-- An image has the status that the rule says. -/
theorem imageStatus_ok {build : JobInfo BuildResult}
    {rule : JobStatus → BuildResult → ImageStatusValue} {image : ImageStatus}
    (h : s.imageStatus build rule = .ok image) : image.status = rule build.status build.result := by
  obtain ⟨error, -, h⟩ := Except.bind_ok h
  obtain ⟨uploads, -, h⟩ := Except.bind_ok h
  cases h
  rfl

/-- The error of an image is what stands behind its build. -/
theorem imageStatus_error {build : JobInfo BuildResult}
    {rule : JobStatus → BuildResult → ImageStatusValue} {image : ImageStatus}
    {error : Option JobError} (h : s.imageStatus build rule = .ok image)
    (behind : s.chainError build.id = .ok error) : image.error = error.map .ofJobError := by
  obtain ⟨error', behind', h⟩ := Except.bind_ok h
  obtain ⟨uploads, -, h⟩ := Except.bind_ok h
  cases h
  cases behind.symm.trans behind'
  rfl

/-- An image that goes into Koji is told from its build. -/
theorem kojiImage_ok {init : KojiInitResult} {told : ImageStatus × BuildResult}
    (h : s.kojiImage init id = .ok told) :
    ∃ build : JobInfo BuildResult, s.jobInfo id = .ok build ∧
      told.1.status = kojiImageStatus build.status init build.result ∧ told.2 = build.result := by
  obtain ⟨build, read, h⟩ := Except.bind_ok h
  obtain ⟨image, judged, h⟩ := Except.bind_ok h
  cases h
  exact ⟨build, read, imageStatus_ok judged, rfl⟩

/-- An image that goes into Koji is told with the error behind its build. -/
theorem kojiImage_error {init : KojiInitResult} {told : ImageStatus × BuildResult}
    {error : Option JobError} (h : s.kojiImage init id = .ok told)
    (behind : s.chainError id = .ok error) : told.1.error = error.map .ofJobError := by
  obtain ⟨build, read, h⟩ := Except.bind_ok h
  obtain ⟨image, judged, h⟩ := Except.bind_ok h
  cases h
  obtain ⟨_, -, -, _, rfl⟩ := jobInfo_ok read
  exact imageStatus_error judged behind

/-- What the status of a compose is told from. -/
inductive Tells (s : Snapshot) (id : Uuid) (told : ComposeStatus) : Prop
  /-- A build on its own. -/
  | build {build : JobInfo BuildResult} (read : s.jobInfo id = .ok build)
      (status : told.status = buildComposeStatus build.status build.result)
      (image : s.imageStatus build buildImageStatus = .ok told.imageStatus)
      (alone : told.imageStatuses = none)
  /-- The jobs of a compose in Koji. -/
  | koji {finalize : JobInfo KojiFinalizeResult} {chain : KojiChain} {init : JobInfo KojiInitResult}
      {images : List (ImageStatus × BuildResult)} (read : s.jobInfo id = .ok finalize)
      (chained : KojiChain.ofFinalize id finalize.dependencies = .ok chain)
      (init_read : s.jobInfo chain.init = .ok init)
      (each : chain.builds.mapM (s.kojiImage init.result) = .ok images)
      (status : told.status = kojiComposeStatus finalize.status init.result (images.map (·.2))
        finalize.result)
      (first : (images.map (·.1)).head? = some told.imageStatus)
      (all : told.imageStatuses = some (images.map (·.1)))

/-- The status of a compose is told from one of the two. -/
theorem composeStatus_ok {channel : String} {told : ComposeStatus}
    (h : s.composeStatus id channel = .ok told) : s.Tells id told := by
  obtain ⟨kind, -, h⟩ := Except.bind_ok h
  cases kind with
  | osbuild =>
    obtain ⟨build, read, h⟩ := Except.bind_ok h
    obtain ⟨_, -, h⟩ := Except.bind_ok h
    obtain ⟨image, judged, h⟩ := Except.bind_ok h
    cases h
    exact .build read rfl judged rfl
  | kojiFinalize =>
    obtain ⟨finalize, read, h⟩ := Except.bind_ok h
    obtain ⟨_, -, h⟩ := Except.bind_ok h
    obtain ⟨chain, chained, h⟩ := Except.bind_ok h
    obtain ⟨init, init_read, h⟩ := Except.bind_ok h
    obtain ⟨images, each, h⟩ := Except.bind_ok h
    cases images with
    | nil => cases h
    | cons image rest =>
      cases h
      exact .koji read chained init_read each rfl rfl rfl
  | _ => cases h

/-- A status is told if a part of it is. -/
theorem told_of_status {answer : Except ServiceError ComposeStatus}
    {part : ComposeStatus → α} {value : α} (h : answer.toOption.map part = some value) :
    ∃ told, answer = .ok told ∧ part told = value := by
  cases answer with
  | error e => cases h
  | ok told => exact ⟨told, rfl, Option.some.inj h⟩

end Snapshot

end ImageCompose
