import ImageCompose.Proofs.Store.Order
import ImageCompose.Proofs.Store.Shown
import ImageCompose.Proofs.Submission.Builds
import ImageCompose.Service.Status

/-!
# The deliveries that a client is shown

A client asks for an image to be delivered where its image type says, and is shown how that went. In
between, the delivery is a target of a build, and what the worker reports of it is a result under
the name of that target. The tables from image types to upload types, to targets, to their names,
from the names of results to their kinds and from those to what is shown fit together, so what is
shown is the delivery that was asked for (`TargetResult.shown`), and deliveries that nobody asked
for are not shown (`uploadStatuses_hidden`): files for Koji, and images that stay on the worker
server. `Store.uploads_shown` says so for every build that a request submits.
-/

namespace ImageCompose

/-! ## Results of targets -/

/-- A worker reported on each target of a build, in their order and under their names. -/
def ReportsEach (targets : List Target) (results : List TargetResult) : Prop :=
  List.Forall₂ (fun target result => result.name = target.name.name) targets results

/-- Each result is known to be that of its target. -/
def KnownEach (targets : List Target) (results : List TargetResult) : Prop :=
  List.Forall₂ (fun target result => result.target? = some target.name) targets results

/-- The results of such a report are known, as targets are told apart by their names. -/
theorem ReportsEach.known {targets : List Target} {results : List TargetResult}
    (named : ReportsEach targets results)
    (read : ∀ r ∈ results, r.target? = TargetName.ofName? r.name) : KnownEach targets results := by
  induction named with
  | nil => exact .nil
  | cons same _ ih =>
    obtain ⟨first, rest⟩ := List.forall_mem_cons.1 read
    refine .cons ?_ (ih rest)
    rw [first, same, TargetName.ofName?_name]

/-- The result of a target of an upload type tells of a delivery of that type. -/
theorem TargetResult.shown {uploadType : UploadType} {result : TargetResult}
    (known : result.target? = some uploadType.target) :
    ∃ details, UploadStatus.ofResult result = .ok ⟨none, details⟩ ∧
      details.uploadType = uploadType ∧ details.options = result.options := by
  cases uploadType <;> cases result <;> cases known <;> exact ⟨_, rfl, rfl, rfl⟩

/-- A target that a request did not ask to be delivered to. -/
def TargetName.IsHidden (target : TargetName) : Prop := target = .koji ∨ target = .workerServer

/-- All results of targets that import into Koji are hidden. -/
theorem KnownEach.hidden {targets : List Target} {results : List TargetResult}
    (known : KnownEach targets results) (into_koji : ∀ t ∈ targets, t.name = .koji) :
    ∀ r ∈ results, ∃ target, r.target? = some target ∧ target.IsHidden := by
  induction known with
  | nil => nofun
  | cons first _ ih =>
    obtain ⟨koji, rest⟩ := List.forall_mem_cons.1 into_koji
    exact List.forall_mem_cons.2 ⟨⟨_, first, .inl koji⟩, ih rest⟩

/-- Nothing is shown of targets that were not asked for. -/
theorem uploadStatuses_hidden {results : List TargetResult}
    (hidden : ∀ r ∈ results, ∃ target, r.target? = some target ∧ target.IsHidden)
    (status : UploadStatusValue) : uploadStatuses results status = .ok [] := by
  rw [uploadStatuses, List.filter_eq_nil_iff.2]
  · rfl
  · intro r member
    obtain ⟨target, known, rfl | rfl⟩ := hidden r member <;> cases r <;> cases known <;> nofun

/-- A result that tells of a delivery is shown before those of the other results. -/
theorem uploadStatuses_cons {result : TargetResult} {details : UploadDetails}
    (told : UploadStatus.ofResult result = .ok ⟨none, details⟩) (rest : List TargetResult)
    (status : UploadStatusValue) : uploadStatuses (result :: rest) status =
      (uploadStatuses rest status).map (⟨some status, details⟩ :: ·) := by
  rw [uploadStatuses, List.filter_cons_of_pos, List.mapM_cons, told, uploadStatuses]
  · generalize (List.mapM _ _ : Except ServiceError (List UploadStatus)) = others
    cases others <;> rfl
  · cases result with
    | koji | workerServer => cases told
    | _ => rfl

/-- If only one result is of a target that was asked for, and that stands first, it is shown. -/
theorem uploadStatuses_first {uploadType : UploadType} {result : TargetResult}
    (known : result.target? = some uploadType.target) {rest : List TargetResult}
    (hidden : ∀ r ∈ rest, ∃ target, r.target? = some target ∧ target.IsHidden)
    (status : UploadStatusValue) :
    ∃ details, uploadStatuses (result :: rest) status = .ok [⟨some status, details⟩] ∧
      details.uploadType = uploadType ∧ details.options = result.options := by
  obtain ⟨details, told, type, options⟩ := TargetResult.shown known
  refine ⟨details, ?_, type, options⟩
  rw [uploadStatuses_cons told, uploadStatuses_hidden hidden]
  rfl

/-! ## Deliveries of an image -/

/-- What a client is shown of the deliveries of an image that it asked for. -/
inductive ImageRequest.Shown (image : ImageRequest) (results : List TargetResult)
    (status : UploadStatusValue) : List UploadStatus → Prop
  /-- The upload that was asked for, with what the worker reported first. -/
  | upload {options : Json} {result : TargetResult} {rest : List TargetResult}
      {details : UploadDetails} (asked : image.uploadOptions = some options)
      (sent : asksForLocalSave options = false) (first : results = result :: rest)
      (type : details.uploadType = image.imageType.uploadType)
      (reported : details.options = result.options) : Shown image results status
        [⟨some status, details⟩]
  /-- No upload was asked for, or the image was to stay on the worker server. -/
  | nothing
      (kept : ∀ options, image.uploadOptions = some options → asksForLocalSave options = true) :
      Shown image results status []

/-- If a worker reports on each target of a build, the delivery that the request asked for is
shown. -/
theorem BuildArgs.Builds.shown {a : BuildArgs} {localSave : Bool} {fresh : FreshImage}
    {image : ImageRequest} {more : List Target} (builds : a.Builds localSave fresh image more)
    (into_koji : ∀ t ∈ more, t.name = .koji) {results : List TargetResult}
    (known : KnownEach a.targets results) (status : UploadStatusValue) :
    ∃ uploads, uploadStatuses results status = .ok uploads ∧
      image.Shown results status uploads := by
  have targets := builds.targets
  cases asked : image.uploadOptions with
  | none =>
    rw [asked] at targets
    rw [targets.2] at known
    refine ⟨[], uploadStatuses_hidden (known.hidden into_koji) status, .nothing ?_⟩
    rw [asked]
    nofun
  | some options =>
    rw [asked] at targets
    obtain ⟨target, made, all⟩ := targets
    rw [all] at known
    cases known with
    | @cons _ result _ rest first others =>
    rw [name_of_uploadTarget made] at first
    have others_hidden := KnownEach.hidden others into_koji
    by_cases kept : asksForLocalSave options = true
    · rw [if_pos kept] at first
      refine ⟨[], uploadStatuses_hidden ?_ status, .nothing fun options' asked' => ?_⟩
      · exact List.forall_mem_cons.2 ⟨⟨_, first, .inr rfl⟩, others_hidden⟩
      · cases asked.symm.trans asked'
        exact kept
    · rw [if_neg kept] at first
      obtain ⟨details, told, type, options⟩ := uploadStatuses_first first others_hidden status
      exact ⟨_, told, .upload asked (by simpa using kept) rfl type options⟩

/-- How far an image has come is told with the deliveries that are shown, unless the errors behind
it cannot be read. -/
theorem Snapshot.imageStatus_of_uploads {s : Snapshot} {build : JobInfo BuildResult}
    {uploads : List UploadStatus} (told : uploadStatuses build.result.targetResults
      (deliveryStatus build.status build.result.jobError) = .ok uploads)
    (rule : JobStatus → BuildResult → ImageStatusValue) :
    s.imageStatus build rule = (s.chainError build.id).map fun error =>
      .ofUploads (rule build.status build.result) (error.map .ofJobError) uploads := by
  rw [imageStatus, told]
  cases s.chainError build.id <;> rfl

namespace Store

variable {reports : StoredJob → Json → Prop} {config : Config} {request : ComposeRequest}
  {fresh : Fresh} {channel : String} {s₀ s₁ : Store}

/-- The delivery that a client asked for is the one that it is shown. If a worker reports on each
target of a build that a request submitted, also where the submission was broken off later, then
whatever else happens, the deliveries of its image can be told. They are the upload that the request
asked for, of the upload type of the image and with what was reported of it, or none. -/
theorem uploads_shown (h : Reachable reports s₀) {r : Except ServiceError ComposeId}
    (run : (submitCompose config request fresh channel).Runs s₀ r s₁) {k : Nat} {b : StoredJob}
    (built : (s₀.newBuilds s₁)[k]? = some b) :
    ∃ images image args, request.images = .ok images ∧ images[k]? = some image ∧
      decode? b.args = some (args : BuildArgs) ∧
      ∀ {s j v} {result : BuildResult}, Steps reports s₁ s → s.find? b.id = some j →
        j.result = some v → decode? v = some result →
        ReportsEach args.targets result.targetResults →
        ∃ build uploads, s.snapshot.jobInfo b.id = .ok build ∧ build.result = result ∧
          uploadStatuses result.targetResults (deliveryStatus j.status result.jobError) =
            .ok uploads ∧
          image.Shown result.targetResults (deliveryStatus j.status result.jobError) uploads ∧
          ∀ rule, s.snapshot.imageStatus build rule = (s.snapshot.chainError b.id).map fun error =>
            .ofUploads (rule j.status result) (error.map .ofJobError) uploads := by
  obtain ⟨member, image, args, builds⟩ := newBuilds_of_runs run built
  obtain ⟨images, asked, at_k⟩ := builds.asked
  obtain ⟨waits, is⟩ := builds.is
  obtain ⟨more, made, into_koji, -⟩ := builds.builds
  refine ⟨images, image, args.kept, asked, at_k, builds.read, ?_⟩
  intro s j v result later found stored decoded each
  have reached : Reachable reports s₁ := h.steps (.single (.submit run))
  obtain ⟨_, status, found'⟩ :=
    later.moves.extends.jobs (find?_of_mem reached.graph.nodup member)
  cases found.symm.trans found'
  obtain ⟨uploads, told, shown⟩ := made.shown into_koji
    (each.known fun _ => BuildResult.target?_of_mem decoded)
    (deliveryStatus status result.jobError)
  exact ⟨_, uploads, jobInfo_of_find? found is.kind (.inr ⟨v, stored, decoded⟩), rfl, told, shown,
    Snapshot.imageStatus_of_uploads told⟩

/-- A request for two images that are imported into Koji, the first of which also goes to S3. -/
def s3KojiRequest : ComposeRequest where
  distribution := "rhel-9"
  imageRequests := some [
    { architecture := "x86_64"
      imageType := .guestImage
      uploadOptions := some (.obj [("region", .str "us-east-1")]) },
    { architecture := "aarch64", imageType := .guestImage }]
  koji := some ⟨"https://koji.example.com", 1, "image", "9.4", "1"⟩

/-- The store after that request. -/
def s3KojiStore : Store :=
  ((submitCompose {} s3KojiRequest (.ofRandom 0 0) "tenant").run
    (backend (Fresh.jobIds 0) (.ofSeconds 0)) {}).2

/-- What the build of the first image reports. -/
def s3KojiResult : BuildResult where
  success := true
  targetResults := [.awsS3 "https://bucket.example.com/image", .koji "0cc175b9" 1024]

/-- Of the first image, its upload to S3 is shown and nothing of the file for Koji. -/
theorem uploads_shown_s3KojiStore :
    (∃ r, (submitCompose {} s3KojiRequest (.ofRandom 0 0) "tenant").Runs {} r s3KojiStore) ∧
      ∃ b, (newBuilds {} s3KojiStore)[0]? = some b ∧
      ∃ (build : JobInfo BuildResult) (details : UploadDetails),
        (s3KojiStore.finish b.id (encode s3KojiResult) (.ofSeconds 1)).snapshot.jobInfo b.id =
          .ok build ∧ build.result = s3KojiResult ∧
        uploadStatuses s3KojiResult.targetResults .success = .ok [⟨some .success, details⟩] ∧
        details.uploadType = .awsS3 ∧
        details.options = .obj [("url", .str "https://bucket.example.com/image")] := by
  have run : (submitCompose {} s3KojiRequest (.ofRandom 0 0) "tenant").Runs {} _ s3KojiStore :=
    StoreProgram.runs_run (Fresh.jobIds 0) (.ofSeconds 0) _ {} (by decide +kernel)
  have names : ((newBuilds {} s3KojiStore)[0]?.bind fun b =>
      (decode? b.args : Option BuildArgs)).map (fun args => args.targets.map Target.name) =
        some [.awsS3, .koji] := by decide +kernel
  obtain ⟨args, read, names⟩ := Option.map_eq_some_iff.1 names
  obtain ⟨b, built, read⟩ := Option.bind_eq_some_iff.1 read
  obtain ⟨images, image, args', asked, at_k, read', shown⟩ :=
    uploads_shown (.refl : Reachable AnyReport {}) run built
  cases read.symm.trans read'
  cases asked
  cases at_k
  obtain ⟨member, _, _, builds⟩ := newBuilds_of_runs run built
  obtain ⟨_, is⟩ := builds.is
  obtain ⟨_, waiting, -⟩ := is.waiting
  have found := find?_finish (find?_of_mem (by decide +kernel : s3KojiStore.ids.Nodup) member)
    (encode s3KojiResult) (.ofSeconds 1)
  have named : List.Forall₂ (fun (target : TargetName) (r : TargetResult) => r.name = target.name)
      (args.targets.map Target.name) s3KojiResult.targetResults := by
    rw [names]
    exact .cons rfl (.cons rfl .nil)
  have decoded : decode? (encode s3KojiResult) = some s3KojiResult := rfl
  have status : deliveryStatus (b.finish (encode s3KojiResult) (.ofSeconds 1)).status
      s3KojiResult.jobError = .success := by
    rw [StoredJob.finish, waiting]
    rfl
  obtain ⟨build, uploads, info, same, told, image_shown, -⟩ :=
    shown (.single (.finish _ fun _ _ _ => trivial)) found rfl decoded
      (List.forall₂_map_left_iff.1 named)
  rw [status] at told image_shown
  cases image_shown with
  | nothing kept => cases kept _ rfl
  | @upload _ result rest details _ _ first type reported =>
    cases first
    exact ⟨⟨_, run⟩, b, built, build, details, info, same, told, type, reported⟩

end Store

end ImageCompose
