import ImageCompose.Proofs.Compose.Manifests
import ImageCompose.Proofs.Compose.Told

/-!
# The views of a compose in Koji

A compose in Koji is followed by the job that imports its images. The status, the logs and the
manifests of the compose are lists with an entry for each build that this job waits for, and each is
read in its own way: the status decodes the result of a build, the logs ask for its kind first, and
the manifests start from its arguments. A client joins the lists by position.

What is read before the builds is the same for all of them (`Snapshot.Imports`), so each view is
told exactly if that and its own reading of every build go well (`Snapshot.composeStatus_koji_iff`,
`Snapshot.composeLogs_koji_iff`). From this the views line up (`Snapshot.koji_views_line_up`):
entries at the same position are about the same build.
-/

namespace ImageCompose

/-- A job is shown exactly to the requests of its channel and to those without one. -/
theorem JobInfo.ensureChannel_eq_ok {ρ : Type} {job : JobInfo ρ} {channel : String} :
    job.ensureChannel channel = .ok () ↔ channel = "" ∨ channel = job.channel := by
  refine ⟨fun h => ?_, ensureChannel_ok⟩
  by_cases given : channel = ""
  · exact .inl given
  · by_cases own : job.channel = channel
    · exact .inr own.symm
    · rw [ensureChannel, if_pos ⟨given, own⟩] at h
      cases h

/-- What is told of a compose in Koji from the readings of its jobs. -/
def ComposeStatus.ofKoji (id : Uuid) (finalize : JobInfo KojiFinalizeResult)
    (opened : KojiInitResult) (first : ImageStatus × BuildResult)
    (rest : List (ImageStatus × BuildResult)) : ComposeStatus where
  reference := .at_ s!"/composes/{id}" id "ComposeStatus"
  status := kojiComposeStatus finalize.status opened ((first :: rest).map (·.2)) finalize.result
  imageStatus := first.1
  imageStatuses := some ((first :: rest).map (·.1))
  kojiStatus := some { buildId := if opened.buildId = 0 then none else some opened.buildId }

/-- What is told of the logs of a compose in Koji from the readings of its jobs. -/
def ComposeLogs.ofKoji (id : Uuid) (finalize : JobInfo KojiFinalizeResult)
    (opened : JobInfo KojiInitResult) (builds : List (JobInfo BuildResult)) : ComposeLogs where
  reference := .at_ s!"/composes/{id}/logs" id "ComposeLogs"
  imageBuilds := builds.map (·.log)
  koji := some ⟨opened.log, finalize.log⟩

namespace Snapshot

variable {s : Snapshot} {id init b : Uuid} {builds : List Uuid} {channel : String} {r : JobRecord}

/-! ## What is read before the builds -/

/-- What all views of a compose in Koji read before its builds: the job that imports the images,
which is shown on the channel, and the chain of jobs that it waits for. -/
structure Imports (s : Snapshot) (id : Uuid) (channel : String)
    (finalize : JobInfo KojiFinalizeResult) (chain : KojiChain) : Prop where
  read : s.jobInfo id = .ok finalize
  scope : channel = "" ∨ channel = finalize.channel
  chained : KojiChain.ofFinalize id finalize.dependencies = .ok chain

/-- What follows is done exactly with what was read. -/
theorem imports_bind_eq_ok {α : Type} {a : α}
    {next : JobInfo KojiFinalizeResult → KojiChain → Except ServiceError α} :
    (do
      let finalize ← s.jobInfo id
      finalize.ensureChannel channel
      let chain ← KojiChain.ofFinalize id finalize.dependencies
      next finalize chain) = .ok a ↔
    ∃ finalize chain, s.Imports id channel finalize chain ∧ next finalize chain = .ok a := by
  constructor
  · intro h
    obtain ⟨finalize, read, h⟩ := Except.bind_ok h
    obtain ⟨_, checked, h⟩ := Except.bind_ok h
    obtain ⟨chain, chained, h⟩ := Except.bind_ok h
    exact ⟨finalize, chain, ⟨read, JobInfo.ensureChannel_eq_ok.1 checked, chained⟩, h⟩
  · rintro ⟨finalize, chain, ⟨read, scope, chained⟩, h⟩
    simpa only [read, JobInfo.ensureChannel_ok scope, chained, bind, Except.bind] using h

/-- The chain is that of the jobs which the record of the last one names. -/
theorem Imports.of_record {finalize : JobInfo KojiFinalizeResult} {chain : KojiChain}
    (h : s.Imports id channel finalize chain) (found : s.job id = .ok r)
    (waits : r.dependencies = init :: builds) : chain.init = init ∧ chain.builds = builds := by
  obtain ⟨r', found', -, _, rfl⟩ := jobInfo_ok h.read
  cases found.symm.trans found'
  have same := KojiChain.finalizeDependencies_of_ofFinalize h.chained
  rw [waits] at same
  exact List.cons.inj same

/-- How far the import has come is what the record of the job says. -/
theorem Imports.status_eq {finalize : JobInfo KojiFinalizeResult} {chain : KojiChain}
    (h : s.Imports id channel finalize chain) (found : s.job id = .ok r) :
    finalize.status = r.status := by
  obtain ⟨r', found', -, _, rfl⟩ := jobInfo_ok h.read
  cases found.symm.trans found'
  rfl

/-! ## The status -/

/-- The image of a build as the status of its compose shows it: how far the build has come, the
error behind it, and its deliveries. -/
inductive ShowsImage (s : Snapshot) (opened : KojiInitResult) (b : Uuid) : ImageStatus → Prop
  | intro {build : JobInfo BuildResult} {error : Option JobError} {uploads : List UploadStatus}
      (read : s.jobInfo b = .ok build) (behind : s.chainError b = .ok error)
      (delivered : uploadStatuses build.result.targetResults
        (deliveryStatus build.status build.result.jobError) = .ok uploads) :
      ShowsImage s opened b (.ofUploads (kojiImageStatus build.status opened build.result)
        (error.map .ofJobError) uploads)

/-- An image that is told is shown as its build has it. -/
theorem kojiImage_shows {opened : KojiInitResult} {told : ImageStatus × BuildResult}
    (h : s.kojiImage opened b = .ok told) : s.ShowsImage opened b told.1 := by
  obtain ⟨build, read, h⟩ := Except.bind_ok h
  obtain ⟨image, judged, h⟩ := Except.bind_ok h
  cases h
  obtain ⟨error, behind, judged⟩ := Except.bind_ok judged
  obtain ⟨uploads, delivered, judged⟩ := Except.bind_ok judged
  cases judged
  obtain ⟨_, -, -, _, rfl⟩ := jobInfo_ok read
  exact .intro read behind delivered

/-- If the images of builds are told, the builds can be read. -/
theorem builds_of_images {opened : KojiInitResult} {images : List (ImageStatus × BuildResult)}
    (each : List.Forall₂ (fun b image => s.kojiImage opened b = .ok image) builds images) :
    ∃ read : List (JobInfo BuildResult),
      List.Forall₂ (fun b build => s.jobInfo b = .ok build) builds read := by
  induction each with
  | nil => exact ⟨[], .nil⟩
  | cons first _ ih =>
    obtain ⟨build, read, -⟩ := kojiImage_ok first
    obtain ⟨rest, rest_read⟩ := ih
    exact ⟨build :: rest, .cons read rest_read⟩

/-- The status of a compose in Koji is told exactly if its jobs can be read, each build with its
image. -/
theorem composeStatus_koji_iff (found : s.job id = .ok r) (kind : r.kind = .kojiFinalize)
    {told : ComposeStatus} : s.composeStatus id channel = .ok told ↔
      ∃ finalize chain, s.Imports id channel finalize chain ∧
        ∃ (opened : JobInfo KojiInitResult) (first : ImageStatus × BuildResult)
          (rest : List (ImageStatus × BuildResult)), s.jobInfo chain.init = .ok opened ∧
          List.Forall₂ (fun b image => s.kojiImage opened.result b = .ok image) chain.builds
            (first :: rest) ∧ told = .ofKoji id finalize opened.result first rest := by
  have asked : s.composeKind id = .ok .kojiFinalize := kind ▸ composeKind_of_job found
  rw [composeStatus, asked]
  refine imports_bind_eq_ok.trans (exists₂_congr fun finalize chain => and_congr_right fun _ => ?_)
  constructor
  · intro h
    obtain ⟨opened, read, h⟩ := Except.bind_ok h
    obtain ⟨images, each, h⟩ := Except.bind_ok h
    cases images with
    | nil => cases h
    | cons first rest =>
      cases h
      exact ⟨opened, first, rest, read, Except.mapM_ok each, rfl⟩
  · rintro ⟨opened, first, rest, read, each, rfl⟩
    simp only [read, Except.mapM_eq_ok.2 each, bind, Except.bind]
    rfl

/-! ## The logs -/

/-- A build is read for the logs exactly if it is read for the status. -/
theorem kojiBuild_eq_ok {build : JobInfo BuildResult} :
    s.kojiBuild b = .ok build ↔ s.jobInfo b = .ok build := by
  refine ⟨fun h => ?_, kojiBuild_of_jobInfo⟩
  obtain ⟨kind, -, h⟩ := Except.bind_ok h
  by_cases other : kind ≠ .osbuild
  · rw [if_pos other] at h
    cases h
  · rwa [if_neg other] at h

/-- The logs of a compose in Koji are told exactly if its jobs can be read. -/
theorem composeLogs_koji_iff (found : s.job id = .ok r) (kind : r.kind = .kojiFinalize)
    {told : ComposeLogs} : s.composeLogs id channel = .ok told ↔
      ∃ finalize chain, s.Imports id channel finalize chain ∧
        ∃ (opened : JobInfo KojiInitResult) (builds : List (JobInfo BuildResult)),
          s.jobInfo chain.init = .ok opened ∧
          List.Forall₂ (fun b build => s.jobInfo b = .ok build) chain.builds builds ∧
          told = .ofKoji id finalize opened builds := by
  have asked : s.composeKind id = .ok .kojiFinalize := kind ▸ composeKind_of_job found
  rw [composeLogs, asked]
  refine imports_bind_eq_ok.trans (exists₂_congr fun finalize chain => and_congr_right fun _ => ?_)
  simp only [← kojiBuild_eq_ok]
  constructor
  · intro h
    obtain ⟨opened, read, h⟩ := Except.bind_ok h
    obtain ⟨builds, each, h⟩ := Except.bind_ok h
    cases h
    exact ⟨opened, builds, read, Except.mapM_ok each, rfl⟩
  · rintro ⟨opened, builds, read, each, rfl⟩
    simp only [read, Except.mapM_eq_ok.2 each, bind, Except.bind]
    rfl

/-- What the logs show of a job: its result as it is stored, or `null`. -/
def ShowsLog (s : Snapshot) (x : Uuid) (log : Json) : Prop :=
  ∃ r, s.job x = .ok r ∧ log = r.result.getD .null

/-- A job that is read shows its own log. -/
theorem showsLog_of_jobInfo {ρ : Type} [ResultOf ρ] {x : Uuid} {job : JobInfo ρ}
    (read : s.jobInfo x = .ok job) : s.ShowsLog x job.log := by
  obtain ⟨r, found, -, _, rfl⟩ := jobInfo_ok read
  exact ⟨r, found, rfl⟩

/-! ## The manifests -/

/-- What the manifests show of a build. -/
def ShowsManifest (s : Snapshot) (b : Uuid) (manifest : Json) : Prop :=
  ∃ build, s.jobInfo b = .ok build ∧ s.ManifestOf build manifest

/-- The manifests of a compose in Koji are those of its builds. -/
theorem composeManifests_koji (found : s.job id = .ok r) (kind : r.kind = .kojiFinalize)
    {told : ComposeManifests} (h : s.composeManifests id channel = .ok told) :
    ∃ finalize chain, s.Imports id channel finalize chain ∧
      List.Forall₂ s.ShowsManifest chain.builds told.manifests := by
  have asked : s.composeKind id = .ok .kojiFinalize := kind ▸ composeKind_of_job found
  rw [composeManifests, asked] at h
  obtain ⟨finalize, chain, imports, h⟩ := imports_bind_eq_ok.1 h
  obtain ⟨manifests, each, h⟩ := Except.bind_ok h
  cases h
  refine ⟨finalize, chain, imports, (Except.mapM_ok each).imp fun b m read => ?_⟩
  obtain ⟨build, build_read, told⟩ := Except.bind_ok read
  exact ⟨build, kojiBuild_eq_ok.1 build_read, manifest_eq_ok.1 told⟩

/-! ## The views together -/

/-- The views of a compose in Koji line up: each of them has an entry for each build, in their order
and as often as the import waits for it. -/
structure ViewsLineUp (s : Snapshot) (id : Uuid) (channel : String) (init : Uuid)
    (builds : List Uuid) : Prop where
  /-- If the status is told, so are the logs. -/
  logs_of_status : ∀ told, s.composeStatus id channel = .ok told →
    ∃ logs, s.composeLogs id channel = .ok logs
  /-- The status shows the image of each build, and the first of them also on its own. -/
  status : ∀ told, s.composeStatus id channel = .ok told →
    ∃ (opened : JobInfo KojiInitResult) (images : List ImageStatus),
      s.jobInfo init = .ok opened ∧ told.imageStatuses = some images ∧
      List.Forall₂ (s.ShowsImage opened.result) builds images ∧
      images.head? = some told.imageStatus
  /-- The logs show those of each build, and apart from them those of the other two jobs. -/
  logs : ∀ told, s.composeLogs id channel = .ok told →
    List.Forall₂ s.ShowsLog builds told.imageBuilds ∧
    ∃ opened imported, told.koji = some ⟨opened, imported⟩ ∧ s.ShowsLog init opened ∧
      s.ShowsLog id imported
  /-- The manifests are those of each build. -/
  manifests : ∀ told, s.composeManifests id channel = .ok told →
    List.Forall₂ s.ShowsManifest builds told.manifests

/-- **The views of a compose in Koji line up.** In any store, what the status, the logs and the
manifests of an import tell are the entries of the builds that it waits for, one for each of them in
their order, also if it waits for a build more than once. If its status can be told, so can its
logs. -/
theorem koji_views_line_up (found : s.job id = .ok r) (kind : r.kind = .kojiFinalize)
    (waits : r.dependencies = init :: builds) (channel : String) :
    s.ViewsLineUp id channel init builds where
  logs_of_status told h := by
    obtain ⟨finalize, chain, imports, opened, _, _, read, each, -⟩ :=
      (composeStatus_koji_iff found kind).1 h
    obtain ⟨builds, builds_read⟩ := builds_of_images each
    exact ⟨_, (composeLogs_koji_iff found kind).2
      ⟨finalize, chain, imports, opened, builds, read, builds_read, rfl⟩⟩
  status told h := by
    obtain ⟨finalize, chain, imports, opened, first, rest, read, each, rfl⟩ :=
      (composeStatus_koji_iff found kind).1 h
    obtain ⟨rfl, rfl⟩ := imports.of_record found waits
    refine ⟨opened, _, read, rfl, ?_, rfl⟩
    exact List.forall₂_map_right_iff.2 (each.imp fun _ _ => kojiImage_shows)
  logs told h := by
    obtain ⟨finalize, chain, imports, opened, logs, read, each, rfl⟩ :=
      (composeLogs_koji_iff found kind).1 h
    obtain ⟨rfl, rfl⟩ := imports.of_record found waits
    refine ⟨List.forall₂_map_right_iff.2 (each.imp fun _ _ => showsLog_of_jobInfo), ?_⟩
    exact ⟨_, _, rfl, showsLog_of_jobInfo read, showsLog_of_jobInfo imports.read⟩
  manifests told h := by
    obtain ⟨finalize, chain, imports, each⟩ := composeManifests_koji found kind h
    obtain ⟨rfl, rfl⟩ := imports.of_record found waits
    exact each

/-- An import of three images, two of which come from the same build. The other build has not
finished. -/
def repeatedImport : Snapshot :=
  let record (kind : JobKind) (waits : List Nat) (args : Json) (result : Option Json) :
      Except StoreError JobRecord :=
    .ok ⟨kind, "own", args, result, {}, waits.map .ofNat, []⟩
  let held (manifest : String) : Json := .obj [("manifest", .str manifest)]
  ⟨[(.ofNat 0, record .kojiFinalize [1, 2, 3, 2] .null none),
    (.ofNat 1, record .kojiInit [] .null (some (.obj []))),
    (.ofNat 2, record .osbuild [1] (held "repeated") (some (.obj [("success", .bool true)]))),
    (.ofNat 3, record .osbuild [1] (held "other") none)]⟩

/-- Each view of it has three entries. In the logs the first and the last are those of that
build. -/
theorem koji_views_of_repeatedImport :
    ∃ told images logs manifests, repeatedImport.composeStatus (.ofNat 0) "own" = .ok told ∧
      told.imageStatuses = some images ∧ images.length = 3 ∧
      repeatedImport.composeLogs (.ofNat 0) "own" = .ok logs ∧
      logs.imageBuilds = [.obj [("success", .bool true)], .null, .obj [("success", .bool true)]] ∧
      repeatedImport.composeManifests (.ofNat 0) "own" = .ok manifests ∧
      manifests.manifests.length = 3 := by
  have lines : repeatedImport.ViewsLineUp (.ofNat 0) "own" (.ofNat 1)
      [.ofNat 2, .ofNat 3, .ofNat 2] := koji_views_line_up rfl rfl rfl "own"
  obtain ⟨told, status, -⟩ := told_of_status
    (by decide +kernel : (repeatedImport.composeStatus (.ofNat 0) "own").toOption.map (·.status) =
      some .pending)
  obtain ⟨logs, logs_told⟩ := lines.logs_of_status told status
  obtain ⟨manifests, manifests_told⟩ : ∃ manifests,
      repeatedImport.composeManifests (.ofNat 0) "own" = .ok manifests := ⟨_, rfl⟩
  obtain ⟨_, images, -, all, each, -⟩ := lines.status told status
  refine ⟨told, images, logs, manifests, status, all, each.length_eq.symm, logs_told, ?_,
    manifests_told, (lines.manifests manifests manifests_told).length_eq.symm⟩
  obtain ⟨each, -⟩ := lines.logs logs logs_told
  generalize logs.imageBuilds = entries at each
  obtain _ | ⟨⟨_, first, rfl⟩, _ | ⟨⟨_, second, rfl⟩, _ | ⟨⟨_, third, rfl⟩, ⟨⟩⟩⟩⟩ := each
  cases first
  cases second
  cases third
  rfl

end Snapshot

end ImageCompose
