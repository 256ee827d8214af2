import ImageCompose.Proofs.Compose.Told
import ImageCompose.Proofs.Graph.Reachable
import ImageCompose.Proofs.Service.Readers
import ImageCompose.Proofs.Service.Search
import ImageCompose.Proofs.Store.Reported

/-!
# Which error an image is told

The error of an image is found by a search that knows nothing of composes. In a store with a job
graph it can only come to three jobs: the build, the opening of the build in Koji if there is one,
and the manifest (`ImageJobs`), and it comes to them in this order. So the error of the image is
that of its build, or else that of the opening, or else that of its manifest (`ImageJobs.error`),
each as the result of that job is read for itself.

As no two builds share a manifest, nothing of this is behind another image, except for the opening,
which is behind all images of its compose. `Store.submitted_attributes` says so of every compose
that was submitted.
-/

namespace ImageCompose

/-- The jobs behind an image. -/
structure ImageJobs where
  build : JobInfo BuildResult
  /-- The job that opens the build in Koji, if the image is imported there. -/
  init : Option (JobInfo KojiInitResult)
  manifest : JobInfo ManifestResult

namespace ImageJobs

/-- The error of an image: that of the build, or else of the opening, or else of the manifest. -/
def error (jobs : ImageJobs) : Option JobError :=
  jobs.build.result.jobError.or
    ((jobs.init.bind (·.result.jobError)).or jobs.manifest.result.jobError)

/-- The jobs that are only behind this image. -/
def own (jobs : ImageJobs) : List Uuid := [jobs.build.id, jobs.manifest.id]

/-- All jobs behind the image. -/
def behind (jobs : ImageJobs) : List Uuid := jobs.own ++ (jobs.init.map (·.id)).toList

/-- The jobs are read from the store, and the build waits for the others. -/
structure Of (s : Snapshot) (jobs : ImageJobs) : Prop where
  build : s.jobInfo jobs.build.id = .ok jobs.build
  init : ∀ init, jobs.init = some init → s.jobInfo init.id = .ok init
  manifest : s.jobInfo jobs.manifest.id = .ok jobs.manifest
  waits : jobs.build.dependencies = (jobs.init.map (·.id)).toList ++ [jobs.manifest.id]

end ImageJobs

namespace Snapshot

variable {s : Snapshot} {id : Uuid}

/-- A search for an error that comes to a job ends with its error, or with what it finds later. -/
theorem search_ownError {seen queue : List Uuid} {r : JobRecord} {error later : Option JobError}
    (found : s.job id = .ok r) (own : ownError id r = .ok error)
    (rest : s.search ownError (discover seen queue r.dependencies).1
      (discover seen queue r.dependencies).2 = .ok later) :
    s.search ownError seen (id :: queue) = .ok (error.or later) := by
  rw [search_cons found]
  simp only [own]
  cases error with
  | none => exact rest
  | some e => rfl

end Snapshot

namespace Store

variable {s : Store} {id : Uuid}

/-! ## The error of one image -/

/-- What is reported is an object. -/
theorem Reported.holdsObject {ρ : Type} [ResultOf ρ] (rep : s.Reported) {job : JobInfo ρ}
    (read : s.snapshot.jobInfo id = .ok job) : job.HoldsObject := by
  obtain ⟨r, found, -, result, rfl⟩ := Snapshot.jobInfo_ok read
  intro v stored
  obtain ⟨j, is_found, rfl⟩ := find?_of_snapshot_job found
  exact (rep j (find?_some is_found).1 v stored).1

/-- A search that comes to a job that was read ends with its error, or with what it finds later. -/
theorem Reported.search_ownError {ρ : Type} [ResultOf ρ] [LawfulResult ρ] (rep : s.Reported)
    {job : JobInfo ρ} (read : s.snapshot.jobInfo id = .ok job) {seen queue : List Uuid}
    {later : Option JobError}
    (rest : s.snapshot.search Snapshot.ownError (discover seen queue job.dependencies).1
      (discover seen queue job.dependencies).2 = .ok later) :
    s.snapshot.search Snapshot.ownError seen (id :: queue) =
      .ok ((ResultOf.jobError job.result).or later) := by
  obtain ⟨r, found, waits, own⟩ := Snapshot.ownError_of_jobInfo read (rep.holdsObject read)
  exact Snapshot.search_ownError found own (waits ▸ rest)

/-- A search ends with the error of the last job that it comes to. -/
theorem Reported.search_ownError_last {ρ : Type} [ResultOf ρ] [LawfulResult ρ] (rep : s.Reported)
    {job : JobInfo ρ} (read : s.snapshot.jobInfo id = .ok job) {seen : List Uuid}
    (known : ∀ d ∈ job.dependencies, d ∈ seen) :
    s.snapshot.search Snapshot.ownError seen [id] = .ok (ResultOf.jobError job.result) := by
  have nothing_left : s.snapshot.search Snapshot.ownError (discover seen [] job.dependencies).1
      (discover seen [] job.dependencies).2 = .ok none := by
    rw [discover_known known]
    exact Snapshot.search_nil _
  have last := rep.search_ownError read nothing_left
  rwa [Option.or_none] at last

/-- Behind an image on its own are its build and its manifest. -/
theorem Reported.image_alone (rep : s.Reported) {c : String} {a : BuildArgs} {m : Uuid}
    {am : ManifestArgs} (place : s.look id = some ⟨c, .build a, [m]⟩)
    (manifest_place : s.look m = some ⟨c, .manifest am, []⟩) :
    ∃ jobs : ImageJobs, jobs.build.id = id ∧ jobs.init = none ∧ jobs.Of s.snapshot ∧
      s.snapshot.chainError id = .ok jobs.error := by
  obtain ⟨-, build, build_read, -, -, rfl, -, waits, -⟩ :=
    rep.jobInfo place (rfl : _ = ResultOf.kind BuildResult)
  obtain ⟨-, manifest, manifest_read, -, -, rfl, -, manifest_waits, -⟩ :=
    rep.jobInfo manifest_place (rfl : _ = ResultOf.kind ManifestResult)
  refine ⟨⟨build, none, manifest⟩, rfl, rfl, ⟨build_read, nofun, manifest_read, waits⟩, ?_⟩
  have other : manifest.id ≠ build.id := fun same => by
    rw [same, place] at manifest_place
    cases manifest_place
  refine rep.search_ownError build_read ?_
  rw [waits]
  simp only [discover, List.mem_singleton, other]
  exact rep.search_ownError_last manifest_read (by simp [manifest_waits])

/-- Behind an image for Koji are its build, the opening of the build there, and its manifest. -/
theorem Reported.image_koji (rep : s.Reported) {c : String} {a : BuildArgs} {i m : Uuid}
    {ai : KojiInitArgs} {am : ManifestArgs} {init : JobInfo KojiInitResult}
    (place : s.look id = some ⟨c, .build a, [i, m]⟩)
    (init_place : s.look i = some ⟨c, .kojiInit ai, []⟩)
    (init_read : s.snapshot.jobInfo i = .ok init)
    (manifest_place : s.look m = some ⟨c, .manifest am, [i]⟩) :
    ∃ jobs : ImageJobs, jobs.build.id = id ∧ jobs.init = some init ∧ jobs.Of s.snapshot ∧
      s.snapshot.chainError id = .ok jobs.error := by
  obtain ⟨-, build, build_read, -, -, rfl, -, waits, -⟩ :=
    rep.jobInfo place (rfl : _ = ResultOf.kind BuildResult)
  obtain ⟨-, manifest, manifest_read, -, -, rfl, -, manifest_waits, -⟩ :=
    rep.jobInfo manifest_place (rfl : _ = ResultOf.kind ManifestResult)
  obtain ⟨-, init', init_read', -, -, rfl, -, init_waits, -⟩ :=
    rep.jobInfo init_place (rfl : _ = ResultOf.kind KojiInitResult)
  cases init_read.symm.trans init_read'
  refine ⟨⟨build, some init, manifest⟩, rfl, rfl,
    ⟨build_read, fun _ e => Option.some.inj e ▸ init_read, manifest_read, waits⟩, ?_⟩
  have init_other : init.id ≠ build.id := fun same => by
    rw [same, place] at init_place
    cases init_place
  have manifest_other : manifest.id ≠ build.id := fun same => by
    rw [same, place] at manifest_place
    cases manifest_place
  have manifest_not_init : manifest.id ≠ init.id := fun same => by
    rw [same, init_place] at manifest_place
    cases manifest_place
  refine rep.search_ownError build_read ?_
  rw [waits]
  simp only [discover, List.mem_cons, List.not_mem_nil, init_other, manifest_other,
    manifest_not_init, or_self, if_false, List.nil_append, List.singleton_append]
  refine rep.search_ownError init_read ?_
  rw [init_waits]
  simp only [discover]
  exact rep.search_ownError_last manifest_read (by simp [manifest_waits])

/-! ## The images of a compose -/

/-- A job that is read is stored as it is read. -/
theorem stored_of_jobInfo {ρ : Type} [ResultOf ρ] {job : JobInfo ρ}
    (read : s.snapshot.jobInfo id = .ok job) : ∃ j ∈ s.jobs, j.id = id ∧
      j.kind = ResultOf.kind ρ ∧ j.dependencies = job.dependencies := by
  obtain ⟨r, found, kind, _, rfl⟩ := Snapshot.jobInfo_ok read
  obtain ⟨j, is_found, rfl⟩ := find?_of_snapshot_job found
  obtain ⟨member, same⟩ := find?_some is_found
  exact ⟨j, member, same, kind, rfl⟩

/-- A build and its manifest are not behind the image of another build. -/
theorem Graph.own_disjoint (g : s.Graph) {jobs other : ImageJobs} (h : jobs.Of s.snapshot)
    (h' : other.Of s.snapshot) (distinct : jobs.build.id ≠ other.build.id) :
    jobs.own.Disjoint other.behind := by
  have manifests : jobs.manifest.id ≠ other.manifest.id := fun same => by
    obtain ⟨b, hb, b_id, -, b_waits⟩ := stored_of_jobInfo h.build
    obtain ⟨b', hb', b_id', -, b_waits'⟩ := stored_of_jobInfo h'.build
    obtain ⟨m, hm, m_id, kind, -⟩ := stored_of_jobInfo h.manifest
    have one : b = b' := by
      refine g.once hm hb hb' ?_ ?_ (.inl kind) (.inl kind)
      · rw [m_id, b_waits, h.waits]
        exact List.mem_append_right _ (List.mem_singleton_self _)
      · rw [m_id, same, b_waits', h'.waits]
        exact List.mem_append_right _ (List.mem_singleton_self _)
    exact distinct (b_id ▸ b_id' ▸ congrArg _ one)
  have crossed := Snapshot.id_ne_of_kind_ne (by decide) h.build h'.manifest
  have crossed' := Snapshot.id_ne_of_kind_ne (by decide) h.manifest h'.build
  rw [ImageJobs.behind, List.disjoint_append_right]
  constructor
  · simp [ImageJobs.own, List.disjoint_left, distinct, manifests, crossed, crossed']
  · cases opened : other.init with
    | none => simp
    | some init =>
      have init_build := Snapshot.id_ne_of_kind_ne (by decide) (h'.init init opened) h.build
      have init_manifest := Snapshot.id_ne_of_kind_ne (by decide) (h'.init init opened) h.manifest
      simp [ImageJobs.own, init_build, init_manifest]

/-- The errors of images for Koji are those of the jobs behind them. -/
theorem Reported.images_koji (rep : s.Reported) (g : s.Graph) {c : String} {i : Uuid}
    {init : JobInfo KojiInitResult} (init_read : s.snapshot.jobInfo i = .ok init)
    {builds : List Uuid} {images : List (ImageStatus × BuildResult)}
    (told : List.Forall₂ (fun b image => s.snapshot.kojiImage init.result b = .ok image)
      builds images)
    (placed : ∀ b ∈ builds, ∃ a m, s.look b = some ⟨c, .build a, [i, m]⟩) :
    ∃ all : List ImageJobs, all.map (·.build.id) = builds ∧
      (∀ jobs ∈ all, jobs.Of s.snapshot ∧ jobs.init = some init) ∧
      images.map (·.1.error) = all.map fun jobs => jobs.error.map .ofJobError := by
  induction told with
  | nil => exact ⟨[], rfl, fun _ h => absurd h List.not_mem_nil, rfl⟩
  | @cons b image builds images first _ ih =>
    rw [List.forall_mem_cons] at placed
    obtain ⟨all, rfl, each, errors⟩ := ih placed.2
    obtain ⟨a, m, place⟩ := placed.1
    cases g.graph.placed place with
    | kojiBuild _ init_place manifest_place =>
      obtain ⟨jobs, rfl, opened, of, behind⟩ :=
        rep.image_koji place init_place init_read manifest_place
      refine ⟨jobs :: all, rfl, List.forall_mem_cons.2 ⟨⟨of, opened⟩, each⟩, ?_⟩
      rw [List.map_cons, List.map_cons, errors, Snapshot.kojiImage_error first behind]

end Store

/-- What is told of the images of a compose is told from the jobs behind them, which are those of
different builds. -/
structure ComposeStatus.TellsOf (told : ComposeStatus) (s : Snapshot) (images : List ImageJobs) :
    Prop where
  /-- The image that is told first is the one that is told alone. -/
  first : told.images.head? = some told.imageStatus
  errors : told.images.map (·.error) = images.map fun jobs => jobs.error.map .ofJobError
  jobs : ∀ jobs ∈ images, jobs.Of s
  distinct : (images.map (·.build.id)).Nodup
  /-- The build and the manifest of an image are behind no other one, be it of this compose or
  not. -/
  apart : ∀ jobs ∈ images, ∀ other : ImageJobs, other.Of s → jobs.build.id ≠ other.build.id →
    jobs.own.Disjoint other.behind

namespace Store

variable {s : Store} {id : Uuid} {channel : String} {told : ComposeStatus}

/-- The error of a compose on its own is the one behind its image. -/
theorem Reported.tellsOf_alone (rep : s.Reported) (g : s.Graph) {c : String} {a : BuildArgs}
    {m : Uuid} (place : s.look id = some ⟨c, .build a, [m]⟩)
    (tells : s.snapshot.composeStatus id channel = .ok told) :
    ∃ jobs : ImageJobs, jobs.build.id = id ∧ jobs.init = none ∧ told.TellsOf s.snapshot [jobs] := by
  cases g.graph.placed place with
  | build _ manifest_place =>
    obtain ⟨jobs, same, alone, of, behind⟩ := rep.image_alone place manifest_place
    cases Snapshot.composeStatus_ok tells with
    | build read _ image no_more =>
      have one : told.images = [told.imageStatus] := by rw [ComposeStatus.images, no_more]; rfl
      obtain ⟨_, -, -, _, rfl⟩ := Snapshot.jobInfo_ok read
      refine ⟨jobs, same, alone, ?_⟩
      constructor
      case first => rw [one]; rfl
      case errors =>
        rw [one, List.map_singleton, List.map_singleton, Snapshot.imageStatus_error image behind]
      case jobs => exact fun _ member => List.mem_singleton.1 member ▸ of
      case distinct => exact List.nodup_singleton _
      case apart => exact fun _ member _ => List.mem_singleton.1 member ▸ g.own_disjoint of
    | koji read =>
      obtain ⟨-, _, read', -⟩ := rep.jobInfo place (rfl : _ = ResultOf.kind BuildResult)
      cases Snapshot.kind_unique read read'

/-- The errors of a compose for Koji are those behind its images, in the order of its builds. -/
theorem Reported.tellsOf_koji (rep : s.Reported) (g : s.Graph) {c : String} {a : KojiFinalizeArgs}
    {waits : List Uuid} (place : s.look id = some ⟨c, .kojiFinalize a, waits⟩)
    (tells : s.snapshot.composeStatus id channel = .ok told) :
    ∃ (finalize : JobInfo KojiFinalizeResult) (init : JobInfo KojiInitResult)
      (images : List ImageJobs), s.snapshot.jobInfo id = .ok finalize ∧
      finalize.dependencies = init.id :: images.map (·.build.id) ∧
      (∀ jobs ∈ images, jobs.init = some init) ∧ told.TellsOf s.snapshot images := by
  obtain ⟨-, finalize, read, -, -, -, -, depends, -⟩ :=
    rep.jobInfo place (rfl : _ = ResultOf.kind KojiFinalizeResult)
  cases Snapshot.composeStatus_ok tells with
  | build read' => cases Snapshot.kind_unique read read'
  | @koji _ chain init images read' chained init_read each _ first all =>
    cases read.symm.trans read'
    cases g.graph.placed place with
    | @kojiFinalize _ _ i ai builds _ some_build distinct files =>
      rw [depends, KojiChain.ofFinalize_cons some_build] at chained
      cases chained
      obtain ⟨jobs, rfl, behind, errors⟩ := rep.images_koji g init_read (Except.mapM_ok each)
        fun b hb => by
          obtain ⟨ab, m, -, found, -⟩ := JobNode.Placed.build_of_mem files hb
          exact ⟨ab, m, found⟩
      have shown : told.images = images.map (·.1) := by rw [ComposeStatus.images, all]; rfl
      obtain ⟨_, -, -, _, rfl⟩ := Snapshot.jobInfo_ok init_read
      refine ⟨finalize, _, jobs, read, depends, fun _ member => (behind _ member).2, ?_⟩
      constructor
      case first => rw [shown, first]
      case errors => rw [shown, List.map_map, ← errors]; rfl
      case jobs => exact fun _ member => (behind _ member).1
      case distinct => exact distinct
      case apart => exact fun _ member _ => g.own_disjoint (behind _ member).1

/-- **Failures are told of the right image.** Whatever else is requested and whatever workers report
that decodes, if the status of a compose that was submitted is told, each of its images is told the
error of its own build, or else, for Koji, that of the job that opens the build there, or else that
of its own manifest. Only the opening is behind several images. -/
theorem submitted_attributes {s₀ s₁ : Store} {config : Config} {request : ComposeRequest}
    {fresh : Fresh} {submitted : String} {answer : ComposeId}
    (before : Reachable StoredJob.ReportsResult s₀)
    (run : (submitCompose config request fresh submitted).Runs s₀ (.ok answer) s₁)
    (later : Steps StoredJob.ReportsResult s₁ s)
    (tells : s.snapshot.composeStatus answer.reference.id channel = .ok told) :
    match request.koji with
    | none => ∃ jobs : ImageJobs, jobs.build.id = answer.reference.id ∧ jobs.init = none ∧
        told.TellsOf s.snapshot [jobs]
    | some _ => ∃ (finalize : JobInfo KojiFinalizeResult) (init : JobInfo KojiInitResult)
        (images : List ImageJobs), s.snapshot.jobInfo answer.reference.id = .ok finalize ∧
        finalize.dependencies = init.id :: images.map (·.build.id) ∧
        (∀ jobs ∈ images, jobs.init = some init) ∧ told.TellsOf s.snapshot images := by
  have reached : Reachable StoredJob.ReportsResult s :=
    (before.steps (.single (.submit run))).steps later
  rcases submitCompose_follows before.graph run with
    ⟨alone, _, _, place⟩ | ⟨into_koji, _, _, place⟩
  · rw [alone]
    exact reached.reported.tellsOf_alone reached.graph (later.look place) tells
  · obtain ⟨koji, asked⟩ := Option.isSome_iff_exists.1 into_koji
    rw [asked]
    exact reached.reported.tellsOf_koji reached.graph (later.look place) tells

/-- What a job of any kind reports if it failed. -/
def failure (reason : String) : Json :=
  .obj [("job_error", .obj [("id", .nat 10), ("reason", .str reason)])]

/-- A failure can be reported of a job of any kind. -/
theorem reportsResult_failure (reason : String) (j : StoredJob) :
    j.ReportsResult (failure reason) := by
  refine ⟨⟨_, rfl⟩, ?_⟩
  cases j.kind <;> exact ⟨_, rfl⟩

/-- A compose for Koji in which the opening, the first build and the second manifest failed. -/
def failedStore : Store :=
  ((kojiStore.finish (Fresh.jobIds 0 0) (failure "login denied") (.ofSeconds 1)).finish
    (Fresh.jobIds 0 2) (failure "no space left") (.ofSeconds 2)).finish
    (Fresh.jobIds 0 3) (failure "no such package") (.ofSeconds 3)

/-- The first image is told that its build failed, and the second one that the opening did, though
its manifest failed too. -/
theorem submitted_attributes_failedStore :
    ∃ (told : ComposeStatus) (init : JobInfo KojiInitResult) (images : List ImageJobs),
      failedStore.snapshot.composeStatus (Fresh.jobIds 0 5) "tenant" = .ok told ∧
      told.TellsOf failedStore.snapshot images ∧ (∀ jobs ∈ images, jobs.init = some init) ∧
      told.images.map (fun image => image.error.map (·.reason)) =
        [some "no space left", some "login denied"] := by
  have run : (submitCompose {} kojiRequest (.ofRandom 0 0) "tenant").Runs {}
      (.ok ⟨.at_ "/compose" (Fresh.jobIds 0 5) "ComposeId"⟩) kojiStore :=
    StoreProgram.runs_run (Fresh.jobIds 0) (.ofSeconds 0) _ {} (by decide +kernel)
  have later : Steps StoredJob.ReportsResult kojiStore failedStore :=
    .tail (.tail (.single (.finish _ fun j _ _ => reportsResult_failure _ j))
      (.finish _ fun j _ _ => reportsResult_failure _ j))
      (.finish _ fun j _ _ => reportsResult_failure _ j)
  have shown : (failedStore.snapshot.composeStatus (Fresh.jobIds 0 5) "tenant").toOption.map
      (fun told => told.images.map fun image => image.error.map (·.reason)) =
        some [some "no space left", some "login denied"] := by decide +kernel
  obtain ⟨told, tells, reasons⟩ := Snapshot.told_of_status shown
  obtain ⟨_, init, images, -, -, opened, tells_of⟩ := submitted_attributes .refl run later tells
  exact ⟨told, init, images, tells, tells_of, opened, reasons⟩

end Store

end ImageCompose
