import ImageCompose.Proofs.Compose.TargetResults
import ImageCompose.Proofs.Graph.Reachable
import ImageCompose.Proofs.Service.Search
import ImageCompose.Proofs.Store.Reported
import ImageCompose.Service.Logs
import ImageCompose.Service.Status

/-!
# Composes are readable

Reading a compose can fail in many ways: a job may be missing, of the wrong kind or undecodable, a
chain too short, a manifest not to be found. In a store with a job graph whose results are reports,
none of this happens for a build or an import. The status fails only if a build reports a target
that has no upload status, and then it names that target (`Store.composeStatus_readable`); logs and
manifests are always there (`Store.composeLogs_readable`, `Store.composeManifests_readable`).

As both properties hold of every reachable store and the graph only grows, a compose stays readable
from its submission on (`Store.submitted_readable`).
-/

namespace ImageCompose

/-! ## Deliveries -/

/-- The deliveries of a build are told unless it reports an unknown target. -/
theorem uploadStatuses_cases (results : List TargetResult) (status : UploadStatusValue) :
    (∃ uploads, uploadStatuses results status = .ok uploads) ∨
      ∃ name options, .unknown name options ∈ results ∧
        uploadStatuses results status = .error (.unknownUploadTarget name) := by
  cases told : uploadStatuses results status with
  | ok uploads => exact .inl ⟨uploads, rfl⟩
  | error e =>
    obtain ⟨name, rfl, before, options, after, rfl, -⟩ := uploadStatuses_eq_error_iff.1 told
    exact .inr ⟨name, options, List.mem_append_right _ (List.mem_cons_self ..), rfl⟩

/-- The status of an image is told if the errors behind it can be read, unless its build reports an
unknown target. -/
theorem Snapshot.imageStatus_cases {s : Snapshot} {build : JobInfo BuildResult}
    {error : Option JobError} (chain : s.chainError build.id = .ok error)
    (rule : JobStatus → BuildResult → ImageStatusValue) :
    (∃ status, s.imageStatus build rule = .ok status) ∨
      ∃ name options, .unknown name options ∈ build.result.targetResults ∧
        s.imageStatus build rule = .error (.unknownUploadTarget name) := by
  rcases uploadStatuses_cases build.result.targetResults
    (deliveryStatus build.status build.result.jobError) with
    ⟨uploads, told⟩ | ⟨name, options, member, stopped⟩
  · refine .inl ⟨.ofUploads (rule build.status build.result) (error.map .ofJobError) uploads, ?_⟩
    rw [imageStatus, chain]
    simp only [bind, Except.bind, told]
    rfl
  · refine .inr ⟨name, options, member, ?_⟩
    rw [imageStatus, chain]
    simp only [bind, Except.bind, stopped]

/-- There is a manifest for a build whose arguments can be read and that has a manifest among what
it depends on. -/
theorem Snapshot.manifest_ok {s : Snapshot} {build : JobInfo BuildResult} {args : BuildArgs}
    (args_read : build.args = .ok args) {m : Uuid}
    (nearest : s.findDependency build.dependencies .manifestIdOnly = .ok (some m))
    {job : JobInfo ManifestResult} (job_read : s.jobInfo m = .ok job) :
    ∃ manifest, s.manifest build = .ok manifest := by
  simp only [manifest, args_read, nearest, job_read, bind, Except.bind]
  split
  · split <;> exact ⟨_, rfl⟩
  · exact ⟨_, rfl⟩

namespace Store

variable {s : Store}

/-- A build of the store reports a target that has no upload status. -/
def ReportsUnknown (s : Store) (name : String) : Prop :=
  TargetName.ofName? name = none ∧ ∃ j ∈ s.jobs, j.kind = .osbuild ∧
    ∃ v, j.result = some v ∧ ∃ (r : BuildResult) (options : Json), decode? v = some r ∧
      .unknown name options ∈ r.targetResults

/-- What a read of a status may end with: a status, or the name of an unknown target. -/
def Told (s : Store) (answer : Except ServiceError α) : Prop :=
  (∃ status, answer = .ok status) ∨
    ∃ name, s.ReportsUnknown name ∧ answer = .error (.unknownUploadTarget name)

/-! ## Reads of one job and what it depends on -/

/-- The errors behind a job of the graph can be read. -/
theorem Reported.chainError (rep : s.Reported) (g : s.Graph) {id : Uuid} {n : JobNode Uuid}
    (place : s.look id = some n) : ∃ error, s.snapshot.chainError id = .ok error := by
  have step : ∀ x, (∃ m, s.look x = some m) → ∃ r, s.snapshot.job x = .ok r ∧
      (∃ e, Snapshot.ownError x r = .ok e) ∧ ∀ d ∈ r.dependencies, ∃ m, s.look d = some m := by
    rintro x ⟨m, hx⟩
    obtain ⟨j, found, hm⟩ := look_some hx
    obtain ⟨-, -, -, waits⟩ := StoredJob.of_node? hm
    refine ⟨s.record j, snapshot_job_of_find? found, rep.ownError (find?_some found).1 x, ?_⟩
    intro d hd
    exact (g.graph.placed hx).known (waits ▸ hd)
  refine Snapshot.search_ok step fun x hx => ?_
  obtain rfl := List.mem_singleton.1 hx
  exact ⟨n, place⟩

/-- The nearest manifest among what a build depends on is the one it waits for. -/
theorem Graph.findManifest (g : s.Graph) {id : Uuid} {c : String} {a : BuildArgs}
    {deps : List Uuid} (place : s.look id = some ⟨c, .build a, deps⟩) :
    ∃ m am d, s.look m = some ⟨c, .manifest am, d⟩ ∧
      s.snapshot.findDependency deps .manifestIdOnly = .ok (some m) := by
  have visit : ∀ {x : Uuid} {n : JobNode Uuid}, s.look x = some n → ∃ r,
      s.snapshot.job x = .ok r ∧ r.kind = n.args.kind ∧ r.dependencies = n.dependencies := by
    intro x n hx
    obtain ⟨j, found, hn⟩ := look_some hx
    obtain ⟨-, kind, -, waits⟩ := StoredJob.of_node? hn
    exact ⟨s.record j, snapshot_job_of_find? found, kind.symm, waits.symm⟩
  cases g.graph.placed place with
  | build _ manifest =>
    obtain ⟨r, found, kind, -⟩ := visit manifest
    replace kind : r.kind = .manifestIdOnly := kind
    refine ⟨_, _, _, manifest, ?_⟩
    rw [Snapshot.findDependency, Snapshot.search_cons found, if_pos kind]
  | kojiBuild _ init manifest =>
    obtain ⟨ri, found_init, kind_init, waits⟩ := visit init
    obtain ⟨r, found, kind, -⟩ := visit manifest
    replace kind_init : ri.kind = .kojiInit := kind_init
    replace kind : r.kind = .manifestIdOnly := kind
    have other : ri.kind ≠ .manifestIdOnly := by rw [kind_init]; decide
    refine ⟨_, _, _, manifest, ?_⟩
    rw [Snapshot.findDependency, Snapshot.search_cons found_init, if_neg other]
    replace waits : ri.dependencies = [] := waits
    simp only [waits, discover]
    rw [Snapshot.search_cons found, if_pos kind]

/-- A build of the graph can be read, also as one of a compose in Koji, and then its image and its
manifest can. -/
theorem Reported.build (rep : s.Reported) (g : s.Graph) {id : Uuid} {c : String} {a : BuildArgs}
    {deps : List Uuid} (place : s.look id = some ⟨c, .build a, deps⟩) :
    ∃ build : JobInfo BuildResult, s.snapshot.jobInfo id = .ok build ∧
      s.snapshot.kojiBuild id = .ok build ∧ build.channel = c ∧
      (∀ rule, s.Told (s.snapshot.imageStatus build rule)) ∧
      ∃ manifest, s.snapshot.manifest build = .ok manifest := by
  obtain ⟨j, build, read, member, kind, same_id, channel, waits, args, origin⟩ :=
    rep.jobInfo place (rfl : _ = ResultOf.kind BuildResult)
  refine ⟨build, read, ?_, channel, fun rule => ?_, ?_⟩
  · have kind : s.snapshot.referredKind id = .ok .osbuild := referredKind_of_look place
    rw [Snapshot.kojiBuild, kind]
    exact read
  · obtain ⟨error, chain⟩ := rep.chainError g place
    rcases Snapshot.imageStatus_cases (same_id ▸ chain) rule with
      told | ⟨name, options, reported, stopped⟩
    · exact .inl told
    · refine .inr ⟨name, ?_, stopped⟩
      rcases origin with empty | ⟨ms, stored, decoded⟩
      · rw [empty] at reported
        cases reported
      · exact ⟨BuildResult.ofName?_of_unknown decoded reported, j, member, kind, _, stored, _,
          options, decoded, reported⟩
  · obtain ⟨a', decoded, -⟩ := Option.map_eq_some_iff.1 args
    obtain ⟨m, am, d, manifest_place, nearest⟩ := g.findManifest place
    obtain ⟨-, job, job_read, -⟩ :=
      rep.jobInfo manifest_place (rfl : _ = ResultOf.kind ManifestResult)
    have args_read : (build.args : Except ServiceError BuildArgs) = .ok a' := by
      rw [JobInfo.args, decodeStored, decoded]
    exact Snapshot.manifest_ok args_read (waits ▸ nearest) job_read

/-! ## Reads of a compose -/

/-- What is read of an import: the import, the opening of the build, and the builds. -/
theorem Reported.kojiFinalize (rep : s.Reported) (g : s.Graph) {id : Uuid} {c : String}
    {a : KojiFinalizeArgs} {deps : List Uuid}
    (place : s.look id = some ⟨c, .kojiFinalize a, deps⟩) :
    ∃ (finalize : JobInfo KojiFinalizeResult) (chain : KojiChain) (init : JobInfo KojiInitResult),
      s.snapshot.jobInfo id = .ok finalize ∧ finalize.channel = c ∧
      KojiChain.ofFinalize id finalize.dependencies = .ok chain ∧
      s.snapshot.jobInfo chain.init = .ok init ∧
      ∀ b ∈ chain.builds, ∃ ab m, s.look b = some ⟨c, .build ab, [chain.init, m]⟩ := by
  obtain ⟨-, finalize, read, -, -, -, channel, waits, -⟩ :=
    rep.jobInfo place (rfl : _ = ResultOf.kind KojiFinalizeResult)
  cases g.graph.placed place with
  | @kojiFinalize _ _ i ai builds init some_build _ files =>
    obtain ⟨-, init_job, init_read, -⟩ :=
      rep.jobInfo init (rfl : _ = ResultOf.kind KojiInitResult)
    refine ⟨finalize, ⟨id, i, builds, some_build⟩, init_job, read, channel, ?_, init_read, ?_⟩
    · rw [waits]
      cases builds with
      | nil => exact absurd rfl some_build
      | cons => rfl
    · intro b hb
      obtain ⟨ab, m, _, found, -⟩ := JobNode.Placed.build_of_mem files hb
      exact ⟨ab, m, found⟩

variable {id : Uuid} {n : JobNode Uuid} {channel : String}

/-- The status of a compose is told unless a build reports an unknown target. -/
theorem composeStatus_readable (rep : s.Reported) (g : s.Graph) (place : s.look id = some n)
    (compose : n.args.kind = .osbuild ∨ n.args.kind = .kojiFinalize)
    (scope : channel = "" ∨ channel = n.channel) :
    s.Told (s.snapshot.composeStatus id channel) := by
  have kind := composeKind_of_look place
  obtain ⟨c, a, deps⟩ := n
  rcases compose with compose | compose <;> cases a <;> cases compose
  · obtain ⟨build, read, -, rfl, image, -⟩ := rep.build g place
    replace kind : s.snapshot.composeKind id = .ok .osbuild := kind
    simp only [Snapshot.composeStatus, kind, read, JobInfo.ensureChannel_ok scope, bind,
      Except.bind]
    rcases image buildImageStatus with ⟨status, told⟩ | ⟨name, unknown, stopped⟩
    · simp only [told]
      exact .inl ⟨_, rfl⟩
    · simp only [stopped]
      exact .inr ⟨name, unknown, rfl⟩
  · obtain ⟨finalize, chain, init, read, rfl, chained, init_read, builds⟩ :=
      rep.kojiFinalize g place
    replace kind : s.snapshot.composeKind id = .ok .kojiFinalize := kind
    simp only [Snapshot.composeStatus, kind, read, JobInfo.ensureChannel_ok scope, chained,
      init_read, bind, Except.bind]
    have images : ∀ b ∈ chain.builds, s.Told (s.snapshot.kojiImage init.result b) := by
      intro b hb
      obtain ⟨ab, m, build_place⟩ := builds b hb
      obtain ⟨build, build_read, -, -, image, -⟩ := rep.build g build_place
      simp only [Snapshot.kojiImage, build_read, bind, Except.bind]
      rcases image fun status result => kojiImageStatus status init.result result with
        ⟨status, told⟩ | ⟨name, unknown, stopped⟩
      · simp only [told]
        exact .inl ⟨_, rfl⟩
      · simp only [stopped]
        exact .inr ⟨name, unknown, rfl⟩
    generalize all : chain.builds.mapM (s.snapshot.kojiImage init.result) = answer
    rcases Except.mapM_cases all with ⟨told, rfl, each⟩ | ⟨e, rfl, b, hb, failed⟩
    -- A chain has builds, so at least one image is told.
    · obtain ⟨first, rest, rfl⟩ := List.exists_cons_of_ne_nil (fun none_told : told = [] =>
        chain.builds_ne_nil (List.length_eq_zero_iff.1 (by rw [each.length_eq, none_told]; rfl)))
      exact .inl ⟨_, rfl⟩
    · rcases images b hb with ⟨_, told⟩ | ⟨name, unknown, other⟩
      · rw [failed] at told
        cases told
      · rw [failed] at other
        cases other
        exact .inr ⟨name, unknown, rfl⟩

/-- The logs of a compose are told. -/
theorem composeLogs_readable (rep : s.Reported) (g : s.Graph) (place : s.look id = some n)
    (compose : n.args.kind = .osbuild ∨ n.args.kind = .kojiFinalize)
    (scope : channel = "" ∨ channel = n.channel) :
    ∃ logs, s.snapshot.composeLogs id channel = .ok logs := by
  have kind := composeKind_of_look place
  obtain ⟨c, a, deps⟩ := n
  rcases compose with compose | compose <;> cases a <;> cases compose
  · obtain ⟨build, read, -, rfl, -⟩ := rep.build g place
    replace kind : s.snapshot.composeKind id = .ok .osbuild := kind
    simp only [Snapshot.composeLogs, kind, read, JobInfo.ensureChannel_ok scope, bind, Except.bind]
    exact ⟨_, rfl⟩
  · obtain ⟨finalize, chain, init, read, rfl, chained, init_read, builds⟩ :=
      rep.kojiFinalize g place
    replace kind : s.snapshot.composeKind id = .ok .kojiFinalize := kind
    obtain ⟨jobs, all⟩ := Except.mapM_ok_of_forall (f := s.snapshot.kojiBuild) fun b hb => by
      obtain ⟨ab, m, build_place⟩ := builds b hb
      obtain ⟨build, -, build_read, -⟩ := rep.build g build_place
      exact ⟨build, build_read⟩
    simp only [Snapshot.composeLogs, kind, read, JobInfo.ensureChannel_ok scope, chained, init_read,
      all, bind, Except.bind]
    exact ⟨_, rfl⟩

/-- The manifests of a compose are told. -/
theorem composeManifests_readable (rep : s.Reported) (g : s.Graph) (place : s.look id = some n)
    (compose : n.args.kind = .osbuild ∨ n.args.kind = .kojiFinalize)
    (scope : channel = "" ∨ channel = n.channel) :
    ∃ manifests, s.snapshot.composeManifests id channel = .ok manifests := by
  have kind := composeKind_of_look place
  obtain ⟨c, a, deps⟩ := n
  rcases compose with compose | compose <;> cases a <;> cases compose
  · obtain ⟨build, read, -, rfl, -, manifest, told⟩ := rep.build g place
    replace kind : s.snapshot.composeKind id = .ok .osbuild := kind
    simp only [Snapshot.composeManifests, kind, read, JobInfo.ensureChannel_ok scope, told, bind,
      Except.bind]
    exact ⟨_, rfl⟩
  · obtain ⟨finalize, chain, init, read, rfl, chained, init_read, builds⟩ :=
      rep.kojiFinalize g place
    replace kind : s.snapshot.composeKind id = .ok .kojiFinalize := kind
    obtain ⟨manifests, all⟩ := Except.mapM_ok_of_forall
      (f := fun build => do s.snapshot.manifest (← s.snapshot.kojiBuild build)) fun b hb => by
        obtain ⟨ab, m, build_place⟩ := builds b hb
        obtain ⟨build, -, build_read, -, -, manifest, told⟩ := rep.build g build_place
        exact ⟨manifest, by rw [build_read]; exact told⟩
    simp only [Snapshot.composeManifests, kind, read, JobInfo.ensureChannel_ok scope, chained,
      bind, Except.bind] at all ⊢
    simp only [all]
    exact ⟨_, rfl⟩

/-! ## Composes that were submitted -/

/-- From its submission on, whatever else is requested and in whatever order workers start, cancel
and finish jobs with results that decode, a compose can be read on its own tenant channel and
without one: logs and manifests are told, and so is the status unless a build of the store reports a
target that no target has the name of, which is then the error. -/
theorem submitted_readable {s₀ s₁ : Store} {config : Config} {request : ComposeRequest}
    {fresh : Fresh} {submitted : String} {answer : ComposeId}
    (before : Reachable StoredJob.ReportsResult s₀)
    (run : (submitCompose config request fresh submitted).Runs s₀ (.ok answer) s₁)
    (later : Steps StoredJob.ReportsResult s₁ s)
    (scope : channel = "" ∨ channel = submitted) :
    s.Told (s.snapshot.composeStatus answer.reference.id channel) ∧
      (∃ logs, s.snapshot.composeLogs answer.reference.id channel = .ok logs) ∧
      ∃ manifests, s.snapshot.composeManifests answer.reference.id channel = .ok manifests := by
  obtain ⟨-, followed⟩ := submitCompose_runs before.graph run
  obtain ⟨n, place, rfl, compose⟩ := followed answer rfl
  have reached : Reachable StoredJob.ReportsResult s :=
    (before.steps (.single (.submit run))).steps later
  have rep := reached.reported
  have place := later.look place
  exact ⟨composeStatus_readable rep reached.graph place compose scope,
    composeLogs_readable rep reached.graph place compose scope,
    composeManifests_readable rep reached.graph place compose scope⟩

/-- Every kind of job may report the empty object. -/
theorem reportsResult_empty (j : StoredJob) : j.ReportsResult (.obj []) := by
  refine ⟨⟨[], rfl⟩, ?_⟩
  cases j.kind <;> exact ⟨_, rfl⟩

/-- A compose in Koji can be read once its first job was started and has finished. -/
theorem readable_kojiStore :
    ∃ answer : ComposeId, (submitCompose {} kojiRequest (.ofRandom 0 0) "tenant").Runs {}
        (.ok answer) kojiStore ∧
      let s := (kojiStore.start (Fresh.jobIds 0 0) (.ofSeconds 1)).finish (Fresh.jobIds 0 0)
        (.obj []) (.ofSeconds 2)
      s.Told (s.snapshot.composeStatus answer.reference.id "tenant") ∧
        (∃ logs, s.snapshot.composeLogs answer.reference.id "tenant" = .ok logs) ∧
        ∃ manifests, s.snapshot.composeManifests answer.reference.id "tenant" = .ok manifests := by
  have run : (submitCompose {} kojiRequest (.ofRandom 0 0) "tenant").Runs {}
      (.ok ⟨.at_ "/compose" (Fresh.jobIds 0 5) "ComposeId"⟩) kojiStore :=
    StoreProgram.runs_run (Fresh.jobIds 0) (.ofSeconds 0) _ {} (by decide +kernel)
  refine ⟨_, run, submitted_readable .refl run ?_ (.inr rfl)⟩
  exact .tail (.single (.start _ _)) (.finish _ fun j _ _ => reportsResult_empty j)

end Store

end ImageCompose
