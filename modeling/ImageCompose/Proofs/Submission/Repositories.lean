import ImageCompose.Proofs.Store.Workload
import ImageCompose.Proofs.Submission.Compiled

/-!
# The repositories of manifest jobs

A repository of a request is turned into one with a single address, the first that is there and not
empty (`Repository.Usable`). A manifest is resolved from the repositories of its image and those of
the payload, which all go through this (`ManifestArgs.Supplied`), so in every run of requests each
manifest job has usable repositories, and they are those of a compose that was requested
(`Workload.After.manifest_supplied`).
-/

namespace ImageCompose

/-! ## Repositories -/

namespace Repository

/-- The addresses that are kept of a repository, of its packages, of its mirrors and of its
metalink: the first that is there and not empty, and no other. -/
inductive KeepsAddress (r : Repository) : List String → Option String → Option String → Prop
  | baseurl {url : String} (given : r.baseurl = some url) (filled : url ≠ "") :
      KeepsAddress r [url] none none
  | mirrorlist {url : String} (first : ¬Given r.baseurl) (given : r.mirrorlist = some url)
      (filled : url ≠ "") : KeepsAddress r [] (some url) none
  | metalink {url : String} (first : ¬Given r.baseurl ∧ ¬Given r.mirrorlist)
      (given : r.metalink = some url) (filled : url ≠ "") : KeepsAddress r [] none (some url)

/-- A repository of a manifest job can be used, and is what was requested for some package sets. -/
structure Usable (r : Repository) (packageSets : List String) (c : RepositoryConfig) : Prop where
  address : r.KeepsAddress c.baseUrls c.mirrorList c.metalink
  /-- Where signatures are checked, there is a key to check them with. -/
  key : c.checkGpg = some true → ∃ key ∈ c.gpgKeys, key ≠ ""
  /-- Every key was requested. -/
  gpgKeys : ∀ key ∈ c.gpgKeys, r.gpgkey = some key
  checkGpg : c.checkGpg = r.checkGpg
  checkRepoGpg : c.checkRepoGpg = r.checkRepoGpg
  ignoreSsl : c.ignoreSsl = r.ignoreSsl
  rhsm : c.rhsm = r.rhsm.getD false
  packageSets : c.packageSets = packageSets

variable {r : Repository} {c : RepositoryConfig}

/-- A repository that can be handed to a manifest job is usable there. -/
theorem usable_of_config (h : r.config = .ok c) : r.Usable (r.packageSets.getD []) c := by
  have fine : r.Acceptable := holds_rules.1 ((enforces_config r).holds c h)
  -- Whatever address is kept, the rest is the same.
  have usable {urls : List String} {mirrors link : Option String}
      (address : r.KeepsAddress urls mirrors link) : r.Usable (r.packageSets.getD [])
        ⟨urls, mirrors, link, (filled r.gpgkey).toList, r.checkGpg, r.checkRepoGpg, r.ignoreSsl,
          r.rhsm.getD false, r.packageSets.getD []⟩ := by
    refine ⟨address, fun checks => ?_, fun key member => ?_, rfl, rfl, rfl, rfl, rfl⟩
    · obtain ⟨key, given, some_key⟩ := fine.key checks
      exact ⟨key, by simp [filled_eq_some.2 ⟨given, some_key⟩], some_key⟩
    · exact (filled_eq_some.1 (Option.mem_toList.1 member)).1
  have kept {x : RepositoryConfig} (done : (do
        if r.checkGpg = some true ∧ (filled r.gpgkey).toList.isEmpty then throw .noGpgKey
        return x : Except ServiceError RepositoryConfig) = .ok c) : x = c := by
    split at done <;> cases done
    rfl
  unfold config at h
  simp only at h
  split at h
  · next url baseurl =>
    obtain ⟨given, some_url⟩ := filled_eq_some.1 baseurl
    exact kept h ▸ usable (.baseurl given some_url)
  · next url baseurl mirrorlist =>
    obtain ⟨given, some_url⟩ := filled_eq_some.1 mirrorlist
    exact kept h ▸ usable (.mirrorlist (filled_eq_none.1 baseurl) given some_url)
  · next url baseurl mirrorlist metalink =>
    obtain ⟨given, some_url⟩ := filled_eq_some.1 metalink
    have first := And.intro (filled_eq_none.1 baseurl) (filled_eq_none.1 mirrorlist)
    exact kept h ▸ usable (.metalink first given some_url)
  · cases h

end Repository

/-! ## Manifests -/

/-- A manifest is resolved for an image of a request, from usable repositories. -/
structure ManifestArgs.Supplied (a : ManifestArgs) (request : ComposeRequest)
    (image : ImageRequest) : Prop where
  distribution : a.distribution = request.distribution
  architecture : a.architecture = image.architecture
  imageType : a.imageType = image.imageType.internalName
  /-- The repositories of the image serve the package sets that were requested. Those of the payload
  come after them, and serve those that the image type has for them, whatever was requested. -/
  repositories : ∃ own payload, a.repositories = own ++ payload ∧
    List.Forall₂ (fun (r : Repository) c => r.Usable (r.packageSets.getD []) c)
      image.repositories own ∧
    List.Forall₂ (fun (r : Repository) c => r.Usable image.imageType.payloadPackageSets c)
      request.payloadRepositories payload

/-- What resolves the manifest of an image is supplied with its repositories. -/
theorem ManifestArgs.Resolves.supplied {a : ManifestArgs} {request : ComposeRequest} {seed : Int64}
    {image : ImageRequest} (h : a.Resolves request seed image) : a.Supplied request image := by
  obtain ⟨own, payload, own_configured, payload_configured, all⟩ := h.repositories
  refine ⟨h.distribution, h.architecture, h.imageType, own, _, all, ?_, ?_⟩
  · exact own_configured.imp fun _ _ => Repository.usable_of_config
  · refine List.forall₂_map_right_iff.2 (payload_configured.imp fun r c configured => ?_)
    exact { Repository.usable_of_config configured with packageSets := rfl }

/-- Only the form of the customizations may be another one when arguments are read back. -/
theorem ManifestArgs.Supplied.kept {a : ManifestArgs} {request : ComposeRequest}
    {image : ImageRequest} (h : a.Supplied request image) : a.kept.Supplied request image :=
  ⟨h.distribution, h.architecture, h.imageType, h.repositories⟩

/-- The arguments of a job are read as those of a job that resolves a manifest for an image of a
request, with usable repositories. -/
def Supplies (request : ComposeRequest) (args : Json) : Prop :=
  ∃ a : ManifestArgs, decode? args = some a ∧ ∃ images, request.images = .ok images ∧
    ∃ image ∈ images, a.Supplied request image

/-- The manifest of a checked image is supplied. -/
theorem CheckedImages.supplies {config : Config} {request : ComposeRequest} {fresh : Fresh}
    {images : List ImageRequest} {planned : List PlannedImage}
    (checked : CheckedImages config request fresh images planned) {k : Nat} {p : PlannedImage}
    (found : planned[k]? = some p) {job : PlannedJob}
    (manifest : job.args.kept = .manifest p.manifest.kept) : Supplies request job.args.toJson := by
  obtain ⟨image, asked, planned_as⟩ := checked.of_planned found
  have supplied := (resolves_of_planImage planned_as).supplied
  have read := job.args.read?_toJson
  rw [← JobArgs.kind_kept, manifest] at read
  obtain ⟨a, decoded, same⟩ := Option.map_eq_some_iff.1 read
  cases same
  exact ⟨_, decoded, images, checked.asked, image, List.mem_of_getElem? asked, supplied.kept⟩

/-- All manifests of a plan are supplied. -/
theorem Plan.supplies_of_ofRequest {config : Config} {request : ComposeRequest} {fresh : Fresh}
    {p : Plan} (planned : ofRequest config request fresh = .ok p) {job : PlannedJob}
    (member : job ∈ p.jobs) (manifest : job.args.kind = .manifestIdOnly) :
    Supplies request job.args.toJson := by
  obtain ⟨k, found⟩ := List.mem_iff_getElem?.1 member
  have stands : p.look "" k = some ⟨"", job.args.kept, job.dependencies⟩ := look_of_getElem? found
  rw [← JobArgs.kind_kept] at manifest
  obtain ⟨images, _, checked, ⟨-, rfl⟩ | ⟨koji, -, rfl⟩⟩ := ofRequest_ok planned
  · obtain ⟨_, _, at_place, ⟨-, e⟩ | ⟨-, e⟩⟩ := look_standalone_cases stands
    · exact checked.supplies at_place (JobNode.mk.inj e).2.1
    · rw [(JobNode.mk.inj e).2.1] at manifest
      cases manifest
  · rcases look_forKoji_cases stands with ⟨-, e⟩ | ⟨_, _, at_place, -, e⟩ | ⟨_, _, -, -, e⟩ | ⟨-, e⟩
    case inr.inr.inl => exact checked.supplies at_place (JobNode.mk.inj e).2.1
    all_goals
      rw [(JobNode.mk.inj e).2.1] at manifest
      cases manifest

/-! ## Runs -/

/-- In every run of requests, each manifest job is that of an image of a compose that was requested,
and it can use all of its repositories. -/
theorem Workload.After.manifest_supplied {config : Config} {asked : List ComposeRequest}
    {w : Workload} (run : After config asked w) {j : StoredJob} (member : j ∈ w.store.jobs)
    (manifest : j.kind = .manifestIdOnly) : ∃ request ∈ asked, Supplies request j.args := by
  let cloned (new : NewJob) : Prop := new.kind ≠ .manifestIdOnly
  let may (request : ComposeRequest) (new : NewJob) : Prop :=
    new.kind = .manifestIdOnly → Supplies request new.args
  have composes : ∀ request fresh channel,
      (submitCompose config request fresh channel).SubmitsOnly (may request) :=
    fun request fresh channel => submitCompose_submitsOnly fun _ planned _ member _ manifest =>
      Plan.supplies_of_ofRequest planned member manifest
  have clones : ∀ id request fresh channel,
      (cloneCompose id request fresh channel).SubmitsOnly cloned := by
    intro id request fresh channel
    refine (cloneCompose_submitsOnly id request fresh channel).mono ?_
    rintro new (copy | share) manifest
    · cases copy.symm.trans manifest
    · cases share.symm.trans manifest
  obtain ⟨new, clone | ⟨request, requested, allowed⟩, kind, args, -⟩ :=
    run.jobs composes clones j member
  · exact absurd (kind.symm.trans manifest) clone
  · exact ⟨request, requested, args ▸ allowed (kind.symm.trans manifest)⟩

/-- A request for an installer with a repository that is found by its metalink and checks
signatures, and with another one for the payload. -/
def installerRequest : ComposeRequest where
  distribution := "rhel-9"
  imageRequest := some {
    architecture := "x86_64"
    imageType := .imageInstaller
    repositories := [{
      baseurl := some ""
      metalink := some "https://example.com/metalink"
      gpgkey := some "key"
      checkGpg := some true
      packageSets := some ["build"] }]
    uploadOptions := some (.obj [("region", .str "us-east-1")]) }
  customizations := some {
    payloadRepositories := [{
      baseurl := some "https://example.com/extra"
      packageSets := some ["build"] }] }

/-- The manifest of the installer is supplied with both repositories, each for its own package
sets. -/
theorem Workload.manifest_supplied_installerRequest :
    ∃ (w : Workload) (j : StoredJob) (a : ManifestArgs), After {} [installerRequest] w ∧
      j ∈ w.store.jobs ∧ j.kind = .manifestIdOnly ∧ decode? j.args = some a ∧
      a.repositories.map (·.packageSets) = [["build"], ["os", "installer"]] := by
  let store : Store := ((submitCompose {} installerRequest (.ofRandom 0 0) "own").run
    (Store.backend (Fresh.jobIds 0) (.ofSeconds 0)) {}).2
  have submitted : ∃ answer, (submitCompose {} installerRequest (.ofRandom 0 0) "own").Runs {}
      answer store :=
    ⟨_, StoreProgram.runs_run (Fresh.jobIds 0) (.ofSeconds 0) _ _ (by decide +kernel)⟩
  obtain ⟨answer, submitted⟩ := submitted
  have run := After.compose_runs .empty submitted
  have first : ∃ j ∈ store.jobs, j.kind = .manifestIdOnly := ⟨_, .head _, rfl⟩
  obtain ⟨j, member, manifest⟩ := first
  obtain ⟨request, requested, a, decoded, images, asked, image, among, supplied⟩ :=
    run.manifest_supplied member manifest
  cases List.mem_singleton.1 requested
  cases asked
  cases List.mem_singleton.1 among
  obtain ⟨_, _, all, own, payload⟩ := supplied.repositories
  cases own with | cons first none_more =>
  cases payload with | cons extra none_more' =>
  cases none_more
  cases none_more'
  refine ⟨_, j, a, run, member, manifest, decoded, ?_⟩
  rw [all]
  simp [first.packageSets, extra.packageSets, ImageType.payloadPackageSets]

end ImageCompose
