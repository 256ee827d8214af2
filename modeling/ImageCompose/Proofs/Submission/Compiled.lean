import ImageCompose.Proofs.Submission.Stored

/-!
# What a request compiles to

The jobs of a compose that is accepted, in the terms of its request: for each image a job that
resolves its manifest and a build that waits for it (`CompiledImage`), in the order of the images,
and in a compose for Koji the job that opens the build before all of them and the import after them
(`CompiledForKoji`). `Store.submitCompose_compiles` says that these are the jobs that the store in
memory gets, and no others.

Customizations are passed on to the manifests. All their members but the one that is understood
reach them as they were sent (`Customizations.PassesOn`).
-/

namespace ImageCompose

/-! ## Customizations -/

namespace Customizations

/-- The members that are passed on without being understood. -/
def passedOn (members : List (String × Json)) : List (String × Json) :=
  members.filter fun m => m.1 ≠ payloadName

/-- Members hold what customizations pass on: what was decoded, and so what was sent. -/
structure PassesOn (c : Customizations) (members : List (String × Json)) : Prop where
  decoded : passedOn members = passedOn c.other
  /-- Of several members of one name, the last counts of what was sent. -/
  sent : ∀ sent, decode? sent = some c → ∃ given, sent.settle = .obj given ∧
    passedOn members = passedOn given

/-- What customizations pass on is what was sent. -/
theorem passedOn_of_decode? {c : Customizations} {sent : Json} (h : decode? sent = some c) :
    ∃ given, sent.settle = .obj given ∧ passedOn c.other = passedOn given := by
  cases sent with
  | obj members =>
    replace h : fields.decoder.ofJson? (.obj members) = some c := h
    rw [Fields.ofJson?_decoder_obj, fields, Fields.values?_seq, Fields.values?_others] at h
    obtain ⟨make, made, h⟩ := Option.bind_eq_some_iff.1 h
    rw [Fields.values?_map] at made
    obtain ⟨payload, -, rfl⟩ := Option.map_eq_some_iff.1 made
    cases h
    refine ⟨_, rfl, ?_⟩
    simp [passedOn, List.filter_filter]
  | null | bool | num | str | arr => cases h

/-- What is written of customizations holds what they pass on. -/
theorem passesOn_encode (c : Customizations) :
    ∃ members, encode c = .obj members ∧ c.PassesOn members := by
  have written : passedOn (Json.listed payloadName encode c.payloadRepositories ++ c.other) =
      passedOn c.other := by
    cases c.payloadRepositories <;> simp [passedOn, Json.listed]
  refine ⟨_, rfl, written, fun sent h => ?_⟩
  obtain ⟨given, settled, same⟩ := passedOn_of_decode? h
  exact ⟨given, settled, written.trans same⟩

end Customizations

/-! ## The jobs of an image -/

/-- The arguments of a job that resolves the manifest of an image of a request. -/
structure ManifestArgs.Resolves (a : ManifestArgs) (request : ComposeRequest) (seed : Int64)
    (image : ImageRequest) : Prop where
  distribution : a.distribution = request.distribution
  architecture : a.architecture = image.architecture
  imageType : a.imageType = image.imageType.internalName
  /-- The repositories of the image come first, then those of the payload, for the package sets that
  the image type has for them. -/
  repositories : ∃ own extra,
    List.Forall₂ (fun (r : Repository) c => r.config = .ok c) image.repositories own ∧
    List.Forall₂ (fun (r : Repository) c => r.config = .ok c)
      (request.customizations.getD {}).payloadRepositories extra ∧
    a.repositories =
      own ++ extra.map fun c => { c with packageSets := image.imageType.payloadPackageSets }
  customizations : ∃ members, a.customizations = some (.obj members) ∧
    (request.customizations.getD {}).PassesOn members
  seed : a.seed = seed

/-- The arguments of a build of an image that is delivered where its request says, if it says so,
and then to some more targets. -/
structure BuildArgs.Builds (a : BuildArgs) (localSave : Bool) (fresh : FreshImage)
    (image : ImageRequest) (more : List Target) : Prop where
  /-- The manifest is what another job resolves. -/
  manifest : a.manifest = none
  pipelineNames : a.pipelineNames = image.imageType.pipelineNames
  targets : match image.uploadOptions with
    | some options => ∃ target,
      uploadTarget localSave image.imageType fresh options = .ok target ∧ a.targets = target :: more
    | none => more ≠ [] ∧ a.targets = more

/-- The jobs of an image of a request: `m` resolves its manifest, and `b` builds it. Both wait for
`first`, and the build for the manifest, too. -/
structure CompiledImage (config : Config) (request : ComposeRequest) (fresh : Fresh)
    (channel : String) (k : Nat) (image : ImageRequest) (first : List Uuid) (more : List Target)
    (m b : StoredJob) : Prop where
  manifest : ∃ a : ManifestArgs, m.Is (.manifest a) first channel ∧
    a.Resolves request fresh.seed image
  /-- The build also goes to `more` targets. -/
  build : ∃ a : BuildArgs, b.Is (.build a) (first ++ [m.id]) channel ∧
    a.Builds config.localSave (fresh.image k) image more

/-- The jobs of an image that is imported into Koji: the build uploads it to a directory there as
`file`. -/
structure CompiledKojiImage (config : Config) (request : ComposeRequest) (koji : KojiRequest)
    (fresh : Fresh) (channel : String) (k : Nat) (image : ImageRequest) (init : Uuid)
    (directory file : String) (m b : StoredJob) : Prop where
  named : file = koji.name ++ "-" ++ koji.version ++ "-" ++ koji.release ++ "." ++
    image.architecture ++ image.imageType.extension
  jobs : CompiledImage config request fresh channel k image [init]
    [⟨(fresh.image k).kojiDelivery, file, image.imageType.artifact, .koji koji.server directory⟩]
    m b

/-! ## The jobs of a compose -/

/-- The jobs of images on their own: the two of each, in order. -/
structure CompiledAlone (config : Config) (request : ComposeRequest) (fresh : Fresh)
    (channel : String) (images : List ImageRequest) (added : List StoredJob) : Prop where
  count : added.length = 2 * images.length
  image : ∀ k image, images[k]? = some image → ∃ m b, added[2 * k]? = some m ∧
    added[2 * k + 1]? = some b ∧ CompiledImage config request fresh channel k image [] [] m b

/-- The jobs of images that are imported into Koji: `init` opens the build there, then come the two
of each image, in order, and `finalize` imports the images. -/
structure CompiledForKoji (config : Config) (request : ComposeRequest) (koji : KojiRequest)
    (fresh : Fresh) (channel : String) (images : List ImageRequest) (init finalize : StoredJob)
    (files : List String) (directory : String) (chain : KojiChain) (added : List StoredJob) :
    Prop where
  count : added.length = 2 * images.length + 2
  first : added[0]? = some init
  last : added[2 * images.length + 1]? = some finalize
  opens : init.Is (.kojiInit ⟨koji.server, koji.name, koji.version, koji.release⟩) [] channel
  imports : finalize.Is (.kojiFinalize ⟨koji.server, koji.name, koji.version, koji.release, files,
    directory, koji.taskId, fresh.now⟩) (init.id :: chain.builds) channel
  folder : directory = s!"osbuild-cg/osbuild-composer-koji-{fresh.directory}"
  /-- The chain is read off the import. -/
  chained : KojiChain.ofFinalize finalize.id finalize.dependencies = .ok chain ∧
    chain.init = init.id
  /-- There is one file and one build for each image. -/
  sizes : files.length = images.length ∧ chain.builds.length = images.length
  image : ∀ k image, images[k]? = some image → ∃ m b file, added[2 * k + 1]? = some m ∧
    added[2 * k + 2]? = some b ∧ files[k]? = some file ∧ chain.builds[k]? = some b.id ∧
    CompiledKojiImage config request koji fresh channel k image init.id directory file m b

/-! ## Images that were checked -/

section
variable {config : Config} {request : ComposeRequest} {fresh : Fresh} {k : Nat}
  {image : ImageRequest} {p : PlannedImage}

/-- A checked image has the manifest that its request describes. -/
theorem resolves_of_planImage (h : planImage config request (request.customizations.getD {}) fresh k
    image = .ok p) : p.manifest.Resolves request fresh.seed image := by
  obtain ⟨repositories, targets, resolved, -, rfl⟩ := planImage_ok h
  obtain ⟨own, configured, resolved⟩ := Except.bind_ok resolved
  obtain ⟨extra, configured', resolved⟩ := Except.bind_ok resolved
  cases resolved
  obtain ⟨members, written, passed_on⟩ :=
    (request.customizations.getD {}).passesOn_encode
  exact ⟨rfl, rfl, rfl, ⟨own, extra, Except.mapM_ok configured, Except.mapM_ok configured', rfl⟩,
    ⟨members, congrArg some written, passed_on⟩, rfl⟩

/-- A checked image is built and delivered as its request says. -/
theorem builds_of_planImage (h : planImage config request (request.customizations.getD {}) fresh k
    image = .ok p) {more : List Target} (into_koji : request.koji.isSome = true → more ≠ []) :
    BuildArgs.Builds { p.build with targets := p.build.targets ++ more } config.localSave
      (fresh.image k) image more := by
  obtain ⟨repositories, targets, -, delivered, rfl⟩ := planImage_ok h
  refine ⟨rfl, rfl, ?_⟩
  unfold planTargets at delivered
  cases asked : image.uploadOptions with
  | some options =>
    rw [asked] at delivered
    obtain ⟨target, found, delivered⟩ := Except.bind_ok delivered
    cases delivered
    exact ⟨target, found, rfl⟩
  | none =>
    rw [asked] at delivered
    simp only at delivered
    split at delivered
    · next koji =>
      cases delivered
      exact ⟨into_koji koji, rfl⟩
    · cases delivered

end

/-! ## Plans that are stored whole -/

section
variable {config : Config} {request : ComposeRequest} {fresh : Fresh} {channel : String}

/-- The jobs of a checked image are stored as the request asks, if the build is stored after the
manifest and both after the same jobs. -/
theorem compiledImage_of_stored {k : Nat} {image : ImageRequest} {p : PlannedImage}
    (checked : planImage config request (request.customizations.getD {}) fresh k image = .ok p)
    {more : List Target} (into_koji : request.koji.isSome = true → more ≠ []) {ids : List Uuid}
    {positions : List Nat} {first : List Uuid}
    (given : (positions.map fun position => ids[position]?) = first.map some) {m b : StoredJob}
    (m_stored : PlannedJob.StoredAs channel ids ⟨.manifest p.manifest, positions⟩ m) {place : Nat}
    (m_at : ids[place]? = some m.id)
    (b_stored : PlannedJob.StoredAs channel ids
      ⟨.build { p.build with targets := p.build.targets ++ more }, positions ++ [place]⟩ b) :
    CompiledImage config request fresh channel k image first more m b where
  manifest := ⟨_, m_stored.after given, resolves_of_planImage checked⟩
  build := by
    refine ⟨_, b_stored.after ?_, builds_of_planImage checked into_koji⟩
    rw [List.map_append, given, List.map_append, List.map_singleton, m_at, List.map_singleton]

/-- The jobs of a checked image for Koji are stored as the request asks. -/
theorem compiledKojiImage_of_stored {koji : KojiRequest} {k : Nat} {image : ImageRequest}
    {p : PlannedImage}
    (checked : planImage config request (request.customizations.getD {}) fresh k image = .ok p)
    {ids : List Uuid} {init : Uuid} (init_at : ids[0]? = some init) {m b : StoredJob}
    (m_stored : PlannedJob.StoredAs channel ids ⟨.manifest p.manifest, [0]⟩ m)
    (m_at : ids[2 * k + 1]? = some m.id)
    (b_stored : PlannedJob.StoredAs channel ids
      ⟨.build (Plan.kojiBuild koji fresh k p), [0, 2 * k + 1]⟩ b) :
    CompiledKojiImage config request koji fresh channel k image init
      s!"osbuild-cg/osbuild-composer-koji-{fresh.directory}" (Plan.kojiFilename koji p) m b where
  named := by
    obtain ⟨_, _, -, -, rfl⟩ := planImage_ok checked
    rfl
  jobs := by
    have same_type : p.imageType = image.imageType := by
      obtain ⟨_, _, -, -, rfl⟩ := planImage_ok checked
      rfl
    rw [← same_type]
    refine compiledImage_of_stored checked (fun _ => by simp) ?_ m_stored m_at b_stored
    rw [List.map_singleton, init_at, List.map_singleton]

variable {images : List ImageRequest} {planned : List PlannedImage} {added : List StoredJob}

/-- A plan of images on their own is stored as the request asks. -/
theorem compiledAlone_of_begins (checked : CheckedImages config request fresh images planned)
    (alone : request.koji = none) (begins : (Plan.standalone planned).Begins channel added)
    (whole : added.length = (Plan.standalone planned).jobs.length) :
    CompiledAlone config request fresh channel images added where
  count := by rw [whole, Plan.length_standalone, checked.count]
  image k image asked := by
    obtain ⟨p, found, image_checked⟩ := checked.each k image asked
    obtain ⟨m, m_at, m_stored⟩ := begins.stored whole (Plan.getElem?_standalone_manifest found)
    obtain ⟨b, b_at, b_stored⟩ := begins.stored whole (Plan.getElem?_standalone_build found)
    refine ⟨m, b, m_at, b_at,
      compiledImage_of_stored image_checked ?_ rfl m_stored (getElem?_ids m_at) ?_⟩
    · rw [alone]
      nofun
    · rw [List.append_nil]
      exact b_stored

/-- The import waits for the opening and for what has the identifiers of the builds. -/
theorem given_forKoji {ids : List Uuid} {init : Uuid}
    (size : ids.length = 2 * planned.length + 2) (init_at : ids[0]? = some init) :
    ((0 :: planned.zipIdx.map fun ((_, k) : PlannedImage × Nat) => 2 * k + 2).map
      fun position => ids[position]?) =
        (init :: planned.zipIdx.map fun (_, k) => given ids (2 * k + 2)).map some := by
  rw [List.map_cons, init_at, List.map_cons, List.map_map, List.map_map]
  refine congrArg _ (List.map_congr_left fun (p, k) member => getElem?_given ?_)
  have bound := Plan.place_lt (List.mem_zipIdx_iff_getElem?.1 member)
  show 2 * k + 2 < ids.length
  omega

/-- A plan of images for Koji is stored as the request asks. -/
theorem compiledForKoji_of_begins (checked : CheckedImages config request fresh images planned)
    {koji : KojiRequest} (begins : (Plan.forKoji koji fresh planned).Begins channel added)
    (whole : added.length = (Plan.forKoji koji fresh planned).jobs.length) :
    ∃ init finalize files directory chain, CompiledForKoji config request koji fresh channel images
      init finalize files directory chain added := by
  obtain ⟨init, init_at, init_stored⟩ := begins.stored whole (k := 0) rfl
  obtain ⟨finalize, finalize_at, finalize_stored⟩ :=
    begins.stored whole Plan.getElem?_forKoji_import
  have size : (added.map (·.id)).length = 2 * planned.length + 2 := by
    rw [List.length_map, whole, Plan.length_forKoji]
  have imports := finalize_stored.after (given_forKoji size (getElem?_ids init_at))
  have some_build : (planned.zipIdx.map fun ((_, k) : PlannedImage × Nat) =>
      given (added.map StoredJob.id) (2 * k + 2)) ≠ [] := by simpa using checked.ne_nil
  refine ⟨init, finalize, planned.map (Plan.kojiFilename koji), _,
    ⟨finalize.id, init.id, _, some_build⟩,
    { count := by rw [whole, Plan.length_forKoji, checked.count]
      first := init_at
      last := checked.count ▸ finalize_at
      opens := init_stored.after rfl
      imports := imports
      folder := rfl
      chained := ⟨imports.dependencies ▸ KojiChain.ofFinalize_cons some_build, rfl⟩
      sizes := by simp [checked.count]
      image := fun k image asked => ?_ }⟩
  obtain ⟨p, found, image_checked⟩ := checked.each k image asked
  obtain ⟨m, m_at, m_stored⟩ := begins.stored whole (Plan.getElem?_forKoji_manifest found)
  obtain ⟨b, b_at, b_stored⟩ := begins.stored whole (Plan.getElem?_forKoji_build found)
  refine ⟨m, b, Plan.kojiFilename koji p, m_at, b_at, ?_, ?_,
    compiledKojiImage_of_stored image_checked (getElem?_ids init_at) m_stored (getElem?_ids m_at)
      b_stored⟩
  · rw [List.getElem?_map, found]
    rfl
  · simp [List.getElem?_zipIdx, found, given_eq (getElem?_ids b_at)]

end

/-! ## Composes -/

/-- What a request that the store in memory accepts compiles to. -/
theorem Store.submitCompose_compiles {supply : Nat → Uuid} {now : Timestamp} {s : Store}
    {config : Config} {request : ComposeRequest} {fresh : Fresh} {channel : String}
    {answer : ComposeId}
    (accepted : ((submitCompose config request fresh channel).run (backend supply now) s).1 =
      .ok answer) :
    ∃ images added, request.images = .ok images ∧
      ((submitCompose config request fresh channel).run (backend supply now) s).2.jobs =
        s.jobs ++ added ∧
      (∀ j ∈ added, j.channel = channel) ∧
      match request.koji with
      | none => CompiledAlone config request fresh channel images added
      | some koji => ∃ init finalize files directory chain, CompiledForKoji config request koji
        fresh channel images init finalize files directory chain added := by
  obtain ⟨p, added, planned, stored, begins, whole⟩ :=
    submitCompose_accepted (appends_backend supply now) accepted
  obtain ⟨images, _, checked, shape⟩ := Plan.ofRequest_ok planned
  refine ⟨images, added, checked.asked, stored, begins.on_channel, ?_⟩
  rcases shape with ⟨alone, rfl⟩ | ⟨koji, into_koji, rfl⟩
  · rw [alone]
    exact compiledAlone_of_begins checked alone begins whole
  · rw [into_koji]
    exact compiledForKoji_of_begins checked begins whole

/-- A request for two images in Koji compiles to the six jobs of the store. -/
theorem Store.submitCompose_compiles_kojiStore :
    (∃ answer, ((submitCompose {} kojiRequest (.ofRandom 0 0) "tenant").run
      (backend (Fresh.jobIds 0) (.ofSeconds 0)) {}).1 = .ok answer) ∧
    ∃ koji images init finalize files directory chain, kojiRequest.koji = some koji ∧
      images.length = 2 ∧ CompiledForKoji {} kojiRequest koji (.ofRandom 0 0) "tenant" images init
        finalize files directory chain kojiStore.jobs := by
  have accepted : ∃ answer, ((submitCompose {} kojiRequest (.ofRandom 0 0) "tenant").run
      (backend (Fresh.jobIds 0) (.ofSeconds 0)) {}).1 = .ok answer := ⟨_, rfl⟩
  obtain ⟨answer, accepts⟩ := accepted
  obtain ⟨images, added, asked, stored, -, init, finalize, files, directory, chain, compiled⟩ :=
    submitCompose_compiles accepts
  obtain rfl : kojiStore.jobs = added := stored
  cases asked
  exact ⟨⟨answer, accepts⟩, _, _, init, finalize, files, directory, chain, rfl, rfl, compiled⟩

end ImageCompose
