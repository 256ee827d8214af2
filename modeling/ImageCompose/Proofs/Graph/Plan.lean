import ImageCompose.Proofs.Except
import ImageCompose.Proofs.Graph.Basic
import ImageCompose.Proofs.Job.Arguments
import ImageCompose.Proofs.Submission.UploadTarget
import ImageCompose.Submission.Plan

/-!
# The job graph of a plan

A plan is a job graph before it is submitted, with positions for places (`Plan.look`). `Plan.Graph`
is what a submission relies on: the graph is a `JobGraph`, every job waits for earlier ones only,
and the job that is followed is a build or an import into Koji. Both forms of plans have it
(`Plan.graph_standalone`, `Plan.graph_forKoji`), so every plan of a request has
(`Plan.graph_ofRequest`).

The jobs of images come in pairs, and what stands at a position is found by its parity
(`getElem?_pairs`).
-/

namespace ImageCompose

/-- Two values for each item of a list and its place, which are counted from a number. -/
def pairs (f g : α → Nat → β) (as : List α) (n : Nat) : List β :=
  (as.zipIdx n).flatMap fun (a, k) => [f a k, g a k]

@[simp] theorem pairs_cons (f g : α → Nat → β) (a : α) (as : List α) (n : Nat) :
    pairs f g (a :: as) n = f a n :: g a n :: pairs f g as (n + 1) := rfl

/-- Among pairs, the parity of a position tells which half of a pair stands there. -/
theorem getElem?_pairs (f g : α → Nat → β) (as : List α) (n i : Nat) :
    (pairs f g as n)[i]? =
      as[i / 2]?.map fun a => if i % 2 = 0 then f a (n + i / 2) else g a (n + i / 2) := by
  induction as generalizing n i with
  | nil => simp [pairs]
  | cons a rest ih =>
    match i with
    | 0 => simp
    | 1 => simp
    | i + 2 =>
      have half : (i + 2) / 2 = i / 2 + 1 := by omega
      have parity : (i + 2) % 2 = i % 2 := by omega
      have place : n + 1 + i / 2 = n + (i / 2 + 1) := by omega
      simp only [pairs_cons, List.getElem?_cons_succ, ih, half, parity, place]

/-- Pairs are twice as many as what they are made of. -/
theorem length_pairs (f g : α → Nat → β) (as : List α) (n : Nat) :
    (pairs f g as n).length = 2 * as.length := by
  induction as generalizing n with
  | nil => rfl
  | cons a rest ih =>
    simp only [pairs_cons, List.length_cons, ih]
    omega

/-! ## Images that were checked -/

/-- The targets of a request are none of Koji. -/
theorem planTargets_ne_koji {localSave forKoji : Bool} {image : ImageRequest} {fresh : FreshImage}
    {targets : List Target} (h : planTargets localSave forKoji image fresh = .ok targets) :
    ∀ t ∈ targets, t.options.target ≠ .koji := by
  unfold planTargets at h
  split at h
  · obtain ⟨target, found, told⟩ := Except.bind_ok h
    cases told
    exact List.forall_mem_singleton.2 (name_of_uploadTarget_ne_koji found)
  · split at h <;> cases h
    nofun

/-- Builds that deliver to no Koji name no file for it. -/
theorem BuildArgs.kojiNames_eq_nil {a : BuildArgs}
    (h : ∀ t ∈ a.targets, t.options.target ≠ .koji) : a.kojiNames = [] := by
  refine List.filterMap_eq_nil_iff.2 fun t ht => ?_
  have other := h t ht
  cases ho : t.options with
  | koji server directory => simp [ho, TargetOptions.target] at other
  | _ => rfl

section
variable {config : Config} {request : ComposeRequest} {fresh : Fresh}

/-- What an image that was checked is made of. -/
theorem planImage_ok {customizations : Customizations} {position : Nat} {image : ImageRequest}
    {planned : PlannedImage}
    (h : planImage config request customizations fresh position image = .ok planned) :
    ∃ repositories targets,
      planRepositories image customizations.payloadRepositories = .ok repositories ∧
      planTargets config.localSave request.koji.isSome image (fresh.image position) =
        .ok targets ∧
      planned = ⟨image.imageType, ⟨request.distribution, image.architecture,
        image.imageType.internalName, repositories, some (encode customizations), fresh.seed⟩,
        { targets := targets, pipelineNames := image.imageType.pipelineNames }⟩ := by
  unfold planImage at h
  split at h
  · cases h
  · obtain ⟨repositories, resolved, h⟩ := Except.bind_ok h
    obtain ⟨targets, delivered, h⟩ := Except.bind_ok h
    cases h
    exact ⟨repositories, targets, resolved, delivered, rfl⟩

/-- A checked image is not delivered to Koji yet. -/
theorem kojiNames_planImage {customizations : Customizations} {position : Nat}
    {image : ImageRequest} {planned : PlannedImage}
    (h : planImage config request customizations fresh position image = .ok planned) :
    planned.build.kojiNames = [] := by
  obtain ⟨_, _, -, delivered, rfl⟩ := planImage_ok h
  exact BuildArgs.kojiNames_eq_nil (planTargets_ne_koji delivered)

/-- A request has images. -/
theorem ComposeRequest.images_ne_nil {request : ComposeRequest} {images : List ImageRequest}
    (h : request.images = .ok images) : images ≠ [] := by
  unfold ComposeRequest.images at h
  split at h <;> cases h <;> simp

/-- The images of a request are those that it asks for, each checked at its position. -/
structure CheckedImages (config : Config) (request : ComposeRequest) (fresh : Fresh)
    (images : List ImageRequest) (planned : List PlannedImage) : Prop where
  asked : request.images = .ok images
  count : planned.length = images.length
  each : ∀ k image, images[k]? = some image → ∃ p, planned[k]? = some p ∧
    planImage config request (request.customizations.getD {}) fresh k image = .ok p

/-- Images that are planned are those of the request, each checked at its position. -/
theorem checkedImages_of_planImages {planned : List PlannedImage}
    (h : planImages config request fresh = .ok planned) :
    ∃ images, CheckedImages config request fresh images planned := by
  unfold planImages at h
  split at h
  · cases h
  · obtain ⟨images, asked, h⟩ := Except.bind_ok h
    have each := Except.mapM_ok h
    have count : images.length = planned.length := List.length_zipIdx ▸ each.length_eq
    refine ⟨images, asked, count.symm, fun k image found => ?_⟩
    obtain ⟨bound, rfl⟩ := List.getElem?_eq_some_iff.1 found
    have placed : k < images.zipIdx.length := by rwa [List.length_zipIdx]
    refine ⟨_, List.getElem?_eq_getElem (count ▸ bound), ?_⟩
    simpa using (List.forall₂_iff_get.1 each).2 k placed (count ▸ bound)

namespace CheckedImages

variable {images : List ImageRequest} {planned : List PlannedImage}

/-- A checked request has images. -/
theorem ne_nil (checked : CheckedImages config request fresh images planned) : planned ≠ [] := by
  rintro rfl
  exact ComposeRequest.images_ne_nil checked.asked (List.length_eq_zero_iff.1 checked.count.symm)

/-- A checked image is the one that is asked for at its position. -/
theorem of_planned (checked : CheckedImages config request fresh images planned) {k : Nat}
    {p : PlannedImage} (found : planned[k]? = some p) :
    ∃ image, images[k]? = some image ∧
      planImage config request (request.customizations.getD {}) fresh k image = .ok p := by
  have bound : k < images.length := checked.count ▸ (List.getElem?_eq_some_iff.1 found).1
  obtain ⟨p', found', planned_as⟩ := checked.each k _ (List.getElem?_eq_getElem bound)
  cases found.symm.trans found'
  exact ⟨_, List.getElem?_eq_getElem bound, planned_as⟩

/-- No checked image is delivered to Koji yet. -/
theorem kojiNames (checked : CheckedImages config request fresh images planned) :
    ∀ image ∈ planned, image.build.kojiNames = [] := by
  intro image member
  obtain ⟨k, found⟩ := List.mem_iff_getElem?.1 member
  obtain ⟨_, -, planned_as⟩ := checked.of_planned found
  exact kojiNames_planImage planned_as

end CheckedImages

end

/-! ## Plans as graphs -/

namespace Plan

/-- The graph of a plan that is submitted on a tenant channel. -/
def look (channel : String) (p : Plan) (k : Nat) : Option (JobNode Nat) :=
  p.jobs[k]?.map fun job => ⟨channel, job.args.kept, job.dependencies⟩

/-- A job of the plan stands in the graph with its arguments as they are read back. -/
theorem look_of_getElem? {channel : String} {p : Plan} {k : Nat} {job : PlannedJob}
    (h : p.jobs[k]? = some job) :
    p.look channel k = some ⟨channel, job.args.kept, job.dependencies⟩ := by
  rw [look, h]
  rfl

/-- What a submission relies on. -/
structure Graph (channel : String) (p : Plan) : Prop where
  /-- The jobs make a graph. -/
  graph : JobGraph (p.look channel)
  /-- A job waits for earlier ones. -/
  earlier : ∀ {k n}, p.look channel k = some n → ∀ d ∈ n.dependencies, d < k
  /-- The job that is followed is a build or an import into Koji. -/
  followed : ∃ n, p.look channel p.followed = some n ∧
    (n.args.kind = .osbuild ∨ n.args.kind = .kojiFinalize)

/-! ### Images on their own -/

section
variable {channel : String} {images : List PlannedImage}

/-- The plan of images on their own is one pair of jobs for each image. -/
theorem jobs_standalone : (standalone images).jobs =
    pairs (fun image _ => ⟨.manifest image.manifest, []⟩)
      (fun image k => ⟨.build image.build, [2 * k]⟩) images 0 := rfl

/-- It has two jobs for each image. -/
theorem length_standalone : (standalone images).jobs.length = 2 * images.length := by
  rw [jobs_standalone, length_pairs]

/-- What stands at a position in the plan of images on their own. -/
theorem getElem?_standalone (k : Nat) :
    (standalone images).jobs[k]? = images[k / 2]?.map fun image =>
      if k % 2 = 0 then ⟨.manifest image.manifest, []⟩
      else ⟨.build image.build, [2 * (k / 2)]⟩ := by
  rw [jobs_standalone, getElem?_pairs]
  simp only [Nat.zero_add]

/-- The manifest of an image stands before its build. -/
theorem getElem?_standalone_manifest {k : Nat} {image : PlannedImage}
    (h : images[k]? = some image) :
    (standalone images).jobs[2 * k]? = some ⟨.manifest image.manifest, []⟩ := by
  have half : 2 * k / 2 = k := by omega
  have parity : 2 * k % 2 = 0 := by omega
  rw [getElem?_standalone, half, h, Option.map_some, if_pos parity]

/-- The build of an image stands after its manifest. -/
theorem getElem?_standalone_build {k : Nat} {image : PlannedImage} (h : images[k]? = some image) :
    (standalone images).jobs[2 * k + 1]? = some ⟨.build image.build, [2 * k]⟩ := by
  have half : (2 * k + 1) / 2 = k := by omega
  have parity : ¬(2 * k + 1) % 2 = 0 := by omega
  rw [getElem?_standalone, half, h, Option.map_some, if_neg parity]

/-- The manifest of an image stands alone in the graph. -/
theorem look_standalone_manifest {k : Nat} {image : PlannedImage} (h : images[k]? = some image) :
    (standalone images).look channel (2 * k) =
      some ⟨channel, .manifest image.manifest.kept, []⟩ :=
  look_of_getElem? (getElem?_standalone_manifest h)

/-- At every position stands a manifest or a build. -/
theorem look_standalone_cases {x : Nat} {n : JobNode Nat}
    (h : (standalone images).look channel x = some n) :
    ∃ k image, images[k]? = some image ∧
      (x = 2 * k ∧ n = ⟨channel, .manifest image.manifest.kept, []⟩ ∨
        x = 2 * k + 1 ∧ n = ⟨channel, .build image.build.kept, [2 * k]⟩) := by
  rw [look, getElem?_standalone, Option.map_map, Option.map_eq_some_iff] at h
  obtain ⟨image, himage, rfl⟩ := h
  refine ⟨x / 2, image, himage, ?_⟩
  simp only [Function.comp]
  split
  · exact .inl ⟨by omega, rfl⟩
  · exact .inr ⟨by omega, rfl⟩

/-- A plan of images on their own is a graph, whose first build is followed. -/
theorem graph_standalone (some_image : images ≠ []) : (standalone images).Graph channel where
  graph := by
    refine ⟨?_, ?_⟩
    · intro x n h
      obtain ⟨k, image, himage, ⟨-, rfl⟩ | ⟨-, rfl⟩⟩ := look_standalone_cases h
      · exact .manifest channel _
      · exact .build _ (look_standalone_manifest himage)
    · -- Only the build right after a manifest waits for it.
      intro d t x y n m _ hx hy hdx hdy _ _
      obtain ⟨k, _, _, ⟨-, rfl⟩ | ⟨rfl, rfl⟩⟩ := look_standalone_cases hx
      · cases hdx
      obtain ⟨k', _, _, ⟨-, rfl⟩ | ⟨rfl, rfl⟩⟩ := look_standalone_cases hy
      · cases hdy
      have at_k := List.mem_singleton.1 hdx
      have at_k' := List.mem_singleton.1 hdy
      omega
  earlier := by
    intro x n h d hd
    obtain ⟨k, image, _, ⟨-, rfl⟩ | ⟨rfl, rfl⟩⟩ := look_standalone_cases h
    · cases hd
    · have at_k := List.mem_singleton.1 hd
      omega
  followed := by
    obtain ⟨image, rest, rfl⟩ := List.exists_cons_of_ne_nil some_image
    exact ⟨⟨channel, .build image.build.kept, [0]⟩, rfl, .inl rfl⟩

end

/-! ### Images for Koji -/

section
variable {channel : String} {koji : KojiRequest} {fresh : Fresh} {images : List PlannedImage}

/-- The arguments of a build with its delivery to Koji. -/
def kojiBuild (koji : KojiRequest) (fresh : Fresh) (k : Nat) (image : PlannedImage) : BuildArgs :=
  { image.build with
    targets := image.build.targets ++ [kojiTarget koji
      s!"osbuild-cg/osbuild-composer-koji-{fresh.directory}" (fresh.image k).kojiDelivery image] }

/-- The arguments of the import. -/
def kojiImport (koji : KojiRequest) (fresh : Fresh) (images : List PlannedImage) :
    KojiFinalizeArgs where
  server := koji.server
  name := koji.name
  version := koji.version
  release := koji.release
  kojiFilenames := images.map (kojiFilename koji)
  kojiDirectory := s!"osbuild-cg/osbuild-composer-koji-{fresh.directory}"
  taskId := koji.taskId
  startTime := fresh.now

/-- The opening of the build stands first. -/
theorem look_forKoji_init : (forKoji koji fresh images).look channel 0 =
    some ⟨channel, .kojiInit ⟨koji.server, koji.name, koji.version, koji.release⟩, []⟩ := rfl

/-- The jobs of images stand between the opening and the import. -/
theorem jobs_forKoji : (forKoji koji fresh images).jobs =
    ⟨.kojiInit ⟨koji.server, koji.name, koji.version, koji.release⟩, []⟩ ::
      (pairs (fun image _ => ⟨.manifest image.manifest, [0]⟩)
        (fun image k => ⟨.build (kojiBuild koji fresh k image), [0, 2 * k + 1]⟩) images 0 ++
      [⟨.kojiFinalize (kojiImport koji fresh images),
        0 :: images.zipIdx.map fun (_, k) => 2 * k + 2⟩]) := rfl

/-- The plan for Koji has two jobs for each image, besides the opening and the import. -/
theorem length_forKoji : (forKoji koji fresh images).jobs.length = 2 * images.length + 2 := by
  rw [jobs_forKoji, List.length_cons, List.length_append, length_pairs]
  rfl

/-- Between the opening and the import, what stands at a position is told by its parity. -/
theorem getElem?_forKoji_image {k : Nat} (h : k < 2 * images.length) :
    (forKoji koji fresh images).jobs[k + 1]? = images[k / 2]?.map fun image =>
      if k % 2 = 0 then ⟨.manifest image.manifest, [0]⟩
      else ⟨.build (kojiBuild koji fresh (k / 2) image), [0, 2 * (k / 2) + 1]⟩ := by
  rw [jobs_forKoji, List.getElem?_cons_succ, List.getElem?_append_left, getElem?_pairs]
  · simp only [Nat.zero_add]
  · rwa [length_pairs]

/-- The import stands last. -/
theorem getElem?_forKoji_import : (forKoji koji fresh images).jobs[2 * images.length + 1]? =
    some ⟨.kojiFinalize (kojiImport koji fresh images),
      0 :: images.zipIdx.map fun (_, k) => 2 * k + 2⟩ := by
  rw [jobs_forKoji, List.getElem?_cons_succ, List.getElem?_append_right, length_pairs]
  · rw [Nat.sub_self]
    rfl
  · rw [length_pairs]

/-- The import waits for the opening and for every build. -/
theorem look_forKoji_import : (forKoji koji fresh images).look channel (2 * images.length + 1) =
    some ⟨channel, .kojiFinalize (kojiImport koji fresh images),
      0 :: images.zipIdx.map fun (_, k) => 2 * k + 2⟩ :=
  look_of_getElem? getElem?_forKoji_import

/-- The position of an image is one between the opening and the import. -/
theorem place_lt {k : Nat} {image : PlannedImage} (h : images[k]? = some image) :
    k < images.length :=
  (List.getElem?_eq_some_iff.1 h).1

/-- The manifest of an image stands before its build. -/
theorem getElem?_forKoji_manifest {k : Nat} {image : PlannedImage} (h : images[k]? = some image) :
    (forKoji koji fresh images).jobs[2 * k + 1]? = some ⟨.manifest image.manifest, [0]⟩ := by
  have half : 2 * k / 2 = k := by omega
  have parity : 2 * k % 2 = 0 := by omega
  have bound := place_lt h
  rw [getElem?_forKoji_image (by omega), half, h, Option.map_some, if_pos parity]

/-- The build of an image stands after its manifest. -/
theorem getElem?_forKoji_build {k : Nat} {image : PlannedImage} (h : images[k]? = some image) :
    (forKoji koji fresh images).jobs[2 * k + 2]? =
      some ⟨.build (kojiBuild koji fresh k image), [0, 2 * k + 1]⟩ := by
  have half : (2 * k + 1) / 2 = k := by omega
  have parity : ¬(2 * k + 1) % 2 = 0 := by omega
  have bound := place_lt h
  rw [getElem?_forKoji_image (by omega), half, h, Option.map_some, if_neg parity]

/-- The manifest of an image waits for the opening. -/
theorem look_forKoji_manifest {k : Nat} {image : PlannedImage} (h : images[k]? = some image) :
    (forKoji koji fresh images).look channel (2 * k + 1) =
      some ⟨channel, .manifest image.manifest.kept, [0]⟩ :=
  look_of_getElem? (getElem?_forKoji_manifest h)

/-- The build of an image waits for the opening and for its manifest. -/
theorem look_forKoji_build {k : Nat} {image : PlannedImage} (h : images[k]? = some image) :
    (forKoji koji fresh images).look channel (2 * k + 2) =
      some ⟨channel, .build (kojiBuild koji fresh k image).kept, [0, 2 * k + 1]⟩ :=
  look_of_getElem? (getElem?_forKoji_build h)

/-- At every position stands the opening, a manifest, a build, or the import. -/
theorem look_forKoji_cases {x : Nat} {n : JobNode Nat}
    (h : (forKoji koji fresh images).look channel x = some n) :
    x = 0 ∧ n = ⟨channel, .kojiInit ⟨koji.server, koji.name, koji.version, koji.release⟩, []⟩ ∨
    (∃ k image, images[k]? = some image ∧ x = 2 * k + 1 ∧
      n = ⟨channel, .manifest image.manifest.kept, [0]⟩) ∨
    (∃ k image, images[k]? = some image ∧ x = 2 * k + 2 ∧
      n = ⟨channel, .build (kojiBuild koji fresh k image).kept, [0, 2 * k + 1]⟩) ∨
    x = 2 * images.length + 1 ∧
      n = ⟨channel, .kojiFinalize (kojiImport koji fresh images),
        0 :: images.zipIdx.map fun (_, k) => 2 * k + 2⟩ := by
  have bound : x < 2 * images.length + 2 := by
    obtain ⟨job, found, -⟩ := Option.map_eq_some_iff.1 h
    exact length_forKoji ▸ (List.getElem?_eq_some_iff.1 found).1
  match x with
  | 0 => exact .inl ⟨rfl, Option.some.inj (h.symm.trans look_forKoji_init)⟩
  | k + 1 =>
    rcases Nat.lt_or_eq_of_le (show k ≤ 2 * images.length by omega) with hk | rfl
    · have himage : images[k / 2]? = some images[k / 2] := List.getElem?_eq_getElem (by omega)
      rcases Nat.mod_two_eq_zero_or_one k with parity | parity
      · have place : 2 * (k / 2) + 1 = k + 1 := by omega
        rw [← place, look_forKoji_manifest himage] at h
        exact .inr (.inl ⟨k / 2, _, himage, place.symm, (Option.some.inj h).symm⟩)
      · have place : 2 * (k / 2) + 2 = k + 1 := by omega
        rw [← place, look_forKoji_build himage] at h
        exact .inr (.inr (.inl ⟨k / 2, _, himage, place.symm, (Option.some.inj h).symm⟩))
    · exact .inr (.inr (.inr ⟨rfl, Option.some.inj (h.symm.trans look_forKoji_import)⟩))

/-- The builds that the import waits for. -/
theorem mem_imported {d : Nat} :
    d ∈ (0 :: images.zipIdx.map fun ((_, k) : PlannedImage × Nat) => 2 * k + 2) ↔
      d = 0 ∨ ∃ k image, images[k]? = some image ∧ d = 2 * k + 2 := by
  rw [List.mem_cons, List.mem_map]
  refine or_congr .rfl ⟨?_, ?_⟩
  · rintro ⟨⟨image, k⟩, h, rfl⟩
    exact ⟨k, image, List.mem_zipIdx_iff_getElem?.1 h, rfl⟩
  · rintro ⟨k, image, h, rfl⟩
    exact ⟨(image, k), List.mem_zipIdx_iff_getElem?.2 h, rfl⟩

/-- The only job that has another one for itself stands right after a manifest, and last for a
build. -/
theorem taker_forKoji {d x : Nat} {t n : JobNode Nat}
    (ht : (forKoji koji fresh images).look channel d = some t)
    (hx : (forKoji koji fresh images).look channel x = some n) (hd : d ∈ n.dependencies)
    (takes : n.Takes t) : x = if d % 2 = 1 then d + 1 else 2 * images.length + 1 := by
  have not_opening : d ≠ 0 := by
    rintro rfl
    obtain rfl := Option.some.inj (ht.symm.trans look_forKoji_init)
    rcases takes with kind | ⟨kind, -⟩ <;> cases kind
  rcases look_forKoji_cases hx with ⟨-, rfl⟩ | ⟨k, _, _, -, rfl⟩ | ⟨k, _, _, rfl, rfl⟩ | ⟨rfl, rfl⟩
  · cases hd
  · exact absurd (List.mem_singleton.1 hd) not_opening
  · obtain rfl := (List.mem_pair.1 hd).resolve_left not_opening
    rw [if_pos (by omega)]
  · obtain ⟨k, _, _, rfl⟩ := (mem_imported.1 hd).resolve_left not_opening
    rw [if_neg (by omega)]

/-- The last job of a compose in Koji waits for the opening of the build and then for different
builds, and names the file of each. -/
theorem placed_import (some_image : images ≠ [])
    (elsewhere : ∀ image ∈ images, image.build.kojiNames = []) :
    JobNode.Placed ((forKoji koji fresh images).look channel)
      ⟨channel, .kojiFinalize (kojiImport koji fresh images),
        0 :: images.zipIdx.map fun (_, k) => 2 * k + 2⟩ := by
  refine .kojiFinalize _ look_forKoji_init (by simpa using some_image) ?_ ?_
  · have places : (images.zipIdx.map fun ((_, k) : PlannedImage × Nat) => 2 * k + 2) =
        (List.range' 0 images.length).map fun k => 2 * k + 2 := by
      rw [← List.zipIdx_map_snd 0 images, List.map_map]
      rfl
    rw [places]
    exact List.Nodup.map_on (fun _ _ _ _ e => by omega) List.nodup_range'
  · have names : (kojiImport koji fresh images).kojiFilenames =
        images.zipIdx.map fun p => kojiFilename koji p.1 := by
      show images.map (kojiFilename koji) = _
      conv_lhs => rw [← List.zipIdx_map_fst 0 images, List.map_map]
      rfl
    rw [names, List.forall₂_map_left_iff, List.forall₂_map_right_iff, List.forall₂_same]
    rintro ⟨image, k⟩ member
    have himage := List.mem_zipIdx_iff_getElem?.1 member
    refine ⟨_, _, look_forKoji_build himage, ?_⟩
    have nowhere := elsewhere image (List.mem_of_getElem? himage)
    show (kojiBuild koji fresh k image).kojiNames = _
    simp only [BuildArgs.kojiNames, kojiBuild, List.filterMap_append] at nowhere ⊢
    rw [nowhere]
    rfl

/-- A plan for Koji is a graph, whose import is followed, if no image is to be uploaded to Koji
otherwise. -/
theorem graph_forKoji (some_image : images ≠ [])
    (elsewhere : ∀ image ∈ images, image.build.kojiNames = []) :
    (forKoji koji fresh images).Graph channel where
  graph := by
    refine ⟨?_, ?_⟩
    · intro x n h
      rcases look_forKoji_cases h with
        ⟨-, rfl⟩ | ⟨k, _, _, -, rfl⟩ | ⟨k, image, himage, -, rfl⟩ | ⟨-, rfl⟩
      · exact .kojiInit channel _
      · exact .kojiManifest _ look_forKoji_init
      · exact .kojiBuild _ look_forKoji_init (look_forKoji_manifest himage)
      · exact placed_import some_image elsewhere
    · intro d t x y n m ht hx hy hdx hdy tx ty
      rw [taker_forKoji ht hx hdx tx, taker_forKoji ht hy hdy ty]
  earlier := by
    intro x n h d hd
    rcases look_forKoji_cases h with
      ⟨-, rfl⟩ | ⟨k, _, _, rfl, rfl⟩ | ⟨k, _, _, rfl, rfl⟩ | ⟨rfl, rfl⟩
    · cases hd
    · have := List.mem_singleton.1 hd
      omega
    · have := List.mem_pair.1 hd
      omega
    · rcases mem_imported.1 hd with rfl | ⟨k, image, himage, rfl⟩
      · omega
      · have := place_lt himage
        omega
  followed := ⟨_, look_forKoji_import, .inr rfl⟩

end

/-- The plan of a request is made of its images when they were checked. -/
theorem ofRequest_ok {config : Config} {request : ComposeRequest} {fresh : Fresh} {p : Plan}
    (h : ofRequest config request fresh = .ok p) :
    ∃ images planned, CheckedImages config request fresh images planned ∧
      (request.koji = none ∧ p = standalone planned ∨
        ∃ koji, request.koji = some koji ∧ p = forKoji koji fresh planned) := by
  obtain ⟨planned, checks, h⟩ := Except.bind_ok h
  obtain ⟨images, checked⟩ := checkedImages_of_planImages checks
  refine ⟨images, planned, checked, ?_⟩
  split at h <;> cases h
  · next koji into_koji => exact .inr ⟨koji, into_koji, rfl⟩
  · next alone => exact .inl ⟨alone, rfl⟩

/-- The plan of a request is what a submission relies on. -/
theorem graph_ofRequest {config : Config} {request : ComposeRequest} {fresh : Fresh} {p : Plan}
    (channel : String) (h : ofRequest config request fresh = .ok p) : p.Graph channel := by
  obtain ⟨_, _, checked, ⟨-, rfl⟩ | ⟨koji, -, rfl⟩⟩ := ofRequest_ok h
  · exact graph_standalone checked.ne_nil
  · exact graph_forKoji checked.ne_nil checked.kojiNames

end Plan

end ImageCompose
