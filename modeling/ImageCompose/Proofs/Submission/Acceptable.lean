import ImageCompose.Proofs.Checklist
import ImageCompose.Submission.Plan

/-!
# Which compose requests are acceptable

`ComposeRequest.Acceptable` says what a compose request has to be under a configuration, and
`ComposeRequest.rules` lists the same as rules in the order in which they are checked: the
distribution, the number of images, and the images in turn, of each its architecture, its own
repositories, those of the payload, and its delivery. Requests are planned by these rules
(`ComposeRequest.enforces_ofRequest`).
-/

namespace ImageCompose

open Checklist (must Enforces)

/-! ## Repositories -/

/-- A text is there and is not empty. -/
def Given (text : Option String) : Prop := ∃ s, text = some s ∧ s ≠ ""

namespace Repository

/-- A text that is kept is there and not empty. -/
theorem filled_eq_some {text : Option String} {s : String} :
    filled text = some s ↔ text = some s ∧ s ≠ "" := by
  rw [filled, Option.filter_eq_some_iff, decide_eq_true_eq]

/-- So a text that is kept is given. -/
theorem given_of_filled {text : Option String} {s : String} (h : filled text = some s) :
    Given text :=
  ⟨s, filled_eq_some.1 h⟩

/-- A text that is not given is not kept. -/
theorem filled_eq_none {text : Option String} : filled text = none ↔ ¬Given text := by
  constructor
  · rintro empty ⟨s, rfl, filled⟩
    simp [Repository.filled, filled] at empty
  · intro missing
    cases h : filled text with
    | none => rfl
    | some s => exact absurd (given_of_filled h) missing

/-- A repository that packages can be resolved from. -/
structure Acceptable (r : Repository) : Prop where
  address : Given r.baseurl ∨ Given r.mirrorlist ∨ Given r.metalink
  key : r.checkGpg = some true → Given r.gpgkey

/-- What is checked of a repository. -/
def rules (r : Repository) : Checklist ServiceError :=
  [must (Given r.baseurl ∨ Given r.mirrorlist ∨ Given r.metalink) (· = .invalidRepository),
    must (r.checkGpg = some true → Given r.gpgkey) (· = .noGpgKey)]

/-- The rules of a repository hold of the acceptable ones. -/
theorem holds_rules {r : Repository} : r.rules.Holds ↔ r.Acceptable := by
  simp only [rules, Checklist.holds_cons, Checklist.unbroken_must_eq, Checklist.holds_nil, and_true]
  exact ⟨fun both => ⟨both.1, both.2⟩, fun fine => ⟨fine.address, fine.key⟩⟩

/-- A repository is configured by its rules: the address is checked before the key. -/
theorem enforces_config (r : Repository) : Enforces r.config r.rules := by
  have missing_key : r.checkGpg = some true ∧ (filled r.gpgkey).toList.isEmpty = true ↔
      ¬(r.checkGpg = some true → Given r.gpgkey) := by
    rw [Classical.not_imp, ← filled_eq_none]
    cases filled r.gpgkey <;> simp
  -- Whatever address is kept, the key is checked in the same way.
  have keyed (kept : RepositoryConfig)
      (address : Given r.baseurl ∨ Given r.mirrorlist ∨ Given r.metalink) : Enforces (do
        if r.checkGpg = some true ∧ (filled r.gpgkey).toList.isEmpty then throw .noGpgKey
        return kept) r.rules := by
    refine .next (by simpa using address) (.guard missing_key fun _ => ?_)
    exact .ok _ Checklist.holds_nil
  unfold config
  simp only
  split
  · next url baseurl => exact keyed _ (.inl (given_of_filled baseurl))
  · next url _ mirrorlist => exact keyed _ (.inr (.inl (given_of_filled mirrorlist)))
  · next url _ _ metalink => exact keyed _ (.inr (.inr (given_of_filled metalink)))
  · next baseurl mirrorlist metalink =>
    rw [filled_eq_none] at baseurl mirrorlist metalink
    exact .fails ⟨by simp [*], rfl⟩

end Repository

/-! ## Deliveries -/

/-- Upload options ask to keep the image on the worker server. -/
def AsksForLocalSave (options : Json) : Prop :=
  ∃ o : LocalUploadOptions, decode? options = some o ∧ o.localSave = true

/-- The wish is read off options of its shape. -/
theorem asksForLocalSave_iff {options : Json} :
    asksForLocalSave options = true ↔ AsksForLocalSave options := by
  rw [asksForLocalSave, AsksForLocalSave]
  cases (decode? options : Option LocalUploadOptions) <;> simp

namespace UploadType

/-- Upload options have the shape of an upload type. Any are good for OCI, and none can be given
for Pulp. -/
def Fits (options : Json) : UploadType → Prop
  | .aws => ∃ o : AwsUploadOptions, decode? options = some o
  | .awsS3 => ∃ o : AwsS3UploadOptions, decode? options = some o
  | .gcp => ∃ o : GcpUploadOptions, decode? options = some o
  | .azure => ∃ o : AzureUploadOptions, decode? options = some o
  | .container => ∃ o : ContainerUploadOptions, decode? options = some o
  | .ociObjectStorage => True
  | .pulpOstree => False

/-- No image is delivered to Pulp by default. -/
theorem ne_pulpOstree (t : ImageType) : t.uploadType ≠ .pulpOstree := by
  cases t <;> nofun

end UploadType

/-- Options are said not to be of an upload type. -/
def Misfit (t : UploadType) (e : ServiceError) : Prop :=
  ∃ reason, e = .invalidUploadOptions t reason

/-- Options have to be of their shape, with the wish for local saving removed. -/
theorem enforces_decodeUploadOptions {α : Type} [Wire α] {t : UploadType} {options : Json} :
    Enforces (decodeUploadOptions t options : Except ServiceError α)
      [must (∃ o : α, decode? (withoutLocalSave options) = some o) (Misfit t)] := by
  unfold decodeUploadOptions decode? Decoder.ofJson?
  cases (Wire.decoder (withoutLocalSave options).doc : Except Fault α) with
  | ok o => exact .ok o (by simp [must, Except.toOption])
  | error fault =>
    exact .fails ⟨by simp [Except.toOption], fault.message, rfl⟩

/-- The place of an image is found by the shape of the options alone. -/
theorem enforces_placeOf {t : ImageType} {key : Uuid} {options : Json} {uploadType : UploadType}
    (possible : uploadType ≠ .pulpOstree) : Enforces (placeOf t key options uploadType)
      [must (uploadType.Fits (withoutLocalSave options)) (Misfit uploadType)] := by
  cases uploadType with
  | ociObjectStorage => exact .ok _ (by simp [must, UploadType.Fits])
  | pulpOstree => exact absurd rfl possible
  | _ => exact enforces_decodeUploadOptions.map

/-- What is checked of upload options. -/
def uploadRules (localSave : Bool) (t : UploadType) (options : Json) : Checklist ServiceError :=
  [must (AsksForLocalSave options → localSave = true) (· = .localSaveNotEnabled),
    must (AsksForLocalSave options ∨ t.Fits (withoutLocalSave options)) (Misfit t)]

/-- The rules of upload options hold if the wish is allowed, or if there is none and they fit. -/
theorem holds_uploadRules {localSave : Bool} {t : UploadType} {options : Json} :
    (uploadRules localSave t options).Holds ↔
      AsksForLocalSave options ∧ localSave = true ∨
        ¬AsksForLocalSave options ∧ t.Fits (withoutLocalSave options) := by
  have misfit : ∃ e, Misfit t e := ⟨_, "", rfl⟩
  simp only [uploadRules, Checklist.holds_cons, Checklist.unbroken_must_eq,
    Checklist.unbroken_must misfit, Checklist.holds_nil, and_true]
  by_cases asks : AsksForLocalSave options <;> simp [asks]

/-- A target is planned by the rules of upload options: the wish is checked before the shape. -/
theorem enforces_uploadTarget {localSave : Bool} {t : ImageType} {fresh : FreshImage}
    {options : Json} :
    Enforces (uploadTarget localSave t fresh options)
      (uploadRules localSave t.uploadType options) := by
  rw [uploadTarget]
  by_cases asks : AsksForLocalSave options
  · rw [if_pos (asksForLocalSave_iff.2 asks)]
    by_cases allowed : localSave = true
    · rw [if_pos allowed]
      exact .ok _ (holds_uploadRules.2 (.inl ⟨asks, allowed⟩))
    · rw [if_neg allowed]
      exact .fails ⟨fun may => allowed (may asks), rfl⟩
  · rw [if_neg fun told => asks (asksForLocalSave_iff.1 told)]
    refine .next (by simp [asks]) ?_
    simp only [asks, false_or]
    exact (enforces_placeOf (UploadType.ne_pulpOstree t)).map

namespace ImageRequest

/-- There is somewhere to deliver an image to. -/
inductive Deliverable (config : Config) (request : ComposeRequest) (image : ImageRequest) : Prop
  /-- An image that goes into Koji needs no upload options. -/
  | intoKoji (absent : image.uploadOptions = none) (koji : request.koji.isSome)
  /-- The image is kept on the worker server, where that is allowed. -/
  | kept (options : Json) (given : image.uploadOptions = some options)
      (asks : AsksForLocalSave options) (allowed : config.localSave = true)
  /-- The options are those of the upload type of the image. -/
  | uploaded (options : Json) (given : image.uploadOptions = some options)
      (other : ¬AsksForLocalSave options)
      (fits : image.imageType.uploadType.Fits (withoutLocalSave options))

variable {config : Config} {request : ComposeRequest} {image : ImageRequest}

/-- What is checked of the delivery of an image. -/
def deliveryRules (config : Config) (request : ComposeRequest) (image : ImageRequest) :
    Checklist ServiceError :=
  match image.uploadOptions with
  | none => [must (request.koji.isSome = true) (· = .missingUploadTarget)]
  | some options => uploadRules config.localSave image.imageType.uploadType options

/-- The rules of a delivery hold of images that can be delivered. -/
theorem holds_deliveryRules :
    (image.deliveryRules config request).Holds ↔ image.Deliverable config request := by
  rw [deliveryRules]
  cases given : image.uploadOptions with
  | none =>
    simp only [Checklist.holds_cons, Checklist.unbroken_must_eq, Checklist.holds_nil, and_true]
    refine ⟨.intoKoji given, fun deliverable => ?_⟩
    cases deliverable with
    | intoKoji _ koji => exact koji
    | kept _ given' => cases given.symm.trans given'
    | uploaded _ given' => cases given.symm.trans given'
  | some options =>
    refine holds_uploadRules.trans ⟨?_, fun deliverable => ?_⟩
    · rintro (⟨asks, allowed⟩ | ⟨other, fits⟩)
      · exact .kept options given asks allowed
      · exact .uploaded options given other fits
    · cases deliverable with
      | intoKoji absent => cases given.symm.trans absent
      | kept _ given' asks allowed =>
        cases given.symm.trans given'
        exact .inl ⟨asks, allowed⟩
      | uploaded _ given' other fits =>
        cases given.symm.trans given'
        exact .inr ⟨other, fits⟩

/-- The targets of an image are planned by the rules of its delivery. -/
theorem enforces_planTargets (fresh : FreshImage) :
    Enforces (planTargets config.localSave request.koji.isSome image fresh)
      (image.deliveryRules config request) := by
  rw [planTargets, deliveryRules]
  cases image.uploadOptions with
  | some options => exact enforces_uploadTarget.map
  | none =>
    simp only
    split
    · next koji => exact .ok [] (by simpa using koji)
    · next koji => exact .fails ⟨koji, rfl⟩

end ImageRequest

/-! ## Images -/

/-- The repositories that extra packages of all images are resolved from. -/
def ComposeRequest.payloadRepositories (request : ComposeRequest) : List Repository :=
  (request.customizations.getD {}).payloadRepositories

namespace ImageRequest

variable {config : Config} {request : ComposeRequest} {image : ImageRequest}

/-- An image that can be built and delivered. -/
structure Acceptable (config : Config) (request : ComposeRequest) (image : ImageRequest) :
    Prop where
  architecture : image.architecture ∈ ["x86_64", "aarch64", "ppc64le", "s390x"]
  repositories : ∀ r ∈ image.repositories, r.Acceptable
  payload : ∀ r ∈ request.payloadRepositories, r.Acceptable
  delivery : image.Deliverable config request

/-- What is checked of an image. -/
def rules (config : Config) (request : ComposeRequest) (image : ImageRequest) :
    Checklist ServiceError :=
  must (image.architecture ∈ ["x86_64", "aarch64", "ppc64le", "s390x"])
      (· = .unsupportedArchitecture image.architecture) ::
    (image.repositories.flatMap Repository.rules ++
        request.payloadRepositories.flatMap Repository.rules ++
      image.deliveryRules config request)

/-- The rules of an image hold of the acceptable ones. -/
theorem holds_rules : (image.rules config request).Holds ↔ image.Acceptable config request := by
  simp only [rules, Checklist.holds_cons, Checklist.unbroken_must_eq, Checklist.holds_append,
    Checklist.holds_flatMap, Repository.holds_rules, holds_deliveryRules]
  constructor
  · rintro ⟨architecture, ⟨repositories, payload⟩, delivery⟩
    exact ⟨architecture, repositories, payload, delivery⟩
  · rintro ⟨architecture, repositories, payload, delivery⟩
    exact ⟨architecture, ⟨repositories, payload⟩, delivery⟩

/-- The repositories of an image are planned before those of the payload. -/
theorem enforces_planRepositories {payload : List Repository} :
    Enforces (planRepositories image payload)
      (image.repositories.flatMap Repository.rules ++ payload.flatMap Repository.rules) :=
  .bind (.mapM fun r _ => r.enforces_config) fun _ _ =>
    .map (.mapM fun r _ => r.enforces_config)

/-- An image is planned by its rules. -/
theorem enforces_planImage (config : Config) (request : ComposeRequest) (fresh : Fresh)
    (position : Nat) (image : ImageRequest) :
    Enforces (planImage config request (request.customizations.getD {}) fresh position image)
      (image.rules config request) := by
  have unsupported : (!architectures.contains image.architecture) = true ↔
      ¬image.architecture ∈ ["x86_64", "aarch64", "ppc64le", "s390x"] := by
    simp [architectures]
  refine .guard unsupported fun _ => .bind enforces_planRepositories fun _ _ => ?_
  exact .map (enforces_planTargets _)

end ImageRequest

/-! ## Requests -/

namespace ComposeRequest

variable {config : Config} {request : ComposeRequest}

/-- The images that a request asks for, in exactly one of the two forms. -/
inductive Asks (request : ComposeRequest) : List ImageRequest → Prop
  | one {image : ImageRequest} (single : request.imageRequest = some image)
      (list : request.imageRequests = none) : Asks request [image]
  | many {images : List ImageRequest} (single : request.imageRequest = none)
      (list : request.imageRequests = some images) (some_image : images ≠ []) : Asks request images

/-- A request that is fine under a configuration. -/
structure Acceptable (config : Config) (request : ComposeRequest) : Prop where
  /-- The distribution is a configured one, without the white space around it. -/
  distribution : ∃ d ∈ config.distributions, Text.trim d = request.distribution
  images : ∃ images, request.Asks images ∧ ∀ image ∈ images, image.Acceptable config request

/-- All images that are mentioned in a request. -/
def mentioned (request : ComposeRequest) : List ImageRequest :=
  request.imageRequest.toList ++ request.imageRequests.getD []

/-- What is checked of a request. -/
def rules (config : Config) (request : ComposeRequest) : Checklist ServiceError :=
  must (∃ d ∈ config.distributions, Text.trim d = request.distribution)
      (· = .unsupportedDistribution request.distribution) ::
    must (∃ images, request.Asks images) (· = .invalidNumberOfImages) ::
    request.mentioned.flatMap fun image => image.rules config request

/-- In either form, the images that are asked for are all that are mentioned. -/
theorem Asks.mentioned {images : List ImageRequest} (asks : request.Asks images) :
    request.mentioned = images := by
  cases asks with
  | one single list => simp [ComposeRequest.mentioned, single, list]
  | many single list => simp [ComposeRequest.mentioned, single, list]

/-- The images that are asked for are read off the request. -/
theorem asks_iff {images : List ImageRequest} :
    request.Asks images ↔ request.images = .ok images := by
  rw [ComposeRequest.images]
  constructor
  · rintro (⟨single, list⟩ | ⟨single, list, some_image⟩)
    · rw [single, list]
    · obtain ⟨image, rest, rfl⟩ := List.exists_cons_of_ne_nil some_image
      rw [single, list]
  · intro told
    split at told
    · next single list =>
      cases told
      exact .one single list
    · next single list =>
      cases told
      exact .many single list nofun
    · cases told

/-- The rules of a request hold of the acceptable ones. -/
theorem holds_rules : (request.rules config).Holds ↔ request.Acceptable config := by
  simp only [rules, Checklist.holds_cons, Checklist.unbroken_must_eq, Checklist.holds_flatMap,
    ImageRequest.holds_rules]
  constructor
  · rintro ⟨known, ⟨images, asks⟩, each⟩
    exact ⟨known, images, asks, asks.mentioned ▸ each⟩
  · rintro ⟨known, images, asks, each⟩
    exact ⟨known, ⟨images, asks⟩, asks.mentioned.symm ▸ each⟩

/-- A request has to ask for images in exactly one of the two forms. -/
theorem enforces_images (request : ComposeRequest) : Enforces request.images
    [must (∃ images, request.Asks images) (· = .invalidNumberOfImages)] := by
  refine .rule (fun images told => ?_) fun e told => ?_
  · exact (Checklist.unbroken_must_eq _).2 ⟨images, asks_iff.2 told⟩
  · refine ⟨fun ⟨images, asks⟩ => ?_, ?_⟩
    · cases (asks_iff.1 asks).symm.trans told
    · unfold ComposeRequest.images at told
      split at told <;> cases told
      rfl

/-- The images of a request are planned by its rules, one after the other. -/
theorem enforces_planImages (config : Config) (request : ComposeRequest) (fresh : Fresh) :
    Enforces (planImages config request fresh) (request.rules config) := by
  have unknown : (!config.isKnownDistribution request.distribution) = true ↔
      ¬∃ d ∈ config.distributions, Text.trim d = request.distribution := by
    simp [Config.isKnownDistribution]
  refine .guard unknown fun _ => .bind request.enforces_images fun images asked => ?_
  change Enforces _ (request.mentioned.flatMap fun image => image.rules config request)
  have placed : images.zipIdx.flatMap (fun placed => placed.1.rules config request) =
      request.mentioned.flatMap fun image => image.rules config request := by
    rw [(asks_iff.2 asked).mentioned]
    conv => rhs; rw [← List.zipIdx_map_fst 0 images, List.flatMap_map]
  rw [← placed]
  exact .mapM fun placed _ => placed.1.enforces_planImage config request fresh placed.2

/-- A request is planned by its rules, whether or not it is for Koji. -/
theorem enforces_ofRequest (config : Config) (request : ComposeRequest) (fresh : Fresh) :
    Enforces (Plan.ofRequest config request fresh) (request.rules config) := by
  have checked := enforces_planImages config request fresh
  unfold Plan.ofRequest
  split
  · exact checked.map
  · exact checked.map

end ComposeRequest

end ImageCompose
