import ImageCompose.Api.ComposeRequest
import ImageCompose.Config.Basic
import ImageCompose.Image.Repository
import ImageCompose.Job.Payload
import ImageCompose.Service.Action
import ImageCompose.Service.Chain
import ImageCompose.Submission.UploadTarget

/-!
# Plans and their submission

A compose request is checked completely before any job is submitted. What comes out is a `Plan`: the
jobs to submit, in order, each with the positions of the earlier jobs that it waits for, and the
position of the job that the compose is followed by.

Each image is a job that resolves its manifest and a build that waits for it. In a compose that is
imported into Koji, a job that opens the build there comes first and all images wait for it, and a
job that imports the images comes last and waits for all.

`submitCompose` plans a request and submits the jobs of the plan in order. If the store refuses one,
those before it stay.
-/

namespace ImageCompose

/-! ## Repositories

A repository of a request is turned into the form that a manifest job takes. One address is kept:
the first that is there, of the packages, the mirrors and the metalink. -/

namespace Repository

/-- A text that is there and not empty. -/
def filled (text : Option String) : Option String :=
  text.filter fun s => s ≠ ""

/-- The form of a repository that a manifest job takes. -/
def config (r : Repository) : Except ServiceError RepositoryConfig := do
  let keys := (filled r.gpgkey).toList
  let base : RepositoryConfig := {
    gpgKeys := keys
    checkGpg := r.checkGpg
    checkRepoGpg := r.checkRepoGpg
    ignoreSsl := r.ignoreSsl
    rhsm := r.rhsm.getD false
    packageSets := r.packageSets.getD [] }
  let config ← match filled r.baseurl, filled r.mirrorlist, filled r.metalink with
    | some url, _, _ => pure { base with baseUrls := [url] }
    | none, some url, _ => pure { base with mirrorList := some url }
    | none, none, some url => pure { base with metalink := some url }
    | none, none, none => throw .invalidRepository
  if r.checkGpg = some true ∧ keys.isEmpty then throw .noGpgKey
  return config

end Repository

/-! ## Plans -/

/-- An image of a request that was checked. -/
structure PlannedImage where
  imageType : ImageType
  /-- The arguments of the job that resolves the manifest. -/
  manifest : ManifestArgs
  build : BuildArgs

/-- A job of a plan. -/
structure PlannedJob where
  args : JobArgs
  /-- The positions in the plan of the jobs that it waits for. -/
  dependencies : List Nat

/-- The jobs of a compose. -/
structure Plan where
  /-- The jobs, in the order of their submission. -/
  jobs : List PlannedJob
  /-- The position of the job that the compose is followed by. -/
  followed : Nat

/-- The images of a request, in whichever of the two forms they are given. -/
def ComposeRequest.images (r : ComposeRequest) : Except ServiceError (List ImageRequest) :=
  match r.imageRequest, r.imageRequests with
  | some image, none => .ok [image]
  | none, some (image :: images) => .ok (image :: images)
  | _, _ => .error .invalidNumberOfImages

/-- The repositories of an image: its own, then those for extra packages, which serve the package
sets of the payload. -/
def planRepositories (image : ImageRequest) (payload : List Repository) :
    Except ServiceError (List RepositoryConfig) := do
  let own ← image.repositories.mapM (·.config)
  let extra ← payload.mapM (·.config)
  return own ++ extra.map fun r => { r with packageSets := image.imageType.payloadPackageSets }

/-- The target that an image is delivered to, if the request names one. Only an image that goes into
Koji needs none. -/
def planTargets (localSave forKoji : Bool) (image : ImageRequest) (fresh : FreshImage) :
    Except ServiceError (List Target) :=
  match image.uploadOptions with
  | some options => do
    let target ← uploadTarget localSave image.imageType fresh options
    return [target]
  | none => if forKoji then .ok [] else .error .missingUploadTarget

/-- Checks an image of a request. -/
def planImage (config : Config) (request : ComposeRequest) (customizations : Customizations)
    (fresh : Fresh) (position : Nat) (image : ImageRequest) :
    Except ServiceError PlannedImage := do
  if !architectures.contains image.architecture then
    throw (.unsupportedArchitecture image.architecture)
  let repositories ← planRepositories image customizations.payloadRepositories
  let targets ← planTargets config.localSave request.koji.isSome image (fresh.image position)
  return {
    imageType := image.imageType
    manifest := {
      distribution := request.distribution
      architecture := image.architecture
      imageType := image.imageType.internalName
      repositories := repositories
      customizations := some (encode customizations)
      seed := fresh.seed }
    build := {
      targets := targets
      pipelineNames := image.imageType.pipelineNames } }

/-- Checks the images of a request. -/
def planImages (config : Config) (request : ComposeRequest) (fresh : Fresh) :
    Except ServiceError (List PlannedImage) := do
  if !config.isKnownDistribution request.distribution then
    throw (.unsupportedDistribution request.distribution)
  let images ← request.images
  let customizations := request.customizations.getD {}
  images.zipIdx.mapM fun (image, position) =>
    planImage config request customizations fresh position image

namespace Plan

/-- The jobs of images on their own. The compose is followed by its first build. -/
def standalone (images : List PlannedImage) : Plan where
  jobs := images.zipIdx.flatMap fun (image, k) =>
    [⟨.manifest image.manifest, []⟩, ⟨.build image.build, [2 * k]⟩]
  followed := 1

/-- The name under which an image is uploaded to Koji. -/
def kojiFilename (koji : KojiRequest) (image : PlannedImage) : String :=
  koji.name ++ "-" ++ koji.version ++ "-" ++ koji.release ++ "." ++ image.manifest.architecture ++
    image.imageType.extension

/-- The delivery of an image to Koji. -/
def kojiTarget (koji : KojiRequest) (directory : String) (delivery : Uuid) (image : PlannedImage) :
    Target :=
  ⟨delivery, kojiFilename koji image, image.imageType.artifact, .koji koji.server directory⟩

/-- The jobs of images that are imported into Koji. The compose is followed by the job that imports
them. -/
def forKoji (koji : KojiRequest) (fresh : Fresh) (images : List PlannedImage) : Plan :=
  let directory := s!"osbuild-cg/osbuild-composer-koji-{fresh.directory}"
  let init : PlannedJob :=
    ⟨.kojiInit ⟨koji.server, koji.name, koji.version, koji.release⟩, []⟩
  let builds := images.zipIdx.flatMap fun (image, k) =>
    let target := kojiTarget koji directory (fresh.image k).kojiDelivery image
    let build := { image.build with targets := image.build.targets ++ [target] }
    [⟨.manifest image.manifest, [0]⟩, ⟨.build build, [0, 2 * k + 1]⟩]
  let finalize : PlannedJob := {
    args := .kojiFinalize {
      server := koji.server
      name := koji.name
      version := koji.version
      release := koji.release
      kojiFilenames := images.map (kojiFilename koji)
      kojiDirectory := directory
      taskId := koji.taskId
      startTime := fresh.now }
    dependencies := 0 :: images.zipIdx.map fun (_, k) => 2 * k + 2 }
  { jobs := init :: builds ++ [finalize], followed := 2 * images.length + 1 }

/-- The jobs of a compose request. -/
def ofRequest (config : Config) (request : ComposeRequest) (fresh : Fresh) :
    Except ServiceError Plan := do
  let images ← planImages config request fresh
  match request.koji with
  | some koji => return forKoji koji fresh images
  | none => return standalone images

end Plan

/-! ## Submission -/

/-- Submits the jobs of a plan after others, whose identifiers are given, and gives all
identifiers. -/
def submitJobs (channel : String) : List PlannedJob → List Uuid → Action (List Uuid)
  | [], ids => pure ids
  | job :: rest, ids => do
    let dependencies := job.dependencies.filterMap fun position => ids[position]?
    let id ← Action.enqueue job.args dependencies channel
    submitJobs channel rest (ids ++ [id])

/-- Submits a compose on a tenant channel. -/
def submitCompose (config : Config) (request : ComposeRequest) (fresh : Fresh)
    (channel : String) : Action ComposeId := do
  let plan ← Action.of (Plan.ofRequest config request fresh)
  let ids ← submitJobs channel plan.jobs []
  match ids[plan.followed]? with
  | some id => return ⟨.at_ "/compose" id "ComposeId"⟩
  | none => throw .invalidNumberOfImages

end ImageCompose
