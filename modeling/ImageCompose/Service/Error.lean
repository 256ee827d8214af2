import ImageCompose.Store.Record
import ImageCompose.Upload.Status

/-!
# Failures of the service

Every way in which an operation on composes can fail (`ServiceError`), grouped by who is to blame
(`ErrorKind`): the request, or the stored jobs. A job that is missing from the store is an error of
the request only where the request names it; anywhere else the stored jobs are inconsistent
(`ServiceError.ofStore`).
-/

namespace ImageCompose

/-- Who is to blame for a failure. -/
inductive ErrorKind
  | malformedInput
  /-- The request names something that does not exist. -/
  | notFound
  /-- The request is well formed and asks for something that is not supported. -/
  | unsupported
  /-- The stored jobs are not what they should be. -/
  | invariantViolation
  | enqueue
  deriving DecidableEq

/-- What is wrong with a stored job. -/
inductive Malformation
  /-- Its arguments or its result do not decode. -/
  | undecodable
  | wrongKind (expected found : JobKind)
  /-- It reports an EC2 image for a target of another kind. -/
  | foreignTarget (target : TargetName)
  /-- The metadata of a stage does not decode. -/
  | stageMetadata (pipeline : String)
  | reported (reason : String)
  deriving DecidableEq

/-- The defect in words. -/
def Malformation.message : Malformation → String
  | .undecodable => Fault.wrongShape.message
  | .wrongKind expected found => s!"expected a {expected.name} job, found {found.name}"
  | .foreignTarget target => s!"aws target result for a {target.name} target"
  | .stageMetadata pipeline =>
    s!"stage metadata of pipeline {pipeline}: {Fault.wrongShape.message}"
  | .reported reason => reason

/-- A failure of an operation on composes. -/
inductive ServiceError
  | invalidComposeId (text : String)
  /-- The body of the request cannot be decoded. -/
  | bodyDecoding (reason : String)
  /-- Not exactly one of the two forms of images is given. -/
  | invalidNumberOfImages
  /-- There is nowhere to deliver an image to. -/
  | missingUploadTarget
  /-- The upload options are of another upload type. -/
  | invalidUploadOptions (uploadType : UploadType) (reason : String)
  | invalidRepository
  /-- A repository checks signatures without a key. -/
  | noGpgKey
  /-- Images are not kept on the worker server. -/
  | localSaveNotEnabled
  | composeNotFound (id : Uuid)
  | unsupportedDistribution (name : String)
  | unsupportedArchitecture (name : String)
  /-- Images cannot be requested with this upload type. -/
  | unsupportedUploadType (uploadType : UploadType)
  /-- The job is of a kind that the operation is not for. -/
  | invalidJobType (id : Uuid) (kind : JobKind)
  | composeBadState (id : Uuid)
  /-- The compose does not have exactly one delivery. -/
  | severalUploadTargets (id : Uuid) (count : Nat)
  /-- Images at such a place cannot be cloned. -/
  | unsupportedCloneTarget (name : String)
  | unknownUploadTarget (name : String)
  /-- A compose in Koji has too few jobs. -/
  | malformedChain (id : Uuid) (dependencies : Nat)
  /-- A stored job is not what it should be. -/
  | malformedJob (id : Uuid) (defect : Malformation)
  /-- A build finished well and reported nothing. -/
  | missingBuildOutput (id : Uuid)
  /-- There is no manifest for a build. -/
  | missingManifest (id : Uuid)
  /-- A job that another one refers to does not exist. -/
  | missingJob (id : Uuid)
  | store (cause : StoreError)
  | enqueue (kind : JobKind) (cause : StoreError)
  deriving DecidableEq

namespace ServiceError

/-- Who is to blame. -/
def kind : ServiceError → ErrorKind
  | .invalidComposeId _ | .bodyDecoding _ | .invalidNumberOfImages | .missingUploadTarget
  | .invalidUploadOptions _ _ | .invalidRepository | .noGpgKey | .localSaveNotEnabled =>
    .malformedInput
  | .composeNotFound _ => .notFound
  | .unsupportedDistribution _ | .unsupportedArchitecture _ | .unsupportedUploadType _
  | .invalidJobType _ _ | .composeBadState _ | .severalUploadTargets _ _
  | .unsupportedCloneTarget _ => .unsupported
  | .unknownUploadTarget _ | .malformedChain _ _ | .malformedJob _ _ | .missingBuildOutput _
  | .missingManifest _ | .missingJob _ | .store _ => .invariantViolation
  | .enqueue _ _ => .enqueue

/-- The failure in words. -/
def message : ServiceError → String
  | .invalidComposeId text => s!"invalid compose id: {text}"
  | .bodyDecoding reason => s!"request body could not be decoded: {reason}"
  | .invalidNumberOfImages => "exactly one of image_request and image_requests must be set"
  | .missingUploadTarget => "the image request has no upload target"
  | .invalidUploadOptions uploadType reason =>
    s!"upload options do not match upload type {uploadType.title}: {reason}"
  | .invalidRepository => "repository needs one of baseurl, mirrorlist or metalink"
  | .noGpgKey => "repository enables check_gpg without a gpgkey"
  | .localSaveNotEnabled => "local save is not enabled on this server"
  | .composeNotFound id => s!"compose {id} not found"
  | .unsupportedDistribution name => s!"unsupported distribution: {name}"
  | .unsupportedArchitecture name => s!"unsupported architecture: {name}"
  | .unsupportedUploadType uploadType => s!"upload type {uploadType.title} cannot be requested"
  | .invalidJobType id kind => s!"job {id} is of type {kind.name}, which is not valid here"
  | .composeBadState id => s!"compose {id} has not finished successfully"
  | .severalUploadTargets id count =>
    s!"compose {id} has {count} upload targets, exactly one is needed"
  | .unsupportedCloneTarget name => s!"images delivered to {name} cannot be cloned"
  | .unknownUploadTarget name => UploadStatus.unknownMessage name
  | .malformedChain id dependencies =>
    s!"koji compose {id} has {dependencies} dependencies, at least 2 are needed"
  | .malformedJob id defect => s!"job {id} is malformed: {defect.message}"
  | .missingBuildOutput id => s!"build job {id} finished successfully without osbuild output"
  | .missingManifest id => s!"no manifest found for build job {id}"
  | .missingJob id => s!"job {id} is referenced by a compose but does not exist"
  | .store cause => s!"job store error: {cause.message}"
  | .enqueue kind cause => s!"failed to enqueue {kind.name} job: {cause.message}"

/-- The failure of an operation that the store does not answer. -/
def ofStore : StoreError → ServiceError
  | .notFound id => .missingJob id
  | .malformed id reason => .malformedJob id (.reported reason)
  | .kindMismatch id expected found => .malformedJob id (.wrongKind expected found)
  | .database reason => .store (.database reason)

end ServiceError

end ImageCompose
