import ImageCompose.Api.Reference
import ImageCompose.Job.Status
import ImageCompose.Upload.Status

/-!
# Reports on composes

What the API tells about a compose: how far it and its images have come (`ComposeStatus`), what
went into the images (`ComposeMetadata`), what the jobs reported (`ComposeLogs`), and the manifests
they were built from (`ComposeManifests`).
-/

namespace ImageCompose

/-! ## Status -/

/-- How far a compose has come. -/
inductive ComposeStatusValue
  | pending
  | success
  | failure
  deriving DecidableEq

namespace ComposeStatusValue

/-- All values. -/
def all : List ComposeStatusValue := [.pending, .success, .failure]

/-- The name of a value. -/
def name : ComposeStatusValue → String
  | .pending => "pending"
  | .success => "success"
  | .failure => "failure"

instance : Wire ComposeStatusValue :=
  ⟨fun s => .str s.name, Decoder.variant (all.map fun s => (s.name, s))⟩

end ComposeStatusValue

/-- How far an image has come. No report tells of `uploading` and `registering`: an image on its way
counts as `building`. -/
inductive ImageStatusValue
  | pending
  | building
  | uploading
  | registering
  | success
  | failure
  deriving DecidableEq

namespace ImageStatusValue

/-- All values. -/
def all : List ImageStatusValue :=
  [.pending, .building, .uploading, .registering, .success, .failure]

/-- The name of a value. -/
def name : ImageStatusValue → String
  | .pending => "pending"
  | .building => "building"
  | .uploading => "uploading"
  | .registering => "registering"
  | .success => "success"
  | .failure => "failure"

instance : Wire ImageStatusValue :=
  ⟨fun s => .str s.name, Decoder.variant (all.map fun s => (s.name, s))⟩

end ImageStatusValue

/-- Why an image failed. -/
structure ComposeStatusError where
  /-- The number of the kind of error. -/
  id : UInt32
  reason : String
  details : Option Json := none

namespace ComposeStatusError

/-- The error of a job as a report tells it. -/
def ofJobError (e : JobError) : ComposeStatusError := ⟨e.id, e.reason, e.details⟩

/-- The members of the JSON form. -/
def fields : Fields ComposeStatusError :=
  ComposeStatusError.mk
    <$> Fields.member "id" .uint32
    <*> Fields.member "reason" .string
    <*> Fields.possible "details" .any

instance : Wire ComposeStatusError where
  encode e := .obj <|
    [("id", Json.nat e.id.toNat), ("reason", encode e.reason)] ++
    Json.given "details" encode e.details
  decoder := fields.decoder

end ComposeStatusError

/-- How far one image of a compose has come. -/
structure ImageStatus where
  status : ImageStatusValue
  error : Option ComposeStatusError := none
  uploadStatus : Option UploadStatus := none
  uploadStatuses : Option (List UploadStatus) := none

namespace ImageStatus

/-- The status of an image with its deliveries; without any, both lists are absent. -/
def ofUploads (status : ImageStatusValue) (error : Option ComposeStatusError)
    (uploads : List UploadStatus) : ImageStatus where
  status := status
  error := error
  uploadStatus := uploads.head?
  uploadStatuses := if uploads.isEmpty then none else some uploads

/-- The members of the JSON form. -/
def fields : Fields ImageStatus :=
  ImageStatus.mk
    <$> Fields.member "status" Wire.decoder
    <*> Fields.possible "error" Wire.decoder
    <*> Fields.possible "upload_status" Wire.decoder
    <*> Fields.possible "upload_statuses" Wire.decoder

instance : Wire ImageStatus where
  encode s := .obj <|
    [("status", encode s.status)] ++
    Json.given "error" encode s.error ++
    Json.given "upload_status" encode s.uploadStatus ++
    Json.given "upload_statuses" encode s.uploadStatuses
  decoder := fields.decoder

end ImageStatus

/-- What is known of a build in Koji. -/
structure KojiStatus where
  buildId : Option UInt64 := none
  deriving DecidableEq

namespace KojiStatus

instance : Wire KojiStatus where
  encode s := .obj (Json.given "build_id" (fun n => Json.nat n.toNat) s.buildId)
  decoder := (KojiStatus.mk <$> Fields.possible "build_id" .uint64).decoder

end KojiStatus

/-- How far a compose and its images have come. -/
structure ComposeStatus where
  reference : ObjectReference
  status : ComposeStatusValue
  imageStatus : ImageStatus
  imageStatuses : Option (List ImageStatus) := none
  kojiStatus : Option KojiStatus := none

namespace ComposeStatus

/-- The members of the JSON form. -/
def fields : Fields ComposeStatus :=
  ComposeStatus.mk
    <$> ObjectReference.fields.flattened
    <*> Fields.member "status" Wire.decoder
    <*> Fields.member "image_status" Wire.decoder
    <*> Fields.possible "image_statuses" Wire.decoder
    <*> Fields.possible "koji_status" Wire.decoder

instance : Wire ComposeStatus where
  encode s := .obj <|
    s.reference.members ++
    [("status", encode s.status), ("image_status", encode s.imageStatus)] ++
    Json.given "image_statuses" encode s.imageStatuses ++
    Json.given "koji_status" encode s.kojiStatus
  decoder := fields.decoder

end ComposeStatus

/-! ## Metadata -/

/-- A package that went into an image. -/
structure PackageMetadata where
  packageType : String
  name : String
  version : String
  release : String
  epoch : Option String := none
  arch : String
  sigmd5 : String
  signature : Option String := none
  deriving DecidableEq

namespace PackageMetadata

/-- The members of the JSON form. -/
def fields : Fields PackageMetadata :=
  PackageMetadata.mk
    <$> Fields.member "type" .string
    <*> Fields.member "name" .string
    <*> Fields.member "version" .string
    <*> Fields.member "release" .string
    <*> Fields.possible "epoch" .string
    <*> Fields.member "arch" .string
    <*> Fields.member "sigmd5" .string
    <*> Fields.possible "signature" .string

instance : Wire PackageMetadata where
  encode p := .obj <|
    [("type", encode p.packageType), ("name", encode p.name), ("version", encode p.version),
      ("release", encode p.release)] ++
    Json.given "epoch" encode p.epoch ++
    [("arch", encode p.arch), ("sigmd5", encode p.sigmd5)] ++
    Json.given "signature" encode p.signature
  decoder := fields.decoder

end PackageMetadata

/-- What went into the image of a compose. -/
structure ComposeMetadata where
  reference : ObjectReference
  packages : Option (List PackageMetadata) := none
  ostreeCommit : Option String := none
  deriving DecidableEq

namespace ComposeMetadata

/-- The members of the JSON form. -/
def fields : Fields ComposeMetadata :=
  ComposeMetadata.mk
    <$> ObjectReference.fields.flattened
    <*> Fields.possible "packages" Wire.decoder
    <*> Fields.possible "ostree_commit" .string

instance : Wire ComposeMetadata where
  encode m := .obj <|
    m.reference.members ++
    Json.given "packages" encode m.packages ++
    Json.given "ostree_commit" encode m.ostreeCommit
  decoder := fields.decoder

end ComposeMetadata

/-! ## Logs and manifests -/

/-- What the jobs of a build in Koji reported. -/
structure KojiLogs where
  /-- The result of the job that opened the build. -/
  init : Json
  /-- The result of the job that imported the images. -/
  importing : Json

namespace KojiLogs

/-- The members of the JSON form. -/
def fields : Fields KojiLogs :=
  KojiLogs.mk
    <$> Fields.member "init" .any
    <*> Fields.member "import" .any

instance : Wire KojiLogs where
  encode l := .obj [("init", l.init), ("import", l.importing)]
  decoder := fields.decoder

end KojiLogs

/-- What the jobs of a compose reported. -/
structure ComposeLogs where
  reference : ObjectReference
  imageBuilds : List Json
  /-- The results of the jobs that dealt with Koji. -/
  koji : Option KojiLogs := none

namespace ComposeLogs

/-- The members of the JSON form. -/
def fields : Fields ComposeLogs :=
  ComposeLogs.mk
    <$> ObjectReference.fields.flattened
    <*> Fields.member "image_builds" Wire.decoder
    <*> Fields.possible "koji" Wire.decoder

instance : Wire ComposeLogs where
  encode l := .obj <|
    l.reference.members ++
    [("image_builds", .arr l.imageBuilds)] ++
    Json.given "koji" encode l.koji
  decoder := fields.decoder

end ComposeLogs

/-- The manifests that the images of a compose are built from. -/
structure ComposeManifests where
  reference : ObjectReference
  manifests : List Json

namespace ComposeManifests

/-- The members of the JSON form. -/
def fields : Fields ComposeManifests :=
  ComposeManifests.mk
    <$> ObjectReference.fields.flattened
    <*> Fields.member "manifests" Wire.decoder

instance : Wire ComposeManifests where
  encode m := .obj (m.reference.members ++ [("manifests", .arr m.manifests)])
  decoder := fields.decoder

end ComposeManifests

end ImageCompose
