import ImageCompose.Image.Repository
import ImageCompose.Image.Type
import ImageCompose.Job.BuildOutput
import ImageCompose.Job.Kind
import ImageCompose.Job.Status
import ImageCompose.Target.Result

/-!
# Arguments and results of jobs

Each kind of job has arguments, written when it is submitted, and a result, written by the worker
that executes it. `JobArgs` is the sum of all arguments, of which each knows its kind
(`JobArgs.kind`); `ResultOf` ties a type of results to its kind. A result can end in an error
whatever its kind, and `AnyResult` reads only that.
-/

namespace ImageCompose

/-! ## Arguments -/

/-- The arguments of a build. -/
structure BuildArgs where
  /-- The manifest, if it is known when the job is submitted. -/
  manifest : Option Json := none
  targets : List Target := []
  pipelineNames : PipelineNames := {}

/-- The arguments of a job that resolves a manifest. -/
structure ManifestArgs where
  distribution : String
  architecture : String
  /-- The image type, by the name that manifests use. -/
  imageType : String
  /-- The repositories that packages are resolved from. -/
  repositories : List RepositoryConfig := []
  customizations : Option Json := none
  /-- The seed of everything random in the manifest. -/
  seed : Int64

/-- The arguments of a job that opens a build in Koji. -/
structure KojiInitArgs where
  server : String
  name : String
  version : String
  release : String

/-- The arguments of a job that imports images into a build in Koji. -/
structure KojiFinalizeArgs where
  server : String
  name : String
  version : String
  release : String
  /-- The names under which the images were uploaded, in order. -/
  kojiFilenames : List String := []
  /-- The directory that the images were uploaded to. -/
  kojiDirectory : String
  /-- The task that the build belongs to. -/
  taskId : UInt64
  /-- When the build started, in seconds since 1970. -/
  startTime : UInt64

/-- The arguments of a job that copies an EC2 image to another region. -/
structure CopyArgs where
  ami : String
  sourceRegion : String
  targetRegion : String
  targetName : String
  deriving DecidableEq

/-- The arguments of a job that shares an EC2 image with accounts. -/
structure ShareArgs where
  /-- The image; empty if it is the one that a copy job makes. -/
  ami : String
  /-- The region it is in; empty if it is the one of a copy job. -/
  region : String
  shareWithAccounts : List String
  deriving DecidableEq

namespace BuildArgs

/-- The members of the JSON form. -/
def fields : Fields BuildArgs :=
  BuildArgs.mk
    <$> Fields.possible "manifest" .any
    <*> Fields.defaulted "targets" Wire.decoder []
    <*> Fields.defaulted "pipeline_names" Wire.decoder {}

instance : Wire BuildArgs where
  encode a := .obj <|
    Json.given "manifest" encode a.manifest ++
    [("targets", encode a.targets), ("pipeline_names", encode a.pipelineNames)]
  decoder := fields.decoder

end BuildArgs

namespace ManifestArgs

/-- The members of the JSON form. -/
def fields : Fields ManifestArgs :=
  ManifestArgs.mk
    <$> Fields.member "distribution" .string
    <*> Fields.member "architecture" .string
    <*> Fields.member "image_type" .string
    <*> Fields.defaulted "repositories" Wire.decoder []
    <*> Fields.possible "customizations" .any
    <*> Fields.member "seed" .int64

instance : Wire ManifestArgs where
  encode a := .obj <|
    [("distribution", encode a.distribution), ("architecture", encode a.architecture),
      ("image_type", encode a.imageType), ("repositories", encode a.repositories)] ++
    Json.given "customizations" encode a.customizations ++
    [("seed", .num (.int a.seed.toInt))]
  decoder := fields.decoder

end ManifestArgs

namespace KojiInitArgs

/-- The members of the JSON form. -/
def fields : Fields KojiInitArgs :=
  KojiInitArgs.mk
    <$> Fields.member "server" .string
    <*> Fields.member "name" .string
    <*> Fields.member "version" .string
    <*> Fields.member "release" .string

instance : Wire KojiInitArgs where
  encode a := .obj [
    ("server", encode a.server), ("name", encode a.name), ("version", encode a.version),
    ("release", encode a.release)]
  decoder := fields.decoder

end KojiInitArgs

namespace KojiFinalizeArgs

/-- The members of the JSON form. -/
def fields : Fields KojiFinalizeArgs :=
  KojiFinalizeArgs.mk
    <$> Fields.member "server" .string
    <*> Fields.member "name" .string
    <*> Fields.member "version" .string
    <*> Fields.member "release" .string
    <*> Fields.defaulted "koji_filenames" Wire.decoder []
    <*> Fields.member "koji_directory" .string
    <*> Fields.member "task_id" .uint64
    <*> Fields.member "start_time" .uint64

instance : Wire KojiFinalizeArgs where
  encode a := .obj [
    ("server", encode a.server), ("name", encode a.name), ("version", encode a.version),
    ("release", encode a.release), ("koji_filenames", encode a.kojiFilenames),
    ("koji_directory", encode a.kojiDirectory), ("task_id", Json.nat a.taskId.toNat),
    ("start_time", Json.nat a.startTime.toNat)]
  decoder := fields.decoder

end KojiFinalizeArgs

namespace CopyArgs

/-- The members of the JSON form. -/
def fields : Fields CopyArgs :=
  CopyArgs.mk
    <$> Fields.member "ami" .string
    <*> Fields.member "source_region" .string
    <*> Fields.member "target_region" .string
    <*> Fields.member "target_name" .string

instance : Wire CopyArgs where
  encode a := .obj [
    ("ami", encode a.ami), ("source_region", encode a.sourceRegion),
    ("target_region", encode a.targetRegion), ("target_name", encode a.targetName)]
  decoder := fields.decoder

end CopyArgs

namespace ShareArgs

/-- The members of the JSON form. -/
def fields : Fields ShareArgs :=
  ShareArgs.mk
    <$> Fields.member "ami" .string
    <*> Fields.member "region" .string
    <*> Fields.member "share_with_accounts" Wire.decoder

instance : Wire ShareArgs where
  encode a := .obj [
    ("ami", encode a.ami), ("region", encode a.region),
    ("share_with_accounts", encode a.shareWithAccounts)]
  decoder := fields.decoder

end ShareArgs

/-- The arguments of a job of any kind. -/
inductive JobArgs
  | build (args : BuildArgs)
  /-- Of a job that resolves a manifest. -/
  | manifest (args : ManifestArgs)
  /-- Of a job that opens a build in Koji. -/
  | kojiInit (args : KojiInitArgs)
  /-- Of a job that imports images into a build in Koji. -/
  | kojiFinalize (args : KojiFinalizeArgs)
  /-- Of a job that copies an EC2 image. -/
  | copy (args : CopyArgs)
  /-- Of a job that shares an EC2 image. -/
  | share (args : ShareArgs)

namespace JobArgs

/-- The kind of job that arguments are for. -/
def kind : JobArgs → JobKind
  | .build _ => .osbuild
  | .manifest _ => .manifestIdOnly
  | .kojiInit _ => .kojiInit
  | .kojiFinalize _ => .kojiFinalize
  | .copy _ => .awsEc2Copy
  | .share _ => .awsEc2Share

/-- The JSON form of arguments. -/
def toJson : JobArgs → Json
  | .build a => encode a
  | .manifest a => encode a
  | .kojiInit a => encode a
  | .kojiFinalize a => encode a
  | .copy a => encode a
  | .share a => encode a

end JobArgs

/-! ## Results -/

/-- The result of a build. -/
structure BuildResult where
  /-- Whether the image was built and delivered. -/
  success : Bool := false
  osbuildOutput : Option BuildOutput := none
  targetResults : List TargetResult := []
  /-- The error that the job ended in. -/
  jobError : Option JobError := none

/-- The result of a job that resolves a manifest. -/
structure ManifestResult where
  manifest : Option Json := none
  /-- The error that the job ended in. -/
  jobError : Option JobError := none

/-- The result of a job that opens a build in Koji. -/
structure KojiInitResult where
  /-- The number of the build in Koji; zero if there is none. -/
  buildId : UInt64 := 0
  /-- The token that later steps of the build need. -/
  token : String := ""
  /-- The error that the job ended in. -/
  jobError : Option JobError := none

/-- The result of a job that imports images into a build in Koji. -/
structure KojiFinalizeResult where
  /-- The error that the job ended in. -/
  jobError : Option JobError := none

/-- The result of a job that copies an EC2 image. -/
structure CopyResult where
  ami : String := ""
  region : String := ""
  /-- The error that the job ended in. -/
  jobError : Option JobError := none

/-- The result of a job that shares an EC2 image. -/
structure ShareResult where
  ami : String := ""
  region : String := ""
  /-- The error that the job ended in. -/
  jobError : Option JobError := none

/-- What is read of a result whatever the kind of its job. -/
structure AnyResult where
  /-- The error that the job ended in. -/
  jobError : Option JobError := none

namespace BuildResult

/-- The members of the JSON form. -/
def fields : Fields BuildResult :=
  BuildResult.mk
    <$> Fields.defaulted "success" .bool false
    <*> Fields.possible "osbuild_output" Wire.decoder
    <*> Fields.defaulted "target_results" Wire.decoder []
    <*> Fields.possible "job_error" Wire.decoder

instance : Wire BuildResult where
  encode r := .obj <|
    [("success", encode r.success)] ++
    Json.given "osbuild_output" encode r.osbuildOutput ++
    [("target_results", encode r.targetResults)] ++
    Json.given "job_error" encode r.jobError
  decoder := fields.decoder

/-- Whether the build tool reported a failure. -/
def outputFailed (r : BuildResult) : Bool :=
  r.osbuildOutput.any fun o => !o.success

end BuildResult

namespace ManifestResult

/-- The members of the JSON form. -/
def fields : Fields ManifestResult :=
  ManifestResult.mk
    <$> Fields.possible "manifest" .any
    <*> Fields.possible "job_error" Wire.decoder

instance : Wire ManifestResult where
  encode r := .obj <|
    Json.given "manifest" encode r.manifest ++
    Json.given "job_error" encode r.jobError
  decoder := fields.decoder

end ManifestResult

namespace KojiInitResult

/-- The members of the JSON form. -/
def fields : Fields KojiInitResult :=
  KojiInitResult.mk
    <$> Fields.defaulted "build_id" .uint64 0
    <*> Fields.defaulted "token" .string ""
    <*> Fields.possible "job_error" Wire.decoder

instance : Wire KojiInitResult where
  encode r := .obj <|
    [("build_id", Json.nat r.buildId.toNat), ("token", encode r.token)] ++
    Json.given "job_error" encode r.jobError
  decoder := fields.decoder

end KojiInitResult

namespace KojiFinalizeResult

/-- The members of the JSON form. -/
def fields : Fields KojiFinalizeResult :=
  KojiFinalizeResult.mk <$> Fields.possible "job_error" Wire.decoder

instance : Wire KojiFinalizeResult where
  encode r := .obj (Json.given "job_error" encode r.jobError)
  decoder := fields.decoder

end KojiFinalizeResult

namespace CopyResult

/-- The members of the JSON form. -/
def fields : Fields CopyResult :=
  CopyResult.mk
    <$> Fields.defaulted "ami" .string ""
    <*> Fields.defaulted "region" .string ""
    <*> Fields.possible "job_error" Wire.decoder

instance : Wire CopyResult where
  encode r := .obj <|
    [("ami", encode r.ami), ("region", encode r.region)] ++
    Json.given "job_error" encode r.jobError
  decoder := fields.decoder

end CopyResult

namespace ShareResult

/-- The members of the JSON form. -/
def fields : Fields ShareResult :=
  ShareResult.mk
    <$> Fields.defaulted "ami" .string ""
    <*> Fields.defaulted "region" .string ""
    <*> Fields.possible "job_error" Wire.decoder

instance : Wire ShareResult where
  encode r := .obj <|
    [("ami", encode r.ami), ("region", encode r.region)] ++
    Json.given "job_error" encode r.jobError
  decoder := fields.decoder

end ShareResult

namespace AnyResult

/-- The members of the JSON form. -/
def fields : Fields AnyResult :=
  AnyResult.mk <$> Fields.possible "job_error" Wire.decoder

/-- Reads the error of a result of any kind. -/
def decoder : Decoder AnyResult := fields.decoder

end AnyResult

/-- A type that holds the results of one kind of job. -/
class ResultOf (ρ : Type) extends Wire ρ where
  kind : JobKind
  /-- The result of a job that reported none. -/
  empty : ρ
  /-- The error that the job ended in. -/
  jobError : ρ → Option JobError

instance : ResultOf BuildResult := ⟨.osbuild, {}, (·.jobError)⟩
instance : ResultOf ManifestResult := ⟨.manifestIdOnly, {}, (·.jobError)⟩
instance : ResultOf KojiInitResult := ⟨.kojiInit, {}, (·.jobError)⟩
instance : ResultOf KojiFinalizeResult := ⟨.kojiFinalize, {}, (·.jobError)⟩
instance : ResultOf CopyResult := ⟨.awsEc2Copy, {}, (·.jobError)⟩
instance : ResultOf ShareResult := ⟨.awsEc2Share, {}, (·.jobError)⟩

end ImageCompose
