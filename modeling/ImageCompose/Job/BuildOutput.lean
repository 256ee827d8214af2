import ImageCompose.Json.Decode

/-!
# Output of a build

What the build tool reports of a run (`BuildOutput`): a log, and for each pipeline the metadata of
its stages. Of the stages two are understood, the one that installs packages and the one that makes
an ostree commit (`BuildOutput.stageMetadata`); the metadata of all others stays as it is.
-/

namespace ImageCompose

/-- The stage that installs packages. -/
def rpmStage : String := "org.osbuild.rpm"

/-- The stage that makes an ostree commit. -/
def ostreeCommitStage : String := "org.osbuild.ostree.commit"

/-- What the build tool reports of a run. -/
structure BuildOutput where
  success : Bool := false
  log : List (String × Json) := []
  metadata : List (String × List (String × Json)) := []

namespace BuildOutput

/-- The members of the JSON form. -/
def fields : Fields BuildOutput :=
  BuildOutput.mk
    <$> Fields.defaulted "success" .bool false
    <*> Fields.defaulted "log" (.dictionary .any) []
    <*> Fields.defaulted "metadata" (.dictionary (.dictionary .any)) []

instance : Wire BuildOutput where
  encode o := .obj [
    ("success", encode o.success),
    ("log", .obj o.log),
    ("metadata", .obj (o.metadata.map fun (pipeline, stages) => (pipeline, .obj stages)))]
  decoder := fields.decoder

end BuildOutput

/-- A package that was installed into an image. -/
structure RpmPackage where
  name : String
  version : String
  release : String
  epoch : Option String := none
  arch : String
  sigmd5 : String := ""
  sigpgp : String := ""
  /-- The signature in the older header tag. -/
  siggpg : String := ""
  deriving DecidableEq

namespace RpmPackage

/-- The members of the JSON form. -/
def fields : Fields RpmPackage :=
  RpmPackage.mk
    <$> Fields.member "name" .string
    <*> Fields.member "version" .string
    <*> Fields.member "release" .string
    <*> Fields.possible "epoch" .string
    <*> Fields.member "arch" .string
    <*> Fields.defaulted "sigmd5" .string ""
    <*> Fields.defaulted "sigpgp" .string ""
    <*> Fields.defaulted "siggpg" .string ""

instance : Wire RpmPackage where
  encode p := .obj [
    ("name", encode p.name),
    ("version", encode p.version),
    ("release", encode p.release),
    ("epoch", Json.nullable encode p.epoch),
    ("arch", encode p.arch),
    ("sigmd5", encode p.sigmd5),
    ("sigpgp", encode p.sigpgp),
    ("siggpg", encode p.siggpg)]
  decoder := fields.decoder

/-- The signature of a package: the first of the two that is not empty. -/
def signature (p : RpmPackage) : Option String :=
  if p.sigpgp ≠ "" then some p.sigpgp
  else if p.siggpg ≠ "" then some p.siggpg
  else none

end RpmPackage

/-- The metadata of the stage that installs packages. -/
structure RpmStage where
  packages : List RpmPackage := []

namespace RpmStage

/-- The members of the JSON form. -/
def fields : Fields RpmStage :=
  RpmStage.mk <$> Fields.defaulted "packages" Wire.decoder []

instance : Wire RpmStage := ⟨fun s => .obj [("packages", encode s.packages)], fields.decoder⟩

end RpmStage

/-- What a commit stage tells of its commit. -/
structure OstreeCompose where
  ostreeCommit : String

namespace OstreeCompose

/-- The members of the JSON form. -/
def fields : Fields OstreeCompose :=
  OstreeCompose.mk <$> Fields.member "ostree-commit" .string

instance : Wire OstreeCompose :=
  ⟨fun c => .obj [("ostree-commit", encode c.ostreeCommit)], fields.decoder⟩

end OstreeCompose

/-- The metadata of the stage that makes an ostree commit. -/
structure OstreeCommitStage where
  compose : OstreeCompose

namespace OstreeCommitStage

/-- The members of the JSON form. -/
def fields : Fields OstreeCommitStage :=
  OstreeCommitStage.mk <$> Fields.member "compose" Wire.decoder

instance : Wire OstreeCommitStage :=
  ⟨fun s => .obj [("compose", encode s.compose)], fields.decoder⟩

end OstreeCommitStage

/-- The metadata of a stage that is understood. -/
inductive StageMetadata
  | rpm (stage : RpmStage)
  /-- Of the stage that makes an ostree commit. -/
  | ostreeCommit (stage : OstreeCommitStage)

namespace StageMetadata

/-- How the metadata of each understood stage is read, in the order of the stages' names. -/
def decoders : List (String × Decoder StageMetadata) := [
  (ostreeCommitStage, fun d => StageMetadata.ostreeCommit <$> Wire.decoder d),
  (rpmStage, fun d => StageMetadata.rpm <$> Wire.decoder d)]

end StageMetadata

namespace BuildOutput

/-- The stages of a pipeline that are understood, in the order of their names, each read or with
the fault of its metadata. -/
def stageMetadata (o : BuildOutput) (pipeline : String) : List (Except Fault StageMetadata) :=
  match o.metadata.lookup pipeline with
  | none => []
  | some stages => StageMetadata.decoders.filterMap fun (stage, decoder) =>
    (stages.lookup stage).map fun metadata => Decoder.settled decoder metadata.doc

end BuildOutput

end ImageCompose
