import ImageCompose.Uuid

/-!
# Upload targets

A `Target` says where a build job delivers its image: a name that selects the kind of place
(`TargetName`), and the options of that kind (`TargetOptions`).
-/

namespace ImageCompose

/-- A kind of place that a build job delivers to. -/
inductive TargetName
  /-- An EC2 image. -/
  | aws
  /-- An object in S3. -/
  | awsS3
  | gcp
  | azureImage
  | container
  | ociObjectStorage
  /-- An ostree repository on a Pulp server. -/
  | pulpOstree
  | koji
  | workerServer
  deriving DecidableEq

namespace TargetName

/-- All kinds of places. -/
def all : List TargetName :=
  [.aws, .awsS3, .gcp, .azureImage, .container, .ociObjectStorage, .pulpOstree, .koji,
    .workerServer]

/-- The name of a kind. -/
def name : TargetName → String
  | .aws => "org.osbuild.aws"
  | .awsS3 => "org.osbuild.aws.s3"
  | .gcp => "org.osbuild.gcp"
  | .azureImage => "org.osbuild.azure.image"
  | .container => "org.osbuild.container"
  | .ociObjectStorage => "org.osbuild.oci.objectstorage"
  | .pulpOstree => "org.osbuild.pulp.ostree"
  | .koji => "org.osbuild.koji"
  | .workerServer => "org.osbuild.worker.server"

/-- The kind of a name. -/
def ofName? (name : String) : Option TargetName :=
  all.find? fun t => t.name == name

instance : Wire TargetName := ⟨fun t => .str t.name, Decoder.variant (all.map fun t => (t.name, t))⟩

/-- A kind is found by its name. -/
theorem ofName?_name (t : TargetName) : ofName? t.name = some t := by
  cases t <;> decide

end TargetName

/-- The file of a build that is delivered. -/
structure Artifact where
  exportFilename : String := ""
  exportName : String := ""
  deriving DecidableEq

namespace Artifact

/-- The members of the JSON form. -/
def fields : Fields Artifact :=
  Artifact.mk
    <$> Fields.member "export_filename" .string
    <*> Fields.member "export_name" .string

instance : Wire Artifact where
  encode a := .obj [
    ("export_filename", encode a.exportFilename),
    ("export_name", encode a.exportName)]
  decoder := fields.decoder

end Artifact

/-- The options of a place that a build job delivers to. -/
inductive TargetOptions
  /-- An EC2 image: its region, its name in storage, and the accounts that may use it. -/
  | aws (region key : String) (shareWithAccounts : List String) (snapshotName : Option String)
  /-- An object in S3. -/
  | awsS3 (region key : String) (isPublic : Bool)
  /-- A Compute Engine image and the accounts that may use it. -/
  | gcp (region : String) (bucket : Option String) (object : String)
      (shareWithAccounts : List String)
  | azureImage (tenantId subscriptionId resourceGroup location : String)
  | container (reference : String) (tlsVerify : Option Bool)
  | ociObjectStorage
  /-- An ostree repository on a Pulp server. -/
  | pulpOstree (serverAddress repository basepath : String)
  | koji (server uploadDirectory : String)
  | workerServer
  deriving DecidableEq

namespace TargetOptions

/-- The kind of place that options are for. -/
def target : TargetOptions → TargetName
  | .aws .. => .aws
  | .awsS3 .. => .awsS3
  | .gcp .. => .gcp
  | .azureImage .. => .azureImage
  | .container .. => .container
  | .ociObjectStorage => .ociObjectStorage
  | .pulpOstree .. => .pulpOstree
  | .koji .. => .koji
  | .workerServer => .workerServer

/-- The members of the JSON form of one kind of options, without the name. -/
def fields : TargetName → Fields TargetOptions
  | .aws =>
    TargetOptions.aws
      <$> Fields.member "region" .string
      <*> Fields.member "key" .string
      <*> Fields.defaulted "share_with_accounts" (.list .string) []
      <*> Fields.possible "snapshot_name" .string
  | .awsS3 =>
    TargetOptions.awsS3
      <$> Fields.member "region" .string
      <*> Fields.member "key" .string
      <*> Fields.defaulted "public" .bool false
  | .gcp =>
    TargetOptions.gcp
      <$> Fields.member "region" .string
      <*> Fields.possible "bucket" .string
      <*> Fields.member "object" .string
      <*> Fields.defaulted "share_with_accounts" (.list .string) []
  | .azureImage =>
    TargetOptions.azureImage
      <$> Fields.member "tenant_id" .string
      <*> Fields.member "subscription_id" .string
      <*> Fields.member "resource_group" .string
      <*> Fields.member "location" .string
  | .container =>
    TargetOptions.container
      <$> Fields.member "reference" .string
      <*> Fields.possible "tls_verify" .bool
  | .ociObjectStorage => .of .ociObjectStorage
  | .pulpOstree =>
    TargetOptions.pulpOstree
      <$> Fields.member "server_address" .string
      <*> Fields.member "repository" .string
      <*> Fields.defaulted "basepath" .string ""
  | .koji =>
    TargetOptions.koji
      <$> Fields.member "server" .string
      <*> Fields.member "upload_directory" .string
  | .workerServer => .of .workerServer

/-- The members of the JSON form after the name. -/
def members : TargetOptions → List (String × Json)
  | .aws region key accounts snapshotName =>
    [("region", encode region), ("key", encode key), ("share_with_accounts", encode accounts)] ++
      Json.given "snapshot_name" encode snapshotName
  | .awsS3 region key isPublic =>
    [("region", encode region), ("key", encode key), ("public", encode isPublic)]
  | .gcp region bucket object accounts =>
    [("region", encode region)] ++ Json.given "bucket" encode bucket ++
      [("object", encode object), ("share_with_accounts", encode accounts)]
  | .azureImage tenantId subscriptionId resourceGroup location =>
    [("tenant_id", encode tenantId), ("subscription_id", encode subscriptionId),
      ("resource_group", encode resourceGroup), ("location", encode location)]
  | .container reference tlsVerify =>
    [("reference", encode reference)] ++ Json.given "tls_verify" encode tlsVerify
  | .ociObjectStorage | .workerServer => []
  | .pulpOstree serverAddress repository basepath =>
    [("server_address", encode serverAddress), ("repository", encode repository),
      ("basepath", encode basepath)]
  | .koji server uploadDirectory =>
    [("server", encode server), ("upload_directory", encode uploadDirectory)]

instance : Wire TargetOptions where
  encode o := .obj (("name", .str o.target.name) :: o.members)
  decoder := Decoder.tagged "name" (TargetName.all.map fun t => (t.name, (fields t).decoder))

end TargetOptions

/-- Where a build job delivers its image. -/
structure Target where
  uuid : Uuid
  /-- The name of the image at the place. -/
  imageName : String
  artifact : Artifact
  options : TargetOptions

namespace Target

/-- The kind of place. -/
def name (t : Target) : TargetName := t.options.target

/-- The members of the JSON form. -/
def fields : Fields Target :=
  Target.mk
    <$> Fields.member "uuid" Wire.decoder
    <*> Fields.member "image_name" .string
    <*> Fields.member "artifact" Wire.decoder
    <*> Fields.member "options" Wire.decoder

instance : Wire Target where
  encode t := .obj [
    ("uuid", encode t.uuid),
    ("image_name", encode t.imageName),
    ("artifact", encode t.artifact),
    ("options", encode t.options)]
  decoder := fields.decoder

end Target

end ImageCompose
