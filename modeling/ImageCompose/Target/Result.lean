import ImageCompose.Target.Basic

/-!
# Target results

What a build job reports about one of its targets once it has delivered the image (`TargetResult`).
A result whose name no target has is kept as it is (`TargetResult.unknown`), so that a report of a
newer worker can still be read.
-/

namespace ImageCompose

/-- What a build job reports about one of its targets. -/
inductive TargetResult
  /-- The EC2 image and its region. -/
  | aws (ami region : String)
  /-- The address of the object in S3. -/
  | awsS3 (url : String)
  /-- The Compute Engine image and its project. -/
  | gcp (imageName projectId : String)
  | azureImage (imageName : String)
  /-- The address and the digest of the container. -/
  | container (url digest : String)
  /-- The address of the object in OCI object storage. -/
  | ociObjectStorage (url : String)
  | pulpOstree (repoUrl : String)
  /-- The checksum and the size of the file that Koji was given. -/
  | koji (imageMd5 : String) (imageSize : UInt64)
  /-- The image stays on the worker server. -/
  | workerServer
  /-- A report under a name that no target has, as it is. -/
  | unknown (name : String) (options : Json)

namespace TargetResult

/-- The kind of target, unless it is unknown. -/
def target? : TargetResult → Option TargetName
  | .aws .. => some .aws
  | .awsS3 .. => some .awsS3
  | .gcp .. => some .gcp
  | .azureImage .. => some .azureImage
  | .container .. => some .container
  | .ociObjectStorage .. => some .ociObjectStorage
  | .pulpOstree .. => some .pulpOstree
  | .koji .. => some .koji
  | .workerServer => some .workerServer
  | .unknown .. => none

/-- The name that a result is reported under. -/
def name : TargetResult → String
  | .unknown name _ => name
  | .aws .. => TargetName.aws.name
  | .awsS3 .. => TargetName.awsS3.name
  | .gcp .. => TargetName.gcp.name
  | .azureImage .. => TargetName.azureImage.name
  | .container .. => TargetName.container.name
  | .ociObjectStorage .. => TargetName.ociObjectStorage.name
  | .pulpOstree .. => TargetName.pulpOstree.name
  | .koji .. => TargetName.koji.name
  | .workerServer => TargetName.workerServer.name

/-- How the options of a known target are read; those of the worker server do not matter. -/
def optionsDecoder : TargetName → Decoder TargetResult
  | .aws =>
    (TargetResult.aws <$> Fields.member "ami" .string <*> Fields.member "region" .string).decoder
  | .awsS3 => (TargetResult.awsS3 <$> Fields.member "url" .string).decoder
  | .gcp =>
    (TargetResult.gcp
      <$> Fields.member "image_name" .string
      <*> Fields.member "project_id" .string).decoder
  | .azureImage => (TargetResult.azureImage <$> Fields.member "image_name" .string).decoder
  | .container =>
    (TargetResult.container
      <$> Fields.member "url" .string
      <*> Fields.member "digest" .string).decoder
  | .ociObjectStorage => (TargetResult.ociObjectStorage <$> Fields.member "url" .string).decoder
  | .pulpOstree => (TargetResult.pulpOstree <$> Fields.member "repo_url" .string).decoder
  | .koji =>
    (TargetResult.koji
      <$> Fields.member "image_md5" .string
      <*> Fields.member "image_size" .uint64).decoder
  | .workerServer => fun _ => .ok .workerServer

/-- The options of a result, `null` if it has none. -/
def options : TargetResult → Json
  | .aws ami region => .obj [("ami", encode ami), ("region", encode region)]
  | .awsS3 url | .ociObjectStorage url => .obj [("url", encode url)]
  | .gcp imageName projectId =>
    .obj [("image_name", encode imageName), ("project_id", encode projectId)]
  | .azureImage imageName => .obj [("image_name", encode imageName)]
  | .container url digest => .obj [("url", encode url), ("digest", encode digest)]
  | .pulpOstree repoUrl => .obj [("repo_url", encode repoUrl)]
  | .koji imageMd5 imageSize =>
    .obj [("image_md5", encode imageMd5), ("image_size", Json.nat imageSize.toNat)]
  | .workerServer => .null
  | .unknown _ options => options

/-- The members of the JSON form: a name, and options that may be absent. -/
def fields : Fields (String × Json) :=
  Prod.mk <$> Fields.member "name" .string <*> Fields.defaulted "options" .any .null

/-- The result of a name and options. -/
def ofOptions (name : String) (options : Json) : Except Fault TargetResult :=
  match TargetName.ofName? name with
  | some target => Decoder.settled (optionsDecoder target) options.doc
  | none => .ok (.unknown name options)

instance : Wire TargetResult where
  encode r := .obj (("name", encode r.name) ::
    if r.options.isNull then [] else [("options", r.options)])
  decoder := fun d => do
    let (name, options) ← fields.decoder d
    ofOptions name options

end TargetResult

end ImageCompose
