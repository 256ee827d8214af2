import ImageCompose.Image.UploadType
import ImageCompose.Target.Result

/-!
# Upload statuses

What the API reports about one delivery of an image (`UploadStatus`): how far it has come and, by
upload type, where the image is. `UploadStatus.ofResult` reads it off a target result; results of
Koji, of the worker server and of unknown targets have none.
-/

namespace ImageCompose

/-- How far a delivery has come. -/
inductive UploadStatusValue
  | pending
  | running
  | success
  | failure
  deriving DecidableEq

namespace UploadStatusValue

/-- All values. -/
def all : List UploadStatusValue := [.pending, .running, .success, .failure]

/-- The name of a value. -/
def name : UploadStatusValue → String
  | .pending => "pending"
  | .running => "running"
  | .success => "success"
  | .failure => "failure"

instance : Wire UploadStatusValue :=
  ⟨fun s => .str s.name, Decoder.variant (all.map fun s => (s.name, s))⟩

end UploadStatusValue

/-- Where a delivered image is. -/
inductive UploadDetails
  /-- The EC2 image and its region. -/
  | aws (ami region : String)
  /-- The address of the object in S3. -/
  | awsS3 (url : String)
  /-- The Compute Engine image and its project. -/
  | gcp (imageName projectId : String)
  | azure (imageName : String)
  /-- The address and the digest of the container. -/
  | container (url digest : String)
  /-- The address of the object in OCI object storage. -/
  | ociObjectStorage (url : String)
  | pulpOstree (repoUrl : String)
  deriving DecidableEq

namespace UploadDetails

/-- The upload type of a delivery. -/
def uploadType : UploadDetails → UploadType
  | .aws .. => .aws
  | .awsS3 .. => .awsS3
  | .gcp .. => .gcp
  | .azure .. => .azure
  | .container .. => .container
  | .ociObjectStorage .. => .ociObjectStorage
  | .pulpOstree .. => .pulpOstree

/-- The members of the options of one upload type. -/
def optionsFields : UploadType → Fields UploadDetails
  | .aws => UploadDetails.aws <$> Fields.member "ami" .string <*> Fields.member "region" .string
  | .awsS3 => UploadDetails.awsS3 <$> Fields.member "url" .string
  | .gcp =>
    UploadDetails.gcp
      <$> Fields.member "image_name" .string
      <*> Fields.member "project_id" .string
  | .azure => UploadDetails.azure <$> Fields.member "image_name" .string
  | .container =>
    UploadDetails.container
      <$> Fields.member "url" .string
      <*> Fields.member "digest" .string
  | .ociObjectStorage => UploadDetails.ociObjectStorage <$> Fields.member "url" .string
  | .pulpOstree => UploadDetails.pulpOstree <$> Fields.member "repo_url" .string

/-- The options of a delivery. -/
def options : UploadDetails → Json
  | .aws ami region => .obj [("ami", encode ami), ("region", encode region)]
  | .awsS3 url | .ociObjectStorage url => .obj [("url", encode url)]
  | .gcp imageName projectId =>
    .obj [("image_name", encode imageName), ("project_id", encode projectId)]
  | .azure imageName => .obj [("image_name", encode imageName)]
  | .container url digest => .obj [("url", encode url), ("digest", encode digest)]
  | .pulpOstree repoUrl => .obj [("repo_url", encode repoUrl)]

/-- The members of the JSON form: the upload type, and the options in a member of their own. -/
def fields : Fields UploadDetails :=
  Fields.adjacent "type" "options"
    (UploadType.all.map fun t => (t.name, (optionsFields t).decoder))

/-- The members of a delivery in JSON. -/
def members (d : UploadDetails) : List (String × Json) :=
  [("type", encode d.uploadType), ("options", d.options)]

instance : Wire UploadDetails := ⟨fun d => .obj d.members, fields.decoder⟩

end UploadDetails

/-- What the API reports about one delivery of an image. -/
structure UploadStatus where
  status : Option UploadStatusValue
  details : UploadDetails
  deriving DecidableEq

namespace UploadStatus

/-- The same delivery with a status. -/
def withStatus (u : UploadStatus) (status : UploadStatusValue) : UploadStatus :=
  { u with status := some status }

/-- The upload type of a delivery. -/
def uploadType (u : UploadStatus) : UploadType := u.details.uploadType

/-- The members of the JSON form. -/
def fields : Fields UploadStatus :=
  UploadStatus.mk
    <$> Fields.possible "status" Wire.decoder
    <*> UploadDetails.fields.flattened

/-- The members of a delivery in JSON. -/
def members (u : UploadStatus) : List (String × Json) :=
  Json.given "status" encode u.status ++ u.details.members

instance : Wire UploadStatus := ⟨fun u => .obj u.members, fields.decoder⟩

/-- The message about a target without upload status. -/
def unknownMessage (name : String) : String :=
  "unknown upload target: " ++ name

/-- The delivery that a target result tells of; the name of the target if there is none. The status
is left open. -/
def ofResult : TargetResult → Except String UploadStatus
  | .aws ami region => .ok ⟨none, .aws ami region⟩
  | .awsS3 url => .ok ⟨none, .awsS3 url⟩
  | .gcp imageName projectId => .ok ⟨none, .gcp imageName projectId⟩
  | .azureImage imageName => .ok ⟨none, .azure imageName⟩
  | .container url digest => .ok ⟨none, .container url digest⟩
  | .ociObjectStorage url => .ok ⟨none, .ociObjectStorage url⟩
  | .pulpOstree repoUrl => .ok ⟨none, .pulpOstree repoUrl⟩
  | r@(.koji ..) | r@.workerServer | r@(.unknown ..) => .error r.name

end UploadStatus

end ImageCompose
