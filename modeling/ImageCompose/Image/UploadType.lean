import ImageCompose.Json.Decode

/-!
# Upload types

The kinds of place that a finished image can be delivered to, as the API names them.
-/

namespace ImageCompose

/-- A kind of place that an image is delivered to. -/
inductive UploadType
  /-- An EC2 image. -/
  | aws
  /-- An object in S3. -/
  | awsS3
  | gcp
  | azure
  | container
  | ociObjectStorage
  /-- An ostree repository on a Pulp server. -/
  | pulpOstree
  deriving DecidableEq

namespace UploadType

/-- All upload types. -/
def all : List UploadType :=
  [.aws, .awsS3, .gcp, .azure, .container, .ociObjectStorage, .pulpOstree]

/-- The name in the API. -/
def name : UploadType → String
  | .aws => "aws"
  | .awsS3 => "aws.s3"
  | .gcp => "gcp"
  | .azure => "azure"
  | .container => "container"
  | .ociObjectStorage => "oci.objectstorage"
  | .pulpOstree => "pulp.ostree"

/-- The name in error messages. -/
def title : UploadType → String
  | .aws => "Aws"
  | .awsS3 => "AwsS3"
  | .gcp => "Gcp"
  | .azure => "Azure"
  | .container => "Container"
  | .ociObjectStorage => "OciObjectStorage"
  | .pulpOstree => "PulpOstree"

instance : Wire UploadType := ⟨fun t => .str t.name, Decoder.variant (all.map fun t => (t.name, t))⟩

end UploadType

end ImageCompose
