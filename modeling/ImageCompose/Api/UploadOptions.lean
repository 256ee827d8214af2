import ImageCompose.Json.Decode

/-!
# Upload options

What a request says about the delivery of an image. The shape depends on the upload type of the
image, and a member that the shape does not have is refused. The wish to keep the image on the
worker server (`LocalUploadOptions`) may accompany any of them and is read on its own.
-/

namespace ImageCompose

/-- The options of a delivery as an EC2 image. -/
structure AwsUploadOptions where
  region : String
  /-- The accounts that may use the image. -/
  shareWithAccounts : List String := []
  /-- The name of the snapshot behind the image. -/
  snapshotName : Option String := none

/-- The options of a delivery to S3. -/
structure AwsS3UploadOptions where
  region : String
  isPublic : Bool := false

/-- The options of a delivery as a Compute Engine image. -/
structure GcpUploadOptions where
  region : String
  /-- The bucket that holds the image on its way. -/
  bucket : Option String := none
  /-- The accounts that may use the image. -/
  shareWithAccounts : List String := []

/-- The options of a delivery as an Azure image. -/
structure AzureUploadOptions where
  tenantId : String
  subscriptionId : String
  resourceGroup : String
  location : String
  imageName : Option String := none

/-- The options of a delivery to a container registry. -/
structure ContainerUploadOptions where
  name : Option String := none
  tag : Option String := none

/-- The wish to keep the image on the worker server. -/
structure LocalUploadOptions where
  localSave : Bool := false

namespace AwsUploadOptions

/-- The members of the JSON form. -/
def fields : Fields AwsUploadOptions :=
  AwsUploadOptions.mk
    <$> Fields.member "region" .string
    <*> Fields.defaulted "share_with_accounts" (.list .string) []
    <*> Fields.possible "snapshot_name" .string

instance : Wire AwsUploadOptions where
  encode o := .obj [
    ("region", encode o.region),
    ("share_with_accounts", encode o.shareWithAccounts),
    ("snapshot_name", Json.nullable encode o.snapshotName)]
  decoder := fields.strictDecoder

end AwsUploadOptions

namespace AwsS3UploadOptions

/-- The members of the JSON form. -/
def fields : Fields AwsS3UploadOptions :=
  AwsS3UploadOptions.mk
    <$> Fields.member "region" .string
    <*> Fields.defaulted "public" .bool false

instance : Wire AwsS3UploadOptions where
  encode o := .obj [("region", encode o.region), ("public", encode o.isPublic)]
  decoder := fields.strictDecoder

end AwsS3UploadOptions

namespace GcpUploadOptions

/-- The members of the JSON form. -/
def fields : Fields GcpUploadOptions :=
  GcpUploadOptions.mk
    <$> Fields.member "region" .string
    <*> Fields.possible "bucket" .string
    <*> Fields.defaulted "share_with_accounts" (.list .string) []

instance : Wire GcpUploadOptions where
  encode o := .obj [
    ("region", encode o.region),
    ("bucket", Json.nullable encode o.bucket),
    ("share_with_accounts", encode o.shareWithAccounts)]
  decoder := fields.strictDecoder

end GcpUploadOptions

namespace AzureUploadOptions

/-- The members of the JSON form. -/
def fields : Fields AzureUploadOptions :=
  AzureUploadOptions.mk
    <$> Fields.member "tenant_id" .string
    <*> Fields.member "subscription_id" .string
    <*> Fields.member "resource_group" .string
    <*> Fields.member "location" .string
    <*> Fields.possible "image_name" .string

instance : Wire AzureUploadOptions where
  encode o := .obj [
    ("tenant_id", encode o.tenantId),
    ("subscription_id", encode o.subscriptionId),
    ("resource_group", encode o.resourceGroup),
    ("location", encode o.location),
    ("image_name", Json.nullable encode o.imageName)]
  decoder := fields.strictDecoder

end AzureUploadOptions

namespace ContainerUploadOptions

/-- The members of the JSON form. -/
def fields : Fields ContainerUploadOptions :=
  ContainerUploadOptions.mk
    <$> Fields.possible "name" .string
    <*> Fields.possible "tag" .string

instance : Wire ContainerUploadOptions where
  encode o := .obj [
    ("name", Json.nullable encode o.name), ("tag", Json.nullable encode o.tag)]
  decoder := fields.strictDecoder

end ContainerUploadOptions

namespace LocalUploadOptions

/-- The members of the JSON form. -/
def fields : Fields LocalUploadOptions :=
  LocalUploadOptions.mk <$> Fields.defaulted "local_save" .bool false

instance : Wire LocalUploadOptions where
  encode o := .obj [("local_save", encode o.localSave)]
  decoder := fields.decoder

end LocalUploadOptions

end ImageCompose
