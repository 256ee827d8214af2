import ImageCompose.Api.UploadOptions
import ImageCompose.Image.Type
import ImageCompose.Service.Error
import ImageCompose.Service.Fresh
import ImageCompose.Target.Basic

/-!
# Where a request delivers its images

`uploadTarget` reads the upload options of a request. Options that ask to keep the image on the
worker server are honoured if that is allowed, whatever else they hold; all others are read as the
options of the upload type of the image, without the member that could have asked.

An object in storage is named with the `extension` of the file that holds the image: all that
follows the name proper, from its first dot on, as `.tar.gz` for `image.tar.gz`. A dot at the very
start belongs to the name.
-/

namespace ImageCompose

/-- The part of a list of characters from its first dot on. -/
def fromFirstDot (cs : List Char) : List Char :=
  cs.dropWhile (· ≠ '.')

/-- The extensions of a file name, with the dot in front of them. -/
def extension (filename : String) : String :=
  String.ofList <|
    match filename.toList with
    | '.' :: cs => fromFirstDot cs
    | cs => fromFirstDot cs

namespace ImageType

/-- The file of a build that holds the image. -/
def artifact (t : ImageType) : Artifact := ⟨t.filename, t.exportName⟩

/-- The extensions of the file that holds the image. -/
def extension (t : ImageType) : String := ImageCompose.extension t.filename

end ImageType

/-- Whether upload options ask to keep the image on the worker server. -/
def asksForLocalSave (options : Json) : Bool :=
  match (decode? options : Option LocalUploadOptions) with
  | some o => o.localSave
  | none => false

/-- Upload options without the member that could ask to keep the image on the worker server. -/
def withoutLocalSave : Json → Json
  | .obj members => .obj (members.filter fun (name, _) => name ≠ "local_save")
  | options => options

/-- Reads the options of an upload type. -/
def decodeUploadOptions [Wire α] (uploadType : UploadType) (options : Json) :
    Except ServiceError α :=
  (Wire.decoder (withoutLocalSave options).doc).mapError fun fault =>
    .invalidUploadOptions uploadType fault.message

/-- The name of an image and its place, by the options of an upload type. -/
def placeOf (t : ImageType) (key : Uuid) (options : Json) (uploadType : UploadType) :
    Except ServiceError (String × TargetOptions) := do
  let name := storageName key
  match uploadType with
  | .aws =>
    let o : AwsUploadOptions ← decodeUploadOptions uploadType options
    return (o.snapshotName.getD name, .aws o.region name o.shareWithAccounts o.snapshotName)
  | .awsS3 =>
    let o : AwsS3UploadOptions ← decodeUploadOptions uploadType options
    let object := key.render ++ t.extension
    return (object, .awsS3 o.region object o.isPublic)
  | .gcp =>
    let o : GcpUploadOptions ← decodeUploadOptions uploadType options
    return (name, .gcp o.region o.bucket name o.shareWithAccounts)
  | .azure =>
    let o : AzureUploadOptions ← decodeUploadOptions uploadType options
    return (o.imageName.getD name,
      .azureImage o.tenantId o.subscriptionId o.resourceGroup o.location)
  | .container =>
    let o : ContainerUploadOptions ← decodeUploadOptions uploadType options
    let reference := o.name.getD name ++ ":" ++ o.tag.getD "latest"
    return (reference, .container reference none)
  | .ociObjectStorage => return (t.filename, .ociObjectStorage)
  | .pulpOstree => throw (.unsupportedUploadType uploadType)

/-- The target that the upload options of a request ask for. -/
def uploadTarget (localSave : Bool) (t : ImageType) (fresh : FreshImage) (options : Json) :
    Except ServiceError Target := do
  if asksForLocalSave options then
    if localSave then return ⟨fresh.delivery, t.filename, t.artifact, .workerServer⟩
    else throw .localSaveNotEnabled
  let (name, place) ← placeOf t fresh.key options t.uploadType
  return ⟨fresh.delivery, name, t.artifact, place⟩

end ImageCompose
