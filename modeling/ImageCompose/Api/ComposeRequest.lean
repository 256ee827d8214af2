import ImageCompose.Api.Reference
import ImageCompose.Image.Repository
import ImageCompose.Image.Type

/-!
# Compose requests

A request to build one or more images of a distribution (`ComposeRequest`), and the answer that
tells where to follow it (`ComposeId`). Of the customizations only the payload repositories are
understood; the rest is passed on as it is.
-/

namespace ImageCompose

/-- A request for one image. -/
structure ImageRequest where
  architecture : String
  imageType : ImageType
  /-- The repositories that packages are resolved from. -/
  repositories : List Repository := []
  /-- How the image is delivered; the shape depends on the kind of image. -/
  uploadOptions : Option Json := none

/-- Changes to the content of the images. -/
structure Customizations where
  /-- The repositories that extra packages are resolved from. -/
  payloadRepositories : List Repository := []
  other : List (String × Json) := []

/-- The build in Koji that the images are imported into. -/
structure KojiRequest where
  server : String
  /-- The task that the build belongs to. -/
  taskId : UInt64
  name : String
  version : String
  release : String

/-- A request to build images. Exactly one of the two forms of images must be given. -/
structure ComposeRequest where
  distribution : String
  imageRequest : Option ImageRequest := none
  imageRequests : Option (List ImageRequest) := none
  /-- The build in Koji that the images are imported into. -/
  koji : Option KojiRequest := none
  /-- Changes to the content of the images. -/
  customizations : Option Customizations := none

/-- The answer to an accepted compose request. -/
structure ComposeId where
  /-- The identifier to follow the compose by. -/
  reference : ObjectReference
  deriving DecidableEq

namespace ImageRequest

/-- The members of the JSON form. -/
def fields : Fields ImageRequest :=
  ImageRequest.mk
    <$> Fields.member "architecture" .string
    <*> Fields.member "image_type" Wire.decoder
    <*> Fields.defaulted "repositories" Wire.decoder []
    <*> Fields.possible "upload_options" .any

instance : Wire ImageRequest where
  encode r := .obj <|
    [("architecture", encode r.architecture), ("image_type", encode r.imageType),
      ("repositories", encode r.repositories)] ++
    Json.given "upload_options" encode r.uploadOptions
  decoder := fields.decoder

end ImageRequest

namespace Customizations

/-- The name of the member that is understood. -/
def payloadName : String := "payload_repositories"

/-- The members of the JSON form. -/
def fields : Fields Customizations :=
  Customizations.mk
    <$> Fields.defaulted payloadName Wire.decoder []
    <*> Fields.others [payloadName]

instance : Wire Customizations where
  encode c := .obj <|
    Json.listed payloadName encode c.payloadRepositories ++ c.other
  decoder := fields.decoder

end Customizations

namespace KojiRequest

/-- The members of the JSON form. -/
def fields : Fields KojiRequest :=
  KojiRequest.mk
    <$> Fields.member "server" .string
    <*> Fields.member "task_id" .uint64
    <*> Fields.member "name" .string
    <*> Fields.member "version" .string
    <*> Fields.member "release" .string

instance : Wire KojiRequest where
  encode k := .obj [
    ("server", encode k.server),
    ("task_id", Json.nat k.taskId.toNat),
    ("name", encode k.name),
    ("version", encode k.version),
    ("release", encode k.release)]
  decoder := fields.decoder

end KojiRequest

namespace ComposeRequest

/-- The members of the JSON form. -/
def fields : Fields ComposeRequest :=
  ComposeRequest.mk
    <$> Fields.member "distribution" .string
    <*> Fields.possible "image_request" Wire.decoder
    <*> Fields.possible "image_requests" Wire.decoder
    <*> Fields.possible "koji" Wire.decoder
    <*> Fields.possible "customizations" Wire.decoder

instance : Wire ComposeRequest where
  encode r := .obj <|
    [("distribution", encode r.distribution)] ++
    Json.given "image_request" encode r.imageRequest ++
    Json.given "image_requests" encode r.imageRequests ++
    Json.given "koji" encode r.koji ++
    Json.given "customizations" encode r.customizations
  decoder := fields.decoder

end ComposeRequest

namespace ComposeId

instance : Wire ComposeId where
  encode a := .obj a.reference.members
  decoder := (ComposeId.mk <$> ObjectReference.fields.flattened).decoder

end ComposeId

end ImageCompose
