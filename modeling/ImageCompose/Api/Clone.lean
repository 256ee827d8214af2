import ImageCompose.Api.Reference
import ImageCompose.Upload.Status

/-!
# Clones

A request to deliver an EC2 image that is already built to another region or to more accounts
(`CloneRequest`), the answer to it (`CloneId`), and the progress of the delivery (`CloneStatus`).
-/

namespace ImageCompose

/-- A request to deliver a built EC2 image once more. -/
structure CloneRequest where
  /-- The region that the image is wanted in. -/
  region : String
  /-- The accounts that may use it there. -/
  shareWithAccounts : Option (List String) := none

/-- The answer to an accepted clone request. -/
structure CloneId where
  reference : ObjectReference
  deriving DecidableEq

/-- How far a clone has come. -/
structure CloneStatus where
  reference : ObjectReference
  uploadStatus : UploadStatus
  deriving DecidableEq

namespace CloneRequest

/-- The members of the JSON form. -/
def fields : Fields CloneRequest :=
  CloneRequest.mk
    <$> Fields.member "region" .string
    <*> Fields.possible "share_with_accounts" (.list .string)

instance : Wire CloneRequest where
  encode r := .obj <|
    [("region", encode r.region)] ++
    Json.given "share_with_accounts" encode r.shareWithAccounts
  decoder := fields.decoder

end CloneRequest

namespace CloneId

instance : Wire CloneId where
  encode a := .obj a.reference.members
  decoder := (CloneId.mk <$> ObjectReference.fields.flattened).decoder

end CloneId

namespace CloneStatus

/-- The members of the JSON form. -/
def fields : Fields CloneStatus :=
  CloneStatus.mk
    <$> ObjectReference.fields.flattened
    <*> UploadStatus.fields.flattened

instance : Wire CloneStatus where
  encode s := .obj (s.reference.members ++ s.uploadStatus.members)
  decoder := fields.decoder

end CloneStatus

end ImageCompose
