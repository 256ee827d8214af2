import ImageCompose.Proofs.Except
import ImageCompose.Submission.UploadTarget

/-!
# The target of an image

Upload options name no place, they are read as those of the upload type of the image. So the place
that an image is delivered to is that of its upload type (`UploadType.target`), whatever the options
hold, unless they ask to keep the image on the worker server (`name_of_uploadTarget`).
-/

namespace ImageCompose

/-- The kind of place that is meant by an upload type. -/
def UploadType.target : UploadType → TargetName
  | .aws => .aws
  | .awsS3 => .awsS3
  | .gcp => .gcp
  | .azure => .azureImage
  | .container => .container
  | .ociObjectStorage => .ociObjectStorage
  | .pulpOstree => .pulpOstree

/-- Options of an upload type give a place of its kind. -/
theorem target_of_placeOf {t : ImageType} {key : Uuid} {options : Json} {uploadType : UploadType}
    {name : String} {place : TargetOptions}
    (h : placeOf t key options uploadType = .ok (name, place)) :
    place.target = uploadType.target := by
  cases uploadType with
  | aws | awsS3 | gcp | azure | container =>
    obtain ⟨_, -, told⟩ := Except.bind_ok h
    exact (congrArg (·.2.target) (Except.ok.inj told)).symm
  | ociObjectStorage => exact (congrArg (·.2.target) (Except.ok.inj h)).symm
  | pulpOstree => cases h

/-- An image is delivered where its upload type says, unless it stays on the worker server. -/
theorem name_of_uploadTarget {localSave : Bool} {t : ImageType} {fresh : FreshImage}
    {options : Json} {target : Target} (h : uploadTarget localSave t fresh options = .ok target) :
    target.name = if asksForLocalSave options then .workerServer else t.uploadType.target := by
  unfold uploadTarget at h
  by_cases kept : asksForLocalSave options = true
  · rw [if_pos kept] at h ⊢
    split at h <;> cases h
    rfl
  · rw [if_neg kept] at h ⊢
    obtain ⟨⟨name, place⟩, placed, made⟩ := Except.bind_ok h
    cases made
    exact target_of_placeOf placed

/-- What a request asks for is never delivered to Koji. -/
theorem name_of_uploadTarget_ne_koji {localSave : Bool} {t : ImageType} {fresh : FreshImage}
    {options : Json} {target : Target} (h : uploadTarget localSave t fresh options = .ok target) :
    target.name ≠ .koji := by
  rw [name_of_uploadTarget h]
  split
  · decide
  · cases t.uploadType <;> decide

end ImageCompose
