import ImageCompose.Proofs.Json.Inverts
import ImageCompose.Proofs.Store.Workload
import ImageCompose.Proofs.Submission.Acceptable
import ImageCompose.Proofs.Submission.Builds

/-!
# Images that are kept on the worker server

Upload options are read twice: once for the wish to keep the image on the worker server, where
whatever does not fit counts as no such wish, and once as the options of an upload type, where
nothing may be left over. The first reading finds the wish exactly if `local_save` stands there once
and is `true` (`asksForLocalSave_iff_holds`), and the second does not see that member. So the target
is decided by the wish and by the other members (`uploadTarget_congr`).

Where the configuration does not allow it, no build keeps its image on the worker server in any run
of requests (`local_save_gated`): a compose submits no such build
(`Plan.keepsNoImage_of_ofRequest`), and a clone no build at all.
-/

namespace ImageCompose

/-! ## The wish -/

/-- The flag is read as set from a single `true`. -/
theorem alone?_bool_eq_true {vs : List Json} :
    Decoder.bool.alone? (some false) vs = some true ↔ vs = [.bool true] := by
  match vs with
  | [] => simp
  | [v] =>
    cases v <;>
      simp [Decoder.ofJson?, Json.doc, Decoder.bool, Except.toOption, -decoder_bool]
  | _ :: _ :: _ => simp [Decoder.alone?]

/-- The items of an array are read as if they stood under the name of the flag. -/
theorem LocalUploadOptions.ofJson?_arr (items : List Json) :
    fields.decoder.ofJson? (.arr items) = (Decoder.bool.alone? (some false) items).map .mk := by
  match items with
  | [] => rfl
  | [v] => cases v <;> rfl
  | v :: _ :: _ => cases v <;> rfl

/-- Options ask to keep the image on the worker server if `local_save` stands there once and is
`true`, in an object among any other members or as the only item of an array. -/
theorem asksForLocalSave_iff_holds {options : Json} :
    AsksForLocalSave options ↔ options.Holds [("local_save", .bool true)] := by
  have read : AsksForLocalSave options ↔
      LocalUploadOptions.fields.decoder.ofJson? options = some ⟨true⟩ := by
    constructor
    · rintro ⟨⟨_⟩, read, rfl⟩
      exact read
    · exact fun read => ⟨_, read, rfl⟩
  rw [read]
  cases options with
  | obj ms => simp [LocalUploadOptions.fields, Json.Holds, ← alone?_bool_eq_true]
  | arr items => simp [LocalUploadOptions.ofJson?_arr, Json.Holds, ← alone?_bool_eq_true]
  | null | bool | num | str =>
    refine iff_of_false (fun read => ?_) ?_
    · cases read
    · rintro (⟨ms, same, -⟩ | same) <;> cases same

/-- An object asks for it by a single member that is `true`. -/
theorem asksForLocalSave_obj {ms : List (String × Json)} :
    AsksForLocalSave (.obj ms) ↔ Json.under "local_save" ms = [.bool true] := by
  simp [asksForLocalSave_iff_holds, Json.Holds]

/-! ## The target -/

section
variable {localSave : Bool} {t : ImageType} {fresh : FreshImage} {options options' : Json}
  {target : Target}

/-- The wish is granted or refused whatever else the options hold. -/
theorem uploadTarget_of_asks (asks : AsksForLocalSave options) (localSave : Bool) (t : ImageType)
    (fresh : FreshImage) : uploadTarget localSave t fresh options =
      if localSave then .ok ⟨fresh.delivery, t.filename, t.artifact, .workerServer⟩
      else .error .localSaveNotEnabled := by
  rw [uploadTarget, if_pos (asksForLocalSave_iff.2 asks)]
  rfl

/-- An image is kept on the worker server only by wish. -/
theorem asks_of_workerServer (h : uploadTarget localSave t fresh options = .ok target)
    (kept : target.name = .workerServer) : AsksForLocalSave options := by
  by_contra other
  rw [name_of_uploadTarget h, if_neg fun told => other (asksForLocalSave_iff.1 told)] at kept
  cases upload : t.uploadType <;> rw [upload] at kept <;> cases kept

/-- Nor is it where that is not allowed. -/
theorem name_ne_workerServer (h : uploadTarget false t fresh options = .ok target) :
    target.name ≠ .workerServer := by
  intro kept
  rw [uploadTarget_of_asks (asks_of_workerServer h kept)] at h
  cases h

/-- The options of an upload type are read without the wish. -/
theorem placeOf_congr (rest : withoutLocalSave options = withoutLocalSave options') (key : Uuid)
    (uploadType : UploadType) :
    placeOf t key options uploadType = placeOf t key options' uploadType := by
  simp only [placeOf, decodeUploadOptions, rest]

/-- Options with the same wish and the same other members give the same target. -/
theorem uploadTarget_congr (asks : AsksForLocalSave options ↔ AsksForLocalSave options')
    (rest : withoutLocalSave options = withoutLocalSave options') (localSave : Bool)
    (t : ImageType) (fresh : FreshImage) :
    uploadTarget localSave t fresh options = uploadTarget localSave t fresh options' := by
  have same : asksForLocalSave options = asksForLocalSave options' := by
    rw [Bool.eq_iff_iff, asksForLocalSave_iff, asksForLocalSave_iff, asks]
  simp only [uploadTarget, same, placeOf_congr rest]

/-- A member `local_save` that is no wish might as well not be there. -/
theorem uploadTarget_without {before after : List (String × Json)} {v : Json} (h : v ≠ .bool true)
    (alone : Json.under "local_save" (before ++ after) = []) (localSave : Bool) (t : ImageType)
    (fresh : FreshImage) :
    uploadTarget localSave t fresh (.obj (before ++ ("local_save", v) :: after)) =
      uploadTarget localSave t fresh (.obj (before ++ after)) := by
  refine uploadTarget_congr (iff_of_false ?_ ?_) ?_ localSave t fresh
  · rw [Json.under_append, List.append_eq_nil_iff] at alone
    rw [asksForLocalSave_obj, Json.under_append, Json.under_cons, if_pos rfl, alone.1, alone.2]
    exact fun same => h (List.singleton_inj.1 same)
  · rw [asksForLocalSave_obj, alone]
    exact nofun
  · simp [withoutLocalSave]

end

/-! ## The builds of a run -/

/-- The arguments of a build by which no image is kept on the worker server. -/
def KeepsNoImage (args : Json) : Prop :=
  ∃ a : BuildArgs, decode? args = some a ∧ ∀ t ∈ a.targets, t.name ≠ .workerServer

/-- The builds of a request keep no image where that is not allowed. -/
theorem BuildArgs.Builds.keepsNoImage {a : BuildArgs} {fresh : FreshImage} {image : ImageRequest}
    {more : List Target} (h : a.Builds false fresh image more) (koji : ∀ t ∈ more, t.name = .koji) :
    KeepsNoImage (encode a) := by
  -- Only the manifest may be read back in another form, so the targets are those of the build.
  refine ⟨a.kept, a.decode?_encode, ?_⟩
  have rest : ∀ t ∈ more, t.name ≠ .workerServer := by
    intro t member
    rw [koji t member]
    decide
  have targets := h.targets
  split at targets
  · obtain ⟨target, asked, targets⟩ := targets
    show ∀ t ∈ a.targets, t.name ≠ .workerServer
    rw [targets]
    exact List.forall_mem_cons.2 ⟨name_ne_workerServer asked, rest⟩
  · exact targets.2 ▸ rest

/-- A compose submits only such builds. -/
theorem Plan.keepsNoImage_of_ofRequest {config : Config} (off : config.localSave = false)
    {request : ComposeRequest} {fresh : Fresh} {p : Plan}
    (planned : ofRequest config request fresh = .ok p) {job : PlannedJob} (member : job ∈ p.jobs)
    (build : job.args.kind = .osbuild) : KeepsNoImage job.args.toJson := by
  have among : job ∈ p.builds := List.mem_filter.2 ⟨member, by simp [PlannedJob.isBuild, build]⟩
  obtain ⟨k, found⟩ := List.mem_iff_getElem?.1 among
  obtain ⟨_, _, a, more, -, -, is_build, builds, koji, -⟩ := builds_ofRequest planned found
  rw [off] at builds
  rw [is_build]
  exact builds.keepsNoImage koji

/-- Where it is not allowed, no build keeps its image on the worker server in any run. -/
theorem Workload.Reachable.keepsNoImage {config : Config} (off : config.localSave = false)
    {w : Workload} (h : w.Reachable config) {j : StoredJob} (member : j ∈ w.store.jobs)
    (build : j.kind = .osbuild) : KeepsNoImage j.args := by
  let may (new : NewJob) : Prop := new.kind = .osbuild → KeepsNoImage new.args
  have composes : ∀ request fresh channel,
      (submitCompose config request fresh channel).SubmitsOnly may := fun request fresh channel =>
    submitCompose_submitsOnly fun _ planned _ member _ build =>
      Plan.keepsNoImage_of_ofRequest off planned member build
  have clones : ∀ id request fresh channel,
      (cloneCompose id request fresh channel).SubmitsOnly may := by
    intro id request fresh channel
    refine (cloneCompose_submitsOnly id request fresh channel).mono ?_
    rintro new (copy | share) build
    · cases copy.symm.trans build
    · cases share.symm.trans build
  obtain ⟨new, allowed, kind, args, -⟩ := h.jobs composes clones j member
  exact args ▸ allowed (kind.symm.trans build)

/-! ## What a configuration does about the wish -/

/-- The wish to keep an image on the worker server is heeded only where that is allowed, and the
member that can express it is otherwise not seen. -/
structure LocalSaveGated (config : Config) : Prop where
  /-- Where it is not allowed, all builds of all runs of requests have targets that can be read, and
  none of them is the worker server. -/
  never : config.localSave = false → ∀ w : Workload, w.Reachable config → ∀ j ∈ w.store.jobs,
    j.kind = .osbuild → KeepsNoImage j.args
  /-- The wish is refused there, whatever else the options hold. -/
  refused : config.localSave = false → ∀ options, AsksForLocalSave options → ∀ t fresh,
    uploadTarget config.localSave t fresh options = .error .localSaveNotEnabled
  /-- Where it is allowed, it is granted, whatever the type of the image. -/
  kept : config.localSave = true → ∀ options, AsksForLocalSave options → ∀ t fresh,
    uploadTarget config.localSave t fresh options =
      .ok ⟨fresh.delivery, t.filename, t.artifact, .workerServer⟩
  /-- No other options do that. -/
  only : ∀ options t fresh target, uploadTarget config.localSave t fresh options = .ok target →
    target.name = .workerServer → AsksForLocalSave options
  /-- A member of that name that is no wish changes neither the target nor the failure, if the same
  identifiers are generated. -/
  invisible : ∀ before v after, v ≠ .bool true → Json.under "local_save" (before ++ after) = [] →
    ∀ t fresh, uploadTarget config.localSave t fresh (.obj (before ++ ("local_save", v) :: after)) =
      uploadTarget config.localSave t fresh (.obj (before ++ after))

/-- Every configuration gates local save and is blind to the flag otherwise. -/
theorem local_save_gated (config : Config) : LocalSaveGated config where
  never off _ reached _ member build := reached.keepsNoImage off member build
  refused off _ asks t fresh := by
    rw [off, uploadTarget_of_asks asks]
    rfl
  kept on _ asks t fresh := by
    rw [on, uploadTarget_of_asks asks]
    rfl
  only _ _ _ _ made kept := asks_of_workerServer made kept
  invisible _ _ _ other alone t fresh := uploadTarget_without other alone config.localSave t fresh

/-- An image is uploaded while the wish is refused, in whichever form it comes, and `null` is no
wish. -/
theorem local_save_gated_ec2 :
    (∃ w : Workload, w.Reachable {} ∧ w.store.jobs.map (·.kind) = [.manifestIdOnly, .osbuild] ∧
      ∀ j ∈ w.store.jobs, j.kind = .osbuild → KeepsNoImage j.args) ∧
    ∀ t fresh,
      uploadTarget false t fresh (.obj [("region", .null), ("local_save", .bool true)]) =
        .error .localSaveNotEnabled ∧
      uploadTarget true t fresh (.arr [.bool true]) =
        .ok ⟨fresh.delivery, t.filename, t.artifact, .workerServer⟩ ∧
      uploadTarget false t fresh (.obj [("local_save", .null), ("region", .str "us-east-1")]) =
        uploadTarget false t fresh (.obj [("region", .str "us-east-1")]) := by
  have off := local_save_gated {}
  have on := local_save_gated { localSave := true }
  have member : AsksForLocalSave (.obj [("region", .null), ("local_save", .bool true)]) :=
    asksForLocalSave_obj.2 rfl
  have item : AsksForLocalSave (.arr [.bool true]) := asksForLocalSave_iff_holds.2 (.inr rfl)
  obtain ⟨_, run⟩ := Store.ec2Store_runs
  have reached := Workload.Reachable.compose .refl run
  have kinds : Store.ec2Store.jobs.map (·.kind) = [.manifestIdOnly, .osbuild] := by
    decide +kernel
  refine ⟨⟨_, reached, kinds, off.never rfl _ reached⟩, fun t fresh => ?_⟩
  exact ⟨off.refused rfl _ member t fresh, on.kept rfl _ item t fresh,
    off.invisible [] .null [("region", .str "us-east-1")] nofun rfl t fresh⟩

end ImageCompose
