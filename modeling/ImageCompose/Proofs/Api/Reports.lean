import ImageCompose.Api.Report
import ImageCompose.Proofs.Api.Requests

/-!
# Reports are read back

The reports on composes and clones are read back as they are written, if what they hold of arbitrary
JSON is settled: the details of an error, the results of jobs and the manifests. What was read of a
report is.
-/

namespace ImageCompose

/-! ## Deliveries -/

instance : RoundTrip UploadStatusValue where
  ofJson?_encode s := by
    show (Decoder.variant _).ofJson? (.str s.name) = some s
    rw [Decoder.ofJson?_variant]
    cases s <;> rfl

instance : Present UploadStatusValue := ⟨fun _ => rfl⟩

namespace UploadDetails

/-- A delivery is read back from its members, whatever members of other names stand before them. -/
theorem values?_members (d : UploadDetails) (before : List (String × Json))
    (type : Json.under "type" before = []) (options : Json.under "options" before = []) :
    fields.values? (before ++ d.members) = some d := by
  have tag : Json.under "type" (before ++ d.members) = [.str d.uploadType.name] := by
    simp [type, members, encode]
  have content : Json.under "options" (before ++ d.members) = [d.options] := by
    simp [options, members]
  have chosen : (UploadType.all.map fun t => (t.name, (optionsFields t).decoder)).lookup
      d.uploadType.name = some (optionsFields d.uploadType).decoder := by
    cases d <;> rfl
  rw [fields, Fields.values?_adjacent tag chosen content]
  cases d <;> simp [optionsFields, uploadType, UploadDetails.options]

end UploadDetails

namespace UploadStatus

/-- The status of a delivery is read back from its members, whatever members of other names stand
before them. -/
theorem values?_members (u : UploadStatus) (before : List (String × Json))
    (status : Json.under "status" before = []) (type : Json.under "type" before = [])
    (options : Json.under "options" before = []) :
    fields.values? (before ++ u.members) = some u := by
  have details : UploadDetails.fields.values? (before ++ u.members) = some u.details := by
    rw [members, ← List.append_assoc]
    exact u.details.values?_members _ (by simp [type]) (by simp [options])
  have value : Wire.decoder.optional.alone? (some none) (u.status.map encode).toList =
      some u.status :=
    Decoder.alone?_toList_encode fun s _ => RoundTrip.ofJson?_encode s
  have held : Json.under "status" (before ++ u.members) = (u.status.map encode).toList := by
    simp [status, members, UploadDetails.members]
  rw [fields, Fields.values?_seq, Fields.values?_map, Fields.values?_possible,
    Fields.values?_flattened, held, value, details]
  rfl

instance : RoundTrip UploadStatus where
  ofJson?_encode u := by
    show fields.decoder.ofJson? (.obj u.members) = some u
    rw [Fields.ofJson?_decoder_obj]
    exact u.values?_members [] rfl rfl rfl

instance : Present UploadStatus := ⟨fun _ => rfl⟩

end UploadStatus

instance : RoundTrip CloneStatus where
  ofJson?_encode s := by
    have upload : UploadStatus.fields.values? (s.reference.members ++ s.uploadStatus.members) =
        some s.uploadStatus :=
      s.uploadStatus.values?_members _ rfl rfl rfl
    show CloneStatus.fields.decoder.ofJson? (.obj _) = some s
    rw [Fields.ofJson?_decoder_obj]
    rw [CloneStatus.fields, Fields.values?_seq, Fields.values?_flattened, upload]
    simp [ObjectReference.fields, ObjectReference.members, UploadStatus.members,
      UploadDetails.members]

/-! ## Status -/

instance : RoundTrip ComposeStatusValue where
  ofJson?_encode s := by
    show (Decoder.variant _).ofJson? (.str s.name) = some s
    rw [Decoder.ofJson?_variant]
    cases s <;> rfl

instance : RoundTrip ImageStatusValue where
  ofJson?_encode s := by
    show (Decoder.variant _).ofJson? (.str s.name) = some s
    rw [Decoder.ofJson?_variant]
    cases s <;> rfl

namespace ComposeStatusError

/-- An error is read back if its details are JSON that is kept. -/
theorem readBack {e : ComposeStatusError} (details : Json.kept e.details = e.details) :
    ReadBack e := by
  show fields.decoder.ofJson? (.obj _) = some e
  rw [Fields.ofJson?_decoder_obj]
  simp [fields, details]

/-- Errors are read with such details only. -/
theorem yields_readBack : fields.Yields ReadBack :=
  .seqOf (.seq (.map fun _ _ _ details => readBack details)) .possible_any

instance : Reread ComposeStatusError := ⟨fun _ _ => yields_readBack.of_decoder⟩

instance : Present ComposeStatusError := ⟨fun _ => rfl⟩

end ComposeStatusError

namespace ImageStatus

/-- The status of an image is read back if its error is. -/
theorem readBack {s : ImageStatus} (error : ∀ e ∈ s.error, ReadBack e) : ReadBack s := by
  show fields.decoder.ofJson? (.obj _) = some s
  rw [Fields.ofJson?_decoder_obj]
  simp [fields, Decoder.alone?_toList_encode error]

/-- It is read with such an error only. -/
theorem yields_readBack : fields.Yields ReadBack :=
  .seq (.seq (.seqOf (.map fun _ _ error _ _ => readBack error) (.possible Reread.yields)))

instance : Reread ImageStatus := ⟨fun _ _ => yields_readBack.of_decoder⟩

end ImageStatus

instance : RoundTrip KojiStatus where
  ofJson?_encode s := by
    show (KojiStatus.mk <$> Fields.possible "build_id" .uint64).decoder.ofJson? (.obj _) = some s
    rw [Fields.ofJson?_decoder_obj]
    obtain ⟨_ | n⟩ := s
    · rfl
    · have read : Decoder.uint64.optional.ofJson? (Json.nat n.toNat) = some (some n) := by
        rw [Decoder.ofJson?_optional rfl, Decoder.ofJson?_uint64]
        rfl
      simp [read]

instance : Present KojiStatus := ⟨fun _ => rfl⟩

namespace ComposeStatus

/-- The status of a compose is read back if the statuses of its images are. -/
theorem readBack {s : ComposeStatus} (image : ReadBack s.imageStatus)
    (images : ∀ is ∈ s.imageStatuses, ReadBack is) : ReadBack s := by
  show fields.decoder.ofJson? (.obj _) = some s
  rw [Fields.ofJson?_decoder_obj]
  simp only [ReadBack] at image
  simp [fields, ObjectReference.fields, ObjectReference.members, image,
    Decoder.alone?_toList_encode images]

/-- It is read with such statuses only. -/
theorem yields_readBack : fields.Yields ReadBack :=
  .seq (.seqOf (.seqOf (.seq (.map fun _ _ _ image _ images _ => readBack image images))
    (.member Reread.yields)) (.possible Reread.yields))

instance : Reread ComposeStatus := ⟨fun _ _ => yields_readBack.of_decoder⟩

end ComposeStatus

/-! ## Metadata -/

instance : RoundTrip PackageMetadata where
  ofJson?_encode p := by
    show PackageMetadata.fields.decoder.ofJson? (.obj _) = some p
    rw [Fields.ofJson?_decoder_obj]
    simp [PackageMetadata.fields]

instance : RoundTrip ComposeMetadata where
  ofJson?_encode m := by
    show ComposeMetadata.fields.decoder.ofJson? (.obj _) = some m
    rw [Fields.ofJson?_decoder_obj]
    simp [ComposeMetadata.fields, ObjectReference.fields, ObjectReference.members]

/-! ## Logs and manifests -/

namespace KojiLogs

/-- The logs of the jobs around the builds are read back if they are settled. -/
theorem readBack {l : KojiLogs} (init : l.init.settle = l.init)
    (importing : l.importing.settle = l.importing) : ReadBack l := by
  show fields.decoder.ofJson? (.obj _) = some l
  rw [Fields.ofJson?_decoder_obj]
  simp [fields, init, importing]

/-- They are read settled. -/
theorem yields_readBack : fields.Yields ReadBack :=
  .seqOf (.mapOf (.member Decoder.yields_any) fun _ init _ importing => readBack init importing)
    (.member Decoder.yields_any)

instance : Reread KojiLogs := ⟨fun _ _ => yields_readBack.of_decoder⟩

instance : Present KojiLogs := ⟨fun _ => rfl⟩

end KojiLogs

namespace ComposeLogs

/-- The logs of a compose are read back if those of its builds are settled and those of Koji are
read back. -/
theorem readBack {l : ComposeLogs} (builds : ∀ v ∈ l.imageBuilds, v.settle = v)
    (koji : ∀ k ∈ l.koji, ReadBack k) : ReadBack l := by
  show fields.decoder.ofJson? (.obj _) = some l
  rw [Fields.ofJson?_decoder_obj]
  simp [fields, ObjectReference.fields, ObjectReference.members,
    Decoder.alone?_toList_encode koji, ReadBack.json_list builds]

/-- They are read with such parts only. -/
theorem yields_readBack : fields.Yields ReadBack :=
  .seqOf (.seqOf (.map fun _ _ builds _ koji => readBack builds koji)
    (.member Decoder.yields_any.list)) (.possible Reread.yields)

instance : Reread ComposeLogs := ⟨fun _ _ => yields_readBack.of_decoder⟩

end ComposeLogs

namespace ComposeManifests

/-- Manifests are read back if they are settled. -/
theorem readBack {m : ComposeManifests} (manifests : ∀ v ∈ m.manifests, v.settle = v) :
    ReadBack m := by
  show fields.decoder.ofJson? (.obj _) = some m
  rw [Fields.ofJson?_decoder_obj]
  simp [fields, ObjectReference.fields, ObjectReference.members, ReadBack.json_list manifests]

/-- They are read settled. -/
theorem yields_readBack : fields.Yields ReadBack :=
  .seqOf (.map fun _ _ manifests => readBack manifests) (.member Decoder.yields_any.list)

instance : Reread ComposeManifests := ⟨fun _ _ => yields_readBack.of_decoder⟩

end ComposeManifests

end ImageCompose
