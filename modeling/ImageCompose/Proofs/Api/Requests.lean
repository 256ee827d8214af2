import ImageCompose.Api.Clone
import ImageCompose.Api.ComposeRequest
import ImageCompose.Api.ErrorResponse
import ImageCompose.Proofs.Json.Reread

/-!
# Requests are read back

Requests, the answers that tell where to follow them, and the body of a failed answer are read back
as they are written. Of a request, what was read of the customizations and of the upload options is
settled.
-/

namespace ImageCompose

/-! ## References and answers without arbitrary JSON -/

instance : RoundTrip ComposeId where
  ofJson?_encode a := by
    show (ComposeId.mk <$> ObjectReference.fields.flattened).decoder.ofJson? (.obj _) = some a
    rw [Fields.ofJson?_decoder_obj]
    simp [ObjectReference.fields, ObjectReference.members]

instance : RoundTrip CloneId where
  ofJson?_encode a := by
    show (CloneId.mk <$> ObjectReference.fields.flattened).decoder.ofJson? (.obj _) = some a
    rw [Fields.ofJson?_decoder_obj]
    simp [ObjectReference.fields, ObjectReference.members]

instance : RoundTrip ErrorResponse where
  ofJson?_encode e := by
    show ErrorResponse.fields.decoder.ofJson? (.obj _) = some e
    rw [Fields.ofJson?_decoder_obj]
    simp [ErrorResponse.fields]

/-! ## Requests -/

instance : RoundTrip CloneRequest where
  ofJson?_encode r := by
    show CloneRequest.fields.decoder.ofJson? (.obj _) = some r
    rw [Fields.ofJson?_decoder_obj]
    simp [CloneRequest.fields]

instance : RoundTrip Repository where
  ofJson?_encode r := by
    show Repository.fields.decoder.ofJson? (.obj _) = some r
    rw [Fields.ofJson?_decoder_obj]
    simp [Repository.fields]

instance : RoundTrip ImageType where
  ofJson?_encode t := by
    show (Decoder.variant _).ofJson? (.str t.name) = some t
    rw [Decoder.ofJson?_variant]
    cases t <;> rfl

instance : RoundTrip KojiRequest where
  ofJson?_encode k := by
    show KojiRequest.fields.decoder.ofJson? (.obj _) = some k
    rw [Fields.ofJson?_decoder_obj]
    simp [KojiRequest.fields]

instance : Present KojiRequest := ⟨fun _ => rfl⟩

namespace ImageRequest

/-- The request of an image is read back if its upload options are JSON that is kept. -/
theorem readBack {r : ImageRequest} (options : Json.kept r.uploadOptions = r.uploadOptions) :
    ReadBack r := by
  show fields.decoder.ofJson? (.obj _) = some r
  rw [Fields.ofJson?_decoder_obj]
  simp [fields, options]

/-- It is read with such options only. -/
theorem yields_readBack : fields.Yields ReadBack :=
  .seqOf (.seq (.seq (.map fun _ _ _ _ options => readBack options))) .possible_any

instance : Reread ImageRequest := ⟨fun _ _ => yields_readBack.of_decoder⟩

instance : Present ImageRequest := ⟨fun _ => rfl⟩

end ImageRequest

namespace Customizations

/-- The other members of customizations are read back if they are settled and none of them has the
name of the member that is understood. -/
theorem readBack {c : Customizations}
    (other : Json.IsDictionary (fun v => v.settle = v) c.other ∧
      ∀ m ∈ c.other, m.1 ∉ [payloadName]) : ReadBack c := by
  obtain ⟨settled, named⟩ := other
  have kept : (Json.listed payloadName encode c.payloadRepositories ++ c.other).filter
      (fun m => !([payloadName].contains m.1)) = c.other := by
    have payload : (Json.listed payloadName encode c.payloadRepositories).filter
        (fun m => !([payloadName].contains m.1)) = [] := by
      cases c.payloadRepositories <;> rfl
    rw [List.filter_append, payload, List.nil_append, List.filter_eq_self]
    exact fun m hm => by simpa using named m hm
  have others_read : (Fields.others [payloadName]).values?
      (Json.listed payloadName encode c.payloadRepositories ++ c.other) = some c.other := by
    rw [Fields.values?_others,
      ← Json.settleMembers_filter fun name => !([payloadName].contains name),
      ← Json.settlePairs_filter fun name => !([payloadName].contains name), kept,
      Json.settlePairs_of_settled settled.values, Json.settleMembers_of_nodup settled.nodup]
  have no_payload : Json.under payloadName c.other = [] :=
    List.filterMap_eq_nil_iff.2 fun m hm => by simpa using named m hm
  show fields.decoder.ofJson? (.obj _) = some c
  rw [Fields.ofJson?_decoder_obj, fields, Fields.values?_seq, others_read]
  simp [no_payload]

/-- Customizations are read with such members only. -/
theorem yields_readBack : fields.Yields ReadBack :=
  .seqOf (.map fun _ _ other => readBack other) (Fields.yields_others _)

instance : Reread Customizations := ⟨fun _ _ => yields_readBack.of_decoder⟩

instance : Present Customizations := ⟨fun _ => rfl⟩

end Customizations

namespace ComposeRequest

/-- The request of a compose is read back if its images and its customizations are. -/
theorem readBack {r : ComposeRequest} (image : ∀ i ∈ r.imageRequest, ReadBack i)
    (images : ∀ is ∈ r.imageRequests, ReadBack is)
    (customizations : ∀ c ∈ r.customizations, ReadBack c) : ReadBack r := by
  show fields.decoder.ofJson? (.obj _) = some r
  rw [Fields.ofJson?_decoder_obj]
  simp [fields, Decoder.alone?_toList_encode image, Decoder.alone?_toList_encode images,
    Decoder.alone?_toList_encode customizations]

/-- It is read with such images and customizations only. -/
theorem yields_readBack : fields.Yields ReadBack :=
  .seqOf (.seq (.seqOf (.seqOf (.map fun _ _ image _ images _ _ customizations =>
    readBack image images customizations) (.possible Reread.yields)) (.possible Reread.yields)))
    (.possible Reread.yields)

instance : Reread ComposeRequest := ⟨fun _ _ => yields_readBack.of_decoder⟩

end ComposeRequest

end ImageCompose
