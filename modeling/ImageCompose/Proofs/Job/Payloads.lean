import ImageCompose.Proofs.Job.Arguments
import ImageCompose.Proofs.Job.Results
import ImageCompose.Proofs.Json.Reread

/-!
# Payloads of jobs are read back

The arguments and the results of jobs, once they were read, are read back as they are written. Where
a payload holds arbitrary JSON (a manifest, the details of an error, the report of a target that is
not known), what was read of it is settled; that is what `readBack` asks of each type that holds it.
-/

namespace ImageCompose

/-! ## Arguments -/

namespace BuildArgs

/-- The arguments of a build are read back if their manifest is JSON that is kept. -/
theorem readBack {a : BuildArgs} (manifest : Json.kept a.manifest = a.manifest) : ReadBack a :=
  a.decode?_encode.trans <| by rw [kept, manifest]

/-- They are read with such a manifest only. -/
theorem yields_readBack : fields.Yields ReadBack :=
  .seq (.seq (.mapOf .possible_any fun _ manifest _ _ => readBack manifest))

instance : Reread BuildArgs := ⟨fun _ _ => yields_readBack.of_decoder⟩

end BuildArgs

namespace ManifestArgs

/-- The arguments of a job that resolves a manifest are read back if their customizations are JSON
that is kept. -/
theorem readBack {a : ManifestArgs}
    (customizations : Json.kept a.customizations = a.customizations) : ReadBack a :=
  a.decode?_encode.trans <| by rw [kept, customizations]

/-- They are read with such customizations only. -/
theorem yields_readBack : fields.Yields ReadBack :=
  .seq (.seqOf (.seq (.seq (.seq (.map fun _ _ _ _ _ customizations _ => readBack customizations))))
    .possible_any)

instance : Reread ManifestArgs := ⟨fun _ _ => yields_readBack.of_decoder⟩

end ManifestArgs

/-! ## Errors and output -/

namespace JobError

/-- The error of a job is read back if its details are JSON that is kept. -/
theorem readBack {e : JobError} (details : Json.kept e.details = e.details) : ReadBack e := by
  show fields.decoder.ofJson? (.obj _) = some e
  rw [Fields.ofJson?_decoder_obj]
  simp [fields, details]

/-- It is read with such details only. -/
theorem yields_readBack : fields.Yields ReadBack :=
  .seqOf (.seq (.map fun _ _ _ details => readBack details)) .possible_any

instance : Reread JobError := ⟨fun _ _ => yields_readBack.of_decoder⟩

instance : Present JobError := ⟨fun _ => rfl⟩

end JobError

namespace BuildOutput

/-- The output of a build tool is read back if its log and its metadata are dictionaries of settled
values. -/
theorem readBack {o : BuildOutput} (log : Json.IsDictionary (fun v => v.settle = v) o.log)
    (metadata : Json.IsDictionary (Json.IsDictionary fun v => v.settle = v) o.metadata) :
    ReadBack o := by
  have stages : ∀ {ms : List (String × Json)}, Json.IsDictionary (fun v => v.settle = v) ms →
      (Decoder.any.dictionary).ofJson? (.obj ms) = some ms := by
    intro ms settled
    have read : Decoder.any.dictionary.ofJson? (.obj (ms.map fun m => (m.1, id m.2))) = some ms :=
      Decoder.ofJson?_dictionary
        ⟨settled.nodup, fun m hm => ReadBack.json (settled.values m hm)⟩
    simpa using read
  have pipelines : Decoder.any.dictionary.dictionary.ofJson?
      (.obj (o.metadata.map fun m => (m.1, .obj m.2))) = some o.metadata :=
    Decoder.ofJson?_dictionary ⟨metadata.nodup, fun m hm => stages (metadata.values m hm)⟩
  show fields.decoder.ofJson? (.obj _) = some o
  rw [Fields.ofJson?_decoder_obj]
  simp [fields, stages log, pipelines]

/-- It is read with such dictionaries only. -/
theorem yields_readBack : fields.Yields ReadBack :=
  .seqOf (.seqOf (.map fun _ _ log _ metadata => readBack log metadata)
    (.defaulted Decoder.yields_any.dictionary ⟨List.nodup_nil, nofun⟩))
    (.defaulted Decoder.yields_any.dictionary.dictionary ⟨List.nodup_nil, nofun⟩)

instance : Reread BuildOutput := ⟨fun _ _ => yields_readBack.of_decoder⟩

instance : Present BuildOutput := ⟨fun _ => rfl⟩

end BuildOutput

/-! ## Results of targets -/

namespace TargetResult

/-- What is written of a result is read as the result of its name and its settled options. -/
theorem ofJson?_encode (r : TargetResult) :
    Wire.decoder.ofJson? (encode r) = (ofOptions r.name r.options.settle).toOption := by
  have read : fields.decoder.ofJson? (encode r) = some (r.name, r.options.settle) := by
    show fields.decoder.ofJson? (.obj _) = _
    rw [Fields.ofJson?_decoder_obj]
    cases options : r.options with
    | null => rfl
    | bool | num | str | arr | obj => simp [fields, Json.isNull]
  unfold Decoder.ofJson? at read
  show (fields.decoder (encode r).doc >>= fun read => ofOptions read.1 read.2).toOption = _
  cases found : fields.decoder (encode r).doc with
  | error e =>
    rw [found] at read
    cases read
  | ok known =>
    rw [found] at read
    cases read
    rfl

/-- What is reported of a target under a name that no target has is read back as it is. -/
theorem readBack_unknown {name : String} {options : Json} (unknown : TargetName.ofName? name = none)
    (settled : options.settle = options) : ReadBack (TargetResult.unknown name options) := by
  refine (ofJson?_encode _).trans ?_
  show (ofOptions name options.settle).toOption = _
  rw [settled, ofOptions, unknown]
  rfl

/-- The options of a known target are settled. -/
theorem settle_options {r : TargetResult} {target : TargetName} (h : r.target? = some target) :
    r.options.settle = r.options := by
  cases r with
  | unknown => cases h
  | aws | awsS3 | gcp | azureImage | container | ociObjectStorage | pulpOstree | koji
  | workerServer => rfl

/-- The options of a known target are read back. -/
theorem ofJson?_options {r : TargetResult} {target : TargetName} (h : r.target? = some target) :
    (optionsDecoder target).ofJson? r.options = some r := by
  cases r with
  | unknown => cases h
  | workerServer =>
    cases h
    rfl
  | aws | awsS3 | gcp | azureImage | container | ociObjectStorage | pulpOstree | koji =>
    cases h
    simp [options, optionsDecoder]

/-- What is reported of a known target is read back. -/
theorem readBack_of_target? {r : TargetResult} {target : TargetName} (h : r.target? = some target) :
    ReadBack r := by
  refine (ofJson?_encode r).trans ?_
  rw [settle_options h, name_of_target? h, ofOptions, TargetName.ofName?_name]
  exact (Decoder.ofJson?_settled _ _).trans (ofJson?_options h)

instance : Reread TargetResult where
  yields d r read := by
    cases r with
    | unknown name options =>
      have ⟨unnamed, settled⟩ := unknown_of_decoder read
      exact readBack_unknown unnamed settled
    | aws | awsS3 | gcp | azureImage | container | ociObjectStorage | pulpOstree | koji
    | workerServer => exact readBack_of_target? rfl

end TargetResult

/-! ## Results of jobs -/

namespace BuildResult

/-- The result of a build is read back if its output, its target results and its error are. -/
theorem readBack {r : BuildResult} (output : ∀ o ∈ r.osbuildOutput, ReadBack o)
    (targets : ∀ t ∈ r.targetResults, ReadBack t) (error : ∀ e ∈ r.jobError, ReadBack e) :
    ReadBack r := by
  have all : Wire.decoder.ofJson? (encode r.targetResults) = some r.targetResults :=
    ReadBack.list targets
  show fields.decoder.ofJson? (.obj _) = some r
  rw [Fields.ofJson?_decoder_obj]
  simp [fields, Decoder.alone?_toList_encode output, Decoder.alone?_toList_encode error, all]

/-- It is read with such parts only. -/
theorem yields_readBack : fields.Yields ReadBack :=
  .seqOf (.seqOf (.seqOf (.map fun _ _ output _ targets _ error => readBack output targets error)
    (.possible Reread.yields)) (.defaulted Reread.yields.list nofun))
    (.possible Reread.yields)

instance : Reread BuildResult := ⟨fun _ _ => yields_readBack.of_decoder⟩

end BuildResult

namespace ManifestResult

/-- The result of a job that resolves a manifest is read back if the manifest is kept and the error
is read back. -/
theorem readBack {r : ManifestResult} (manifest : Json.kept r.manifest = r.manifest)
    (error : ∀ e ∈ r.jobError, ReadBack e) : ReadBack r := by
  show fields.decoder.ofJson? (.obj _) = some r
  rw [Fields.ofJson?_decoder_obj]
  simp [fields, manifest, Decoder.alone?_toList_encode error]

/-- It is read with such a manifest and such an error only. -/
theorem yields_readBack : fields.Yields ReadBack :=
  .seqOf (.mapOf .possible_any fun _ manifest _ error => readBack manifest error)
    (.possible Reread.yields)

instance : Reread ManifestResult := ⟨fun _ _ => yields_readBack.of_decoder⟩

end ManifestResult

namespace KojiInitResult

/-- The result of an opening is read back if its error is. -/
theorem readBack {r : KojiInitResult} (error : ∀ e ∈ r.jobError, ReadBack e) : ReadBack r := by
  show fields.decoder.ofJson? (.obj _) = some r
  rw [Fields.ofJson?_decoder_obj]
  simp [fields, Decoder.alone?_toList_encode error]

/-- It is read with such an error only. -/
theorem yields_readBack : fields.Yields ReadBack :=
  .seqOf (.seq (.map fun _ _ _ error => readBack error)) (.possible Reread.yields)

instance : Reread KojiInitResult := ⟨fun _ _ => yields_readBack.of_decoder⟩

end KojiInitResult

namespace KojiFinalizeResult

/-- The result of an import is read back if its error is. -/
theorem readBack {r : KojiFinalizeResult} (error : ∀ e ∈ r.jobError, ReadBack e) :
    ReadBack r := by
  show fields.decoder.ofJson? (.obj _) = some r
  rw [Fields.ofJson?_decoder_obj]
  simp [fields, Decoder.alone?_toList_encode error]

/-- It is read with such an error only. -/
theorem yields_readBack : fields.Yields ReadBack :=
  .mapOf (.possible Reread.yields) fun _ error => readBack error

instance : Reread KojiFinalizeResult := ⟨fun _ _ => yields_readBack.of_decoder⟩

end KojiFinalizeResult

namespace CopyResult

/-- The result of a copy is read back if its error is. -/
theorem readBack {r : CopyResult} (error : ∀ e ∈ r.jobError, ReadBack e) : ReadBack r := by
  show fields.decoder.ofJson? (.obj _) = some r
  rw [Fields.ofJson?_decoder_obj]
  simp [fields, Decoder.alone?_toList_encode error]

/-- It is read with such an error only. -/
theorem yields_readBack : fields.Yields ReadBack :=
  .seqOf (.seq (.map fun _ _ _ error => readBack error)) (.possible Reread.yields)

instance : Reread CopyResult := ⟨fun _ _ => yields_readBack.of_decoder⟩

end CopyResult

namespace ShareResult

/-- The result of a share is read back if its error is. -/
theorem readBack {r : ShareResult} (error : ∀ e ∈ r.jobError, ReadBack e) : ReadBack r := by
  show fields.decoder.ofJson? (.obj _) = some r
  rw [Fields.ofJson?_decoder_obj]
  simp [fields, Decoder.alone?_toList_encode error]

/-- It is read with such an error only. -/
theorem yields_readBack : fields.Yields ReadBack :=
  .seqOf (.seq (.map fun _ _ _ error => readBack error)) (.possible Reread.yields)

instance : Reread ShareResult := ⟨fun _ _ => yields_readBack.of_decoder⟩

end ShareResult

end ImageCompose
