import ImageCompose.Job.Payload
import ImageCompose.Proofs.Json.Yields

/-!
# Reading results

A result is read by two readers: by the type that belongs to the kind of its job, and by
`AnyResult`, which reads the error of a job whatever its kind. `LawfulResult` is what ties the two
together: an object that is a result of the kind is also one whose error can be read, and both
readers find the same error. It fails for arrays, where the error stands at another place.

What a build reports of a target is read as a result of the target that has its name
(`BuildResult.target?_of_mem`), and as unknown only if no target has
(`BuildResult.ofName?_of_unknown`).
-/

namespace ImageCompose

/-! ## Results by kind -/

/-- A value that decodes as the result of a job of a kind. -/
def JobKind.ReadsResult (v : Json) : JobKind → Prop
  | .osbuild => ∃ r : BuildResult, decode? v = some r
  | .manifestIdOnly => ∃ r : ManifestResult, decode? v = some r
  | .kojiInit => ∃ r : KojiInitResult, decode? v = some r
  | .kojiFinalize => ∃ r : KojiFinalizeResult, decode? v = some r
  | .awsEc2Copy => ∃ r : CopyResult, decode? v = some r
  | .awsEc2Share => ∃ r : ShareResult, decode? v = some r

/-- A type of results that is the one of its kind and keeps the error where `AnyResult` reads it. -/
class LawfulResult (ρ : Type) [ResultOf ρ] : Prop where
  /-- The results of the kind are those of the type. -/
  readsResult (v : Json) : (ResultOf.kind ρ).ReadsResult v ↔ ∃ r : ρ, decode? v = some r
  /-- The error of an object that is a result is read alike. -/
  jobError (ms : List (String × Json)) (r : ρ) : decode? (.obj ms) = some r →
    AnyResult.decoder.ofJson? (.obj ms) = some ⟨ResultOf.jobError r⟩
  /-- A job that reported nothing has no error. -/
  jobError_empty : ResultOf.jobError (ResultOf.empty : ρ) = none := by rfl

/-- The error of a job is read from the members of an object. -/
theorem AnyResult.ofJson?_obj (ms : List (String × Json)) :
    AnyResult.decoder.ofJson? (.obj ms) =
      (Wire.decoder.optional.alone? (some none) (Json.under "job_error" ms)).map AnyResult.mk := by
  rw [AnyResult.decoder, Fields.ofJson?_decoder_obj]
  simp [AnyResult.fields]

/-- The error of a record is read alike if it is what the last member of the record tells. -/
theorem AnyResult.ofJson?_of_last {f : Fields (Option JobError → ρ)}
    {error : ρ → Option JobError} (hf : f.Yields fun make => ∀ e, error (make e) = e)
    {ms : List (String × Json)} {r : ρ}
    (h : (f <*> Fields.possible "job_error" Wire.decoder).decoder.ofJson? (.obj ms) = some r) :
    AnyResult.decoder.ofJson? (.obj ms) = some ⟨error r⟩ := by
  rw [Fields.ofJson?_decoder_obj, Fields.values?_seq, Option.bind_eq_some_iff] at h
  obtain ⟨make, hmake, h⟩ := h
  rw [Fields.values?_possible, Option.map_eq_some_iff] at h
  obtain ⟨e, he, rfl⟩ := h
  rw [AnyResult.ofJson?_obj, he, hf.of_values? hmake e]
  rfl

instance : LawfulResult BuildResult where
  readsResult _ := .rfl
  jobError _ _ := AnyResult.ofJson?_of_last (.seq (.seq (.map fun _ _ _ _ => rfl)))

instance : LawfulResult ManifestResult where
  readsResult _ := .rfl
  jobError _ _ := AnyResult.ofJson?_of_last (.map fun _ _ => rfl)

instance : LawfulResult KojiInitResult where
  readsResult _ := .rfl
  jobError _ _ := AnyResult.ofJson?_of_last (.seq (.map fun _ _ _ => rfl))

instance : LawfulResult KojiFinalizeResult where
  readsResult _ := .rfl
  jobError ms r h := by
    replace h : KojiFinalizeResult.fields.decoder.ofJson? (.obj ms) = some r := h
    rw [Fields.ofJson?_decoder_obj, KojiFinalizeResult.fields, Fields.values?_map,
      Fields.values?_possible, Option.map_eq_some_iff] at h
    obtain ⟨e, he, rfl⟩ := h
    rw [AnyResult.ofJson?_obj, he]
    rfl

instance : LawfulResult CopyResult where
  readsResult _ := .rfl
  jobError _ _ := AnyResult.ofJson?_of_last (.seq (.map fun _ _ _ => rfl))

instance : LawfulResult ShareResult where
  readsResult _ := .rfl
  jobError _ _ := AnyResult.ofJson?_of_last (.seq (.map fun _ _ _ => rfl))

/-- The error of an object that is a result of some kind can be read. -/
theorem JobKind.ReadsResult.anyResult {k : JobKind} {ms : List (String × Json)}
    (h : k.ReadsResult (.obj ms)) : ∃ r, AnyResult.decoder.ofJson? (.obj ms) = some r := by
  cases k <;> obtain ⟨r, hr⟩ := h <;> exact ⟨_, LawfulResult.jobError ms r hr⟩

/-! ## Target results -/

namespace TargetResult

/-- What is read from the options of a known target is the result of that target. -/
theorem target?_of_optionsDecoder {target : TargetName} {d : Doc} {r : TargetResult}
    (h : optionsDecoder target d = .ok r) : r.target? = some target := by
  have of_fields : ∀ {fields : Fields TargetResult} {target : TargetName},
      (fields.Yields fun r => r.target? = some target) → fields.decoder d = .ok r →
        r.target? = some target :=
    fun hf hr => hf.of_decoder hr
  cases target with
  | aws | gcp | container | koji => exact of_fields (.seq (.map fun _ _ => rfl)) h
  | awsS3 | azureImage | ociObjectStorage | pulpOstree => exact of_fields (.map fun _ => rfl) h
  | workerServer =>
    cases h
    rfl

/-- Only under a name that no target has are options the result of an unknown target. -/
theorem ofOptions_unknown {name name' : String} {options options' : Json}
    (h : ofOptions name' options' = .ok (unknown name options)) :
    TargetName.ofName? name = none ∧ options' = options := by
  unfold ofOptions at h
  split at h
  · next target _ =>
    have known : (unknown name options).target? = some target :=
      Decoder.Yields.settled (fun _ _ => target?_of_optionsDecoder) _ _ h
    cases known
  · next unknown =>
    cases h
    exact ⟨unknown, rfl⟩

/-- A result of an unknown target is only read under a name that no target has, and its options are
settled. -/
theorem unknown_of_decoder {d : Doc} {name : String} {options : Json}
    (h : Wire.decoder d = .ok (unknown name options)) :
    TargetName.ofName? name = none ∧ options.settle = options := by
  obtain ⟨⟨name', options'⟩, found, h⟩ := Except.bind_ok h
  obtain ⟨unknown, rfl⟩ := ofOptions_unknown h
  have settled : fields.Yields fun read => read.2.settle = read.2 :=
    .seqOf (.map fun _ _ settled => settled) (.defaulted Decoder.yields_any rfl)
  exact ⟨unknown, settled.of_decoder found⟩

/-- The result of a known target is reported under the name of that target. -/
theorem name_of_target? {r : TargetResult} {target : TargetName} (h : r.target? = some target) :
    r.name = target.name := by
  cases r <;> cases h <;> rfl

/-- What is read is a result of the target that has its name, or unknown if none has. -/
theorem yields_target? :
    (Wire.decoder : Decoder TargetResult).Yields
      fun r => r.target? = TargetName.ofName? r.name := by
  intro d r read
  cases known : r.target? with
  | some target => rw [name_of_target? known, TargetName.ofName?_name]
  | none =>
    cases r with
    | unknown name options => exact (unknown_of_decoder read).1.symm
    | _ => cases known

end TargetResult

namespace BuildResult

/-- What a build reports of a target is a result of the target that has its name. -/
theorem target?_of_mem {v : Json} {r : BuildResult} (h : decode? v = some r) {t : TargetResult}
    (reported : t ∈ r.targetResults) : t.target? = TargetName.ofName? t.name := by
  have yields : fields.Yields fun r =>
      ∀ t ∈ r.targetResults, t.target? = TargetName.ofName? t.name :=
    .seq (.seqOf (.seq (.map fun _ _ _ known _ => known))
      (.defaulted TargetResult.yields_target?.list nofun))
  exact Decoder.Yields.of_ofJson? (fun _ _ => yields.of_decoder) h t reported

/-- A target that a build reports is only read as unknown if no target has its name. -/
theorem ofName?_of_unknown {v : Json} {r : BuildResult} (h : decode? v = some r) {name : String}
    {options : Json} (reported : .unknown name options ∈ r.targetResults) :
    TargetName.ofName? name = none :=
  (target?_of_mem h reported).symm

end BuildResult

end ImageCompose
