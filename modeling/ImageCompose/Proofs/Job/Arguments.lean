import ImageCompose.Job.Payload
import ImageCompose.Proofs.Json.RoundTrip

/-!
# Arguments are read back as they were submitted

A job is submitted with the written form of its arguments, and workers and reports read that form
again. `JobArgs.read?` reads it by the kind of the job, and `JobArgs.read?_toJson` says what comes
out: the arguments themselves, but for parts that are arbitrary JSON, of which the kept form comes
out (`JobArgs.kept`). In particular the arguments of a submitted job always decode.
-/

namespace ImageCompose

/-! ## Targets -/

instance : RoundTrip Artifact where
  ofJson?_encode a := by
    show Artifact.fields.decoder.ofJson? (.obj _) = some a
    rw [Fields.ofJson?_decoder_obj]
    simp [Artifact.fields]

namespace TargetName

/-- The description of the options of a kind is found under the name of the kind. -/
theorem lookup_name (f : TargetName → α) (t : TargetName) :
    (all.map fun t => (t.name, f t)).lookup t.name = some (f t) := by
  cases t <;> rfl

end TargetName

/-- A tagged record is read from an object by the description that the tag names. -/
theorem Decoder.ofJson?_tagged {name s : String} {choices : List (String × Decoder α)}
    {chosen : Decoder α} {ms : List (String × Json)} (found : choices.lookup s = some chosen)
    (hms : ∀ m ∈ ms, m.1 ≠ name) :
    (Decoder.tagged name choices).ofJson? (.obj ((name, .str s) :: ms)) =
      chosen.ofJson? (.obj ms) := by
  have alone : Json.under name ms = [] :=
    List.filterMap_eq_nil_iff.2 fun m hm => by simp [hms m hm]
  have tag : (Fields.member name (Decoder.tag choices)).ofMembers
      (Json.docMembers ((name, .str s) :: ms)) = .ok chosen := by
    have read : (Fields.member name (Decoder.tag choices)).values? ((name, .str s) :: ms) =
        some chosen := by
      simp [alone, Decoder.tag, found]
    unfold Fields.values? at read
    generalize (Fields.member name (Decoder.tag choices)).ofMembers _ = choice at read
    cases choice with
    | ok a => rw [Option.some.inj read]
    | error e => cases read
  have checked : Members.each (fun k => k != name) (fun d => discard d.keep)
      (Json.docMembers ((name, .str s) :: ms)) = .ok () := by
    refine Members.each_eq_ok fun m hm => ?_
    rw [Json.docMembers_eq_map] at hm
    obtain ⟨⟨k, v⟩, -, rfl⟩ := List.mem_map.1 hm
    simp [discard, Functor.discard, Functor.mapConst, Except.map]
  have others : ∀ p : String × Doc → Bool, (∀ m, p m = (m.1 != name)) →
      (Json.docMembers ((name, .str s) :: ms)).filter p = Json.docMembers ms := by
    intro p hp
    simp only [Json.docMembers, List.filter_cons, hp, bne_self_eq_false, Bool.false_eq_true,
      if_false, Json.docMembers_eq_map, List.filter_map]
    congr 1
    exact List.filter_eq_self.2 fun m hm => by simpa [hp] using hms m hm
  simp only [Decoder.ofJson?, Json.doc, Decoder.tagged, tag, checked, Located.also,
    Located.both, Located.at_, Ending.keep, Except.map, Except.mapError_ok, bind, Except.bind,
    Decoder.settled]
  rw [others _ fun _ => rfl]
  cases chosen (.obj (Json.docMembers ms) .closed) <;> rfl

instance : RoundTrip TargetOptions where
  ofJson?_encode o := by
    show (Decoder.tagged "name" _).ofJson? (.obj (("name", .str o.target.name) :: o.members)) = _
    rw [Decoder.ofJson?_tagged (TargetName.lookup_name _ o.target)]
    · rw [Fields.ofJson?_decoder_obj]
      cases o with
      | aws region key accounts snapshotName =>
        cases snapshotName <;> simp [TargetOptions.target, TargetOptions.fields,
          TargetOptions.members]
      | gcp region bucket object accounts =>
        cases bucket <;> simp [TargetOptions.target, TargetOptions.fields, TargetOptions.members]
      | container reference tlsVerify =>
        cases tlsVerify <;> simp [TargetOptions.target, TargetOptions.fields,
          TargetOptions.members]
      | ociObjectStorage | workerServer => rfl
      | awsS3 | azureImage | pulpOstree | koji =>
        simp [TargetOptions.target, TargetOptions.fields, TargetOptions.members]
    · cases o with
      | aws region key accounts snapshotName =>
        cases snapshotName <;> simp [TargetOptions.members, Json.given]
      | gcp region bucket object accounts =>
        cases bucket <;> simp [TargetOptions.members, Json.given]
      | container reference tlsVerify =>
        cases tlsVerify <;> simp [TargetOptions.members, Json.given]
      | awsS3 | azureImage | ociObjectStorage | pulpOstree | koji | workerServer =>
        simp [TargetOptions.members]

instance : RoundTrip Target where
  ofJson?_encode t := by
    show Target.fields.decoder.ofJson? (.obj _) = some t
    rw [Fields.ofJson?_decoder_obj]
    simp [Target.fields]

/-! ## Repositories and pipelines -/

instance : RoundTrip PipelineNames where
  ofJson?_encode p := by
    show PipelineNames.fields.decoder.ofJson? (.obj _) = some p
    rw [Fields.ofJson?_decoder_obj]
    simp [PipelineNames.fields]

instance : RoundTrip RepositoryConfig where
  ofJson?_encode r := by
    show RepositoryConfig.fields.decoder.ofJson? (.obj _) = some r
    rw [Fields.ofJson?_decoder_obj]
    simp [RepositoryConfig.fields]

/-! ## Arguments of each kind -/

instance : RoundTrip KojiInitArgs where
  ofJson?_encode a := by
    show KojiInitArgs.fields.decoder.ofJson? (.obj _) = some a
    rw [Fields.ofJson?_decoder_obj]
    simp [KojiInitArgs.fields]

instance : RoundTrip KojiFinalizeArgs where
  ofJson?_encode a := by
    show KojiFinalizeArgs.fields.decoder.ofJson? (.obj _) = some a
    rw [Fields.ofJson?_decoder_obj]
    simp [KojiFinalizeArgs.fields]

instance : RoundTrip CopyArgs where
  ofJson?_encode a := by
    show CopyArgs.fields.decoder.ofJson? (.obj _) = some a
    rw [Fields.ofJson?_decoder_obj]
    simp [CopyArgs.fields]

instance : RoundTrip ShareArgs where
  ofJson?_encode a := by
    show ShareArgs.fields.decoder.ofJson? (.obj _) = some a
    rw [Fields.ofJson?_decoder_obj]
    simp [ShareArgs.fields]

/-- What is read back of the arguments of a build. -/
def BuildArgs.kept (a : BuildArgs) : BuildArgs := { a with manifest := Json.kept a.manifest }

/-- The arguments of a build are read back but for a manifest that is not kept. -/
theorem BuildArgs.decode?_encode (a : BuildArgs) : decode? (encode a) = some a.kept := by
  show BuildArgs.fields.decoder.ofJson? (.obj _) = some a.kept
  rw [Fields.ofJson?_decoder_obj]
  simp [BuildArgs.fields, BuildArgs.kept]

/-- What is read back of the arguments of a job that resolves a manifest. -/
def ManifestArgs.kept (a : ManifestArgs) : ManifestArgs :=
  { a with customizations := Json.kept a.customizations }

/-- So are those of a job that resolves a manifest, but for such customizations. -/
theorem ManifestArgs.decode?_encode (a : ManifestArgs) : decode? (encode a) = some a.kept := by
  show ManifestArgs.fields.decoder.ofJson? (.obj _) = some a.kept
  rw [Fields.ofJson?_decoder_obj]
  simp [ManifestArgs.fields, ManifestArgs.kept]

/-! ## Arguments of any kind -/

namespace JobArgs

/-- The arguments that a value is read as for a job of a kind. -/
def read? (v : Json) : JobKind → Option JobArgs
  | .osbuild => (decode? v).map .build
  | .manifestIdOnly => (decode? v).map .manifest
  | .kojiInit => (decode? v).map .kojiInit
  | .kojiFinalize => (decode? v).map .kojiFinalize
  | .awsEc2Copy => (decode? v).map .copy
  | .awsEc2Share => (decode? v).map .share

/-- What is read back of arguments: everything but the form of arbitrary JSON. -/
def kept : JobArgs → JobArgs
  | .build a => .build a.kept
  | .manifest a => .manifest a.kept
  | a => a

/-- The arguments of a job are read back as they were submitted. -/
theorem read?_toJson (a : JobArgs) : read? a.toJson a.kind = some a.kept := by
  cases a with
  | build a => exact congrArg (Option.map JobArgs.build) a.decode?_encode
  | manifest a => exact congrArg (Option.map JobArgs.manifest) a.decode?_encode
  | kojiInit a => exact congrArg (Option.map JobArgs.kojiInit) (decode?_encode a)
  | kojiFinalize a => exact congrArg (Option.map JobArgs.kojiFinalize) (decode?_encode a)
  | copy a => exact congrArg (Option.map JobArgs.copy) (decode?_encode a)
  | share a => exact congrArg (Option.map JobArgs.share) (decode?_encode a)

end JobArgs

end ImageCompose
