import ImageCompose.Proofs.Api.Reports
import ImageCompose.Proofs.Job.Payloads
import ImageCompose.Proofs.Service.Operations
import ImageCompose.Proofs.Service.Search

/-!
# Answers are read back

What the service tells of a compose is read back as it is written. A status holds arbitrary JSON
only in the details of errors, and a manifest is arbitrary JSON, but both were decoded from stored
jobs, so they are settled. The logs hand out stored results undecoded, and are read back if these
are settled (`Snapshot.SettledResults`), as results are that were read as JSON.
-/

namespace ImageCompose

/-! ## What was decoded is settled -/

/-- The details of an error are read as JSON that is kept. -/
theorem JobError.yields_kept :
    (Wire.decoder : Decoder JobError).Yields fun e => Json.kept e.details = e.details := by
  have yields : fields.Yields fun e => Json.kept e.details = e.details :=
    .seqOf (.seq (.map fun _ _ _ details => details)) .possible_any
  exact fun _ _ => yields.of_decoder

/-- So are those of the error in the result of a job of any kind. -/
theorem AnyResult.yields_kept :
    decoder.Yields fun r => ∀ e ∈ r.jobError, Json.kept e.details = e.details := by
  have yields : fields.Yields fun r => ∀ e ∈ r.jobError, Json.kept e.details = e.details :=
    .mapOf (.possible JobError.yields_kept) fun _ kept => kept
  exact fun _ _ => yields.of_decoder

/-- The manifest of decoded arguments is settled. -/
theorem BuildArgs.settle_manifest {v m : Json} {a : BuildArgs} (h : decode? v = some a)
    (given : a.manifest = some m) (present : m.isNull = false) : m.settle = m := by
  have kept : a.kept = a :=
    Option.some.inj (a.decode?_encode.symm.trans (decode?_encode_of_decode? h))
  have manifest : Json.kept (some m) = some m := given ▸ congrArg BuildArgs.manifest kept
  simpa [Json.kept, present] using manifest

/-- The manifest of a decoded result is settled. -/
theorem ManifestResult.settle_manifest {v m : Json} {r : ManifestResult} (h : decode? v = some r)
    (given : r.manifest = some m) : m.settle = m := by
  have yields : fields.Yields fun r => Json.kept r.manifest = r.manifest :=
    .seq (.mapOf .possible_any fun _ manifest _ => manifest)
  have kept : Json.kept (some m) = some m :=
    given ▸ Decoder.Yields.of_ofJson? (fun _ _ => yields.of_decoder) h
  cases m with
  | null => rfl
  | bool | num | str | arr | obj => exact Option.some.inj kept

namespace Snapshot

variable {s : Snapshot} {id : Uuid} {channel : String}

/-! ## Status -/

/-- The error of a job or of one that it depends on is told as it can be read back. -/
theorem readBack_chainError {e : JobError} (h : s.chainError id = .ok (some e)) :
    ReadBack (ComposeStatusError.ofJobError e) := by
  obtain ⟨_, r, -, -, visited⟩ := search_answer (P := fun _ => True)
    (fun _ _ _ _ _ _ => trivial) (fun _ _ => trivial) h
  unfold ownError at visited
  split at visited
  · cases visited
  · split at visited
    · next result read =>
      have kept := AnyResult.yields_kept.of_ofJson? read
      exact ComposeStatusError.readBack (kept e (Except.ok.inj visited))
    · cases visited

/-- What is told of an image can be read back. -/
theorem readBack_imageStatus {build : JobInfo BuildResult}
    {rule : JobStatus → BuildResult → ImageStatusValue} {image : ImageStatus}
    (h : s.imageStatus build rule = .ok image) : ReadBack image := by
  obtain ⟨error, chained, h⟩ := Except.bind_ok h
  obtain ⟨uploads, -, h⟩ := Except.bind_ok h
  cases h
  refine ImageStatus.readBack fun e told => ?_
  obtain ⟨cause, rfl, rfl⟩ := Option.mem_map.1 told
  exact readBack_chainError chained

/-- So can what is told of an image that goes into Koji. -/
theorem readBack_kojiImage {init : KojiInitResult} {told : ImageStatus × BuildResult}
    (h : s.kojiImage init id = .ok told) : ReadBack told.1 := by
  obtain ⟨build, -, h⟩ := Except.bind_ok h
  obtain ⟨image, judged, h⟩ := Except.bind_ok h
  cases h
  exact readBack_imageStatus judged

/-- The status of a compose can be read back. -/
theorem readBack_composeStatus {told : ComposeStatus}
    (h : s.composeStatus id channel = .ok told) : ReadBack told := by
  obtain ⟨kind, -, h⟩ := Except.bind_ok h
  cases kind with
  | osbuild =>
    obtain ⟨build, -, h⟩ := Except.bind_ok h
    obtain ⟨_, -, h⟩ := Except.bind_ok h
    obtain ⟨image, judged, h⟩ := Except.bind_ok h
    cases h
    exact ComposeStatus.readBack (readBack_imageStatus judged) nofun
  | kojiFinalize =>
    obtain ⟨finalize, -, h⟩ := Except.bind_ok h
    obtain ⟨_, -, h⟩ := Except.bind_ok h
    obtain ⟨chain, -, h⟩ := Except.bind_ok h
    obtain ⟨init, -, h⟩ := Except.bind_ok h
    obtain ⟨images, each, h⟩ := Except.bind_ok h
    have all : ∀ image ∈ images, ReadBack image.1 := fun image member => by
      obtain ⟨_, -, told⟩ := Except.exists_of_mem_mapM each member
      exact readBack_kojiImage told
    cases images with
    | nil => cases h
    | cons first rest =>
      cases h
      refine ComposeStatus.readBack (all first (List.mem_cons_self ..)) ?_
      rintro _ ⟨⟩
      refine .list fun image member => ?_
      obtain ⟨told, among, rfl⟩ := List.mem_map.1 member
      exact all told among
  | _ => cases h

/-! ## Manifests -/

/-- The manifest of the nearest job that resolves one is settled. -/
theorem settle_nearestManifest {build : JobInfo BuildResult} {manifest : Json}
    (h : s.nearestManifest build = .ok manifest) : manifest.settle = manifest := by
  obtain ⟨nearest, -, h⟩ := Except.bind_ok h
  cases nearest with
  | none => cases h
  | some id =>
    obtain ⟨job, read, h⟩ := Except.bind_ok h
    cases h
    obtain ⟨r, found, -⟩ := jobInfo_ok read
    rw [jobInfo_of_job found] at read
    rcases JobInfo.reads_of_ofRecord read with ⟨-, empty⟩ | ⟨v, -, decoded⟩
    · rw [empty]
      rfl
    · cases given : job.result.manifest with
      | none => rfl
      | some m => exact ManifestResult.settle_manifest decoded given

/-- The manifest that is told of a build is settled. -/
theorem settle_manifest {build : JobInfo BuildResult} {manifest : Json}
    (h : s.manifest build = .ok manifest) : manifest.settle = manifest := by
  rw [manifest_eq] at h
  obtain ⟨args, decoded, h⟩ := Except.bind_ok h
  split at h
  · next m given =>
    split at h
    · exact settle_nearestManifest h
    · next present =>
      cases h
      exact BuildArgs.settle_manifest (JobInfo.args_ok decoded) given (by simpa using present)
  · exact settle_nearestManifest h

/-- The manifests of a compose can be read back. -/
theorem readBack_composeManifests {told : ComposeManifests}
    (h : s.composeManifests id channel = .ok told) : ReadBack told := by
  obtain ⟨kind, -, h⟩ := Except.bind_ok h
  cases kind with
  | osbuild =>
    obtain ⟨build, -, h⟩ := Except.bind_ok h
    obtain ⟨_, -, h⟩ := Except.bind_ok h
    obtain ⟨manifest, told, h⟩ := Except.bind_ok h
    cases h
    exact ComposeManifests.readBack (by simpa using settle_manifest told)
  | kojiFinalize =>
    obtain ⟨finalize, -, h⟩ := Except.bind_ok h
    obtain ⟨_, -, h⟩ := Except.bind_ok h
    obtain ⟨chain, -, h⟩ := Except.bind_ok h
    obtain ⟨manifests, each, h⟩ := Except.bind_ok h
    cases h
    refine ComposeManifests.readBack fun manifest member => ?_
    obtain ⟨_, -, told⟩ := Except.exists_of_mem_mapM each member
    obtain ⟨build, -, told⟩ := Except.bind_ok told
    exact settle_manifest told
  | _ => cases h

/-! ## Logs -/

/-- In the results that the store shows, no object has two members of a name. -/
def SettledResults (s : Snapshot) : Prop :=
  ∀ id r v, s.job id = .ok r → r.result = some v → v.settle = v

/-- The log of a job is the result that the store shows, so it is settled. -/
theorem settle_log (settled : s.SettledResults) {ρ : Type} [ResultOf ρ] {job : JobInfo ρ}
    (h : s.jobInfo id = .ok job) : job.log.settle = job.log := by
  obtain ⟨r, found, -, result, rfl⟩ := jobInfo_ok h
  show (r.result.getD .null).settle = _
  cases stored : r.result with
  | none => rfl
  | some v => exact settled id r v found stored

/-- The logs of a compose can be read back if the results in the store are settled. -/
theorem readBack_composeLogs (settled : s.SettledResults) {told : ComposeLogs}
    (h : s.composeLogs id channel = .ok told) : ReadBack told := by
  obtain ⟨kind, -, h⟩ := Except.bind_ok h
  cases kind with
  | osbuild =>
    obtain ⟨build, read, h⟩ := Except.bind_ok h
    obtain ⟨_, -, h⟩ := Except.bind_ok h
    cases h
    exact ComposeLogs.readBack (by simpa using settle_log settled read) nofun
  | kojiFinalize =>
    obtain ⟨finalize, read, h⟩ := Except.bind_ok h
    obtain ⟨_, -, h⟩ := Except.bind_ok h
    obtain ⟨chain, -, h⟩ := Except.bind_ok h
    obtain ⟨init, init_read, h⟩ := Except.bind_ok h
    obtain ⟨builds, each, h⟩ := Except.bind_ok h
    cases h
    refine ComposeLogs.readBack (fun log member => ?_) ?_
    · obtain ⟨build, among, rfl⟩ := List.mem_map.1 member
      obtain ⟨_, -, told⟩ := Except.exists_of_mem_mapM each among
      obtain ⟨kind, -, told⟩ := Except.bind_ok told
      split at told
      · cases told
      · exact settle_log settled told
    · rintro _ ⟨⟩
      exact KojiLogs.readBack (settle_log settled init_read) (settle_log settled read)
  | _ => cases h

end Snapshot

end ImageCompose
