import ImageCompose.Proofs.Compose.Koji
import ImageCompose.Proofs.Compose.Success
import ImageCompose.Proofs.Service.Search
import ImageCompose.Proofs.Store.Order
import Mathlib.Data.List.Perm.Basic

/-!
# The status of a compose in Koji is a conjunction

Once it is imported, a compose in Koji is judged by all of its jobs together: it counts as a success
exactly if none of them reports a failure (`Snapshot.ReportsFailure`). The order in which the import
waits for the builds does not matter. To see this of the status as it is read, consider the jobs
that do not wait for the import. They wait only for one another, and a store with the builds in
another order shows the same of them, so all that is read of a build is the same in both
(`Snapshot.Coincide`). Without cycles, the builds are such jobs.
-/

namespace ImageCompose

/-- An import is pending if it was not canceled and has not finished. -/
theorem kojiComposeStatus_eq_pending {status : JobStatus} {init : KojiInitResult}
    {builds : List BuildResult} {finalize : KojiFinalizeResult} :
    kojiComposeStatus status init builds finalize = .pending ↔
      status.canceled = false ∧ status.isFinished = false := by
  unfold kojiComposeStatus
  cases status.canceled with
  | true => simp
  | false =>
    cases status.isFinished with
    | false => simp
    | true =>
      simp only [Bool.not_true, Bool.false_eq_true, if_false, reduceCtorEq, and_false, iff_false]
      split <;> exact nofun

/-- A build reports a failure as an error, or in the output of the build tool. -/
theorem BuildResult.not_isGoodForKoji_iff {result : BuildResult} :
    ¬result.isGoodForKoji = true ↔
      result.jobError ≠ none ∨ ∃ o, result.osbuildOutput = some o ∧ o.success = false := by
  rw [isGoodForKoji, outputFailed]
  cases result.jobError <;> cases result.osbuildOutput <;> simp

/-- The record of a job is read the same if the job waits for others. -/
theorem JobInfo.ofRecord_waits {ρ : Type} [ResultOf ρ] {id : Uuid} {r : JobRecord}
    {job : JobInfo ρ} (read : ofRecord id r = .ok job) (waits : List Uuid) :
    (ofRecord id { r with dependencies := waits } : Except ServiceError (JobInfo ρ)) =
      .ok { job with dependencies := waits } := by
  have reads := reads_of_ofRecord read
  obtain ⟨kind, result, rfl⟩ := ofRecord_ok read
  exact ofRecord_of_reads id kind reads

namespace Snapshot

variable {s s' : Snapshot} {id init x : Uuid} {builds builds' : List Uuid} {channel : String}
  {r : JobRecord} {told told' : ComposeStatus}

/-! ## Jobs that do not wait for the import -/

/-- No job waits for itself, be it through others. -/
def Acyclic (s : Snapshot) : Prop := ∀ x, ¬Relation.TransGen (WaitsFor s.job) x x

/-- Two stores show the same of some jobs, also which of them are missing, and these jobs wait only
for one another. -/
structure Coincide (s s' : Snapshot) (P : Uuid → Prop) : Prop where
  same : ∀ {x}, P x → s'.job x = s.job x
  closed : ∀ {x r}, P x → s.job x = .ok r → ∀ d ∈ r.dependencies, P d

namespace Coincide

variable {P : Uuid → Prop} (coincide : Coincide s s' P)
include coincide

/-- A job that both stores show the same is read the same. -/
theorem jobInfo {ρ : Type} [ResultOf ρ] (h : P x) :
    (s'.jobInfo x : Except ServiceError (JobInfo ρ)) = s.jobInfo x := by
  rw [Snapshot.jobInfo, Snapshot.jobInfo, coincide.same h]

/-- The errors behind a job are searched for among jobs that both stores show the same. -/
theorem chainError (h : P x) : s'.chainError x = s.chainError x := by
  refine (search_congr (fun y known => ?_) fun y hy => List.mem_singleton.1 hy ▸ h).symm
  rw [coincide.same known]
  cases found : s.job y with
  | error e => exact .error e
  | ok r => exact .ok ⟨rfl, rfl, coincide.closed known found⟩

/-- All that is told of an image is read from such jobs. -/
theorem kojiImage (h : P x) (opened : KojiInitResult) :
    s'.kojiImage opened x = s.kojiImage opened x := by
  rw [Snapshot.kojiImage, Snapshot.kojiImage, coincide.jobInfo h]
  cases read : (s.jobInfo x : Except ServiceError (JobInfo BuildResult)) with
  | error e => rfl
  | ok build =>
    obtain ⟨_, -, -, _, rfl⟩ := jobInfo_ok read
    simp only [bind, Except.bind, imageStatus, coincide.chainError h]

end Coincide

/-! ## Builds in another order -/

/-- Two stores that differ only in the order of the builds that an import waits for. -/
structure Reordered (s s' : Snapshot) (id init : Uuid) (builds builds' : List Uuid) : Prop where
  perm : builds'.Perm builds
  import_job : ∃ r, s.job id = .ok r ∧ r.dependencies = init :: builds ∧
    s'.job id = .ok { r with dependencies := init :: builds' }
  others : ∀ x, x ≠ id → s'.job x = s.job x

/-- Such stores show the same of all jobs that do not wait for the import. -/
theorem Reordered.coincide (h : s.Reordered s' id init builds builds') :
    Coincide s s' fun x => ¬Relation.ReflTransGen (WaitsFor s.job) x id where
  same apart := h.others _ fun same => apart (same ▸ .refl)
  closed apart found _ hd path := apart (.head ⟨_, found, hd⟩ path)

/-- Without cycles, the jobs that the import waits for do not wait for it. -/
theorem Acyclic.apart (acyclic : s.Acyclic) (found : s.job id = .ok r) :
    ∀ d ∈ r.dependencies, ¬Relation.ReflTransGen (WaitsFor s.job) d id :=
  fun _ hd path => acyclic id (.head' ⟨r, found, hd⟩ path)

/-- Two statuses of composes are the same, and their images are told of builds that may stand in
another order: wherever both have the same build, they have the same image. -/
structure SameUpToOrder (told told' : ComposeStatus) (builds builds' : List Uuid) : Prop where
  status : told'.status = told.status
  kojiStatus : told'.kojiStatus = told.kojiStatus
  images : ∃ images images', told.imageStatuses = some images ∧
    told'.imageStatuses = some images' ∧
    images.length = builds.length ∧ images'.length = builds'.length ∧
    ∀ k k' : Nat, builds'[k']? = builds[k]? → images'[k']? = images[k]?

/-- What is judged is the same for results in another order. -/
theorem kojiComposeStatus_perm {results results' : List BuildResult}
    (perm : results'.Perm results) (status : JobStatus) (opened : KojiInitResult)
    (finalize : KojiFinalizeResult) : kojiComposeStatus status opened results' finalize =
      kojiComposeStatus status opened results finalize := by
  rw [kojiComposeStatus, kojiComposeStatus, perm.all_eq]

/-- The import itself is read the same but for that order. -/
theorem Reordered.finalize (h : s.Reordered s' id init builds builds')
    {finalize : JobInfo KojiFinalizeResult} (read : s.jobInfo id = .ok finalize) :
    s'.jobInfo id = .ok { finalize with dependencies := init :: builds' } := by
  obtain ⟨r, found, -, found'⟩ := h.import_job
  rw [jobInfo_of_job found] at read
  rw [jobInfo_of_job found']
  exact JobInfo.ofRecord_waits read _

/-- Each build is read the same in both stores, so the images only change their places. -/
theorem Reordered.images (h : s.Reordered s' id init builds builds') {opened : KojiInitResult}
    (apart : ∀ b ∈ builds, ¬Relation.ReflTransGen (WaitsFor s.job) b id)
    {images : List (ImageStatus × BuildResult)}
    (each : List.Forall₂ (fun b image => s.kojiImage opened b = .ok image) builds images) :
    ∃ images', images'.Perm images ∧
      List.Forall₂ (fun b image => s'.kojiImage opened b = .ok image) builds' images' ∧
      ∀ k k' : Nat, builds'[k']? = builds[k]? → images'[k']? = images[k]? := by
  obtain ⟨images', each', perm⟩ := List.perm_comp_forall₂ h.perm each
  refine ⟨images', perm, ?_, fun k k' same => Except.getElem?_eq_of_each each each' same⟩
  have same : ∀ b ∈ builds', s'.kojiImage opened b = s.kojiImage opened b := by
    intro b hb
    exact h.coincide.kojiImage (apart b (h.perm.subset hb)) opened
  refine Except.mapM_ok ?_
  rw [Except.mapM_congr same]
  exact Except.mapM_eq_ok.2 each'

/-- If the status is told with the builds in one order, it is told with them in any other, and is
the same up to that order. -/
theorem Reordered.composeStatus (h : s.Reordered s' id init builds builds') (acyclic : s.Acyclic)
    (found : s.job id = .ok r) (kind : r.kind = .kojiFinalize)
    (tells : s.composeStatus id channel = .ok told) :
    ∃ told', s'.composeStatus id channel = .ok told' ∧ SameUpToOrder told told' builds builds' := by
  obtain ⟨r', found', waits, other_order⟩ := h.import_job
  cases found.symm.trans found'
  obtain ⟨finalize, chain, imports, opened, first, rest, opened_read, each, rfl⟩ :=
    (composeStatus_koji_iff found kind).1 tells
  obtain ⟨rfl, rfl⟩ := imports.of_record found waits
  have apart := acyclic.apart found
  rw [waits, List.forall_mem_cons] at apart
  obtain ⟨images, perm, each', places⟩ := h.images apart.2 each
  obtain ⟨first', rest', rfl⟩ : ∃ first' rest', images = first' :: rest' := by
    cases images with
    | nil => exact absurd perm.length_eq (by simp)
    | cons first' rest' => exact ⟨first', rest', rfl⟩
  have some_build : builds' ≠ [] := fun none_left => by
    rw [none_left] at each'
    cases each'
  have imports' : s'.Imports id channel { finalize with dependencies := chain.init :: builds' }
      ⟨id, chain.init, builds', some_build⟩ :=
    ⟨h.finalize imports.read, imports.scope, KojiChain.ofFinalize_cons some_build⟩
  have opened_read' : s'.jobInfo chain.init = .ok opened := by
    rw [h.coincide.jobInfo apart.1, opened_read]
  refine ⟨_, (composeStatus_koji_iff other_order kind).2
    ⟨_, _, imports', opened, first', rest', opened_read', each', rfl⟩, ?_⟩
  constructor
  · exact kojiComposeStatus_perm (perm.map _) _ _ _
  · rfl
  · refine ⟨_, _, rfl, rfl, by simpa using each.length_eq.symm,
      by simpa using each'.length_eq.symm, ?_⟩
    intro k k' same
    rw [List.getElem?_map, List.getElem?_map, places k k' same]

/-! ## Jobs that report a failure -/

/-- A job of a compose in Koji reports a failure: an error, or of a build the output of a build tool
that failed. -/
inductive ReportsFailure (s : Snapshot) (x : Uuid) : Prop
  | opening {job : JobInfo KojiInitResult} (read : s.jobInfo x = .ok job)
      (failed : job.result.jobError ≠ none)
  | build {job : JobInfo BuildResult} (read : s.jobInfo x = .ok job)
      (failed : job.result.jobError ≠ none)
  | output {job : JobInfo BuildResult} {o : BuildOutput} (read : s.jobInfo x = .ok job)
      (told : job.result.osbuildOutput = some o) (failed : o.success = false)
  | importing {job : JobInfo KojiFinalizeResult} (read : s.jobInfo x = .ok job)
      (failed : job.result.jobError ≠ none)

/-- An opening reports a failure exactly by an error. -/
theorem reportsFailure_opening {job : JobInfo KojiInitResult} (read : s.jobInfo x = .ok job) :
    s.ReportsFailure x ↔ job.result.jobError ≠ none := by
  refine ⟨fun h => ?_, .opening read⟩
  cases h with
  | opening read' failed =>
    cases read.symm.trans read'
    exact failed
  | build read' | output read' | importing read' => cases kind_unique read read'

/-- So does an import. -/
theorem reportsFailure_importing {job : JobInfo KojiFinalizeResult} (read : s.jobInfo x = .ok job) :
    s.ReportsFailure x ↔ job.result.jobError ≠ none := by
  refine ⟨fun h => ?_, .importing read⟩
  cases h with
  | importing read' failed =>
    cases read.symm.trans read'
    exact failed
  | build read' | output read' | opening read' => cases kind_unique read read'

/-- A build reports a failure exactly if it is not good enough for Koji. -/
theorem reportsFailure_build {job : JobInfo BuildResult} (read : s.jobInfo x = .ok job) :
    s.ReportsFailure x ↔ ¬job.result.isGoodForKoji = true := by
  rw [BuildResult.not_isGoodForKoji_iff]
  constructor
  · intro h
    cases h with
    | build read' failed =>
      cases read.symm.trans read'
      exact .inl failed
    | output read' told failed =>
      cases read.symm.trans read'
      exact .inr ⟨_, told, failed⟩
    | opening read' | importing read' => cases kind_unique read read'
  · rintro (failed | ⟨o, told, failed⟩)
    · exact .build read failed
    · exact .output read told failed

/-- The builds are good for Koji exactly if none of them reports a failure. -/
theorem reportsFailure_images {opened : KojiInitResult} {images : List (ImageStatus × BuildResult)}
    (each : List.Forall₂ (fun b image => s.kojiImage opened b = .ok image) builds images) :
    (∀ b ∈ builds, ¬s.ReportsFailure b) ↔
      ∀ result ∈ images.map (·.2), result.isGoodForKoji = true := by
  induction each with
  | nil => simp
  | cons first _ ih =>
    obtain ⟨build, read, -, result⟩ := kojiImage_ok first
    simp only [List.map_cons, List.forall_mem_cons, ih, reportsFailure_build read, result,
      Decidable.not_not]

/-- A compose in Koji is a success exactly if its import was not canceled, has finished, and no job
of the compose reports a failure. -/
theorem composeStatus_success_iff (found : s.job id = .ok r) (kind : r.kind = .kojiFinalize)
    (waits : r.dependencies = init :: builds) (tells : s.composeStatus id channel = .ok told) :
    told.status = .success ↔ r.status.canceled = false ∧ r.status.isFinished = true ∧
      ∀ x ∈ id :: init :: builds, ¬s.ReportsFailure x := by
  obtain ⟨finalize, chain, imports, opened, first, rest, opened_read, each, rfl⟩ :=
    (composeStatus_koji_iff found kind).1 tells
  obtain ⟨rfl, rfl⟩ := imports.of_record found waits
  simp only [List.forall_mem_cons, reportsFailure_importing imports.read,
    reportsFailure_opening opened_read, reportsFailure_images each, Decidable.not_not,
    ← imports.status_eq found]
  rw [ComposeStatus.ofKoji, kojiComposeStatus_eq_success]
  tauto

/-- It is pending exactly if its import was not canceled and has not finished. -/
theorem composeStatus_pending_iff (found : s.job id = .ok r) (kind : r.kind = .kojiFinalize)
    (tells : s.composeStatus id channel = .ok told) :
    told.status = .pending ↔ r.status.canceled = false ∧ r.status.isFinished = false := by
  obtain ⟨finalize, chain, imports, opened, first, rest, -, -, rfl⟩ :=
    (composeStatus_koji_iff found kind).1 tells
  rw [ComposeStatus.ofKoji, kojiComposeStatus_eq_pending, imports.status_eq found]

/-- Two stores that differ only in the result of a job. -/
structure Replaced (s s' : Snapshot) (x : Uuid) (v : Json) : Prop where
  job : ∃ r, s.job x = .ok r ∧ s'.job x = .ok { r with result := some v }
  others : ∀ y, y ≠ x → s'.job y = s.job y

/-- Every other part of a record stays. -/
theorem Replaced.record {v : Json} (h : s.Replaced s' x v) (found : s.job id = .ok r) :
    ∃ result, s'.job id = .ok { r with result := result } := by
  by_cases same : id = x
  · subst same
    obtain ⟨r', found', replaced⟩ := h.job
    cases found.symm.trans found'
    exact ⟨_, replaced⟩
  · exact ⟨r.result, (h.others id same).trans found⟩

/-! ## The conjunction -/

/-- The status of a compose in Koji, as it was told, is a conjunction over its jobs. -/
structure IsConjunction (s : Snapshot) (id : Uuid) (channel : String) (init : Uuid)
    (builds : List Uuid) (r : JobRecord) (told : ComposeStatus) : Prop where
  /-- It would be told just so with the builds in another order, if no job waits for itself. -/
  reordered : ∀ {s' : Snapshot} {builds' : List Uuid}, s.Acyclic →
    s.Reordered s' id init builds builds' →
    ∃ told', s'.composeStatus id channel = .ok told' ∧ SameUpToOrder told told' builds builds'
  /-- It is a success exactly if the import is through and no job reports a failure. -/
  success_iff : told.status = .success ↔ r.status.canceled = false ∧ r.status.isFinished = true ∧
    ∀ x ∈ id :: init :: builds, ¬s.ReportsFailure x
  /-- If one of the jobs reported a failure instead of what it did report, it would not become a
  success, and stay a failure if it is one. -/
  replaced : ∀ {s' : Snapshot} {x : Uuid} {v : Json} {told' : ComposeStatus},
    x ∈ id :: init :: builds → s.Replaced s' x v → s'.ReportsFailure x →
    s'.composeStatus id channel = .ok told' →
    told'.status ≠ .success ∧ (told.status = .failure → told'.status = .failure)

/-- **The status of a compose in Koji is a conjunction that does not depend on the order of its
builds.** In any store, if the status of an import is told, it is told with the builds in any other
order, and is the same but for the order of the images, provided that no job waits for itself. Once
the import is through, it is a success exactly if neither the import, nor the opening of the build,
nor any image reports an error or an output that failed. So no further failure turns it into a
success. -/
theorem koji_status_conjunction (found : s.job id = .ok r) (kind : r.kind = .kojiFinalize)
    (waits : r.dependencies = init :: builds) (tells : s.composeStatus id channel = .ok told) :
    s.IsConjunction id channel init builds r told where
  reordered acyclic other_order := other_order.composeStatus acyclic found kind tells
  success_iff := composeStatus_success_iff found kind waits tells
  replaced {s' x v told'} member replaced failed tells' := by
    obtain ⟨result, found'⟩ := replaced.record found
    have not_success : told'.status ≠ .success := by
      intro success
      obtain ⟨-, -, none_failed⟩ :=
        (composeStatus_success_iff found' kind waits tells').1 success
      exact none_failed x member failed
    refine ⟨not_success, fun failure => ?_⟩
    cases value : told'.status with
    | failure => rfl
    | success => exact absurd value not_success
    | pending =>
      have pending : told.status = .pending :=
        (composeStatus_pending_iff found kind tells).2
          ((composeStatus_pending_iff found' kind tells').1 value)
      cases failure.symm.trans pending

/-- The finished jobs of an import that waits for builds with some numbers. The tool of the second
of its two builds failed. -/
def finishedImport (builds : List Nat) : Store :=
  let done : JobStatus :=
    { queued := some (.ofSeconds 0), started := some (.ofSeconds 1),
      finished := some (.ofSeconds 2) }
  ⟨[
    ⟨.ofNat 0, .kojiInit, "own", .null, some (.obj []), done, []⟩,
    ⟨.ofNat 1, .osbuild, "own", .null, some (.obj []), done, [.ofNat 0]⟩,
    ⟨.ofNat 2, .osbuild, "own", .null,
      some (.obj [("osbuild_output", .obj [("success", .bool false)])]), done, [.ofNat 0]⟩,
    ⟨.ofNat 3, .kojiFinalize, "own", .null, some (.obj []), done, (0 :: builds).map .ofNat⟩]⟩

/-- In that store jobs wait for earlier ones, the import for one build twice. -/
theorem ordered_finishedImport : (finishedImport [1, 2, 1]).Ordered where
  nodup := by decide
  earlier {k j} found d hd := by
    rcases k with _ | _ | _ | _ | k <;> cases found
    · cases hd
    · exact ⟨0, by decide, by simpa [Store.ids, finishedImport, eq_comm] using hd⟩
    · exact ⟨0, by decide, by simpa [Store.ids, finishedImport, eq_comm] using hd⟩
    · have named : d = .ofNat 0 ∨ d = .ofNat 1 ∨ d = .ofNat 2 ∨ d = .ofNat 1 := by simpa using hd
      rcases named with rfl | rfl | rfl | rfl
      · exact ⟨0, by decide, rfl⟩
      · exact ⟨1, by decide, rfl⟩
      · exact ⟨2, by decide, rfl⟩
      · exact ⟨1, by decide, rfl⟩

/-- With the builds in another order it is the same store otherwise. -/
theorem reordered_finishedImport :
    (finishedImport [1, 2, 1]).snapshot.Reordered (finishedImport [2, 1, 1]).snapshot (.ofNat 3)
      (.ofNat 0) [.ofNat 1, .ofNat 2, .ofNat 1] [.ofNat 2, .ofNat 1, .ofNat 1] where
  perm := .swap _ _ _
  import_job := ⟨_, rfl, rfl, rfl⟩
  others x other := by
    by_cases known : x = .ofNat 0 ∨ x = .ofNat 1 ∨ x = .ofNat 2
    · rcases known with rfl | rfl | rfl <;> rfl
    · have missing : ∀ builds, (finishedImport builds).find? x = none := by
        intro builds
        refine Store.find?_eq_none ?_
        simp only [Store.ids, finishedImport, List.map_cons, List.map_nil, List.mem_cons,
          List.not_mem_nil]
        tauto
      rw [Store.snapshot_job, Store.snapshot_job, missing, missing]

/-- It is a failure whichever of its builds comes first. -/
theorem koji_status_of_finishedImport :
    ∃ told told' images images',
      (finishedImport [1, 2, 1]).snapshot.composeStatus (.ofNat 3) "own" = .ok told ∧
      (finishedImport [2, 1, 1]).snapshot.composeStatus (.ofNat 3) "own" = .ok told' ∧
      told.status = .failure ∧ told'.status = .failure ∧
      told.imageStatuses = some images ∧ told'.imageStatuses = some images' ∧
      images'[0]? = images[1]? ∧ images'[1]? = images[0]? ∧ images'[2]? = images[2]? := by
  obtain ⟨told, tells, failure⟩ := told_of_status
    (by decide +kernel : ((finishedImport [1, 2, 1]).snapshot.composeStatus (.ofNat 3)
      "own").toOption.map (·.status) = some .failure)
  have conjunction : (finishedImport [1, 2, 1]).snapshot.IsConjunction (.ofNat 3) "own" (.ofNat 0)
      [.ofNat 1, .ofNat 2, .ofNat 1] _ told := koji_status_conjunction rfl rfl rfl tells
  obtain ⟨told', tells', same⟩ :=
    conjunction.reordered ordered_finishedImport.acyclic.acyclic reordered_finishedImport
  obtain ⟨images, images', all, all', -, -, places⟩ := same.images
  exact ⟨told, told', images, images', tells, tells', failure, same.status.trans failure, all, all',
    places 1 0 rfl, places 0 1 rfl, places 2 2 rfl⟩

end Snapshot

end ImageCompose
