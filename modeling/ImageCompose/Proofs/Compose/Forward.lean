import ImageCompose.Proofs.Compose.Told
import ImageCompose.Proofs.Store.Moves
import ImageCompose.Proofs.Store.Shown

/-!
# A status moves forward

The status of a compose is worked out anew whenever it is asked for, from the statuses and the
results of several jobs, and workers may act on these in any order. As jobs only move forward, what
is told of a compose and of its images only moves forward too (`Store.status_advances`): an image
never goes back from being built or from having ended, and a failure is final.

Every rule for an image has one shape (`imageProgress`), and so has every rule for a compose
(`composeProgress`): something may have failed already, the job may have started, it may have
finished, and what it reported may be good. Each of these only changes one way.
-/

namespace ImageCompose

/-! ## Statuses -/

/-- How far an image with a status has come. An image on its way counts as being built, and one
that failed has come as far as one that succeeded. -/
def ImageStatusValue.rank : ImageStatusValue → Nat
  | .pending => 0
  | .building | .uploading | .registering => 1
  | .success | .failure => 2

/-- An image does not go back, and stays failed. -/
structure ImageStatusValue.Advances (v v' : ImageStatusValue) : Prop where
  forward : v.rank ≤ v'.rank
  failed : v = .failure → v' = .failure

/-- A compose that has ended does not become pending again, and stays failed. -/
structure ComposeStatusValue.Advances (v v' : ComposeStatusValue) : Prop where
  forward : v ≠ .pending → v' ≠ .pending
  failed : v = .failure → v' = .failure

/-- What is told of a compose has moved forward: it tells of as many images in the same form, and
the compose and each image have not gone back. -/
structure ComposeStatus.Advances (told told' : ComposeStatus) : Prop where
  status : told.status.Advances told'.status
  form : told'.imageStatuses.isSome = told.imageStatuses.isSome
  image : told.imageStatus.status.Advances told'.imageStatus.status
  images : List.Forall₂ (fun image image' => image.status.Advances image'.status)
    told.images told'.images

/-! ## Rules -/

/-- The shape of a rule for an image. -/
def imageProgress (failed started finished good : Bool) : ImageStatusValue :=
  if failed then .failure
  else if !started then .pending
  else if !finished then .building
  else if good then .success
  else .failure

/-- The shape of a rule for a compose. -/
def composeProgress (failed finished good : Bool) : ComposeStatusValue :=
  if failed then .failure
  else if !finished then .pending
  else if good then .success
  else .failure

/-- An image does not go back if nothing that it is judged by does. -/
theorem imageProgress_advances
    {failed failed' started started' finished finished' good good' : Bool}
    (fails : failed → failed') (starts : started → started') (finishes : finished → finished')
    (stays : finished → good' → good) :
    (imageProgress failed started finished good).Advances
      (imageProgress failed' started' finished' good') := by
  constructor <;> revert failed failed' started started' finished finished' good good' <;> decide

/-- A compose does not go back if nothing that it is judged by does. -/
theorem composeProgress_advances {failed failed' finished finished' good good' : Bool}
    (fails : failed → failed') (finishes : finished → finished')
    (stays : finished → good' → good) :
    (composeProgress failed finished good).Advances
      (composeProgress failed' finished' good') := by
  constructor <;> revert failed failed' finished finished' good good' <;> decide

/-- A job that was read has moved forward. Its result is the same, unless it had none. -/
structure JobInfo.Becomes {ρ : Type} [ResultOf ρ] (job job' : JobInfo ρ) : Prop where
  dependencies : job'.dependencies = job.dependencies
  started : job.status.isStarted → job'.status.isStarted
  finished : job.status.isFinished → job'.status.isFinished
  canceled : job.status.canceled → job'.status.canceled
  result : job'.result = job.result ∨ job.result = ResultOf.empty ∧ ¬job.status.isFinished

namespace JobInfo.Becomes

/-- What a result has and the empty one does not, it keeps. -/
theorem keeps {ρ : Type} [ResultOf ρ] {job job' : JobInfo ρ} (h : job.Becomes job')
    {P : ρ → Prop} (not_empty : ¬P ResultOf.empty) (holds : P job.result) : P job'.result := by
  rcases h.result with same | ⟨empty, -⟩
  · rwa [same]
  · rw [empty] at holds
    exact absurd holds not_empty

variable {build build' : JobInfo BuildResult} {init init' : JobInfo KojiInitResult}
  {finalize finalize' : JobInfo KojiFinalizeResult}

/-- A build on its own is judged by its success once it has finished. -/
theorem buildImageStatus (h : build.Becomes build') :
    (buildImageStatus build.status build.result).Advances
      (buildImageStatus build'.status build'.result) := by
  refine imageProgress_advances h.canceled h.started h.finished fun finished good => ?_
  rwa [← h.result.resolve_right fun empty => empty.2 finished]

/-- So is a compose of one build. -/
theorem buildComposeStatus (h : build.Becomes build') :
    (buildComposeStatus build.status build.result).Advances
      (buildComposeStatus build'.status build'.result) := by
  refine composeProgress_advances h.canceled h.finished fun finished good => ?_
  rwa [← h.result.resolve_right fun empty => empty.2 finished]

/-- A build that reported a failure to Koji goes on to report it. -/
theorem isGoodForKoji (h : build.Becomes build') (good : build'.result.isGoodForKoji) :
    build.result.isGoodForKoji :=
  Decidable.not_not.1 fun bad =>
    h.keeps (P := fun result => ¬result.isGoodForKoji) (by decide) bad good

/-- A job that ended in an error stays so, if no result counts as no error. -/
theorem jobError {ρ : Type} [ResultOf ρ] {job job' : JobInfo ρ} (h : job.Becomes job')
    (none_at_first : ResultOf.jobError (ResultOf.empty : ρ) = none)
    (failed : (ResultOf.jobError job.result).isSome) : (ResultOf.jobError job'.result).isSome :=
  h.keeps (P := fun result => (ResultOf.jobError result).isSome) (by simp [none_at_first]) failed

/-- An image that goes into Koji fails with the job that opens the build there, too. -/
theorem kojiImageStatus (h : build.Becomes build') (opened : init.Becomes init') :
    (kojiImageStatus build.status init.result build.result).Advances
      (kojiImageStatus build'.status init'.result build'.result) := by
  refine imageProgress_advances ?_ h.started h.finished fun _ => h.isGoodForKoji
  rw [Bool.or_eq_true, Bool.or_eq_true]
  exact Or.imp h.canceled (opened.jobError rfl)

/-- A compose that is imported into Koji fails with any of its jobs. -/
theorem kojiComposeStatus (h : finalize.Becomes finalize') (opened : init.Becomes init')
    {builds builds' : List BuildResult}
    (each : List.Forall₂ (fun r r' => r'.isGoodForKoji → r.isGoodForKoji) builds builds') :
    (kojiComposeStatus finalize.status init.result builds finalize.result).Advances
      (kojiComposeStatus finalize'.status init'.result builds' finalize'.result) := by
  have all_good : builds'.all (·.isGoodForKoji) → builds.all (·.isGoodForKoji) := by
    induction each with
    | nil => exact fun all => all
    | cons first _ ih =>
      rw [List.all_cons, List.all_cons, Bool.and_eq_true, Bool.and_eq_true]
      exact And.imp first ih
  refine composeProgress_advances h.canceled h.finished fun _ => ?_
  simp only [Bool.and_eq_true, Option.isNone_iff_eq_none, ← Option.not_isSome_iff_eq_none]
  rintro ⟨⟨opened_well, all⟩, imported_well⟩
  exact ⟨⟨fun failed => opened_well (opened.jobError rfl failed), all_good all⟩,
    fun failed => imported_well (h.jobError rfl failed)⟩

end JobInfo.Becomes

/-! ## Composes -/

namespace Store

variable {s s' : Store} {id : Uuid}

/-- What is read of a job later is what it has become. -/
theorem Becomes.jobInfo (later : s.Becomes s') (settled : s.Settled) {ρ : Type} [ResultOf ρ]
    {job job' : JobInfo ρ} (read : s.snapshot.jobInfo id = .ok job)
    (read' : s'.snapshot.jobInfo id = .ok job') : job.Becomes job' := by
  obtain ⟨j, found, -, result, reads, rfl⟩ := jobInfo_ok read
  obtain ⟨j', found', -, result', reads', rfl⟩ := jobInfo_ok read'
  obtain ⟨k, found'', moved⟩ := later.jobs found
  obtain rfl := Option.some.inj (found'.symm.trans found'')
  refine ⟨moved.dependencies, moved.started, moved.finished, moved.canceled, ?_⟩
  rcases reads with ⟨unreported, rfl⟩ | ⟨v, stored, decoded⟩
  · refine .inr ⟨rfl, fun finished => ?_⟩
    have reported := settled found finished
    rw [unreported] at reported
    cases reported
  · refine .inl ?_
    have stored' := moved.result v stored
    rcases reads' with ⟨unreported, -⟩ | ⟨v', stored'', decoded'⟩
    · rw [unreported] at stored'
      cases stored'
    · obtain rfl := Option.some.inj (stored'.symm.trans stored'')
      exact Option.some.inj (decoded'.symm.trans decoded)

/-- A job is read as one kind only. -/
theorem Becomes.kind_eq (later : s.Becomes s') {ρ ρ' : Type} [ResultOf ρ] [ResultOf ρ']
    {job : JobInfo ρ} {job' : JobInfo ρ'} (read : s.snapshot.jobInfo id = .ok job)
    (read' : s'.snapshot.jobInfo id = .ok job') : ResultOf.kind ρ' = ResultOf.kind ρ := by
  obtain ⟨j, found, kind, -⟩ := jobInfo_ok read
  obtain ⟨j', found', kind', -⟩ := jobInfo_ok read'
  obtain ⟨k, found'', moved⟩ := later.jobs found
  obtain rfl := Option.some.inj (found'.symm.trans found'')
  rw [← kind', moved.kind, kind]

/-- Each image that goes into Koji is told from one build, then and now. -/
theorem Becomes.kojiImages (later : s.Becomes s') (settled : s.Settled)
    {init init' : JobInfo KojiInitResult} (opened : init.Becomes init') {builds : List Uuid}
    {images images' : List (ImageStatus × BuildResult)}
    (each : builds.mapM (s.snapshot.kojiImage init.result) = .ok images)
    (each' : builds.mapM (s'.snapshot.kojiImage init'.result) = .ok images') :
    List.Forall₂ (fun told told' => told.1.status.Advances told'.1.status ∧
      (told'.2.isGoodForKoji → told.2.isGoodForKoji)) images images' := by
  refine Except.mapM_both each each' fun b told told' shown shown' => ?_
  obtain ⟨build, read, image, result⟩ := Snapshot.kojiImage_ok shown
  obtain ⟨build', read', image', result'⟩ := Snapshot.kojiImage_ok shown'
  have moved := later.jobInfo settled read read'
  rw [image, image', result, result']
  exact ⟨moved.kojiImageStatus opened, moved.isGoodForKoji⟩

/-- What is told of a compose from jobs that have moved forward has moved forward. -/
theorem Becomes.composeStatus (later : s.Becomes s') (settled : s.Settled)
    {told told' : ComposeStatus} (tells : s.snapshot.Tells id told)
    (tells' : s'.snapshot.Tells id told') : told.Advances told' := by
  cases tells with
  | build read status image alone =>
    cases tells' with
    | koji read' => cases later.kind_eq read read'
    | build read' status' image' alone' =>
      have moved := later.jobInfo settled read read'
      have image_advances := moved.buildImageStatus
      rw [← Snapshot.imageStatus_ok image, ← Snapshot.imageStatus_ok image'] at image_advances
      refine ⟨?_, by rw [alone, alone'], image_advances, ?_⟩
      · rw [status, status']
        exact moved.buildComposeStatus
      · rw [ComposeStatus.images, ComposeStatus.images, alone, alone']
        exact .cons image_advances .nil
  | koji read chained init_read each status first all =>
    cases tells' with
    | build read' => cases later.kind_eq read read'
    | koji read' chained' init_read' each' status' first' all' =>
      have moved := later.jobInfo settled read read'
      rw [moved.dependencies, chained] at chained'
      cases chained'
      have opened := later.jobInfo settled init_read init_read'
      have images := later.kojiImages settled opened each each'
      refine ⟨?_, by rw [all, all']; rfl, ?_, ?_⟩
      · rw [status, status']
        exact moved.kojiComposeStatus opened (List.forall₂_map_left_iff.2
          (List.forall₂_map_right_iff.2 (images.imp fun _ _ each => each.2)))
      · cases images with
        | nil => cases first
        | cons image _ =>
          rw [← Option.some.inj first, ← Option.some.inj first']
          exact image.1
      · rw [ComposeStatus.images, ComposeStatus.images, all, all']
        exact List.forall₂_map_left_iff.2
          (List.forall₂_map_right_iff.2 (images.imp fun _ _ each => each.1))

/-- Whatever is submitted and in whatever order workers start, finish and cancel jobs, if none is
finished twice, every status that is told of a compose later has moved forward. -/
theorem status_advances {channel channel' : String} {told told' : ComposeStatus}
    (before : Moves StoredJob.Unreported {} s) (later : Moves StoredJob.Unreported s s')
    (tells : s.snapshot.composeStatus id channel = .ok told)
    (tells' : s'.snapshot.composeStatus id channel' = .ok told') : told.Advances told' :=
  later.becomes.composeStatus before.settled (Snapshot.composeStatus_ok tells)
    (Snapshot.composeStatus_ok tells')

/-- The jobs of one image that is imported into Koji. -/
def importStore : Store := ⟨[
  ⟨.ofNat 0, .kojiInit, "own", .obj [], none, { queued := some (.ofSeconds 0) }, []⟩,
  ⟨.ofNat 1, .osbuild, "own", .obj [], none, { queued := some (.ofSeconds 0) }, [.ofNat 0]⟩,
  ⟨.ofNat 2, .kojiFinalize, "own", .obj [], none, { queued := some (.ofSeconds 0) },
    [.ofNat 0, .ofNat 1]⟩]⟩

/-- An import that finishes before the build is opened in Koji counts as a success at first, and as
a failure once the build could not be opened. -/
theorem status_advances_importStore :
    let s := importStore.finish (.ofNat 2) (.obj []) (.ofSeconds 1)
    let s' := s.finish (.ofNat 0)
      (encode { jobError := some ⟨1, "refused", none⟩ : KojiInitResult }) (.ofSeconds 2)
    Moves StoredJob.Unreported {} s ∧ Moves StoredJob.Unreported s s' ∧
      ∃ told told', s.snapshot.composeStatus (.ofNat 2) "" = .ok told ∧
        s'.snapshot.composeStatus (.ofNat 2) "own" = .ok told' ∧
        told.status = .success ∧ told'.status = .failure ∧ told.Advances told' := by
  intro s s'
  have submitted : Moves StoredJob.Unreported {} importStore :=
    ((Relation.ReflTransGen.single (.enqueue ⟨.kojiInit, .obj [], [], "own"⟩ (.ofNat 0)
      (.ofSeconds 0) (by decide) rfl)).tail
      (.enqueue ⟨.osbuild, .obj [], [.ofNat 0], "own"⟩ (.ofNat 1) (.ofSeconds 0)
        (by decide) rfl)).tail
      (.enqueue ⟨.kojiFinalize, .obj [], [.ofNat 0, .ofNat 1], "own"⟩ (.ofNat 2) (.ofSeconds 0)
        (by decide) rfl)
  have before : Moves StoredJob.Unreported {} s := submitted.tail (.finish _ _ _ (by decide))
  have later : Moves StoredJob.Unreported s s' := .single (.finish _ _ _ (by decide))
  have told_as : ∀ {answer : Except ServiceError ComposeStatus} {v},
      answer.toOption.map (·.status) = some v → ∃ told, answer = .ok told ∧ told.status = v := by
    rintro (e | told) v h
    · cases h
    · exact ⟨told, rfl, Option.some.inj h⟩
  obtain ⟨told, tells, success⟩ := told_as
    (by decide +kernel : (s.snapshot.composeStatus (.ofNat 2) "").toOption.map (·.status) =
      some .success)
  obtain ⟨told', tells', failure⟩ := told_as
    (by decide +kernel : (s'.snapshot.composeStatus (.ofNat 2) "own").toOption.map (·.status) =
      some .failure)
  exact ⟨before, later, told, told', tells, tells', success, failure,
    status_advances before later tells tells'⟩

end Store

end ImageCompose
