import ImageCompose.Proofs.Checklist
import ImageCompose.Proofs.Clone.Accepted
import ImageCompose.Proofs.Clone.Scan

/-!
# Why a clone is refused

Twelve conditions are checked in a fixed order before a clone does anything (`CloneCondition.all`),
on the compose and the tenant channel alone. `Snapshot.Violates` says what it is to violate each of
them and what is told then; once the build is read, that is a matter of the build
(`JobInfo.Violates`). A clone is refused with the error of the first condition that is violated,
whatever region and accounts it asks for; if none is violated, only the search for a copy or a
submission can fail (`cloneCompose_refused`).
-/

namespace ImageCompose

open Checklist (Enforces)

/-- What is asked of a compose before it is cloned. -/
inductive CloneCondition
  /-- The store tells of the job. -/
  | stored
  | isBuild
  /-- The result decodes. -/
  | reported
  /-- The build is on the tenant channel of the request. -/
  | visible
  | succeeded
  | oneResult
  /-- The image neither stays on the worker server nor goes into Koji. -/
  | movable
  /-- The result is that of a target that is known. -/
  | known
  /-- The arguments decode. -/
  | argued
  | oneTarget
  | ec2Result
  | ec2Target

/-- The conditions in the order in which they are checked. -/
def CloneCondition.all : List CloneCondition :=
  [.stored, .isBuild, .reported, .visible, .succeeded, .oneResult, .movable, .known, .argued,
    .oneTarget, .ec2Result, .ec2Target]

/-- The job that a record tells of. -/
def JobRecord.shown (r : JobRecord) (id : Uuid) : StoredJob :=
  ⟨id, r.kind, r.channel, r.args, r.result, r.status, r.dependencies⟩

/-- A build that is read violates a condition for a clone on a tenant channel, and this is told of
it. -/
inductive JobInfo.Violates (build : JobInfo BuildResult) (channel : String) :
    CloneCondition → ServiceError → Prop
  | hidden (given : channel ≠ "") (other : channel ≠ build.channel) :
      Violates build channel .visible (.composeNotFound build.id)
  | unsuccessful (failed : ¬(build.status.isFinished = true ∧ build.result.success = true)) :
      Violates build channel .succeeded (.composeBadState build.id)
  | results (several : build.result.targetResults.length ≠ 1) : Violates build channel .oneResult
      (.severalUploadTargets build.id build.result.targetResults.length)
  | immovable {result : TargetResult} (only : build.result.targetResults = [result])
      (stays : result.target? = some .workerServer ∨ result.target? = some .koji) :
      Violates build channel .movable (.unsupportedCloneTarget result.name)
  | unknown {result : TargetResult} (only : build.result.targetResults = [result])
      (unknown : result.target? = none) :
      Violates build channel .known (.unknownUploadTarget result.name)
  | misargued (undecodable : (decode? build.rawArgs : Option BuildArgs) = none) :
      Violates build channel .argued (.malformedJob build.id .undecodable)
  | targets {args : BuildArgs} (decoded : decode? build.rawArgs = some args)
      (several : args.targets.length ≠ 1) :
      Violates build channel .oneTarget (.severalUploadTargets build.id args.targets.length)
  | foreignResult {result : TargetResult} (only : build.result.targetResults = [result])
      (foreign : result.target? ≠ some .aws) :
      Violates build channel .ec2Result (.unsupportedCloneTarget result.name)
  | foreignTarget {args : BuildArgs} {target : Target}
      (decoded : decode? build.rawArgs = some args) (only : args.targets = [target])
      (foreign : target.name ≠ .aws) :
      Violates build channel .ec2Target (.malformedJob build.id (.foreignTarget target.name))

/-- A compose violates a condition for a clone on a tenant channel, and this is told of it. -/
inductive Snapshot.Violates (s : Snapshot) (id : Uuid) (channel : String) :
    CloneCondition → ServiceError → Prop
  | missing {other : Uuid} (absent : s.job id = .error (.notFound other)) :
      Violates s id channel .stored (.composeNotFound id)
  | untold {cause : StoreError} (failed : s.job id = .error cause)
      (present : ∀ other, cause ≠ .notFound other) :
      Violates s id channel .stored (.ofStore cause)
  | otherKind {r : JobRecord} (found : s.job id = .ok r) (kind : r.kind ≠ .osbuild) :
      Violates s id channel .isBuild (.invalidJobType id r.kind)
  | misreported {r : JobRecord} {v : Json} (found : s.job id = .ok r) (stored : r.result = some v)
      (undecodable : (decode? v : Option BuildResult) = none) :
      Violates s id channel .reported (.malformedJob id .undecodable)
  /-- The build is read, and is at fault. -/
  | build {build : JobInfo BuildResult} {condition : CloneCondition} {e : ServiceError}
      (read : s.jobInfo id = .ok build) (violated : build.Violates channel condition e) :
      Violates s id channel condition e

/-! ## The image of a build -/

namespace JobInfo

variable {build : JobInfo BuildResult} {channel : String}

/-- What is checked of a build before it is cloned, after some number of conditions. -/
def conditionsFrom (build : JobInfo BuildResult) (channel : String) (n : Nat) :
    Checklist ServiceError :=
  (CloneCondition.all.drop n).map (build.Violates channel)

/-- The arguments of a build are read, and its only target is looked at. -/
theorem enforces_target {look : Target → Except ServiceError CloneSource}
    (rest : ∀ (args : BuildArgs) (target : Target), decode? build.rawArgs = some args →
      args.targets = [target] → Enforces (look target) (build.conditionsFrom channel 10)) :
    Enforces (do
      let args : BuildArgs ← build.args
      match args.targets with
      | [target] => look target
      | targets => throw (.severalUploadTargets build.id targets.length))
      (build.conditionsFrom channel 8) := by
  rw [JobInfo.args, decodeStored]
  cases decoded : (decode? build.rawArgs : Option BuildArgs) with
  | none => exact .fails (.misargued decoded)
  | some args =>
    have argued : ∀ e, ¬build.Violates channel .argued e := by
      rintro e (_ | _)
      next undecodable => cases decoded.symm.trans undecodable
    refine .next argued ?_
    by_cases one_target : args.targets.length = 1
    · obtain ⟨target, only⟩ := List.length_eq_one_iff.1 one_target
      have one : ∀ e, ¬build.Violates channel .oneTarget e := by
        rintro e (_ | _)
        next decoded' several =>
          cases decoded.symm.trans decoded'
          exact several one_target
      dsimp only [bind, Except.bind]
      rw [only]
      exact .next one (rest args target decoded only)
    · dsimp only [bind, Except.bind]
      split
      · next target only => exact absurd (by rw [only]; rfl) one_target
      · exact .fails (.targets decoded one_target)

/-- The image of a build is settled on as the conditions on its results and its targets say. -/
theorem enforces_result {result : TargetResult} (only : build.result.targetResults = [result]) :
    Enforces (do
      match result with
      | .workerServer | .koji .. => throw (.unsupportedCloneTarget result.name)
      | _ => pure ()
      let upload ← (UploadStatus.ofResult result).mapError .unknownUploadTarget
      let args : BuildArgs ← build.args
      match args.targets with
      | [target] =>
        match upload.details, target.options with
        | .aws ami region, .aws _ _ accounts _ => return (⟨ami, region, accounts⟩ : CloneSource)
        | .aws .., _ => throw (.malformedJob build.id (.foreignTarget target.name))
        | _, _ => throw (.unsupportedCloneTarget result.name)
      | targets => throw (.severalUploadTargets build.id targets.length))
      (build.conditionsFrom channel 6) := by
  have movable (moves : result.target? ≠ some .workerServer ∧ result.target? ≠ some .koji) :
      ∀ e, ¬build.Violates channel .movable e := by
    rintro e (_ | _)
    next only' stays =>
      cases only.symm.trans only'
      exact stays.elim moves.1 moves.2
  have known (target : result.target? ≠ none) : ∀ e, ¬build.Violates channel .known e := by
    rintro e (_ | _)
    next only' unknown =>
      cases only.symm.trans only'
      exact target unknown
  have foreign (other : result.target? ≠ some .aws) (rest : Checklist ServiceError) :
      Enforces (.error (.unsupportedCloneTarget result.name) : Except ServiceError CloneSource)
        (build.Violates channel .ec2Result :: rest) :=
    .fails (.foreignResult only other)
  cases result with
  | workerServer => exact .fails (.immovable only (.inl rfl))
  | koji => exact .fails (.immovable only (.inr rfl))
  | unknown name options => exact .next (movable ⟨nofun, nofun⟩) (.fails (.unknown only rfl))
  | aws ami region =>
    refine .next (movable ⟨nofun, nofun⟩) (.next (known nofun) ?_)
    refine enforces_target fun args target decoded targets => ?_
    have ec2 : ∀ e, ¬build.Violates channel .ec2Result e := by
      rintro e (_ | _)
      next only' foreign =>
        cases only.symm.trans only'
        exact foreign rfl
    refine .next ec2 ?_
    cases options : target.options with
    | aws _ _ accounts _ =>
      refine .ok _ (Checklist.holds_cons.2 ⟨?_, Checklist.holds_nil⟩)
      rintro e (_ | _)
      next decoded' only' foreign =>
        cases decoded.symm.trans decoded'
        cases targets.symm.trans only'
        exact foreign (by rw [Target.name, options]; rfl)
    | _ =>
      have foreign : target.name ≠ .aws := by rw [Target.name, options]; nofun
      exact .fails (.foreignTarget decoded targets foreign)
  | _ =>
    refine .next (movable ⟨nofun, nofun⟩) (.next (known nofun) ?_)
    exact enforces_target fun args target decoded targets => foreign nofun _

/-- The image of a build is settled on as the conditions on the build say. -/
theorem enforces_ofBuild (build : JobInfo BuildResult) (channel : String) :
    Enforces (CloneSource.ofBuild build) (build.conditionsFrom channel 4) := by
  rw [CloneSource.ofBuild]
  by_cases fine : build.status.isFinished = true ∧ build.result.success = true
  swap
  · rw [if_pos (by simpa [Classical.or_iff_not_imp_left] using fine)]
    exact .fails (.unsuccessful fine)
  have succeeded : ∀ e, ¬build.Violates channel .succeeded e := by
    rintro e (_ | _)
    next failed => exact failed fine
  rw [if_neg (by simp [fine])]
  refine .next succeeded ?_
  by_cases one_result : build.result.targetResults.length = 1
  · obtain ⟨result, only⟩ := List.length_eq_one_iff.1 one_result
    have one : ∀ e, ¬build.Violates channel .oneResult e := by
      rintro e (_ | _)
      next several => exact several one_result
    rw [only]
    exact .next one (enforces_result only)
  · dsimp only
    split
    · next result only => exact absurd (by rw [only]; rfl) one_result
    · exact .fails (.results one_result)

/-- A build is seen on its tenant channel, and its image is settled on, as the conditions on the
build say. -/
theorem enforces_visible (build : JobInfo BuildResult) (channel : String) :
    Enforces (do
      build.ensureChannel channel
      let source ← CloneSource.ofBuild build
      return (build, source))
      (build.conditionsFrom channel 3) := by
  by_cases visible : channel = "" ∨ channel = build.channel
  · have shown : ∀ e, ¬build.Violates channel .visible e := by
      rintro e (_ | _)
      next given other => exact visible.elim given other
    rw [JobInfo.ensureChannel_ok visible]
    exact .next shown (enforces_ofBuild build channel).map
  · obtain ⟨given, other⟩ := not_or.1 visible
    rw [JobInfo.ensureChannel, if_pos ⟨given, Ne.symm other⟩]
    exact .fails (.hidden given other)

/-- One error is told of a condition that a build violates. -/
theorem Violates.unique {condition : CloneCondition} {e e' : ServiceError}
    (h : build.Violates channel condition e) (h' : build.Violates channel condition e') :
    e = e' := by
  cases h with
  | hidden | unsuccessful | results | misargued =>
    cases h'
    rfl
  | immovable only | unknown only | foreignResult only =>
    cases h'
    next only' _ =>
      cases only.symm.trans only'
      rfl
  | targets decoded =>
    cases h' with
    | targets decoded' =>
      cases decoded.symm.trans decoded'
      rfl
  | foreignTarget decoded only =>
    cases h' with
    | foreignTarget decoded' only' =>
      cases decoded.symm.trans decoded'
      cases only.symm.trans only'
      rfl

end JobInfo

/-! ## The image of a compose -/

namespace Snapshot

variable {s : Snapshot} {id : Uuid} {channel : String}

/-- What is checked of a compose before it is cloned, after some number of conditions. -/
def conditionsFrom (s : Snapshot) (id : Uuid) (channel : String) (n : Nat) :
    Checklist ServiceError :=
  (CloneCondition.all.drop n).map (s.Violates id channel)

/-- What is checked of a compose before it is cloned. -/
def cloneConditions (s : Snapshot) (id : Uuid) (channel : String) : Checklist ServiceError :=
  s.conditionsFrom id channel 0

/-- The checks of a clone: the build and the image that is cloned. -/
def cloneSource (s : Snapshot) (id : Uuid) (channel : String) :
    Except ServiceError (JobInfo BuildResult × CloneSource) := do
  let kind ← s.composeKind id
  if kind ≠ .osbuild then throw (.invalidJobType id kind)
  let build : JobInfo BuildResult ← s.jobInfo id
  build.ensureChannel channel
  let source ← CloneSource.ofBuild build
  return (build, source)

/-- A compose whose build is read violates the conditions that the build does. -/
theorem violates_iff {build : JobInfo BuildResult} (read : s.jobInfo id = .ok build)
    {condition : CloneCondition} {e : ServiceError} :
    s.Violates id channel condition e ↔ build.Violates channel condition e := by
  refine ⟨fun h => ?_, .build read⟩
  obtain ⟨r, found, kind, -⟩ := jobInfo_ok read
  cases h with
  | missing absent => cases found.symm.trans absent
  | untold failed => cases found.symm.trans failed
  | otherKind found' other =>
    cases found.symm.trans found'
    exact absurd kind other
  | misreported found' stored undecodable =>
    cases found.symm.trans found'
    rw [jobInfo_of_job found, JobInfo.ofRecord_of_undecodable id kind stored undecodable] at read
    cases read
  | build read' violated =>
    cases read.symm.trans read'
    exact violated

/-- The conditions on a compose whose build is read are those on the build. -/
theorem conditionsFrom_of_read {build : JobInfo BuildResult} (read : s.jobInfo id = .ok build)
    (n : Nat) : s.conditionsFrom id channel n = build.conditionsFrom channel n :=
  List.map_congr_left fun _ _ => funext fun _ => propext (violates_iff read)

/-- A build is read, and seen on its tenant channel. -/
theorem enforces_build {r : JobRecord} (found : s.job id = .ok r) (kind : r.kind = .osbuild) :
    Enforces (do
      let build : JobInfo BuildResult ← s.jobInfo id
      build.ensureChannel channel
      let source ← CloneSource.ofBuild build
      return (build, source))
      (s.conditionsFrom id channel 2) := by
  rcases ResultOf.reads_or_not BuildResult r.result with ⟨result, reads⟩ | ⟨v, stored, undecodable⟩
  · have read := (jobInfo_of_job found).trans (JobInfo.ofRecord_of_reads id kind reads)
    have reported : ∀ e, ¬s.Violates id channel .reported e := by
      intro e violated
      cases (violates_iff read).1 violated
    refine .next reported ?_
    change Enforces _ (s.conditionsFrom id channel 3)
    rw [read, conditionsFrom_of_read read]
    exact JobInfo.enforces_visible _ channel
  · rw [jobInfo_of_job found, JobInfo.ofRecord_of_undecodable id kind stored undecodable]
    exact .fails (.misreported found stored undecodable)

/-- The checks of a clone succeed if no condition is violated, and fail as the first that is. -/
theorem enforces_cloneSource (s : Snapshot) (id : Uuid) (channel : String) :
    Enforces (s.cloneSource id channel) (s.cloneConditions id channel) := by
  rw [cloneSource]
  cases found : s.job id with
  | error cause =>
    cases cause with
    | notFound other =>
      rw [composeKind_of_missing found]
      exact .fails (.missing found)
    | _ =>
      rw [composeKind, jobKind, found]
      exact .fails (.untold found (by simp))
  | ok r =>
    have stored : ∀ e, ¬s.Violates id channel .stored e := by
      intro e violated
      cases violated with
      | missing absent => cases found.symm.trans absent
      | untold failed => cases found.symm.trans failed
      | build _ violated => cases violated
    rw [composeKind_of_job found]
    refine .next stored ?_
    show Enforces (if r.kind ≠ .osbuild then _ else _) _
    by_cases kind : r.kind = .osbuild
    · have isBuild : ∀ e, ¬s.Violates id channel .isBuild e := by
        intro e violated
        cases violated with
        | otherKind found' other =>
          cases found.symm.trans found'
          exact other kind
        | build _ violated => cases violated
      rw [if_neg (not_not_intro kind)]
      exact .next isBuild (enforces_build found kind)
    · rw [if_pos kind]
      exact .fails (.otherKind found kind)

/-- One error is told of a condition that is violated. -/
theorem Violates.unique {condition : CloneCondition} {e e' : ServiceError}
    (h : s.Violates id channel condition e) (h' : s.Violates id channel condition e') : e = e' := by
  cases h with
  | missing absent =>
    cases h' with
    | missing => rfl
    | untold failed present =>
      cases absent.symm.trans failed
      exact absurd rfl (present _)
    | build _ violated => cases violated
  | untold failed present =>
    cases h' with
    | missing absent =>
      cases absent.symm.trans failed
      exact absurd rfl (present _)
    | untold failed' =>
      cases failed.symm.trans failed'
      rfl
    | build _ violated => cases violated
  | otherKind found =>
    cases h' with
    | otherKind found' =>
      cases found.symm.trans found'
      rfl
    | build _ violated => cases violated
  | misreported =>
    cases h' with
    | misreported => rfl
    | build _ violated => cases violated
  | build read violated => exact violated.unique ((violates_iff read).1 h')

/-- A clone that fails its checks is told of the first condition that is violated. -/
theorem cloneSource_eq_error {e : ServiceError} :
    s.cloneSource id channel = .error e ↔ (s.cloneConditions id channel).Breaks e := by
  refine ⟨(s.enforces_cloneSource id channel).breaks e, fun broken => ?_⟩
  refine (s.enforces_cloneSource id channel).of_breaks broken fun rule member e e' h h' => ?_
  obtain ⟨condition, -, rfl⟩ := List.mem_map.1 member
  exact Violates.unique h h'

/-- A clone that passes its checks is one of a build that delivered its image. -/
theorem cloneSource_ok {build : JobInfo BuildResult} {source : CloneSource}
    (h : s.cloneSource id channel = .ok (build, source)) :
    ∃ r, s.job id = .ok r ∧ (r.shown id).Delivers source ∧ build.id = id ∧
      build.dependents = r.dependents := by
  obtain ⟨kind, -, h⟩ := Except.bind_ok h
  split at h
  · cases h
  obtain ⟨build', read, h⟩ := Except.bind_ok h
  obtain ⟨_, -, h⟩ := Except.bind_ok h
  obtain ⟨source', settled, h⟩ := Except.bind_ok h
  cases h
  obtain ⟨r, found, is_build, result, rfl⟩ := jobInfo_ok read
  have reads : ResultOf.Reads r.result result :=
    JobInfo.reads_of_ofRecord ((jobInfo_of_job found).symm.trans read)
  exact ⟨r, found, StoredJob.delivers_of_ofBuild (j := r.shown id) is_build reads settled, rfl, rfl⟩

end Snapshot

/-! ## What a clone does once it is checked -/

variable {σ : Type} (backend : Backend σ) (t : σ)

namespace CloneCall

variable (c : CloneCall) (build : JobInfo BuildResult) (source : CloneSource)

/-- The job that has the image in the region that is asked for. -/
def settle : Action Uuid :=
  if c.request.region ≠ source.region then
    copyInto build source c.request.region c.fresh.copy c.channel
  else pure c.build

/-- The image is shared if there is anybody to share it with. -/
def share (image : Uuid) : Action CloneId := do
  let last ← if (c.accounts source).isEmpty then pure image
    else Action.enqueue (.share (c.shareArgs source)) [image] c.channel
  return c.answer last

/-- A clone is checked first, then the image is settled on, and then it is shared. -/
theorem run_action : c.action.run backend t =
    (Action.of ((backend.snapshot t).cloneSource c.build c.channel) >>= fun (build, source) =>
      c.settle build source >>= c.share source).run backend t := by
  rw [action, cloneCompose, Snapshot.cloneSource, Action.run_composeKind_bind]
  cases (backend.snapshot t).composeKind c.build with
  | error e => rfl
  | ok kind =>
    rw [Action.run_of_ok_bind]
    by_cases other : kind = .osbuild
    swap
    · rw [if_pos other]
      show _ = (Action.of (if kind ≠ .osbuild then _ else _) >>= _).run backend t
      rw [if_pos other]
      rfl
    show _ = (Action.of (if kind ≠ .osbuild then _ else _) >>= _).run backend t
    rw [if_neg (not_not_intro other), if_neg (not_not_intro other)]
    rw [Action.run_jobInfo_bind]
    cases ((backend.snapshot t).jobInfo c.build : Except ServiceError (JobInfo BuildResult)) with
    | error e => rfl
    | ok build =>
      show (Action.of (build.ensureChannel c.channel) >>= fun _ =>
        Action.of (CloneSource.ofBuild build) >>= _).run backend t =
        (Action.of (build.ensureChannel c.channel >>= fun _ => CloneSource.ofBuild build >>=
          fun source => .ok (build, source)) >>= _).run backend t
      cases build.ensureChannel c.channel with
      | error e => rfl
      | ok _ =>
        rw [Action.run_of_ok_bind]
        show _ = (Action.of (CloneSource.ofBuild build >>= _) >>= _).run backend t
        cases CloneSource.ofBuild build with
        | error e => rfl
        | ok source =>
          show _ = (c.settle build source >>= c.share source).run backend t
          rw [Action.run_of_ok_bind, settle]
          show (if c.request.region ≠ source.region then
              copyInto build source c.request.region c.fresh.copy c.channel >>= c.share source
            else pure c.build >>= c.share source).run backend t = _
          by_cases moves : c.request.region ≠ source.region
          · rw [if_pos moves, if_pos moves]
          · rw [if_neg moves, if_neg moves]

/-- A copy is found in what the store shows, or submitted. -/
theorem run_copyInto (region : String) (name : Uuid) (channel : String) :
    (copyInto build source region name channel).run backend t =
      (Action.of ((backend.snapshot t).findCopy region build.dependents) >>= fun
        | some copy => pure copy
        | none => Action.enqueue (.copy ⟨source.ami, source.region, region, storageName name⟩)
            [build.id] channel).run backend t := by
  have searched := run_findCopy backend t region build.dependents
  cases found : (backend.snapshot t).findCopy region build.dependents with
  | error e =>
    rw [found] at searched
    rw [copyInto, Action.run_bind_of_error _ searched, Action.run_of_error_bind]
  | ok copy =>
    rw [found] at searched
    rw [copyInto, Action.run_bind_of_ok _ searched]
    cases copy <;> exact (Action.run_of_ok_bind ..).symm

end CloneCall

variable {backend t} {e : ServiceError} {t' : σ}

/-- A submission that fails is refused. -/
theorem Action.run_enqueue_error {args : JobArgs} {dependencies : List Uuid} {channel : String}
    (h : (Action.enqueue args dependencies channel).run backend t = (.error e, t')) :
    ∃ cause, e = .enqueue args.kind cause := by
  have told : (backend.enqueue ⟨args.kind, args.toJson, dependencies, channel⟩ t).1.mapError
      (.enqueue args.kind) = (.error e : Except ServiceError Uuid) := congrArg Prod.fst h
  cases answer : (backend.enqueue ⟨args.kind, args.toJson, dependencies, channel⟩ t).1 with
  | ok id =>
    rw [answer] at told
    cases told
  | error cause =>
    rw [answer] at told
    cases told
    exact ⟨cause, rfl⟩

/-- How a clone can fail that passed its checks: in the search for a copy in another region, at a
job that cannot be read and has no live copy before it, or with a submission that is refused. -/
inductive CloneCall.Stops (c : CloneCall) (s : Snapshot) (source : CloneSource)
    (dependents : List Uuid) : ServiceError → Prop
  | unreadable {before after : List Uuid} {d : Uuid} {e : ServiceError}
      (moves : c.request.region ≠ source.region) (waits : dependents = before ++ d :: after)
      (dead : ∀ x ∈ before, ¬s.LiveCopy c.request.region x) (why : s.Unreadable d e) :
      Stops c s source dependents e
  | refused (kind : JobKind) (cause : StoreError) :
      Stops c s source dependents (.enqueue kind cause)

namespace CloneCall

variable {c : CloneCall} {build : JobInfo BuildResult} {source : CloneSource}

/-- If the image cannot be brought into the region, a job that waits for the build is unreadable, or
the copy is refused. -/
theorem settle_error (h : (c.settle build source).run backend t = (.error e, t')) :
    c.Stops (backend.snapshot t) source build.dependents e := by
  rw [settle] at h
  split at h
  · next moves =>
    rw [run_copyInto] at h
    cases found : (backend.snapshot t).findCopy c.request.region build.dependents with
    | error e' =>
      rw [found] at h
      cases h
      obtain ⟨before, d, after, waits, dead, why⟩ := Snapshot.findCopy_error found
      exact .unreadable moves waits dead why
    | ok copy =>
      rw [found, Action.run_of_ok_bind] at h
      cases copy with
      | some k => cases h
      | none =>
        obtain ⟨cause, rfl⟩ := Action.run_enqueue_error h
        exact .refused _ cause
  · cases h

/-- A share fails only if its job is refused. -/
theorem share_error {image : Uuid} (h : (c.share source image).run backend t = (.error e, t')) :
    ∃ kind cause, e = .enqueue kind cause := by
  rw [share] at h
  split at h
  · cases h
  · rw [Action.run_bind] at h
    split at h
    · cases h
    · next refused =>
      cases h
      obtain ⟨cause, rfl⟩ := Action.run_enqueue_error refused
      exact ⟨_, cause, rfl⟩

end CloneCall

/-- A clone is refused with the error of the first condition that is violated, whatever it asks for
beyond the compose and the tenant channel. If none is violated, the compose is a build that
delivered its image, and only the search for a copy in another region or a submission can fail. -/
theorem cloneCompose_refused (backend : Backend σ) (t : σ) (id : Uuid) (channel : String) :
    let s := backend.snapshot t
    (∀ e, (s.cloneConditions id channel).Breaks e → ∀ request fresh,
      (cloneCompose id request fresh channel).run backend t = (.error e, t)) ∧
    ((s.cloneConditions id channel).Holds → ∃ r source, s.job id = .ok r ∧
      (r.shown id).Delivers source ∧ ∀ request fresh e t',
        (cloneCompose id request fresh channel).run backend t = (.error e, t') →
          CloneCall.Stops ⟨id, request, fresh, channel⟩ s source r.dependents e) := by
  intro s
  refine ⟨fun e broken request fresh => ?_, fun all => ?_⟩
  · have failed : s.cloneSource id channel = .error e := Snapshot.cloneSource_eq_error.2 broken
    have run := CloneCall.run_action backend t ⟨id, request, fresh, channel⟩
    rw [failed] at run
    exact run
  · obtain ⟨⟨build, source⟩, passed⟩ := (s.enforces_cloneSource id channel).ok_iff.2 all
    obtain ⟨r, found, delivers, -, waits⟩ := Snapshot.cloneSource_ok passed
    refine ⟨r, source, found, delivers, fun request fresh e t' h => ?_⟩
    let c : CloneCall := ⟨id, request, fresh, channel⟩
    have run := CloneCall.run_action backend t c
    rw [passed, Action.run_of_ok_bind] at run
    replace h : (c.settle build source >>= c.share source).run backend t = (.error e, t') :=
      run.symm.trans h
    rw [Action.run_bind] at h
    split at h
    · obtain ⟨kind, cause, rfl⟩ := CloneCall.share_error h
      exact .refused kind cause
    · next settled =>
      cases h
      exact waits ▸ CloneCall.settle_error settled

/-- A build that has not finished is on another tenant channel: that is what is told, as it is
checked first. -/
theorem cloneCompose_refused_ec2Store :
    let s := Store.ec2Store.snapshot
    s.Violates Store.ec2Build "other" .succeeded (.composeBadState Store.ec2Build) ∧
      (s.cloneConditions Store.ec2Build "other").Breaks (.composeNotFound Store.ec2Build) ∧
      ∀ request fresh, (cloneCompose Store.ec2Build request fresh "other").run
        (Store.backend (Fresh.jobIds 0) (.ofSeconds 0)) Store.ec2Store =
          (.error (.composeNotFound Store.ec2Build), Store.ec2Store) := by
  intro s
  obtain ⟨build, read, own, unfinished⟩ : ∃ build : JobInfo BuildResult,
      s.jobInfo Store.ec2Build = .ok build ∧ build.id = Store.ec2Build ∧
        build.status.isFinished = false := ⟨_, rfl, rfl, rfl⟩
  have unsuccessful : s.Violates Store.ec2Build "other" .succeeded (.composeBadState build.id) :=
    .build read (.unsuccessful (by simp [unfinished]))
  have told : s.cloneSource Store.ec2Build "other" = .error (.composeNotFound Store.ec2Build) := rfl
  have broken := Snapshot.cloneSource_eq_error.1 told
  refine ⟨own ▸ unsuccessful, broken, ?_⟩
  exact (cloneCompose_refused (Store.backend (Fresh.jobIds 0) (.ofSeconds 0)) Store.ec2Store
    Store.ec2Build "other").1 _ broken

end ImageCompose
