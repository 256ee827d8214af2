import ImageCompose.Proofs.Service.Reads
import ImageCompose.Service.Metadata
import ImageCompose.Store.Memory

/-!
# What the metadata of a compose tells

The metadata of a build that finished well is read from two stages of each payload pipeline. If none
of them is malformed, it lists the packages of these pipelines in order and the commit of the last
pipeline that made one (`BuildOutput.LastCommit`); otherwise the first malformed pipeline is told.
Nothing else in the output matters, however malformed (`Snapshot.composeMetadata_of_build`).
-/

namespace ImageCompose

/-! ## Stages -/

namespace BuildOutput

/-- The metadata of a stage of a pipeline. -/
def stage? (o : BuildOutput) (pipeline stage : String) : Option Json :=
  (o.metadata.lookup pipeline).bind fun stages => stages.lookup stage

/-- A pipeline has metadata of an understood stage that does not decode. -/
def Malformed (o : BuildOutput) (pipeline : String) : Prop :=
  (∃ v, o.stage? pipeline rpmStage = some v ∧ (decode? v : Option RpmStage) = none) ∨
    ∃ v, o.stage? pipeline ostreeCommitStage = some v ∧
      (decode? v : Option OstreeCommitStage) = none

/-- The packages that a pipeline installed. -/
def installed (o : BuildOutput) (pipeline : String) : List RpmPackage :=
  match (o.stage? pipeline rpmStage).bind decode? with
  | some (stage : RpmStage) => stage.packages
  | none => []

/-- The commit that a pipeline made. -/
def commit? (o : BuildOutput) (pipeline : String) : Option String :=
  match (o.stage? pipeline ostreeCommitStage).bind decode? with
  | some (stage : OstreeCommitStage) => some stage.compose.ostreeCommit
  | none => none

/-- The commit of the last of some pipelines that has a commit stage. -/
inductive LastCommit (o : BuildOutput) : List String → Option String → Prop
  | none {pipelines : List String}
      (nowhere : ∀ p ∈ pipelines, o.stage? p ostreeCommitStage = none) : LastCommit o pipelines none
  | last (before : List String) {after : List String} {pipeline : String} {v : Json}
      {stage : OstreeCommitStage} (there : o.stage? pipeline ostreeCommitStage = some v)
      (decoded : decode? v = some stage)
      (later : ∀ p ∈ after, o.stage? p ostreeCommitStage = none) :
      LastCommit o (before ++ pipeline :: after) (some stage.compose.ostreeCommit)

end BuildOutput

/-- A package is listed with its first signature that is not empty. -/
structure RpmPackage.ListedAs (p : RpmPackage) (m : PackageMetadata) : Prop where
  type : m.packageType = "rpm"
  name : m.name = p.name
  version : m.version = p.version
  release : m.release = p.release
  epoch : m.epoch = p.epoch
  arch : m.arch = p.arch
  sigmd5 : m.sigmd5 = p.sigmd5
  pgp : p.sigpgp ≠ "" → m.signature = some p.sigpgp
  gpg : p.sigpgp = "" → p.siggpg ≠ "" → m.signature = some p.siggpg
  unsigned : p.sigpgp = "" → p.siggpg = "" → m.signature = none

/-- Every package is listed so. -/
theorem RpmPackage.listedAs_ofRpm (p : RpmPackage) : p.ListedAs (.ofRpm p) where
  type := rfl
  name := rfl
  version := rfl
  release := rfl
  epoch := rfl
  arch := rfl
  sigmd5 := rfl
  pgp signed := if_pos signed
  gpg unsigned signed := (if_neg (not_not_intro unsigned)).trans (if_pos signed)
  unsigned unsigned unsigned' :=
    (if_neg (not_not_intro unsigned)).trans (if_neg (not_not_intro unsigned'))

/-! ## Stages that are read -/

/-- The metadata of an understood stage, if it is there, or what is told if it does not decode. -/
def readStage {α : Type} [Wire α] (make : α → StageMetadata) (told : ServiceError)
    (metadata : Option Json) : Except ServiceError (List StageMetadata) :=
  match metadata with
  | none => .ok []
  | some v =>
    match (decode? v : Option α) with
    | some a => .ok [make a]
    | none => .error told

/-- The understood stages of a pipeline. -/
def pipelineStages (id : Uuid) (o : BuildOutput) (pipeline : String) :
    Except ServiceError (List StageMetadata) :=
  (o.stageMetadata pipeline).mapM fun stage =>
    stage.mapError fun _ => ServiceError.malformedJob id (.stageMetadata pipeline)

/-- The stages of the payload are those of its pipelines, one pipeline after the other. -/
theorem payloadStages_eq (id : Uuid) (o : BuildOutput) (pipelines : List String) :
    payloadStages id o pipelines = (pipelines.mapM (pipelineStages id o) >>= fun stages =>
      .ok stages.flatten) := rfl

/-- The metadata of a stage is read as that of a list of at most one stage. -/
theorem readStage_eq {α : Type} [Wire α] (make : α → StageMetadata) (told : ServiceError)
    (metadata : Option Json) : readStage make told metadata =
      (metadata.map fun v =>
        Decoder.settled (fun d => make <$> (Wire.decoder d : Except Fault α)) v.doc).toList.mapM
          fun stage => stage.mapError fun _ => told := by
  cases metadata with
  | none => rfl
  | some v =>
    rw [readStage, decode?, Decoder.ofJson?, Option.map_some, Decoder.settled]
    cases (Wire.decoder v.doc : Except Fault α) <;> rfl

/-- The understood stages of a pipeline are those of two names. -/
theorem BuildOutput.stageMetadata_eq (o : BuildOutput) (pipeline : String) :
    o.stageMetadata pipeline =
      ((o.stage? pipeline ostreeCommitStage).map fun v => Decoder.settled
        (fun d => StageMetadata.ostreeCommit <$> Wire.decoder d) v.doc).toList ++
      ((o.stage? pipeline rpmStage).map fun v => Decoder.settled
        (fun d => StageMetadata.rpm <$> Wire.decoder d) v.doc).toList := by
  rw [stageMetadata, stage?, stage?]
  cases o.metadata.lookup pipeline with
  | none => rfl
  | some stages =>
    simp only [StageMetadata.decoders, List.filterMap_cons, List.filterMap_nil, Option.bind_some]
    cases stages.lookup ostreeCommitStage <;> cases stages.lookup rpmStage <;> rfl

/-- The stages of a pipeline are read from the metadata of the two that are understood. -/
theorem pipelineStages_eq (id : Uuid) (o : BuildOutput) (pipeline : String) :
    pipelineStages id o pipeline =
      (readStage StageMetadata.ostreeCommit (.malformedJob id (.stageMetadata pipeline))
        (o.stage? pipeline ostreeCommitStage) >>= fun first =>
      readStage StageMetadata.rpm (.malformedJob id (.stageMetadata pipeline))
        (o.stage? pipeline rpmStage) >>= fun second => .ok (first ++ second)) := by
  rw [pipelineStages, BuildOutput.stageMetadata_eq, List.mapM_append, readStage_eq, readStage_eq]
  rfl

/-- A stage that is there and does not decode is told. -/
theorem readStage_of_undecodable {α : Type} [Wire α] {make : α → StageMetadata}
    {told : ServiceError} {v : Json} (undecodable : (decode? v : Option α) = none) :
    readStage make told (some v) = .error told := by
  simp only [readStage, undecodable]

/-- A stage that decodes is read, and one that is not there gives nothing. -/
theorem readStage_of_decodable {α : Type} [Wire α] {make : α → StageMetadata}
    {told : ServiceError} {metadata : Option Json}
    (decodable : ∀ v, metadata = some v → (decode? v : Option α) ≠ none) :
    readStage make told metadata = .ok ((metadata.bind decode?).toList.map make) := by
  cases metadata with
  | none => rfl
  | some v =>
    cases decoded : (decode? v : Option α) with
    | none => exact absurd decoded (decodable v rfl)
    | some a =>
      simp only [readStage, decoded, Option.bind_some]
      rfl

/-- A malformed pipeline is told. -/
theorem pipelineStages_of_malformed (id : Uuid) {o : BuildOutput} {pipeline : String}
    (malformed : o.Malformed pipeline) :
    pipelineStages id o pipeline = .error (.malformedJob id (.stageMetadata pipeline)) := by
  rw [pipelineStages_eq]
  by_cases decodable : ∀ v, o.stage? pipeline ostreeCommitStage = some v →
      (decode? v : Option OstreeCommitStage) ≠ none
  · rcases malformed with ⟨v, there, undecodable⟩ | ⟨v, there, undecodable⟩
    · rw [readStage_of_decodable decodable, there, readStage_of_undecodable undecodable]
      rfl
    · exact absurd undecodable (decodable v there)
  · simp only [not_forall, not_not] at decodable
    obtain ⟨v, there, undecodable⟩ := decodable
    rw [there, readStage_of_undecodable undecodable]
    rfl

/-- What is read of a pipeline that is not malformed. -/
theorem pipelineStages_of_fine (id : Uuid) {o : BuildOutput} {pipeline : String}
    (fine : ¬o.Malformed pipeline) : ∃ stages, pipelineStages id o pipeline = .ok stages ∧
      stages.flatMap (·.packages) = (o.installed pipeline).map .ofRpm ∧
      stages.filterMap (·.commit?) = (o.commit? pipeline).toList := by
  have commit_decodes : ∀ v, o.stage? pipeline ostreeCommitStage = some v →
      (decode? v : Option OstreeCommitStage) ≠ none :=
    fun v there undecodable => fine (.inr ⟨v, there, undecodable⟩)
  have rpm_decodes : ∀ v, o.stage? pipeline rpmStage = some v →
      (decode? v : Option RpmStage) ≠ none :=
    fun v there undecodable => fine (.inl ⟨v, there, undecodable⟩)
  rw [pipelineStages_eq, readStage_of_decodable commit_decodes, readStage_of_decodable rpm_decodes,
    BuildOutput.installed, BuildOutput.commit?]
  refine ⟨_, rfl, ?_, ?_⟩
  · cases ((o.stage? pipeline ostreeCommitStage).bind decode? : Option OstreeCommitStage) <;>
      cases ((o.stage? pipeline rpmStage).bind decode? : Option RpmStage) <;>
        simp [StageMetadata.packages]
  · cases ((o.stage? pipeline ostreeCommitStage).bind decode? : Option OstreeCommitStage) <;>
      cases ((o.stage? pipeline rpmStage).bind decode? : Option RpmStage) <;>
        simp [StageMetadata.commit?]

/-- The stages of pipelines are read one pipeline after the other. -/
theorem payloadStages_cons (id : Uuid) (o : BuildOutput) (pipeline : String)
    (rest : List String) : payloadStages id o (pipeline :: rest) =
      (pipelineStages id o pipeline >>= fun first => payloadStages id o rest >>= fun later =>
        .ok (first ++ later)) := by
  rw [payloadStages_eq, payloadStages_eq, List.mapM_cons]
  cases pipelineStages id o pipeline with
  | error e => rfl
  | ok first => cases rest.mapM (pipelineStages id o) <;> rfl

/-- What is read of pipelines that are not malformed. -/
theorem payloadStages_of_fine (id : Uuid) {o : BuildOutput} {pipelines : List String}
    (fine : ∀ p ∈ pipelines, ¬o.Malformed p) : ∃ stages, payloadStages id o pipelines = .ok stages ∧
      stages.flatMap (·.packages) = (pipelines.flatMap o.installed).map .ofRpm ∧
      stages.filterMap (·.commit?) = pipelines.filterMap o.commit? := by
  induction pipelines with
  | nil => exact ⟨[], rfl, rfl, rfl⟩
  | cons pipeline rest ih =>
    obtain ⟨first_fine, rest_fine⟩ := List.forall_mem_cons.1 fine
    obtain ⟨first, told, packages, commits⟩ := pipelineStages_of_fine id first_fine
    obtain ⟨later, told', packages', commits'⟩ := ih rest_fine
    refine ⟨first ++ later, ?_, ?_, ?_⟩
    · rw [payloadStages_cons, told, told']
      rfl
    · rw [List.flatMap_append, packages, packages', List.flatMap_cons, List.map_append]
    · rw [List.filterMap_append, commits, commits', List.filterMap_cons]
      cases o.commit? pipeline <;> rfl

/-- The first malformed pipeline is told. -/
theorem payloadStages_of_malformed (id : Uuid) {o : BuildOutput} {before after : List String}
    {pipeline : String} (fine : ∀ p ∈ before, ¬o.Malformed p) (malformed : o.Malformed pipeline) :
    payloadStages id o (before ++ pipeline :: after) =
      .error (.malformedJob id (.stageMetadata pipeline)) := by
  have succeed : ∀ p ∈ before, ∃ stages, pipelineStages id o p = .ok stages := by
    intro p member
    obtain ⟨stages, told, -⟩ := pipelineStages_of_fine id (fine p member)
    exact ⟨stages, told⟩
  have failed := pipelineStages_of_malformed id malformed
  rw [payloadStages_eq, Except.mapM_eq_error.2 ⟨before, pipeline, after, rfl, succeed, failed⟩]
  rfl

/-- A pipeline that is not malformed has no commit stage or makes a commit. -/
theorem BuildOutput.commit?_cases {o : BuildOutput} {pipeline : String}
    (fine : ¬o.Malformed pipeline) :
    o.stage? pipeline ostreeCommitStage = none ∧ o.commit? pipeline = none ∨
      ∃ v, o.stage? pipeline ostreeCommitStage = some v ∧ ∃ stage : OstreeCommitStage,
        decode? v = some stage ∧ o.commit? pipeline = some stage.compose.ostreeCommit := by
  rw [commit?]
  cases there : o.stage? pipeline ostreeCommitStage with
  | none => exact .inl ⟨rfl, rfl⟩
  | some v =>
    cases decoded : (decode? v : Option OstreeCommitStage) with
    | none => exact absurd (.inr ⟨v, there, decoded⟩) fine
    | some stage =>
      refine .inr ⟨v, rfl, stage, decoded, ?_⟩
      rw [Option.bind_some, decoded]

/-- The last commit that is read is that of the last pipeline with a commit stage. -/
theorem BuildOutput.lastCommit_getLast? {o : BuildOutput} {pipelines : List String}
    (fine : ∀ p ∈ pipelines, ¬o.Malformed p) :
    o.LastCommit pipelines (pipelines.filterMap o.commit?).getLast? := by
  induction pipelines with
  | nil => exact .none nofun
  | cons pipeline rest ih =>
    obtain ⟨first_fine, rest_fine⟩ := List.forall_mem_cons.1 fine
    replace ih := ih rest_fine
    generalize last : (rest.filterMap o.commit?).getLast? = commit at ih
    rcases commit?_cases first_fine with ⟨absent, silent⟩ | ⟨v, there, stage, decoded, told⟩
    · rw [List.filterMap_cons_none silent, last]
      cases ih with
      | none nowhere => exact .none (List.forall_mem_cons.2 ⟨absent, nowhere⟩)
      | last before there decoded later => exact .last (pipeline :: before) there decoded later
    · rw [List.filterMap_cons_some told, List.getLast?_cons, last]
      cases ih with
      | none nowhere => exact .last [] there decoded nowhere
      | last before there decoded later => exact .last (pipeline :: before) there decoded later

/-! ## The metadata of a build -/

/-- A build finished and succeeded, and was not canceled. -/
structure JobInfo.DoneWell (build : JobInfo BuildResult) : Prop where
  finished : build.status.isFinished = true
  kept : build.status.canceled = false
  success : build.result.success = true

/-- The metadata of a compose whose payload pipelines ran some stages. -/
def ComposeMetadata.ofStages (id : Uuid) (stages : List StageMetadata) : ComposeMetadata where
  reference := .at_ s!"/composes/{id}/metadata" id "ComposeMetadata"
  packages := some (stages.flatMap (·.packages))
  ostreeCommit := (stages.filterMap (·.commit?)).getLast?

/-- What is told of an output as the metadata of a compose, given its payload pipelines. -/
inductive BuildOutput.Tells (o : BuildOutput) (id : Uuid) (pipelines : List String) :
    Except ServiceError ComposeMetadata → Prop
  /-- The first malformed pipeline. -/
  | malformed {before after : List String} {pipeline : String}
      (named : pipelines = before ++ pipeline :: after) (fine : ∀ p ∈ before, ¬o.Malformed p)
      (malformed : o.Malformed pipeline) :
      Tells o id pipelines (.error (.malformedJob id (.stageMetadata pipeline)))
  /-- The packages of all pipelines in order, and the last commit. -/
  | listed {m : ComposeMetadata} {packages : List PackageMetadata}
      (fine : ∀ p ∈ pipelines, ¬o.Malformed p) (listed : m.packages = some packages)
      (each : List.Forall₂ RpmPackage.ListedAs (pipelines.flatMap o.installed) packages)
      (commit : o.LastCommit pipelines m.ostreeCommit) : Tells o id pipelines (.ok m)

/-- Two outputs have the same metadata of the stages of some pipelines that are understood. -/
structure BuildOutput.SameStages (o o' : BuildOutput) (pipelines : List String) : Prop where
  rpm : ∀ p ∈ pipelines, o.stage? p rpmStage = o'.stage? p rpmStage
  ostreeCommit : ∀ p ∈ pipelines, o.stage? p ostreeCommitStage = o'.stage? p ostreeCommitStage

/-- What is read of the stages does not depend on others. -/
theorem BuildOutput.SameStages.payloadStages {o o' : BuildOutput} {pipelines : List String}
    (same : o.SameStages o' pipelines) (id : Uuid) :
    payloadStages id o pipelines = payloadStages id o' pipelines := by
  have each : ∀ p ∈ pipelines, pipelineStages id o p = pipelineStages id o' p := by
    intro p member
    rw [pipelineStages_eq, pipelineStages_eq, same.rpm p member, same.ostreeCommit p member]
  rw [payloadStages_eq, payloadStages_eq, Except.mapM_congr each]

namespace Snapshot

variable {s : Snapshot} {id : Uuid} {channel : String} {build : JobInfo BuildResult}
  {args : BuildArgs}

/-- The metadata of a build that the request may see is told from its status and its output. -/
theorem composeMetadata_eq (read : s.jobInfo id = .ok build)
    (decoded : decode? build.rawArgs = some args)
    (visible : channel = "" ∨ channel = build.channel) :
    s.composeMetadata id channel =
      if !build.status.isFinished || build.status.canceled || !build.result.success then
        .ok { reference := .at_ s!"/composes/{id}/metadata" id "ComposeMetadata" }
      else
        match build.result.osbuildOutput.filter fun output => !output.log.isEmpty with
        | none => .error (.missingBuildOutput id)
        | some output =>
          payloadStages id output args.pipelineNames.payload >>= fun stages =>
            .ok (.ofStages id stages) := by
  obtain ⟨r, found, kind, -⟩ := jobInfo_ok read
  rw [composeMetadata, composeKind_of_job found, kind, read]
  change (build.ensureChannel channel >>= fun _ => (build.args : Except _ BuildArgs) >>= _) = _
  rw [JobInfo.ensureChannel_ok visible, JobInfo.args_of_decode? decoded]
  change (if _ then _ else _) = _
  refine if_congr Iff.rfl rfl ?_
  cases build.result.osbuildOutput.filter fun output => !output.log.isEmpty <;> rfl

/-- A build that did not finish well has no metadata. -/
theorem composeMetadata_of_not_doneWell (read : s.jobInfo id = .ok build)
    (decoded : decode? build.rawArgs = some args)
    (visible : channel = "" ∨ channel = build.channel) (other : ¬build.DoneWell) :
    ∃ m, s.composeMetadata id channel = .ok m ∧ m.packages = none ∧ m.ostreeCommit = none := by
  rw [composeMetadata_eq read decoded visible, if_pos]
  · exact ⟨_, rfl, rfl, rfl⟩
  · by_contra unfit
    simp only [Bool.or_eq_true, Bool.not_eq_true', not_or, Bool.not_eq_false,
      Bool.not_eq_true] at unfit
    exact other ⟨unfit.1.1, unfit.1.2, unfit.2⟩

/-- The metadata of a build that finished well is told from its output. -/
theorem composeMetadata_of_doneWell (read : s.jobInfo id = .ok build)
    (decoded : decode? build.rawArgs = some args)
    (visible : channel = "" ∨ channel = build.channel) (done : build.DoneWell) :
    s.composeMetadata id channel =
      match build.result.osbuildOutput.filter fun output => !output.log.isEmpty with
      | none => .error (.missingBuildOutput id)
      | some output =>
        payloadStages id output args.pipelineNames.payload >>= fun stages =>
          .ok (.ofStages id stages) := by
  rw [composeMetadata_eq read decoded visible]
  exact if_neg (by simp [done.finished, done.kept, done.success])

/-- The metadata of a build that finished well is told from its output, if that has a log. -/
theorem composeMetadata_of_output {o : BuildOutput} (read : s.jobInfo id = .ok build)
    (decoded : decode? build.rawArgs = some args)
    (visible : channel = "" ∨ channel = build.channel) (done : build.DoneWell)
    (output : build.result.osbuildOutput = some o) (log : o.log ≠ []) :
    s.composeMetadata id channel =
      (payloadStages id o args.pipelineNames.payload >>= fun stages =>
        .ok (.ofStages id stages)) := by
  have logged : (some o).filter (fun output => !output.log.isEmpty) = some o :=
    Option.filter_some_pos (by simpa using log)
  rw [composeMetadata_of_doneWell read decoded visible done, output, logged]

/-- What is read of the stages of the payload pipelines is told. -/
theorem tells_payloadStages (id : Uuid) (o : BuildOutput) (pipelines : List String) :
    o.Tells id pipelines (payloadStages id o pipelines >>= fun stages =>
      .ok (.ofStages id stages)) := by
  classical
  cases first : pipelines.find? fun p => decide (o.Malformed p) with
  | some p =>
    obtain ⟨malformed, before, after, rfl, fine⟩ := List.find?_eq_some_iff_append.1 first
    simp only [decide_eq_true_eq, Bool.not_eq_true', decide_eq_false_iff_not] at malformed fine
    rw [payloadStages_of_malformed id fine malformed]
    exact .malformed rfl fine malformed
  | none =>
    have fine : ∀ p ∈ pipelines, ¬o.Malformed p := by
      simpa only [decide_eq_true_eq] using List.find?_eq_none.1 first
    obtain ⟨stages, told, packages, commits⟩ := payloadStages_of_fine id fine
    rw [told]
    refine .listed fine rfl ?_ ?_
    · rw [packages, List.forall₂_map_right_iff]
      exact List.forall₂_same.2 fun p _ => p.listedAs_ofRpm
    · change o.LastCommit pipelines (stages.filterMap (·.commit?)).getLast?
      rw [commits]
      exact BuildOutput.lastCommit_getLast? fine

/-- The metadata of a build that the request may see. A build that did not finish well has none, and
one that has no output or no log is told. Otherwise the output tells it by the stages of the payload
pipelines that are understood, and on these alone it depends. -/
theorem composeMetadata_of_build (read : s.jobInfo id = .ok build)
    (decoded : decode? build.rawArgs = some args)
    (visible : channel = "" ∨ channel = build.channel) :
    (¬build.DoneWell →
      ∃ m, s.composeMetadata id channel = .ok m ∧ m.packages = none ∧ m.ostreeCommit = none) ∧
    (build.DoneWell → (∀ o, build.result.osbuildOutput = some o → o.log = []) →
      s.composeMetadata id channel = .error (.missingBuildOutput id)) ∧
    (build.DoneWell → ∀ o, build.result.osbuildOutput = some o → o.log ≠ [] →
      o.Tells id args.pipelineNames.payload (s.composeMetadata id channel) ∧
      ∀ (s' : Snapshot) (build' : JobInfo BuildResult) (o' : BuildOutput),
        s'.jobInfo id = .ok build' → decode? build'.rawArgs = some args →
        (channel = "" ∨ channel = build'.channel) → build'.DoneWell →
        build'.result.osbuildOutput = some o' → o'.log ≠ [] →
        o.SameStages o' args.pipelineNames.payload →
        s.composeMetadata id channel = s'.composeMetadata id channel) := by
  refine ⟨composeMetadata_of_not_doneWell read decoded visible, fun done silent => ?_,
    fun done o output log => ⟨?_, ?_⟩⟩
  · have absent : build.result.osbuildOutput.filter (fun o => !o.log.isEmpty) = none := by
      rw [Option.filter_eq_none_iff]
      intro o output
      simp [silent o output]
    rw [composeMetadata_of_doneWell read decoded visible done, absent]
  · rw [composeMetadata_of_output read decoded visible done output log]
    exact tells_payloadStages ..
  · intro s' build' o' read' decoded' visible' done' output' log' same
    rw [composeMetadata_of_output read decoded visible done output log,
      composeMetadata_of_output read' decoded' visible' done' output' log', same.payloadStages id]

end Snapshot

namespace Store

/-- A package that is signed in the older header. -/
def bashPackage : RpmPackage :=
  { name := "bash", version := "5.1", release := "9.el9", arch := "x86_64", siggpg := "RSA" }

/-- What was built of a commit, given what was installed where it was built. -/
def commitOutput (buildroot : Json) : BuildOutput where
  success := true
  log := [("os", .arr [])]
  metadata := [
    ("build", [(rpmStage, buildroot)]),
    ("commit", [(ostreeCommitStage, encode (⟨⟨"abc123"⟩⟩ : OstreeCommitStage))]),
    ("os", [("org.osbuild.selinux", .null), (rpmStage, encode (⟨[bashPackage]⟩ : RpmStage))])]

/-- The arguments of the build of a commit. -/
def commitArgs : BuildArgs where
  pipelineNames := ⟨["build"], ["os", "commit"]⟩

/-- The build of a commit that finished well. -/
def commitStore (buildroot : Json) : Store := ⟨[
  ⟨.ofNat 0, .osbuild, "own", encode commitArgs,
    some (encode { success := true, osbuildOutput := some (commitOutput buildroot) : BuildResult }),
    { queued := some (.ofSeconds 0), started := some (.ofSeconds 1),
      finished := some (.ofSeconds 2) }, []⟩]⟩

/-- A commit is told with its package, and malformed metadata of the pipeline that it was built in
makes no difference. -/
theorem composeMetadata_of_build_commitStore :
    let answer := (commitStore .null).snapshot.composeMetadata (.ofNat 0) "own"
    (∃ m p, answer = .ok m ∧ m.packages = some [p] ∧ p.name = "bash" ∧ p.signature = some "RSA" ∧
      m.ostreeCommit = some "abc123") ∧
    answer = (commitStore (.obj [])).snapshot.composeMetadata (.ofNat 0) "own" := by
  intro answer
  obtain ⟨build, read, decoded, own, done, output⟩ : ∃ build : JobInfo BuildResult,
      (commitStore .null).snapshot.jobInfo (.ofNat 0) = .ok build ∧
        decode? build.rawArgs = some commitArgs ∧ build.channel = "own" ∧ build.DoneWell ∧
        build.result.osbuildOutput = some (commitOutput .null) :=
    ⟨_, rfl, rfl, rfl, ⟨rfl, rfl, rfl⟩, rfl⟩
  obtain ⟨build', read', decoded', own', done', output'⟩ : ∃ build : JobInfo BuildResult,
      (commitStore (.obj [])).snapshot.jobInfo (.ofNat 0) = .ok build ∧
        decode? build.rawArgs = some commitArgs ∧ build.channel = "own" ∧ build.DoneWell ∧
        build.result.osbuildOutput = some (commitOutput (.obj [])) :=
    ⟨_, rfl, rfl, rfl, ⟨rfl, rfl, rfl⟩, rfl⟩
  have log : ∀ buildroot, (commitOutput buildroot).log ≠ [] := by simp [commitOutput]
  have same : (commitOutput .null).SameStages (commitOutput (.obj []))
      commitArgs.pipelineNames.payload := by
    constructor <;>
      exact List.forall_mem_cons.2 ⟨rfl, List.forall_mem_cons.2 ⟨rfl, List.forall_mem_nil _⟩⟩
  obtain ⟨tells, alone⟩ := (Snapshot.composeMetadata_of_build read decoded
    (.inr own.symm)).2.2 done _ output (log _)
  refine ⟨?_, alone _ _ _ read' decoded' (.inr own'.symm) done' output' (log _) same⟩
  obtain ⟨m, told, commit⟩ : ∃ m, answer = .ok m ∧ m.ostreeCommit = some "abc123" := ⟨_, rfl, rfl⟩
  change BuildOutput.Tells _ _ _ answer at tells
  rw [told] at tells
  cases tells with
  | listed fine listed each _ =>
    change List.Forall₂ _ [bashPackage] _ at each
    cases each with
    | cons first none_left =>
      cases none_left
      exact ⟨m, _, told, listed, first.name, first.gpg rfl (by decide), commit⟩

end Store

end ImageCompose
