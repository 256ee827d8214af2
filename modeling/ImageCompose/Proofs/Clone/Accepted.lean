import ImageCompose.Proofs.Clone.Call
import ImageCompose.Proofs.Store.Order
import ImageCompose.Proofs.Submission.Builds

/-!
# Delivered builds are cloned

A clone checks a dozen things before it submits a job, and looks through all jobs that wait for the
build. None of that can fail for a build that delivered its image, as long as workers report results
that decode: what the jobs of a store were submitted with is always read back, and each job that
waits for another one is there (`CloneCall.accepted`). As every EC2 image that is asked for is built
with one target, of which the accounts are known, each such build can be cloned once it finished
well (`Store.ec2_build_cloned`).
-/

namespace ImageCompose

/-- A report on a job decodes as the result of its kind. -/
def StoredJob.ReportDecodes (j : StoredJob) (v : Json) : Prop := j.kind.ReadsResult v

/-- If workers report what decodes, all results of a reachable store do. -/
theorem Store.Reachable.results {s : Store} (h : Reachable StoredJob.ReportDecodes s) :
    s.Results fun kind v => kind.ReadsResult v :=
  Moves.results (Steps.moves h)

/-! ## What is read of a store whose results decode -/

namespace Store

variable {s : Store}

/-- A job of a kind can be read if its result decodes. -/
theorem Results.reads {ρ : Type} [ResultOf ρ] [LawfulResult ρ]
    (res : s.Results fun kind v => kind.ReadsResult v) {id : Uuid} {j : StoredJob}
    (found : s.find? id = some j) (kind : j.kind = ResultOf.kind ρ) :
    ∃ result : ρ, ResultOf.Reads j.result result := by
  cases reported : j.result with
  | none => exact ⟨ResultOf.empty, .inl ⟨rfl, rfl⟩⟩
  | some v =>
    have decodes := res j (find?_some found).1 v reported
    rw [kind, LawfulResult.readsResult] at decodes
    obtain ⟨result, decoded⟩ := decodes
    exact ⟨result, .inr ⟨v, rfl, decoded⟩⟩

/-- The arguments of a copy decode. -/
theorem Graph.copyArgs (g : s.Graph) {id : Uuid} {j : StoredJob} (found : s.find? id = some j)
    (kind : j.kind = .awsEc2Copy) : ∃ args : CopyArgs, decode? j.args = some args := by
  obtain ⟨n, hn, -⟩ := g.look_of_find? found
  obtain ⟨args, -⟩ := StoredJob.of_node? hn
  rw [kind] at args
  obtain ⟨args, decoded, -⟩ := Option.map_eq_some_iff.1 args
  exact ⟨args, decoded⟩

end Store

section
variable (supply : Nat → Uuid) (now : Timestamp) {s : Store}

/-- A job is accepted if the jobs that it waits for are there. -/
theorem Action.run_enqueue_of_known (args : JobArgs) {dependencies : List Uuid} (channel : String)
    (known : ∀ d ∈ dependencies, d ∈ s.ids) :
    ∃ j, (Action.enqueue args dependencies channel).run (Store.backend supply now) s =
      (.ok j.id, ⟨s.jobs ++ [j]⟩) ∧ j.Is args dependencies channel := by
  let new : NewJob := ⟨args.kind, args.toJson, dependencies, channel⟩
  have none_missing : s.firstMissing? new.dependencies = none :=
    List.find?_eq_none.2 fun d hd => by simpa using known d hd
  have submitted : s.submit supply now new =
      (.ok (supply s.jobs.length), ⟨s.jobs ++ [new.stored (supply s.jobs.length) now]⟩) := by
    simp only [Store.submit, Store.enqueue, none_missing]
  refine ⟨new.stored (supply s.jobs.length) now, ?_, rfl, rfl, rfl, rfl, now, rfl, rfl⟩
  show (((s.submit supply now new).1.mapError _ : Except ServiceError Uuid),
    (s.submit supply now new).2) = _
  rw [submitted]
  rfl

/-- A search for a copy ends with a job of the store or without one. -/
theorem findCopy_run (g : s.Graph) (res : s.Results fun kind v => kind.ReadsResult v)
    (region : String) {dependents : List Uuid} (known : ∀ d ∈ dependents, d ∈ s.ids) :
    ∃ found, (findCopy region dependents).run (Store.backend supply now) s = (.ok found, s) ∧
      ∀ k ∈ found, k ∈ s.ids := by
  induction dependents with
  | nil => exact ⟨none, rfl, nofun⟩
  | cons d rest ih =>
    obtain ⟨d_known, rest_known⟩ := List.forall_mem_cons.1 known
    obtain ⟨found, on, later⟩ := ih rest_known
    obtain ⟨r, answered⟩ := Store.mem_ids_iff.1 d_known
    obtain ⟨j, stored, rfl⟩ := Store.find?_of_snapshot_job answered
    have kind : (Action.referredKind d).run (Store.backend supply now) s = (.ok j.kind, s) :=
      congrArg (·, s) (Snapshot.referredKind_of_job answered)
    rw [findCopy, Action.run_bind_of_ok _ kind]
    by_cases copies : j.kind = .awsEc2Copy
    · obtain ⟨result, reads⟩ := res.reads (ρ := CopyResult) stored copies
      obtain ⟨args, decoded⟩ := g.copyArgs stored copies
      let copy : JobInfo CopyResult :=
        ⟨d, j.channel, j.status, j.dependencies, s.dependents d, result, j.args, j.result⟩
      have read : (Action.jobInfo d).run (Store.backend supply now) s = (.ok copy, s) :=
        congrArg (·, s) (Store.jobInfo_of_find? stored copies reads)
      have args_read : (copy.args : Except ServiceError CopyArgs) = .ok args :=
        JobInfo.args_of_decode? decoded
      rw [if_neg (not_not_intro copies), Action.run_bind_of_ok _ read, args_read,
        Action.run_of_ok_bind]
      split
      · exact ⟨some d, rfl, fun k hk => Option.some.inj hk ▸ d_known⟩
      · exact ⟨found, on, later⟩
    · rw [if_pos copies]
      exact ⟨found, on, later⟩

/-! ## Builds that delivered their image -/

namespace StoredJob

/-- The image of a build that delivered it is settled on. -/
theorem Delivers.ofBuild {j : StoredJob} {source : CloneSource} (h : j.Delivers source)
    {result : BuildResult} (reads : ResultOf.Reads j.result result) (id : Uuid)
    (waiting : List Uuid) :
    CloneSource.ofBuild ⟨id, j.channel, j.status, j.dependencies, waiting, result, j.args,
      j.result⟩ = .ok source := by
  obtain ⟨v, stored, r, decoded, success, results⟩ := h.result
  obtain ⟨a, read, target, region, key, snapshot, targets, options⟩ := h.declared
  obtain rfl : r = result := by
    rcases reads with ⟨none_stored, -⟩ | ⟨v', stored', decoded'⟩
    · cases none_stored.symm.trans stored
    · cases stored.symm.trans stored'
      exact Option.some.inj (decoded.symm.trans decoded')
  have args_read : (JobInfo.args ⟨id, j.channel, j.status, j.dependencies, waiting, r, j.args,
      j.result⟩ : Except ServiceError BuildArgs) = .ok a := JobInfo.args_of_decode? read
  have fine : (!j.status.isFinished || !r.success) = false := by simp [h.finished, success]
  simp only [CloneSource.ofBuild, fine, results, args_read]
  rw [if_neg Bool.false_ne_true]
  simp only [UploadStatus.ofResult, Except.mapError, bind, Except.bind, targets, options]
  rfl

end StoredJob

/-! ## Clones that are accepted -/

/-- A copy into a region is found or accepted, if the build and the jobs that wait for it are
there. -/
theorem copyInto_run (g : s.Graph) (res : s.Results fun kind v => kind.ReadsResult v)
    (build : JobInfo BuildResult) (known : build.id ∈ s.ids)
    (dependents : ∀ d ∈ build.dependents, d ∈ s.ids) (source : CloneSource) (region : String)
    (name : Uuid) (channel : String) :
    ∃ image added, (copyInto build source region name channel).run (Store.backend supply now) s =
      (.ok image, ⟨s.jobs ++ added⟩) ∧ image ∈ Store.ids ⟨s.jobs ++ added⟩ := by
  obtain ⟨found, searched, found_known⟩ := findCopy_run supply now g res region dependents
  rw [copyInto, Action.run_bind_of_ok _ searched]
  cases found with
  | some k =>
    refine ⟨k, [], ?_, ?_⟩
    · rw [List.append_nil]
      rfl
    · rw [List.append_nil]
      exact found_known k rfl
  | none =>
    have waits : ∀ d ∈ [build.id], d ∈ s.ids := List.forall_mem_singleton.2 known
    obtain ⟨copy, accepted, -⟩ := Action.run_enqueue_of_known supply now
      (.copy ⟨source.ami, source.region, region, storageName name⟩) channel waits
    exact ⟨copy.id, [copy], accepted, by simp [Store.ids]⟩

namespace CloneCall

/-- A clone that is followed by a job. -/
def answer (c : CloneCall) (last : Uuid) : CloneId :=
  ⟨.at_ s!"/composes/{c.build}/clone" last "CloneComposeId"⟩

/-- The share of a build or a copy that is there is accepted, and the clone is followed by it. -/
theorem share_run (c : CloneCall) (source : CloneSource) {image : Uuid} (known : image ∈ s.ids)
    (args : ShareArgs) :
    ∃ last added, ((if (c.accounts source).isEmpty then (do
          let last ← pure image
          return c.answer last)
        else (do
          let last ← Action.enqueue (.share args) [image] c.channel
          return c.answer last)) : Action CloneId).run (Store.backend supply now) s =
        (.ok (c.answer last), ⟨s.jobs ++ added⟩) ∧
      (c.accounts source ≠ [] → ∃ share ∈ added, share.id = last ∧
        share.Is (.share args) [image] c.channel) := by
  by_cases nobody : c.accounts source = []
  · refine ⟨image, [], ?_, absurd nobody⟩
    rw [if_pos (List.isEmpty_iff.2 nobody), List.append_nil]
    rfl
  · have waits : ∀ d ∈ [image], d ∈ s.ids := List.forall_mem_singleton.2 known
    obtain ⟨share, accepted, is_share⟩ :=
      Action.run_enqueue_of_known supply now (.share args) c.channel waits
    refine ⟨share.id, [share], ?_, fun _ => ⟨share, List.mem_singleton_self _, rfl, is_share⟩⟩
    rw [if_neg fun nobody' => nobody (List.isEmpty_iff.1 nobody'),
      Action.run_bind_of_ok _ accepted]
    rfl

/-- A build that delivered its image is cloned, whatever jobs wait for it. If there are accounts to
share the image with, a job shares it with them, and the clone is followed by that job. -/
theorem accepted (c : CloneCall) (g : s.Graph)
    (res : s.Results fun kind v => kind.ReadsResult v) {j : StoredJob} {source : CloneSource}
    (found : s.find? c.build = some j) (delivers : j.Delivers source)
    (visible : c.channel = "" ∨ c.channel = j.channel) :
    ∃ answer added, c.action.run (Store.backend supply now) s = (.ok answer, ⟨s.jobs ++ added⟩) ∧
      (c.accounts source ≠ [] → ∃ share ∈ added, answer.reference.id = share.id ∧
        ∃ image args, share.Is (.share args) [image] c.channel ∧
          args.shareWithAccounts = c.accounts source) := by
  obtain ⟨result, reads⟩ := res.reads (ρ := BuildResult) found delivers.kind
  let build : JobInfo BuildResult := ⟨c.build, j.channel, j.status, j.dependencies,
    s.dependents c.build, result, j.args, j.result⟩
  have shown := Store.snapshot_job_of_find? found
  have kind : (Action.composeKind c.build).run (Store.backend supply now) s = (.ok .osbuild, s) :=
    congrArg (·, s) ((Snapshot.composeKind_of_job shown).trans (congrArg _ delivers.kind))
  have read : (Action.jobInfo c.build).run (Store.backend supply now) s = (.ok build, s) :=
    congrArg (·, s) (Store.jobInfo_of_find? found delivers.kind reads)
  have own : build.ensureChannel c.channel = .ok () := by
    rw [JobInfo.ensureChannel, if_neg]
    rintro ⟨some_channel, other⟩
    exact visible.elim some_channel fun same => other same.symm
  have settled : CloneSource.ofBuild build = .ok source := delivers.ofBuild reads _ _
  rw [action, cloneCompose, Action.run_bind_of_ok _ kind]
  simp only [ne_eq, not_true_eq_false, if_false]
  rw [Action.run_bind_of_ok _ read, own, Action.run_of_ok_bind, settled, Action.run_of_ok_bind]
  have known : c.build ∈ s.ids := Store.mem_ids_iff.2 ⟨_, shown⟩
  by_cases same : c.request.region = source.region
  · simp only [if_neg (not_not_intro same)]
    obtain ⟨last, added, shared, share⟩ :=
      c.share_run supply now source known ⟨source.ami, c.request.region, c.accounts source⟩
    refine ⟨c.answer last, added, shared, fun some_accounts => ?_⟩
    obtain ⟨job, member, rfl, is_share⟩ := share some_accounts
    exact ⟨job, member, rfl, _, _, is_share, rfl⟩
  · simp only [if_pos same]
    obtain ⟨image, copied, copy, image_known⟩ := copyInto_run supply now g res build
      known (fun d hd => (Store.dependents_sublist s c.build).subset hd) source c.request.region
      c.fresh.copy c.channel
    obtain ⟨last, added, shared, share⟩ :=
      c.share_run supply now source image_known ⟨"", "", c.accounts source⟩
    rw [Action.run_bind_of_ok _ copy]
    refine ⟨c.answer last, copied ++ added, ?_, fun some_accounts => ?_⟩
    · rw [← List.append_assoc]
      exact shared
    · obtain ⟨job, member, rfl, is_share⟩ := share some_accounts
      exact ⟨job, List.mem_append_right _ member, rfl, _, _, is_share, rfl⟩

end CloneCall

end

/-! ## Builds of EC2 images -/

/-- A request asks for an image to be delivered to EC2, with some upload options. -/
structure ImageRequest.ForEc2 (image : ImageRequest) (options : Json) : Prop where
  type : image.imageType.uploadType = .aws
  asked : image.uploadOptions = some options
  /-- The image is not to stay on the worker server. -/
  sent : asksForLocalSave options = false

/-- A build finished well and reported one EC2 image and nothing else. -/
structure StoredJob.ReportsEc2 (j : StoredJob) : Prop where
  finished : j.status.isFinished
  result : ∃ v, j.result = some v ∧ ∃ r : BuildResult, decode? v = some r ∧ r.success = true ∧
    ∃ ami region, r.targetResults = [.aws ami region]

/-- An EC2 image that is asked for has one target, with the accounts of the request. -/
theorem BuildArgs.Builds.ec2 {a : BuildArgs} {localSave : Bool} {fresh : FreshImage}
    {image : ImageRequest} (builds : a.Builds localSave fresh image []) {options : Json}
    (ec2 : image.ForEc2 options) :
    ∃ submitted : AwsUploadOptions, decodeUploadOptions .aws options = .ok submitted ∧
      ∃ target region key snapshot, a.targets = [target] ∧
        target.options = .aws region key submitted.shareWithAccounts snapshot := by
  have targets := builds.targets
  rw [ec2.asked] at targets
  obtain ⟨target, found, one⟩ := targets
  simp only [uploadTarget, ec2.sent, ec2.type] at found
  obtain ⟨⟨name, place⟩, placed, made⟩ := Except.bind_ok found
  obtain ⟨submitted, decoded, told⟩ := Except.bind_ok placed
  cases told
  cases made
  exact ⟨submitted, decoded, _, _, _, _, one, rfl⟩

namespace Store

variable {config : Config} {request : ComposeRequest} {fresh : Fresh} {channel : String}
  {s₀ s₁ s : Store}

/-- A build of an EC2 image that finished well delivers the image, and the accounts of the request
are known. -/
theorem delivers_of_ec2 {reports : StoredJob → Json → Prop} (h : Reachable reports s₁)
    {k : Nat} {image : ImageRequest} {args : BuildArgs} {b : StoredJob} (member : b ∈ s₁.jobs)
    (builds : b.BuildsImage config request fresh channel k image args)
    (alone : request.koji = none) {options : Json} (ec2 : image.ForEc2 options)
    (later : Steps reports s₁ s) {j : StoredJob} (found : s.find? b.id = some j)
    (reported : j.ReportsEc2) :
    j.channel = channel ∧ ∃ submitted : AwsUploadOptions,
      decodeUploadOptions .aws options = .ok submitted ∧
      ∃ ami region, j.Delivers ⟨ami, region, submitted.shareWithAccounts⟩ := by
  obtain ⟨waits, is⟩ := builds.is
  obtain ⟨more, made, -, nowhere_else⟩ := builds.builds
  obtain rfl := nowhere_else alone
  obtain ⟨submitted, decoded, target, region, key, snapshot, targets, options⟩ := made.ec2 ec2
  obtain ⟨result, status, found'⟩ := later.moves.extends.jobs (find?_of_mem h.graph.nodup member)
  cases found.symm.trans found'
  obtain ⟨v, stored, r, read, success, ami, region', results⟩ := reported.result
  exact ⟨is.channel, submitted, decoded, ami, region', is.kind, reported.finished,
    ⟨v, stored, r, read, success, results⟩, args.kept, builds.read, target, region, key, snapshot,
    targets, options⟩

/-- A build of an EC2 image that was asked for without Koji can be cloned once it finished well and
reported the image, into any region and for any accounts, whatever happened before and since;
whether it was canceled does not matter. The image is shared with all accounts of both requests if
there are any, and the clone is followed by the job that does so. -/
theorem ec2_build_cloned (h : Reachable StoredJob.ReportDecodes s₀)
    {r : Except ServiceError ComposeId}
    (run : (submitCompose config request fresh channel).Runs s₀ r s₁) (alone : request.koji = none)
    {k : Nat} {b : StoredJob} (built : (s₀.newBuilds s₁)[k]? = some b) {images : List ImageRequest}
    (asked : request.images = .ok images) {image : ImageRequest} (at_k : images[k]? = some image)
    {options : Json} (ec2 : image.ForEc2 options) (later : Steps StoredJob.ReportDecodes s₁ s)
    {j : StoredJob} (found : s.find? b.id = some j) (reported : j.ReportsEc2)
    (supply : Nat → Uuid) (now : Timestamp) (clone : CloneRequest) (cloneFresh : Fresh)
    {on : String} (visible : on = "" ∨ on = channel) :
    ∃ submitted : AwsUploadOptions, decodeUploadOptions .aws options = .ok submitted ∧
      ∃ answer added, (cloneCompose b.id clone cloneFresh on).run (backend supply now) s =
        (.ok answer, ⟨s.jobs ++ added⟩) ∧
      (submitted.shareWithAccounts ++ clone.shareWithAccounts.getD [] ≠ [] →
        ∃ share ∈ added, answer.reference.id = share.id ∧ ∃ source args,
          share.Is (.share args) [source] on ∧
          ∀ account ∈ submitted.shareWithAccounts ++ clone.shareWithAccounts.getD [],
            account ∈ args.shareWithAccounts) := by
  obtain ⟨member, image', args, builds⟩ := newBuilds_of_runs run built
  obtain ⟨images', asked', at_k'⟩ := builds.asked
  cases asked.symm.trans asked'
  cases at_k.symm.trans at_k'
  have reached₁ : Reachable StoredJob.ReportDecodes s₁ := h.steps (.single (.submit run))
  have reached := reached₁.steps later
  obtain ⟨rfl, submitted, decoded, ami, region, delivers⟩ :=
    delivers_of_ec2 reached₁ member builds alone ec2 later found reported
  let c : CloneCall := ⟨b.id, clone, cloneFresh, on⟩
  obtain ⟨answer, added, accepted, share⟩ :=
    c.accepted supply now reached.graph reached.results found delivers visible
  have mem_accounts : ∀ {account}, account ∈ c.accounts ⟨ami, region, submitted.shareWithAccounts⟩ ↔
      account ∈ submitted.shareWithAccounts ++ clone.shareWithAccounts.getD [] := by
    rw [CloneCall.accounts, shareAccounts_eq]
    exact List.mem_eraseDups
  refine ⟨submitted, decoded, answer, added, accepted, fun some_accounts => ?_⟩
  obtain ⟨account, some_account⟩ := List.exists_mem_of_ne_nil _ some_accounts
  obtain ⟨job, job_added, followed, source, args, is_share, accounts⟩ :=
    share (List.ne_nil_of_mem (mem_accounts.2 some_account))
  exact ⟨job, job_added, followed, source, args, is_share,
    fun account given => accounts ▸ mem_accounts.2 given⟩

/-- A request for an EC2 image that is to be shared with an account. -/
def sharedEc2Request : ComposeRequest where
  distribution := "rhel-9"
  imageRequest := some {
    architecture := "x86_64"
    imageType := .awsRhui
    uploadOptions := some (.obj [
      ("region", .str "us-east-1"), ("share_with_accounts", .arr [.str "123456789012"])]) }

/-- The store after that request. -/
def sharedEc2Store : Store :=
  ((submitCompose {} sharedEc2Request (.ofRandom 0 0) "own").run
    (backend (Fresh.jobIds 0) (.ofSeconds 0)) {}).2

/-- The build of such an image is cloned to another region, and shared there with the account. -/
theorem ec2_build_cloned_sharedEc2Store :
    (∃ r, (submitCompose {} sharedEc2Request (.ofRandom 0 0) "own").Runs {} r sharedEc2Store) ∧
      ∃ b, (newBuilds {} sharedEc2Store)[0]? = some b ∧
      ∃ s, Steps StoredJob.ReportDecodes sharedEc2Store s ∧
      (∃ j, s.find? b.id = some j ∧ j.ReportsEc2) ∧
      ∃ answer added, (cloneCompose b.id ⟨"eu-west-1", none⟩ (.ofRandom 1 0) "own").run
          (backend (Fresh.jobIds 0) (.ofSeconds 2)) s = (.ok answer, ⟨s.jobs ++ added⟩) ∧
        ∃ share ∈ added, answer.reference.id = share.id ∧ ∃ source args,
          share.Is (.share args) [source] "own" ∧ "123456789012" ∈ args.shareWithAccounts := by
  have run := StoreProgram.runs_run (Fresh.jobIds 0) (.ofSeconds 0)
    (submitCompose {} sharedEc2Request (.ofRandom 0 0) "own") {} (by decide +kernel)
  have built : ((newBuilds {} sharedEc2Store)[0]?).isSome = true := by decide +kernel
  obtain ⟨b, built⟩ := Option.isSome_iff_exists.1 built
  obtain ⟨member, _, args, builds⟩ := newBuilds_of_runs run built
  obtain ⟨_, is⟩ := builds.is
  let s : Store := sharedEc2Store.finish b.id ec2Result (.ofSeconds 1)
  have nodup : sharedEc2Store.ids.Nodup := by decide +kernel
  have unique : ∀ j ∈ sharedEc2Store.jobs, j.id = b.id → StoredJob.ReportDecodes j ec2Result := by
    intro j hj same
    have found := find?_of_mem nodup hj
    rw [same, find?_of_mem nodup member] at found
    cases found
    rw [StoredJob.ReportDecodes, is.kind]
    exact ⟨_, rfl⟩
  have later : Steps StoredJob.ReportDecodes sharedEc2Store s := .single (.finish _ unique)
  have found : s.find? b.id = some (b.finish ec2Result (.ofSeconds 1)) :=
    find?_finish (find?_of_mem nodup member) _ _
  have reported : (b.finish ec2Result (.ofSeconds 1)).ReportsEc2 :=
    ⟨rfl, _, rfl, _, rfl, rfl, _, _, rfl⟩
  obtain ⟨submitted, decoded, answer, added, accepted, share⟩ :=
    ec2_build_cloned .refl run rfl built rfl rfl ⟨rfl, rfl, rfl⟩ later found reported
      (Fresh.jobIds 0) (.ofSeconds 2) ⟨"eu-west-1", none⟩ (.ofRandom 1 0) (.inr rfl)
  cases decoded
  obtain ⟨job, member, followed, source, args, is_share, shared⟩ := share (List.cons_ne_nil _ _)
  exact ⟨⟨_, run⟩, b, built, s, later, ⟨_, found, reported⟩, answer, added, accepted, job, member,
    followed, source, args, is_share, shared _ (List.mem_cons_self ..)⟩

end Store

end ImageCompose
