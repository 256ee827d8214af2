import ImageCompose.Proofs.Clone.Jobs
import ImageCompose.Proofs.Except
import ImageCompose.Proofs.Store.Interference
import ImageCompose.Proofs.Store.Reachable

/-!
# What a clone submits

A request to clone a build (`CloneCall`) reads the build and the jobs that wait for it one by one,
and submits a copy and a share at most. Whatever happens to the store in between, what was read
stays good for what is submitted: a copy is submitted only if each copy that was there at first has
failed by then (`CloneCall.MayCopy`), and a share is one of the image where it was found
(`CloneCall.Image`). `CloneCall.action_safe` says so for all that a clone does. A compose submits
nothing of this kind (`submitCompose_safe`), and a clone nothing else (`cloneCompose_submitsOnly`).
-/

namespace ImageCompose

variable {env : Environment} {s : Store}

/-- A copy that a clone may use: into a region, and not failed as far as can be read. -/
structure StoredJob.Reusable (j : StoredJob) (build : Uuid) (region : String) : Prop where
  copies : j.CopiesInto build region
  /-- Its result can be read and tells of no failure. -/
  fine : ∃ result : CopyResult, ResultOf.Reads j.result result ∧
    deliveryStatus j.status result.jobError ≠ .failure

/-- A copy that may be used has not failed. -/
theorem StoredJob.Reusable.live {j : StoredJob} {build : Uuid} {region : String}
    (h : j.Reusable build region) : j.LiveCopy build region := by
  obtain ⟨result, reads, fine⟩ := h.fine
  exact ⟨h.copies, (copyFailed_iff reads).not.2 fine⟩

namespace Store

/-- All copies of a build into a region among some jobs have failed. -/
def NoneLeft (s : Store) (build : Uuid) (region : String) (ids : List Uuid) : Prop :=
  ∀ d ∈ ids, ∃ j, s.find? d = some j ∧ (j.CopiesInto build region → j.CopyFailed)

/-- As failures are final, none is left later. -/
theorem NoneLeft.becomes {s' : Store} {build : Uuid} {region : String} {ids : List Uuid}
    (h : s.NoneLeft build region ids) (later : s.Becomes s') : s'.NoneLeft build region ids := by
  intro d member
  obtain ⟨j, found, useless⟩ := h d member
  obtain ⟨j', found', moved⟩ := later.jobs found
  exact ⟨j', found', fun copies => (useless (moved.copiesInto_iff.1 copies)).becomes moved⟩

/-- What a search among some jobs for a copy that may be used has found. -/
def Searched (s : Store) (build : Uuid) (region : String) (ids : List Uuid) : Option Uuid → Prop
  | some k => ∃ j, s.find? k = some j ∧ j.Reusable build region
  | none => s.NoneLeft build region ids

/-- What waits for a build goes on to wait for it. -/
theorem waits_of_mem_dependents {s' : Store} (nodup : s.ids.Nodup) (later : s.Becomes s')
    {build d : Uuid} (h : d ∈ s.dependents build) {j : StoredJob} (found : s'.find? d = some j) :
    build ∈ j.dependencies := by
  obtain ⟨k, member, rfl⟩ := List.mem_map.1 h
  obtain ⟨stored, waits⟩ := List.mem_filter.1 member
  obtain ⟨j', found', moved⟩ := later.jobs (find?_of_mem nodup stored)
  obtain rfl := Option.some.inj (found.symm.trans found')
  rw [moved.dependencies]
  simpa using waits

end Store

/-! ## The search for a copy -/

/-- A search finds a copy that may be used then, or that there is none: what was read as failed
or as something else stays so. -/
theorem findCopy_safe {may : Store → NewJob → Prop} {build : Uuid} {region : String}
    {dependents : List Uuid}
    (waits : ∀ s', env.changes s s' → ∀ d ∈ dependents, ∀ j, s'.find? d = some j →
      build ∈ j.dependencies) :
    (findCopy region dependents).Safe env may (fun found s' => env.changes s s' ∧
      s'.Searched build region dependents found) s := by
  induction dependents generalizing s with
  | nil => exact .pure ⟨env.refl s, fun _ h => (nomatch h)⟩
  | cons d rest ih =>
    -- A job that was read as one of no use does not become one of use while the search goes on.
    have on : ∀ {t : Store}, env.changes s t → t.NoneLeft build region [d] →
        (findCopy region rest).Safe env may (fun found s' => env.changes s s' ∧
          s'.Searched build region (d :: rest) found) t := by
      intro t change useless
      refine (ih fun s' later d' member =>
        waits s' (env.trans change later) d' (List.mem_cons_of_mem _ member)).weaken ?_
      rintro (_ | k) s' ⟨later, search⟩
      · refine ⟨env.trans change later, fun d' member => ?_⟩
        rcases List.mem_cons.1 member with rfl | member
        · exact useless.becomes (env.becomes later) _ (List.mem_singleton_self _)
        · exact search d' member
      · exact ⟨env.trans change later, search⟩
    refine .bind (.referredKind fun s₁ first kind asked => ?_)
    obtain ⟨j, found, rfl⟩ := Store.referredKind_ok asked
    split
    · next other =>
      refine on first fun _ member => ?_
      obtain rfl := List.mem_singleton.1 member
      exact ⟨j, found, fun copies => absurd copies.1 other⟩
    refine .bind (.jobInfo fun s₂ second copy read => .bind (.of fun args decoded => ?_))
    obtain ⟨j, found, kind, result, reads, rfl⟩ := Store.jobInfo_ok read
    have args_read : decode? j.args = some args := JobInfo.args_ok decoded
    split
    · next usable =>
      refine .pure ⟨env.trans first second, j, found, ?_, result, reads, usable.2⟩
      exact ⟨kind, waits _ (env.trans first second) d (List.mem_cons_self ..) j found, args,
        args_read, usable.1⟩
    · next useless =>
      refine on (env.trans first second) fun _ member => ?_
      obtain rfl := List.mem_singleton.1 member
      refine ⟨j, found, fun ⟨_, _, args', args_read', region⟩ => ?_⟩
      obtain rfl := Option.some.inj (args_read.symm.trans args_read')
      exact (StoredJob.copyFailed_iff reads).2
        (Decidable.not_not.1 fun fine => useless ⟨region, fine⟩)

/-! ## The clone -/

/-- A request to clone a build on a tenant channel. -/
structure CloneCall where
  build : Uuid
  request : CloneRequest
  fresh : Fresh
  channel : String

namespace CloneCall

variable {c : CloneCall} {source : CloneSource}

/-- What is done about the request. -/
def action (c : CloneCall) : Action CloneId := cloneCompose c.build c.request c.fresh c.channel

/-- The job that copies the image into the region that is asked for. -/
def copyJob (c : CloneCall) (source : CloneSource) : NewJob where
  kind := .awsEc2Copy
  channel := c.channel
  args := encode
    (⟨source.ami, source.region, c.request.region, storageName c.fresh.copy⟩ : CopyArgs)
  dependencies := [c.build]

/-- The accounts that the image is to be shared with. -/
def accounts (c : CloneCall) (source : CloneSource) : List String :=
  shareAccounts source.declaredAccounts (c.request.shareWithAccounts.getD [])

/-- The arguments of the share. An image in another region is only known once it was copied. -/
def shareArgs (c : CloneCall) (source : CloneSource) : ShareArgs :=
  if c.request.region ≠ source.region then ⟨"", "", c.accounts source⟩
  else ⟨source.ami, c.request.region, c.accounts source⟩

/-- The job that shares the image of a build or of a copy. -/
def shareJob (c : CloneCall) (source : CloneSource) (image : Uuid) : NewJob where
  kind := .awsEc2Share
  channel := c.channel
  args := encode (c.shareArgs source)
  dependencies := [image]

/-- The build has delivered the image that is cloned. -/
def Clones (c : CloneCall) (source : CloneSource) (s : Store) : Prop :=
  ∃ b, s.find? c.build = some b ∧ b.Delivers source

/-- A build that has delivered its image goes on to have delivered it. -/
theorem Clones.becomes {s' : Store} (h : c.Clones source s) (later : s.Becomes s') :
    c.Clones source s' := by
  obtain ⟨b, found, delivers⟩ := h
  obtain ⟨b', found', moved⟩ := later.jobs found
  exact ⟨b', found', delivers.becomes moved⟩

/-- A request that started in a store may submit its copy in a later one. -/
structure MayCopy (c : CloneCall) (env : Environment) (start : Store) (source : CloneSource)
    (s : Store) : Prop where
  clones : c.Clones source s
  moves : c.request.region ≠ source.region
  /-- The copies that were there when the build was read have failed by now. -/
  none_left : ∃ s₁, env.changes start s₁ ∧ env.changes s₁ s ∧
    s.NoneLeft c.build c.request.region (s₁.dependents c.build)

/-- Where the image is to be had in the region that is asked for. -/
inductive Image (c : CloneCall) (env : Environment) (start : Store) (source : CloneSource) :
    Uuid → Store → Prop
  /-- The build itself delivered it there. -/
  | stays {s : Store} (same : c.request.region = source.region) : Image c env start source c.build s
  | found {k : Uuid} {j : StoredJob} {s : Store} (moves : c.request.region ≠ source.region)
      (later : env.changes start s) (found : s.find? k = some j)
      (reusable : j.Reusable c.build c.request.region) : Image c env start source k s
  /-- The request has just submitted a copy. -/
  | made {k : Uuid} {now : Timestamp} {s s' : Store} (may : c.MayCopy env start source s)
      (fresh : k ∉ s.ids) (added : s.enqueue (c.copyJob source) k now = .ok s') :
      Image c env start source k s'

/-- A request that started in a store may share the image of a job in a later one. -/
structure MayShare (c : CloneCall) (env : Environment) (start : Store) (source : CloneSource)
    (image : Uuid) (s : Store) : Prop where
  clones : c.Clones source s
  accounts : c.accounts source ≠ []
  /-- It is where the image was found or copied to. -/
  settled : ∃ s₁, c.Image env start source image s₁ ∧ env.changes s₁ s

/-- What a request that started in a store submits in a later one. -/
inductive Submits (c : CloneCall) (env : Environment) (start s : Store) : NewJob → Prop
  | copy {source : CloneSource} (may : c.MayCopy env start source s) :
      Submits c env start s (c.copyJob source)
  | share {source : CloneSource} {image : Uuid} (may : c.MayShare env start source image s) :
      Submits c env start s (c.shareJob source image)

/-- The job that a request is followed by that started in a store and has just ended. -/
inductive Ends (c : CloneCall) (env : Environment) (start : Store) : Uuid → Store → Prop
  /-- There is nobody to share the image with. -/
  | image {source : CloneSource} {k : Uuid} {s : Store} (clones : c.Clones source s)
      (image : c.Image env start source k s) : Ends c env start k s
  | share {source : CloneSource} {image id : Uuid} {now : Timestamp} {s s' : Store}
      (may : c.MayShare env start source image s) (fresh : id ∉ s.ids)
      (added : s.enqueue (c.shareJob source image) id now = .ok s') : Ends c env start id s'

variable {start : Store}

/-- The image is where the build delivered it, or a copy of it is where it is asked for. -/
theorem Image.cases_on {k : Uuid} (h : c.Image env start source k s) :
    c.request.region = source.region ∧ k = c.build ∨ c.request.region ≠ source.region ∧
      ∃ j, s.find? k = some j ∧ j.CopiesInto c.build c.request.region := by
  cases h with
  | stays same => exact .inl ⟨same, rfl⟩
  | found moves _ found reusable => exact .inr ⟨moves, _, found, reusable.copies⟩
  | made may fresh added =>
    refine .inr ⟨may.moves, _, Store.find?_enqueue_self fresh added, ?_⟩
    exact ⟨rfl, List.mem_singleton_self _, _, decode?_encode _, rfl⟩

/-- The image is shared if there is anybody to share it with, and that is the end. -/
theorem share_safe {image : Uuid} {args : ShareArgs} (clones : c.Clones source s)
    (told : args = c.shareArgs source) (settled : c.Image env start source image s) :
    (if (c.accounts source).isEmpty then (do
        let last ← pure image
        return ⟨.at_ s!"/composes/{c.build}/clone" last "CloneComposeId"⟩)
      else (do
        let last ← Action.enqueue (.share args) [image] c.channel
        return ⟨.at_ s!"/composes/{c.build}/clone" last "CloneComposeId"⟩) : Action CloneId).Safe
      env (c.Submits env start) (fun answer s' => c.Ends env start answer.reference.id s') s := by
  subst told
  split
  · exact .pure (.image clones settled)
  · next some_accounts =>
    have may : ∀ s', env.changes s s' → c.MayShare env start source image s' := fun s' change =>
      ⟨clones.becomes (env.becomes change), by simpa using some_accounts, s, settled, change⟩
    refine .bind (.enqueue (fun s' change => .share (may s' change)) ?_)
    intro s' change id now s'' fresh added
    exact .pure (.share (may s' change) fresh added)

/-- The image that goes on is in the region that is asked for. -/
theorem copyInto_safe {build : JobInfo BuildResult} {s₁ : Store} (nodup : s₁.ids.Nodup)
    (before : env.changes start s₁) (clones : c.Clones source s₁) (id : build.id = c.build)
    (dependents : build.dependents = s₁.dependents c.build)
    (moves : c.request.region ≠ source.region) :
    (copyInto build source c.request.region c.fresh.copy c.channel).Safe env (c.Submits env start)
      (fun k s' => c.Clones source s' ∧ c.Image env start source k s') s₁ := by
  have waits : ∀ s', env.changes s₁ s' → ∀ d ∈ build.dependents, ∀ j, s'.find? d = some j →
      c.build ∈ j.dependencies := fun s' change d member j found =>
    Store.waits_of_mem_dependents nodup (env.becomes change) (dependents ▸ member) found
  refine .bind ((findCopy_safe waits).weaken ?_)
  rintro (_ | k) s₂ ⟨change, search⟩
  · -- None is left now, so none is when the copy is submitted.
    have may : ∀ s', env.changes s₂ s' → c.MayCopy env start source s' := by
      intro s' later
      have none_left := Store.NoneLeft.becomes search (env.becomes later)
      rw [dependents] at none_left
      exact ⟨clones.becomes (env.becomes (env.trans change later)), moves, s₁, before,
        env.trans change later, none_left⟩
    rw [id]
    refine .enqueue (fun s' later => .copy (may s' later)) ?_
    intro s' later k now s'' fresh added
    exact ⟨(may s' later).clones.becomes (.enqueue fresh added), .made (may s' later) fresh added⟩
  · obtain ⟨j, found, reusable⟩ := search
    exact .pure ⟨clones.becomes (env.becomes change),
      .found moves (env.trans before change) found reusable⟩

/-- Whatever happens to the store meanwhile, a clone submits only what it may, and ends with the
last job that it submitted, with the copy that it found, or with the build. -/
theorem action_safe (c : CloneCall) (env : Environment) (nodup : s.ids.Nodup) :
    c.action.Safe env (c.Submits env s) (fun answer s' => c.Ends env s answer.reference.id s')
      s := by
  refine .bind (.composeKind fun s₁ first kind _ => ?_)
  split
  · exact .bind (.throw _)
  refine .bind (.jobInfo fun s₂ second build read => ?_)
  refine .bind (.of fun _ _ => .bind (.of fun source settled => ?_))
  obtain ⟨b, found, is_build, result, reads, rfl⟩ := Store.jobInfo_ok read
  have clones : c.Clones source s₂ :=
    ⟨b, found, StoredJob.delivers_of_ofBuild is_build reads settled⟩
  have before := env.trans first second
  simp only
  split
  · next moves =>
    refine .bind ((copyInto_safe ((env.becomes before).nodup nodup) before clones rfl rfl
      moves).weaken fun k s' ends => share_safe ends.1 ?_ ends.2)
    rw [shareArgs, if_pos moves, accounts]
  · next same =>
    refine .bind (.pure (share_safe clones ?_ (.stays (Decidable.not_not.1 same))))
    rw [shareArgs, if_neg same, accounts]

end CloneCall

/-! ## Composes -/

/-- A kind of jobs that clones submit. -/
def JobKind.IsClone (k : JobKind) : Prop := k = .awsEc2Copy ∨ k = .awsEc2Share

/-- The jobs of a compose are no clones. -/
theorem Plan.not_isClone {config : Config} {request : ComposeRequest} {fresh : Fresh} {plan : Plan}
    (h : Plan.ofRequest config request fresh = .ok plan) {job : PlannedJob}
    (member : job ∈ plan.jobs) : ¬job.args.kind.IsClone := by
  obtain ⟨images, -, h⟩ := Except.bind_ok h
  split at h <;> cases h
  · simp only [forKoji, List.mem_append, List.mem_cons, List.mem_flatMap, List.not_mem_nil,
      or_false] at member
    rcases member with (rfl | ⟨_, _, rfl | rfl⟩) | rfl <;> rintro (kind | kind) <;> cases kind
  · simp only [standalone, List.mem_cons, List.mem_flatMap, List.not_mem_nil, or_false] at member
    rcases member with ⟨_, _, rfl | rfl⟩ <;> rintro (kind | kind) <;> cases kind

/-- The submission of some jobs in turn submits nothing else. -/
theorem submitJobs_submitsOnly {may : NewJob → Prop} {channel : String} {jobs : List PlannedJob}
    {ids : List Uuid} (allowed : ∀ job ∈ jobs, ∀ dependencies,
      may ⟨job.args.kind, job.args.toJson, dependencies, channel⟩) :
    (submitJobs channel jobs ids).SubmitsOnly may := by
  induction jobs generalizing ids with
  | nil => exact .pure _
  | cons job rest ih =>
    refine .bind (.enqueue (allowed job (List.mem_cons_self ..) _)) fun id => ?_
    exact ih fun job member => allowed job (List.mem_cons_of_mem _ member)

/-- A compose submits the jobs of its plan and nothing else. -/
theorem submitCompose_submitsOnly {may : NewJob → Prop} {config : Config}
    {request : ComposeRequest} {fresh : Fresh} {channel : String}
    (allowed : ∀ plan, Plan.ofRequest config request fresh = .ok plan → ∀ job ∈ plan.jobs,
      ∀ dependencies, may ⟨job.args.kind, job.args.toJson, dependencies, channel⟩) :
    (submitCompose config request fresh channel).SubmitsOnly may := by
  refine .of_bind fun plan planned => ?_
  refine .bind (submitJobs_submitsOnly (allowed plan planned)) fun ids => ?_
  split
  · exact .pure _
  · exact .throw _

/-- A compose submits no clones. -/
theorem submitCompose_safe (env : Environment) (config : Config) (request : ComposeRequest)
    (fresh : Fresh) (channel : String) :
    (submitCompose config request fresh channel).Safe env (fun _ new => ¬new.kind.IsClone)
      (fun _ _ => True) s :=
  (submitCompose_submitsOnly fun _ planned _ member _ => Plan.not_isClone planned member).safe

/-- The search for a copy submits nothing. -/
theorem findCopy_submitsOnly {may : NewJob → Prop} (region : String) (dependents : List Uuid) :
    (findCopy region dependents).SubmitsOnly may := by
  induction dependents with
  | nil => exact .pure _
  | cons d rest ih =>
    refine .bind (.referredKind d) fun kind => ?_
    split
    · exact ih
    refine .bind (.jobInfo d) fun copy => .bind (.of _) fun args => ?_
    split
    · exact .pure _
    · exact ih

/-- Whatever it finds, a clone submits no other jobs than clones do. -/
theorem cloneCompose_submitsOnly (id : Uuid) (request : CloneRequest) (fresh : Fresh)
    (channel : String) :
    (cloneCompose id request fresh channel).SubmitsOnly (·.kind.IsClone) := by
  refine .bind (.composeKind id) fun kind => ?_
  split
  · exact .throw_bind _ _
  refine .bind (.jobInfo id) fun build => .bind (.of _) fun _ => .bind (.of _) fun source => ?_
  have shares : ∀ (args : ShareArgs) (accounts : List String) (image : Uuid)
      (answer : Uuid → CloneId), Action.SubmitsOnly (·.kind.IsClone)
        (if accounts.isEmpty then pure image >>= fun last => pure (answer last)
        else Action.enqueue (.share args) [image] channel >>= fun last => pure (answer last)) := by
    intro args accounts image answer
    split
    · exact .bind (.pure _) fun _ => .pure _
    · exact .bind (.enqueue (.inr rfl)) fun _ => .pure _
  simp only
  split
  · refine .bind (.bind (findCopy_submitsOnly _ _) fun found => ?_) fun image => shares _ _ image _
    split
    · exact .pure _
    · exact .enqueue (.inl rfl)
  · exact .bind (.pure _) fun image => shares _ _ image _

/-! ## A build that is cloned -/

namespace Store

/-- A request for an EC2 image. -/
def ec2Request : ComposeRequest where
  distribution := "rhel-9"
  imageRequest := some {
    architecture := "x86_64"
    imageType := .aws
    uploadOptions := some (.obj [("region", .str "us-east-1")]) }

/-- The store after that request. -/
def ec2Store : Store :=
  ((submitCompose {} ec2Request (.ofRandom 0 0) "own").run
    (backend (Fresh.jobIds 0) (.ofSeconds 0)) {}).2

/-- The build of the image. -/
def ec2Build : Uuid := Fresh.jobIds 0 1

/-- What the build reports. -/
def ec2Result : Json :=
  encode { success := true, targetResults := [.aws "ami-1" "us-east-1"] : BuildResult }

/-- The store after the image was delivered. -/
def deliveredStore : Store := ec2Store.finish ec2Build ec2Result (.ofSeconds 1)

/-- A clone of the build that is requested at a time and on a channel. -/
def cloneEc2 (now : UInt64) (channel : String) (accounts : Option (List String) := none) :
    CloneCall :=
  ⟨ec2Build, ⟨"eu-west-1", accounts⟩, .ofRandom 0 now, channel⟩

/-- The store after the image was copied for a request on a channel. -/
def clonedStore (channel : String) : Store :=
  ((cloneEc2 2 channel).action.run (backend (Fresh.jobIds 0) (.ofSeconds 2)) deliveredStore).2

/-- The store is left by a run of the request. -/
theorem ec2Store_runs :
    ∃ answer, (submitCompose {} ec2Request (.ofRandom 0 0) "own").Runs {} answer ec2Store :=
  ⟨_, StoreProgram.runs_run (Fresh.jobIds 0) (.ofSeconds 0) _ _ (by decide +kernel)⟩

/-- No result was reported of the build yet. -/
theorem ec2Store_build :
    ∀ j ∈ ec2Store.jobs, j.id = ec2Build → j.kind = .osbuild ∧ j.result = none := by
  decide +kernel

variable {reports : StoredJob → Json → Prop}

/-- The store with the image delivered is reached, if workers may report this result of builds. -/
theorem reachable_deliveredStore (fits : ∀ j, j.kind = .osbuild → j.result = none →
    reports j ec2Result) : Reachable reports deliveredStore := by
  obtain ⟨_, submitted⟩ := ec2Store_runs
  refine .tail (.single (.submit submitted)) (.finish _ fun j member is_build => ?_)
  obtain ⟨kind, unreported⟩ := ec2Store_build j member is_build
  exact fits j kind unreported

/-- So is the store with the image copied, if the identifiers in it are distinct. -/
theorem reachable_clonedStore (fits : ∀ j, j.kind = .osbuild → j.result = none →
    reports j ec2Result) {channel : String} (nodup : (clonedStore channel).ids.Nodup) :
    Reachable reports (clonedStore channel) :=
  .tail (reachable_deliveredStore fits) (.clone_run _ _ _ _ _ _ _ nodup)

end Store

end ImageCompose
