import ImageCompose.Proofs.Service.Missing
import ImageCompose.Proofs.Service.Search
import ImageCompose.Proofs.Store.Submissions

/-!
# Steps that heed missing jobs

What every step of an operation preserves once the named job was found (`Heeds`): its errors are
inner, and if a missing job matters to it, it fails with that job. A missing job matters if the step
ends differently in a backend that differs in this job alone. Steps that submit jobs do not look at
the store; an action is followed up to the first of them (`ActionHeeds`).
-/

namespace ImageCompose

/-- Two backends take jobs alike, and in a state they show the same of all jobs but one. -/
structure Backend.SameBut {σ : Type} (backend backend' : Backend σ) (st : σ) (y : Uuid) :
    Prop where
  enqueue : backend'.enqueue = backend.enqueue
  /-- All other jobs are shown the same. -/
  job : ∀ id, id ≠ y → (backend'.snapshot st).job id = (backend.snapshot st).job id

section
variable {σ : Type} (backend : Backend σ) (st : σ)

/-- A step of an operation after the named job was found. -/
structure Heeds {α : Type} (step : Backend σ → Except ServiceError α) : Prop where
  /-- Its errors are not about the job that the request names. -/
  inner : ∀ e, step backend = .error e → (backend.snapshot st).Inner e
  /-- If a missing job matters, it is told. -/
  told : ∀ y backend', (backend.snapshot st).Lacks y → backend.SameBut backend' st y →
    step backend = .error (.missingJob y) ∨ step backend' = step backend

end

namespace Heeds

variable {σ α β : Type} {backend : Backend σ} {st : σ}

/-- What does not look at the store, and does not fail as if it did. -/
theorem const {result : Except ServiceError α} (fails : ∀ e, result = .error e → e.NotMissing) :
    Heeds backend st fun _ => result :=
  ⟨fun e failed => .of_notMissing (fails e failed), fun _ _ _ _ => .inr rfl⟩

/-- A step that succeeds without the store. -/
theorem ok (a : α) : Heeds backend st fun _ => .ok a := const nofun

/-- A step that fails without the store, and not because a job is missing. -/
theorem error (e : ServiceError) (present : e.NotMissing) :
    Heeds (α := α) backend st fun _ => .error e :=
  const fun _ failed => Except.error.inj failed ▸ present

/-- A job on a tenant channel is shown to the requests of that channel. -/
theorem ensureChannel {ρ : Type} {job : JobInfo ρ} {channel : String}
    (scope : channel = "" ∨ channel = job.channel) :
    Heeds backend st fun _ => job.ensureChannel channel := by
  rw [JobInfo.ensureChannel_ok scope]
  exact ok ()

/-- Two steps in turn, the second of which may depend on what the first found. -/
theorem bind {x : Backend σ → Except ServiceError α} {f : α → Backend σ → Except ServiceError β}
    (h : Heeds backend st x) (next : ∀ a, x backend = .ok a → Heeds backend st (f a)) :
    Heeds backend st fun b => x b >>= fun a => f a b := by
  cases first : x backend with
  | error e =>
    constructor
    · intro e' failed
      rw [first] at failed
      cases failed
      exact h.inner e first
    · intro y backend' missing same
      rcases h.told y backend' missing same with told | alike
      · exact .inl (by rw [told]; rfl)
      · exact .inr (by rw [alike, first]; rfl)
  | ok a =>
    constructor
    · intro e failed
      rw [first] at failed
      exact (next a first).inner e failed
    · intro y backend' missing same
      rcases h.told y backend' missing same with told | alike
      · exact .inl (by rw [told]; rfl)
      · rw [alike, first]
        exact (next a first).told y backend' missing same

/-- A step for each item of a list. -/
theorem mapM {f : α → Backend σ → Except ServiceError β} {as : List α}
    (each : ∀ a ∈ as, Heeds backend st (f a)) : Heeds backend st fun b => as.mapM (f · b) := by
  induction as with
  | nil => exact ok []
  | cons a rest ih =>
    simp only [List.mapM_cons]
    refine (each a (List.mem_cons_self ..)).bind fun b _ => ?_
    exact (ih fun x hx => each x (List.mem_cons_of_mem _ hx)).bind fun bs _ => ok _

variable (honest : (backend.snapshot st).Honest)
include honest

/-- A question about a known job. -/
theorem job {y : Uuid} (known : (backend.snapshot st).Known y) :
    Heeds backend st fun b => ((b.snapshot st).job y).mapError .ofStore := by
  constructor
  · intro e failed
    cases asked : (backend.snapshot st).job y with
    | ok r =>
      rw [asked] at failed
      cases failed
    | error cause =>
      rw [asked] at failed
      cases failed
      exact Snapshot.inner_ofStore honest known asked
  · intro z backend' missing same
    by_cases named : y = z
    · subst named
      exact .inl (by rw [missing]; rfl)
    · exact .inr (by rw [same.job y named])

/-- The kind of a known job. -/
theorem referredKind {y : Uuid} (known : (backend.snapshot st).Known y) :
    Heeds backend st fun b => (b.snapshot st).referredKind y := by
  have asked : ∀ s : Snapshot, s.referredKind y =
      ((s.job y).mapError .ofStore >>= fun r => .ok r.kind) := by
    intro s
    rw [Snapshot.referredKind, Snapshot.jobKind]
    cases s.job y <;> rfl
  simp only [asked]
  exact (job honest known).bind fun r _ => ok r.kind

/-- A known job with its result decoded. -/
theorem jobInfo {ρ : Type} [ResultOf ρ] {y : Uuid} (known : (backend.snapshot st).Known y) :
    Heeds backend st fun b => ((b.snapshot st).jobInfo y : Except ServiceError (JobInfo ρ)) :=
  (job honest known).bind fun _ _ => const fun _ => JobInfo.notMissing_of_ofRecord

/-- The job that a request names is read first, and shown to the requests of its channel. -/
theorem named {ρ : Type} [ResultOf ρ] {id : Uuid} {r : JobRecord} {channel : String}
    (found : (backend.snapshot st).job id = .ok r) (scope : channel = "" ∨ channel = r.channel)
    {next : JobInfo ρ → Backend σ → Except ServiceError α}
    (rest : ∀ result : ρ, Heeds backend st
      (next ⟨id, r.channel, r.status, r.dependencies, r.dependents, result, r.args, r.result⟩)) :
    Heeds backend st fun b => (do
      let job ← (b.snapshot st).jobInfo id
      job.ensureChannel channel
      next job b) := by
  refine (jobInfo honest (.inl ⟨r, found⟩)).bind fun job read => ?_
  obtain ⟨r', found', -, result, rfl⟩ := Snapshot.jobInfo_ok read
  obtain rfl := Except.ok.inj (found.symm.trans found')
  exact (ensureChannel scope).bind fun _ _ => rest result

/-- A search among known jobs whose visits do not fail for a missing job. -/
theorem search {visit : Uuid → JobRecord → Except ServiceError (Option α)}
    (visits : ∀ id r e, visit id r = .error e → e.NotMissing) {seen queue : List Uuid}
    (known : ∀ id ∈ queue, (backend.snapshot st).Known id) :
    Heeds backend st fun b => (b.snapshot st).search visit seen queue := by
  have step : ∀ (seen queue : List Uuid) (id : Uuid), (backend.snapshot st).Known id →
      (∀ r, (backend.snapshot st).job id = .ok r → visit id r = .ok none →
        Heeds backend st fun b => (b.snapshot st).search visit
          (discover seen queue r.dependencies).1 (discover seen queue r.dependencies).2) →
      Heeds backend st fun b => (b.snapshot st).search visit seen (id :: queue) := by
    intro seen queue id known next
    simp only [Snapshot.search_cons_bind]
    refine (job honest known).bind fun r found => ?_
    refine (const (visits id r)).bind fun answer visited => ?_
    cases answer with
    | some answer => exact ok (some answer)
    | none => exact next r (Except.mapError_eq_ok.1 found) visited
  fun_induction Snapshot.search (backend.snapshot st) visit seen queue with
  | case1 =>
    simp only [Snapshot.search_nil]
    exact ok none
  | case2 seen id queue e failed =>
    refine step seen queue id (known id (List.mem_cons_self ..)) fun r found _ => ?_
    rw [failed] at found
    cases found
  | case3 seen id queue r found e failed =>
    refine step seen queue id (known id (List.mem_cons_self ..)) fun r' found' visited => ?_
    obtain rfl := Except.ok.inj (found.symm.trans found')
    rw [failed] at visited
    cases visited
  | case4 seen id queue r found answer visited =>
    refine step seen queue id (known id (List.mem_cons_self ..)) fun r' found' visited' => ?_
    obtain rfl := Except.ok.inj (found.symm.trans found')
    rw [visited] at visited'
    cases visited'
  | case5 seen id queue r found visited ih =>
    refine step seen queue id (known id (List.mem_cons_self ..)) fun r' found' _ => ?_
    obtain rfl := Except.ok.inj (found.symm.trans found')
    refine ih fun x hx => ?_
    rcases mem_discover hx with hx | hx
    · exact known x (List.mem_cons_of_mem _ hx)
    · exact Snapshot.known_of_dependency found hx

/-- The first error of a known job and of what it depends on. -/
theorem chainError {id : Uuid} (known : (backend.snapshot st).Known id) :
    Heeds backend st fun b => (b.snapshot st).chainError id :=
  search honest (fun _ _ _ => Snapshot.notMissing_of_ownError) fun _ hx =>
    List.mem_singleton.1 hx ▸ known

/-- The nearest job of a kind among known jobs and what they depend on. -/
theorem findDependency {dependencies : List Uuid}
    (known : ∀ d ∈ dependencies, (backend.snapshot st).Known d) (kind : JobKind) :
    Heeds backend st fun b => (b.snapshot st).findDependency dependencies kind :=
  search honest (fun _ _ _ failed => by cases failed) known

/-! ## Images, builds and manifests -/

/-- How far the image of a stored build has come. -/
theorem imageStatus {build : JobInfo BuildResult} (known : (backend.snapshot st).Known build.id)
    (rule : JobStatus → BuildResult → ImageStatusValue) :
    Heeds backend st fun b => (b.snapshot st).imageStatus build rule := by
  refine (chainError honest known).bind fun error _ => ?_
  refine (const fun _ => notMissing_of_uploadStatuses).bind fun uploads _ => ?_
  exact ok _

/-- What is told of an image that goes into Koji. -/
theorem kojiImage {id : Uuid} (known : (backend.snapshot st).Known id) (init : KojiInitResult) :
    Heeds backend st fun b => (b.snapshot st).kojiImage init id := by
  refine (jobInfo honest known).bind fun build read => ?_
  obtain ⟨r, found, -, _, rfl⟩ := Snapshot.jobInfo_ok read
  exact (imageStatus honest (.inl ⟨r, found⟩) _).bind fun image _ => ok _

/-- A known job, if it is a build. -/
theorem kojiBuild {id : Uuid} (known : (backend.snapshot st).Known id) :
    Heeds backend st fun b => (b.snapshot st).kojiBuild id := by
  refine (referredKind honest known).bind fun kind _ => ?_
  by_cases other : kind ≠ .osbuild
  · simp only [if_pos other]
    exact error (.invalidJobType id kind) trivial
  · simp only [if_neg other]
    exact jobInfo honest known

/-- The manifest of the nearest job that resolves one. -/
theorem nearestManifest {build : JobInfo BuildResult}
    (known : ∀ d ∈ build.dependencies, (backend.snapshot st).Known d) :
    Heeds backend st fun b => (b.snapshot st).nearestManifest build := by
  refine (findDependency honest known .manifestIdOnly).bind fun nearest found => ?_
  cases nearest with
  | none => exact error (.missingManifest build.id) trivial
  | some m =>
    obtain ⟨_, r, -, stored, answered⟩ := Snapshot.search_answer
      (fun _ _ _ found _ member => Snapshot.known_of_dependency found member) known found
    split at answered
    · cases answered
      exact (jobInfo honest (.inl ⟨r, stored⟩)).bind fun job _ => ok _
    · cases answered

/-- The manifest of a build whose dependencies are known. -/
theorem manifest {build : JobInfo BuildResult}
    (known : ∀ d ∈ build.dependencies, (backend.snapshot st).Known d) :
    Heeds backend st fun b => (b.snapshot st).manifest build := by
  simp only [Snapshot.manifest_eq]
  refine (const fun _ => notMissing_of_decodeStored).bind fun (args : BuildArgs) _ => ?_
  cases args.manifest with
  | none => exact nearestManifest honest known
  | some manifest =>
    by_cases null : manifest.isNull
    · simp only [null, if_true]
      exact nearestManifest honest known
    · simp only [null]
      exact ok manifest

end Heeds

/-! ## Steps that submit jobs -/

/-- An action that does not look at the store, and fails only if a job is refused. -/
structure Action.Blind {α : Type} (σ : Type) (action : Action α) : Prop where
  /-- It goes the same way in all stores that take jobs alike. -/
  same : ∀ (backend backend' : Backend σ), backend'.enqueue = backend.enqueue →
    ∀ st, action.run backend' st = action.run backend st
  fails : ∀ (backend : Backend σ) st e, (action.run backend st).1 = .error e → e.NotMissing

namespace Action.Blind

variable {σ α β : Type}

/-- A value without a call to the store. -/
theorem pure (a : α) : (Pure.pure a : Action α).Blind σ := ⟨fun _ _ _ _ => rfl, nofun⟩

/-- A submission does not look at the store. -/
theorem enqueue (args : JobArgs) (dependencies : List Uuid) (channel : String) :
    (Action.enqueue args dependencies channel).Blind σ where
  same backend backend' taken st := by
    have run : ∀ b : Backend σ, (Action.enqueue args dependencies channel).run b st =
        let ended := b.enqueue ⟨args.kind, args.toJson, dependencies, channel⟩ st
        (ended.1.mapError (.enqueue args.kind), ended.2) := fun _ => rfl
    rw [run, run, taken]
  fails backend st e failed := by
    replace failed : (backend.enqueue _ st).1.mapError _ = .error e := failed
    cases answer : (backend.enqueue _ st).1 with
    | ok id =>
      rw [answer] at failed
      cases failed
    | error cause =>
      rw [answer] at failed
      cases failed
      exact trivial

/-- Two actions in turn. -/
theorem bind {action : Action α} {f : α → Action β} (first : action.Blind σ)
    (next : ∀ a, (f a).Blind σ) : (action >>= f).Blind σ where
  same backend backend' taken st := by
    rw [Action.run_bind, Action.run_bind, first.same backend backend' taken st]
    split
    · exact (next _).same backend backend' taken _
    · rfl
  fails backend st e failed := by
    rw [Action.run_bind] at failed
    split at failed
    · exact (next _).fails backend _ e failed
    · next e' _ refused =>
      cases failed
      exact first.fails backend st e (by rw [refused])

/-- A choice that was made before the store is asked. -/
theorem ite {c : Prop} [Decidable c] {yes no : Action α} (left : yes.Blind σ)
    (right : no.Blind σ) : (if c then yes else no).Blind σ := by
  split
  · exact left
  · exact right

end Action.Blind

/-- An action after the named job was found. -/
structure ActionHeeds {σ α : Type} (backend : Backend σ) (st : σ) (action : Action α) : Prop where
  /-- Its errors are not about the job that the request names. -/
  inner : ∀ e, (action.run backend st).1 = .error e → (backend.snapshot st).Inner e
  /-- If a missing job matters, it is told. -/
  told : ∀ y backend', (backend.snapshot st).Lacks y → backend.SameBut backend' st y →
    (action.run backend st).1 = .error (.missingJob y) ∨
      action.run backend' st = action.run backend st

namespace ActionHeeds

variable {σ α β : Type} {backend : Backend σ} {st : σ}

/-- What an action tells, it tells as a step. -/
theorem heeds {action : Action α} (h : ActionHeeds backend st action) :
    Heeds backend st fun b => (action.run b st).1 :=
  ⟨h.inner, fun y backend' missing same =>
    (h.told y backend' missing same).imp_right fun alike => by rw [alike]⟩

/-- An action that does not look at the store takes no heed of the missing job. -/
theorem blind {action : Action α} (h : action.Blind σ) : ActionHeeds backend st action :=
  ⟨fun e failed => .of_notMissing (h.fails backend st e failed),
    fun _ _ _ same => .inr (h.same backend _ same.enqueue st)⟩

/-- A step that only asks the store, and an action after it. -/
theorem reads_bind {action : Action α} {f : α → Action β} {step : Backend σ → Except ServiceError α}
    (run : ∀ b, action.run b st = (step b, st)) (h : Heeds backend st step)
    (next : ∀ a, step backend = .ok a → ActionHeeds backend st (f a)) :
    ActionHeeds backend st (action >>= f) := by
  have failed_first : ∀ b e, step b = .error e → (action >>= f).run b st = (.error e, st) :=
    fun b e first => Action.run_bind_of_error f ((run b).trans (by rw [first]))
  have went_on : ∀ b a, step b = .ok a → (action >>= f).run b st = (f a).run b st :=
    fun b a first => Action.run_bind_of_ok f ((run b).trans (by rw [first]))
  cases first : step backend with
  | error e =>
    constructor
    · intro e' failed
      rw [failed_first backend e first] at failed
      cases failed
      exact h.inner e first
    · intro y backend' missing same
      rw [failed_first backend e first]
      rcases h.told y backend' missing same with told | alike
      · rw [first] at told
        cases told
        exact .inl rfl
      · exact .inr (failed_first backend' e (alike.trans first))
  | ok a =>
    constructor
    · intro e failed
      rw [went_on backend a first] at failed
      exact (next a first).inner e failed
    · intro y backend' missing same
      rw [went_on backend a first]
      rcases h.told y backend' missing same with told | alike
      · rw [first] at told
        cases told
      · rw [went_on backend' a (alike.trans first)]
        exact (next a first).told y backend' missing same

/-- An action, and one after it that does not look at the store. -/
theorem blind_bind {action : Action α} {f : α → Action β} (h : ActionHeeds backend st action)
    (next : ∀ a, (f a).Blind σ) : ActionHeeds backend st (action >>= f) := by
  constructor
  · intro e failed
    rw [Action.run_bind] at failed
    split at failed
    · exact .of_notMissing ((next _).fails backend _ e failed)
    · next e' _ first =>
      cases failed
      exact h.inner e (by rw [first])
  · intro y backend' missing same
    rw [Action.run_bind, Action.run_bind]
    rcases h.told y backend' missing same with told | alike
    · left
      split
      · next ended =>
        rw [ended] at told
        cases told
      · next ended =>
        rw [ended] at told
        cases told
        rfl
    · right
      rw [alike]
      split
      · exact (next _).same backend backend' same.enqueue _
      · rfl

variable (honest : (backend.snapshot st).Honest)
include honest

/-- The search for a copy among known jobs. -/
theorem findCopy (region : String) {dependents : List Uuid}
    (known : ∀ d ∈ dependents, (backend.snapshot st).Known d) :
    ActionHeeds backend st (ImageCompose.findCopy region dependents) := by
  induction dependents with
  | nil => exact blind (.pure none)
  | cons dependent rest ih =>
    have known_dependent := known dependent (List.mem_cons_self ..)
    have further := ih fun d hd => known d (List.mem_cons_of_mem _ hd)
    refine reads_bind (fun _ => rfl) (Heeds.referredKind honest known_dependent) fun kind _ => ?_
    by_cases other : kind ≠ .awsEc2Copy
    · rw [if_pos other]
      exact further
    · rw [if_neg other]
      refine reads_bind (fun _ => rfl) (Heeds.jobInfo honest known_dependent)
        fun (copy : JobInfo CopyResult) _ => ?_
      refine reads_bind (fun _ => rfl) (.const fun _ => notMissing_of_decodeStored)
        fun (args : CopyArgs) _ => ?_
      split
      · exact blind (.pure (some dependent))
      · exact further

/-- A clone of a stored build. -/
theorem copyInto {build : JobInfo BuildResult}
    (known : ∀ d ∈ build.dependents, (backend.snapshot st).Known d) (source : CloneSource)
    (region : String) (name : Uuid) (channel : String) :
    ActionHeeds backend st (ImageCompose.copyInto build source region name channel) := by
  refine blind_bind (findCopy honest region known) fun found => ?_
  cases found with
  | none => exact .enqueue ..
  | some copy => exact .pure copy

end ActionHeeds

end ImageCompose
