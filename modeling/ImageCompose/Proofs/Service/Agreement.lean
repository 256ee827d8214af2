import ImageCompose.Proofs.Service.Operations
import ImageCompose.Proofs.Service.Search

/-!
# Stores that agree on some jobs

What is answered about a job depends on its record and on the jobs that it waits for, directly or
not, but never on the jobs that wait for it. So let two stores show the same of some jobs, those
that wait for them apart, and let these jobs wait only for one another (`Snapshot.Agree`). Then
every operation that reads one of them answers alike in both stores. The proofs follow the
operations step by step: wherever one goes on with a job that it has read, it goes on with jobs that
are the same (`JobInfo.Same`).
-/

namespace ImageCompose

/-- Two readings of a job differ at most in the jobs that wait for it. -/
def JobInfo.Same {ρ : Type} (job job' : JobInfo ρ) : Prop :=
  ∃ waiting, job' = { job with dependents := waiting }

namespace Snapshot

/-- Two stores show the same of a job, the jobs that wait for it apart. -/
def SameJob (s s' : Snapshot) (id : Uuid) : Prop :=
  ∃ r waiting, s.job id = .ok r ∧ s'.job id = .ok { r with dependents := waiting }

variable {s s' : Snapshot} {id : Uuid}

namespace SameJob

/-- A job that is shown the same has the same kind for a request that names it. -/
theorem composeKind (h : SameJob s s' id) : s.composeKind id = s'.composeKind id := by
  obtain ⟨r, waiting, found, found'⟩ := h
  rw [composeKind_of_job found, composeKind_of_job found']

/-- So it has for a job that refers to it. -/
theorem referredKind (h : SameJob s s' id) : s.referredKind id = s'.referredKind id := by
  obtain ⟨r, waiting, found, found'⟩ := h
  rw [referredKind_of_job found, referredKind_of_job found']

/-- A job that is shown the same is read the same, with the dependencies that are shown. -/
theorem jobInfo {ρ : Type} [ResultOf ρ] (h : SameJob s s' id) :
    Alike (fun job job' : JobInfo ρ => job.Same job' ∧ job.id = id ∧
        ∃ r, s.job id = .ok r ∧ r.dependencies = job.dependencies)
      (s.jobInfo id) (s'.jobInfo id) := by
  obtain ⟨r, waiting, found, found'⟩ := h
  rw [jobInfo_of_job found, jobInfo_of_job found', JobInfo.ofRecord, JobInfo.ofRecord]
  by_cases kind : r.kind ≠ ResultOf.kind ρ
  · rw [if_pos kind, if_pos kind]
    exact .error _
  · rw [if_neg kind, if_neg kind]
    cases r.result with
    | none => exact .ok ⟨⟨waiting, rfl⟩, rfl, r, found, rfl⟩
    | some v =>
      refine (Alike.refl _).bind fun result _ e => ?_
      subst e
      exact .ok ⟨⟨waiting, rfl⟩, rfl, r, found, rfl⟩

/-- The metadata of a compose is read off its own job. -/
theorem composeMetadata (h : SameJob s s' id) (channel : String) :
    s.composeMetadata id channel = s'.composeMetadata id channel := by
  rw [Snapshot.composeMetadata, Snapshot.composeMetadata, h.composeKind]
  refine ((Alike.refl _).bind fun kind _ e => ?_).eq
  subst e
  by_cases other : kind ≠ .osbuild
  · rw [if_pos other, if_pos other]
    exact .refl _
  · rw [if_neg other, if_neg other]
    refine h.jobInfo.bind fun build build' same => ?_
    obtain ⟨⟨waiting, rfl⟩, -⟩ := same
    exact .refl _

/-- The status of a clone is read off its own job. -/
theorem cloneStatus (h : SameJob s s' id) (channel : String) :
    s.cloneStatus id channel = s'.cloneStatus id channel := by
  rw [Snapshot.cloneStatus, Snapshot.cloneStatus, h.composeKind]
  refine ((Alike.refl _).bind fun kind _ e => ?_).eq
  subst e
  cases kind with
  | awsEc2Copy =>
    refine h.jobInfo.bind fun copy copy' same => ?_
    obtain ⟨⟨waiting, rfl⟩, -⟩ := same
    exact .refl _
  | awsEc2Share =>
    refine h.jobInfo.bind fun share share' same => ?_
    obtain ⟨⟨waiting, rfl⟩, -⟩ := same
    exact .refl _
  | _ => exact .error _

end SameJob

/-- Two stores give the same answers about a job to the requests of a tenant channel. -/
structure SameAnswers (s s' : Snapshot) (id : Uuid) (channel : String) : Prop where
  status : s.composeStatus id channel = s'.composeStatus id channel
  metadata : s.composeMetadata id channel = s'.composeMetadata id channel
  logs : s.composeLogs id channel = s'.composeLogs id channel
  manifests : s.composeManifests id channel = s'.composeManifests id channel
  cloneStatus : s.cloneStatus id channel = s'.cloneStatus id channel

/-- About a job that is no compose, two stores answer the same if they show the same of it. -/
theorem SameJob.answers (h : SameJob s s' id) {k : JobKind} (kind : s.composeKind id = .ok k)
    (other : k ∉ [.osbuild, .kojiFinalize]) (channel : String) : SameAnswers s s' id channel := by
  have kind' : s'.composeKind id = .ok k := h.composeKind ▸ kind
  constructor
  · rw [(serves_composeStatus s id channel).refused kind other,
      (serves_composeStatus s' id channel).refused kind' other]
  · exact h.composeMetadata channel
  · rw [(serves_composeLogs s id channel).refused kind other,
      (serves_composeLogs s' id channel).refused kind' other]
  · rw [(serves_composeManifests s id channel).refused kind other,
      (serves_composeManifests s' id channel).refused kind' other]
  · exact h.cloneStatus channel

/-- Two stores agree on some jobs: they show the same of them, and these jobs wait only for one
another. -/
structure Agree (s s' : Snapshot) (P : Uuid → Prop) : Prop where
  /-- Both show the same of these jobs. -/
  same : ∀ {id}, P id → SameJob s s' id
  /-- These jobs wait only for one another. -/
  closed : ∀ {id r}, P id → s.job id = .ok r → ∀ d ∈ r.dependencies, P d

namespace Agree

variable {P : Uuid → Prop} (agree : Agree s s' P)
include agree

/-- A job is read the same, and waits for jobs that the stores agree on. -/
theorem jobInfo {ρ : Type} [ResultOf ρ] (h : P id) :
    Alike (fun job job' : JobInfo ρ => job.Same job' ∧ job.id = id ∧ ∀ d ∈ job.dependencies, P d)
      (s.jobInfo id) (s'.jobInfo id) := by
  refine (agree.same h).jobInfo.mono fun job job' related => ?_
  obtain ⟨same, same_id, r, found, waits⟩ := related
  exact ⟨same, same_id, waits ▸ agree.closed h found⟩

/-- A search that never looks at the jobs that wait for one ends alike. -/
theorem search {α : Type} {visit : Uuid → JobRecord → Except ServiceError (Option α)}
    (blind : ∀ id r waiting, visit id { r with dependents := waiting } = visit id r)
    {seen queue : List Uuid} (start : ∀ id ∈ queue, P id) :
    s.search visit seen queue = s'.search visit seen queue := by
  refine search_congr (fun id h => ?_) start
  obtain ⟨r, waiting, found, found'⟩ := agree.same h
  rw [found, found']
  exact .ok ⟨(blind id r waiting).symm, rfl, agree.closed h found⟩

/-- The error behind a job is the same. -/
theorem chainError (h : P id) : s.chainError id = s'.chainError id :=
  agree.search (fun _ _ _ => rfl) fun _ hx => List.mem_singleton.1 hx ▸ h

/-- The nearest job of a kind is the same. -/
theorem findDependency {dependencies : List Uuid} (h : ∀ d ∈ dependencies, P d) (kind : JobKind) :
    s.findDependency dependencies kind = s'.findDependency dependencies kind :=
  agree.search (fun _ _ _ => rfl) h

/-- The nearest job of a kind is one that the stores agree on. -/
theorem findDependency_mem {dependencies : List Uuid} (h : ∀ d ∈ dependencies, P d)
    {kind : JobKind} {m : Uuid} (found : s.findDependency dependencies kind = .ok (some m)) :
    P m := by
  obtain ⟨id, r, known, -, answered⟩ := search_answer (fun _ _ => agree.closed) h found
  split at answered
  · cases answered
    exact known
  · cases answered

/-- The image of a build has one status. -/
theorem imageStatus {build build' : JobInfo BuildResult} (same : build.Same build')
    (h : P build.id) (rule : JobStatus → BuildResult → ImageStatusValue) :
    s.imageStatus build rule = s'.imageStatus build' rule := by
  obtain ⟨waiting, rfl⟩ := same
  rw [Snapshot.imageStatus, Snapshot.imageStatus, agree.chainError h]

/-- An image that goes into Koji has one status. -/
theorem kojiImage (h : P id) (init : KojiInitResult) :
    s.kojiImage init id = s'.kojiImage init id := by
  refine ((agree.jobInfo h).bind fun build build' related => ?_).eq
  obtain ⟨same, rfl, -⟩ := related
  rw [agree.imageStatus same h]
  obtain ⟨waiting, rfl⟩ := same
  exact .refl _

omit agree in
/-- A chain is the same where it is read off the same dependencies, and consists of some of them. -/
theorem ofFinalize {dependencies : List Uuid} (closed : ∀ d ∈ dependencies, P d) :
    Alike (fun chain chain' => chain = chain' ∧ P chain.init ∧ ∀ b ∈ chain.builds, P b)
      (KojiChain.ofFinalize id dependencies) (KojiChain.ofFinalize id dependencies) := by
  cases chained : KojiChain.ofFinalize id dependencies with
  | error e => exact .error e
  | ok chain =>
    rw [← KojiChain.finalizeDependencies_of_ofFinalize chained] at closed
    exact .ok ⟨rfl, List.forall_mem_cons.1 closed⟩

/-- The status of a compose is told the same. -/
theorem composeStatus (h : P id) (channel : String) :
    s.composeStatus id channel = s'.composeStatus id channel := by
  rw [Snapshot.composeStatus, Snapshot.composeStatus, (agree.same h).composeKind]
  refine ((Alike.refl _).bind fun kind _ e => ?_).eq
  subst e
  cases kind with
  | osbuild =>
    refine (agree.jobInfo h).bind fun build build' related => ?_
    obtain ⟨same, rfl, -⟩ := related
    rw [agree.imageStatus same h]
    obtain ⟨waiting, rfl⟩ := same
    exact .refl _
  | kojiFinalize =>
    refine (agree.jobInfo h).bind fun finalize finalize' related => ?_
    obtain ⟨⟨waiting, rfl⟩, -, closed⟩ := related
    -- The check of the channel looks at the same job.
    refine (Alike.refl _).bind fun _ _ _ => ?_
    refine (ofFinalize closed).bind fun chain _ related => ?_
    obtain ⟨rfl, init_closed, builds_closed⟩ := related
    refine (agree.jobInfo init_closed).bind fun init init' related => ?_
    obtain ⟨⟨_, rfl⟩, -⟩ := related
    have images : chain.builds.mapM (s.kojiImage init.result) =
        chain.builds.mapM (s'.kojiImage init.result) :=
      Except.mapM_congr fun b hb => agree.kojiImage (builds_closed b hb) init.result
    refine (Alike.of_eq images).bind fun told _ same => ?_
    subst same
    exact .refl _
  | _ => exact .error _

/-- A build of a compose in Koji is read the same. -/
theorem kojiBuild (h : P id) :
    Alike (fun build build' : JobInfo BuildResult => build.Same build' ∧
      ∀ d ∈ build.dependencies, P d) (s.kojiBuild id) (s'.kojiBuild id) := by
  rw [Snapshot.kojiBuild, Snapshot.kojiBuild, (agree.same h).referredKind]
  refine (Alike.refl _).bind fun kind _ e => ?_
  subst e
  by_cases other : kind ≠ .osbuild
  · rw [if_pos other, if_pos other]
    exact .error _
  · rw [if_neg other, if_neg other]
    exact (agree.jobInfo h).mono fun build build' related => ⟨related.1, related.2.2⟩

/-- The logs of a compose are told the same. -/
theorem composeLogs (h : P id) (channel : String) :
    s.composeLogs id channel = s'.composeLogs id channel := by
  rw [Snapshot.composeLogs, Snapshot.composeLogs, (agree.same h).composeKind]
  refine ((Alike.refl _).bind fun kind _ e => ?_).eq
  subst e
  cases kind with
  | osbuild =>
    refine (agree.jobInfo h).bind fun build build' related => ?_
    obtain ⟨⟨waiting, rfl⟩, -⟩ := related
    exact .refl _
  | kojiFinalize =>
    refine (agree.jobInfo h).bind fun finalize finalize' related => ?_
    obtain ⟨⟨waiting, rfl⟩, -, closed⟩ := related
    refine (Alike.refl _).bind fun _ _ _ => ?_
    refine (ofFinalize closed).bind fun chain _ related => ?_
    obtain ⟨rfl, init_closed, builds_closed⟩ := related
    refine (agree.jobInfo init_closed).bind fun init init' related => ?_
    obtain ⟨⟨_, rfl⟩, -⟩ := related
    refine (Alike.mapM fun b hb => agree.kojiBuild (builds_closed b hb)).bind
      fun builds builds' same => ?_
    have logs : builds.map JobInfo.log = builds'.map JobInfo.log := by
      induction same with
      | nil => rfl
      | cons related _ ih =>
        obtain ⟨⟨_, rfl⟩, -⟩ := related
        rw [List.map_cons, List.map_cons, ih]
        rfl
    rw [logs]
    exact .refl _
  | _ => exact .error _

/-- The manifest of a build is the same. -/
theorem manifest {build build' : JobInfo BuildResult} (same : build.Same build')
    (closed : ∀ d ∈ build.dependencies, P d) : s.manifest build = s'.manifest build' := by
  obtain ⟨waiting, rfl⟩ := same
  -- The search is only reached if the arguments hold no manifest, but it goes alike in any case, so
  -- what it finds is settled before the arguments are looked at.
  have same_nearest := agree.findDependency closed .manifestIdOnly
  cases found : s.findDependency build.dependencies .manifestIdOnly with
  | error e =>
    rw [Snapshot.manifest, Snapshot.manifest, ← same_nearest, found]
    rfl
  | ok nearest =>
    rw [Snapshot.manifest, Snapshot.manifest, ← same_nearest, found]
    cases nearest with
    | none => rfl
    | some m =>
      have resolved : Alike Eq
          (do let job : JobInfo ManifestResult ← s.jobInfo m; return job.result.manifest.getD .null)
          (do let job : JobInfo ManifestResult ← s'.jobInfo m
              return job.result.manifest.getD .null) := by
        have known := agree.findDependency_mem closed found
        refine (agree.jobInfo known).bind fun job job' related => ?_
        obtain ⟨⟨_, rfl⟩, -⟩ := related
        exact .refl _
      refine ((Alike.refl _).bind fun args _ e => ?_).eq
      subst e
      split
      · split
        · exact .refl _
        · exact resolved
      · exact resolved

/-- The manifests of a compose are told the same. -/
theorem composeManifests (h : P id) (channel : String) :
    s.composeManifests id channel = s'.composeManifests id channel := by
  rw [Snapshot.composeManifests, Snapshot.composeManifests, (agree.same h).composeKind]
  refine ((Alike.refl _).bind fun kind _ e => ?_).eq
  subst e
  cases kind with
  | osbuild =>
    refine (agree.jobInfo h).bind fun build build' related => ?_
    obtain ⟨same, -, closed⟩ := related
    rw [agree.manifest same closed]
    obtain ⟨waiting, rfl⟩ := same
    exact .refl _
  | kojiFinalize =>
    refine (agree.jobInfo h).bind fun finalize finalize' related => ?_
    obtain ⟨⟨waiting, rfl⟩, -, closed⟩ := related
    refine (Alike.refl _).bind fun _ _ _ => ?_
    refine (ofFinalize closed).bind fun chain _ related => ?_
    obtain ⟨rfl, -, builds_closed⟩ := related
    have manifests : (chain.builds.mapM fun b => do s.manifest (← s.kojiBuild b)) =
        (chain.builds.mapM fun b => do s'.manifest (← s'.kojiBuild b)) := by
      refine Except.mapM_congr fun b hb => ?_
      refine ((agree.kojiBuild (builds_closed b hb)).bind fun build build' related => ?_).eq
      rw [agree.manifest related.1 related.2]
      exact .refl _
    refine (Alike.of_eq manifests).bind fun told _ same => ?_
    subst same
    exact .refl _
  | _ => exact .error _

/-- About a job that two stores agree on, they give the same answers. -/
theorem answers (h : P id) (channel : String) : SameAnswers s s' id channel where
  status := agree.composeStatus h channel
  metadata := (agree.same h).composeMetadata channel
  logs := agree.composeLogs h channel
  manifests := agree.composeManifests h channel
  cloneStatus := (agree.same h).cloneStatus channel

end Agree

end Snapshot

end ImageCompose
