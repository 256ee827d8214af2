import ImageCompose.Proofs.Service.Heeds
import ImageCompose.Proofs.Store.Run

/-!
# What is not found

A job that a request names and that is not there is an error of the request. A job that is missing
anywhere else, and that the operation depends on, makes the operation fail with its identifier
(`Operation.missing_job`). The first read of an operation is of the named job; the steps after it
heed missing jobs.
-/

namespace ImageCompose

/-- What an operation on the job that a request names tells of missing jobs. -/
structure MissingTold {σ α : Type} (backend : Backend σ) (st : σ) (id : Uuid)
    (op : Backend σ → Except ServiceError α) : Prop where
  /-- It says that a job is not found exactly if the named one is missing. -/
  notFound : ∀ x, op backend = .error (.composeNotFound x) ↔ x = id ∧ (backend.snapshot st).Lacks id
  /-- It tells a missing job that it reads: one about which another answer, and nothing else, would
  make a difference. -/
  told : ∀ y, y ≠ id → (backend.snapshot st).Lacks y →
    (∃ backend', backend.SameBut backend' st y ∧ op backend' ≠ op backend) →
      op backend = .error (.missingJob y)
  /-- A job that it says is missing is, and it is one that a stored job lists. -/
  right : ∀ y, op backend = .error (.missingJob y) →
    (backend.snapshot st).Lacks y ∧ y ≠ id ∧ (backend.snapshot st).Lists y

section
variable {σ α : Type} {backend : Backend σ} {st : σ} {id : Uuid} {channel : String}
  (honest : (backend.snapshot st).Honest)
include honest

/-- An operation that asks for the kind of the named job first, and then heeds missing jobs. -/
theorem MissingTold.of_heeds {rest : JobKind → Backend σ → Except ServiceError α}
    (heeds : ∀ r, (backend.snapshot st).job id = .ok r → Heeds backend st (rest r.kind)) :
    MissingTold backend st id fun b =>
      (b.snapshot st).composeKind id >>= fun kind => rest kind b := by
  cases asked : (backend.snapshot st).job id with
  | ok r =>
    have kind := Snapshot.composeKind_of_job asked
    have heeds := heeds r asked
    have present : ¬(backend.snapshot st).Lacks id := by
      intro missing
      rw [Snapshot.Lacks, asked] at missing
      cases missing
    have answered : ((backend.snapshot st).composeKind id >>= fun kind => rest kind backend) =
        rest r.kind backend := by rw [kind]; rfl
    constructor
    · intro x
      rw [answered]
      exact ⟨fun failed => absurd rfl ((heeds.inner _ failed).found x),
        fun missing => absurd missing.2 present⟩
    · rintro y other missing ⟨backend', same, differs⟩
      have asked' : (backend'.snapshot st).job id = .ok r := (same.job id other.symm).trans asked
      rw [answered, Snapshot.composeKind_of_job asked'] at differs
      rw [answered]
      exact (heeds.told y backend' missing same).resolve_right differs
    · intro y failed
      rw [answered] at failed
      obtain ⟨missing, listed⟩ := (heeds.inner _ failed).missing y rfl
      exact ⟨missing, fun same => present (same ▸ missing), listed⟩
  | error cause =>
    obtain ⟨e, failed, blame⟩ : ∃ e, (backend.snapshot st).composeKind id = .error e ∧
        (e = .composeNotFound id ∧ (backend.snapshot st).Lacks id ∨
          e.NotMissing ∧ ¬(backend.snapshot st).Lacks id) := by
      cases cause with
      | notFound x =>
        obtain rfl := honest _ _ asked
        exact ⟨_, Snapshot.composeKind_of_missing asked, .inl ⟨rfl, asked⟩⟩
      | malformed | kindMismatch | database =>
        refine ⟨_, by rw [Snapshot.composeKind, Snapshot.jobKind, asked]; rfl, .inr ⟨?_, ?_⟩⟩
        · exact trivial
        · intro missing
          rw [Snapshot.Lacks, asked] at missing
          cases missing
    have answered : ((backend.snapshot st).composeKind id >>= fun kind => rest kind backend) =
        .error e := by rw [failed]; rfl
    constructor
    · intro x
      rw [answered, Except.error.injEq]
      rcases blame with ⟨rfl, missing⟩ | ⟨other, present⟩
      · exact ⟨fun same => by cases same; exact ⟨rfl, missing⟩, fun h => h.1 ▸ rfl⟩
      · exact ⟨fun same => absurd same (other.found x), fun h => absurd h.2 present⟩
    · rintro y other missing ⟨backend', same, differs⟩
      have failed' : (backend'.snapshot st).composeKind id = .error e := by
        rw [Snapshot.composeKind, Snapshot.jobKind, same.job id other.symm]
        exact failed
      rw [failed, failed'] at differs
      exact absurd rfl differs
    · intro y told
      rw [answered, Except.error.injEq] at told
      rcases blame with ⟨rfl, -⟩ | ⟨other, -⟩
      · cases told
      · exact absurd told (other.present y)

/-! ## The operations -/

variable (scope : ∀ r, (backend.snapshot st).job id = .ok r → channel = "" ∨ channel = r.channel)
include scope

/-- The status of a compose tells of missing jobs as it should. -/
theorem missingTold_composeStatus :
    MissingTold backend st id fun b => (b.snapshot st).composeStatus id channel := by
  refine .of_heeds honest fun r found => ?_
  cases r.kind with
  | osbuild =>
    refine Heeds.named honest found (scope r found) fun (_ : BuildResult) => ?_
    exact (Heeds.imageStatus honest (.inl ⟨r, found⟩) _).bind fun image _ => .ok _
  | kojiFinalize =>
    refine Heeds.named honest found (scope r found) fun (_ : KojiFinalizeResult) => ?_
    refine (Heeds.const fun _ => KojiChain.notMissing_of_ofFinalize).bind fun chain chained => ?_
    obtain ⟨known_init, known_builds⟩ := Snapshot.known_chain found chained
    refine (Heeds.jobInfo honest known_init).bind fun init _ => ?_
    refine (Heeds.mapM fun b hb => Heeds.kojiImage honest (known_builds b hb) init.result).bind
      fun images _ => ?_
    cases images with
    | nil => exact .error (.malformedChain id r.dependencies.length) trivial
    | cons image images => exact .ok _
  | manifestIdOnly | kojiInit | awsEc2Copy | awsEc2Share =>
    exact .error (.invalidJobType id _) trivial

/-- So does the metadata of a compose, which comes from a single job. -/
theorem missingTold_composeMetadata :
    MissingTold backend st id fun b => (b.snapshot st).composeMetadata id channel := by
  refine .of_heeds honest fun r found => ?_
  by_cases other : r.kind ≠ .osbuild
  · simp only [if_pos other]
    exact .error (.invalidJobType id r.kind) trivial
  · simp only [if_neg other]
    refine Heeds.named honest found (scope r found) fun (result : BuildResult) => ?_
    refine .const fun e failed => ?_
    rcases Except.bind_error failed with failed | ⟨args, -, failed⟩
    · exact notMissing_of_decodeStored failed
    split at failed
    · cases failed
    split at failed
    · cases failed
      exact trivial
    · rcases Except.bind_error failed with failed | ⟨stages, -, failed⟩
      · exact notMissing_of_payloadStages failed
      · cases failed

/-- The logs of a compose tell of missing jobs as the status does. -/
theorem missingTold_composeLogs :
    MissingTold backend st id fun b => (b.snapshot st).composeLogs id channel := by
  refine .of_heeds honest fun r found => ?_
  cases r.kind with
  | osbuild => exact Heeds.named honest found (scope r found) fun (_ : BuildResult) => .ok _
  | kojiFinalize =>
    refine Heeds.named honest found (scope r found) fun (_ : KojiFinalizeResult) => ?_
    refine (Heeds.const fun _ => KojiChain.notMissing_of_ofFinalize).bind fun chain chained => ?_
    obtain ⟨known_init, known_builds⟩ := Snapshot.known_chain found chained
    refine (Heeds.jobInfo honest known_init).bind fun (init : JobInfo KojiInitResult) _ => ?_
    refine (Heeds.mapM fun b hb => Heeds.kojiBuild honest (known_builds b hb)).bind
      fun builds _ => ?_
    exact .ok _
  | manifestIdOnly | kojiInit | awsEc2Copy | awsEc2Share =>
    exact .error (.invalidJobType id _) trivial

/-- So do its manifests, also where a manifest is looked for among what a build waits for. -/
theorem missingTold_composeManifests :
    MissingTold backend st id fun b => (b.snapshot st).composeManifests id channel := by
  refine .of_heeds honest fun r found => ?_
  have known : ∀ d ∈ r.dependencies, (backend.snapshot st).Known d :=
    fun d member => Snapshot.known_of_dependency found member
  cases r.kind with
  | osbuild =>
    refine Heeds.named honest found (scope r found) fun (_ : BuildResult) => ?_
    exact (Heeds.manifest honest known).bind fun manifest _ => .ok _
  | kojiFinalize =>
    refine Heeds.named honest found (scope r found) fun (_ : KojiFinalizeResult) => ?_
    refine (Heeds.const fun _ => KojiChain.notMissing_of_ofFinalize).bind fun chain chained => ?_
    have known_builds := (Snapshot.known_chain found chained).2
    have manifests : Heeds backend st fun b => chain.builds.mapM fun build => (do
        (b.snapshot st).manifest (← (b.snapshot st).kojiBuild build)) := by
      refine Heeds.mapM fun build member => ?_
      refine (Heeds.kojiBuild honest (known_builds build member)).bind fun job read => ?_
      exact Heeds.manifest honest (Snapshot.known_of_kojiBuild read)
    exact manifests.bind fun told _ => .ok _
  | manifestIdOnly | kojiInit | awsEc2Copy | awsEc2Share =>
    exact .error (.invalidJobType id _) trivial

/-- The status of a clone comes from a single job. -/
theorem missingTold_cloneStatus :
    MissingTold backend st id fun b => (b.snapshot st).cloneStatus id channel := by
  refine .of_heeds honest fun r found => ?_
  cases r.kind with
  | awsEc2Copy => exact Heeds.named honest found (scope r found) fun (_ : CopyResult) => .ok _
  | awsEc2Share => exact Heeds.named honest found (scope r found) fun (_ : ShareResult) => .ok _
  | osbuild | manifestIdOnly | kojiInit | kojiFinalize =>
    exact .error (.invalidJobType id _) trivial

/-- A clone asks for the build, and for the jobs that wait for it where a copy may be reused. -/
theorem missingTold_cloneCompose (request : CloneRequest) (fresh : Fresh) :
    MissingTold backend st id fun b =>
      ((cloneCompose id request fresh channel).run b st).1 := by
  have asked : ∀ (b : Backend σ) (f : JobKind → Action CloneId),
      ((Action.composeKind id >>= f).run b st).1 =
        ((b.snapshot st).composeKind id >>= fun kind => ((f kind).run b st).1) := by
    intro b f
    rw [Action.run_composeKind_bind]
    cases (b.snapshot st).composeKind id <;> rfl
  simp only [cloneCompose, asked]
  refine .of_heeds honest fun r found => ?_
  have known : ∀ d ∈ r.dependents, (backend.snapshot st).Known d :=
    fun d member => .inr ⟨id, r, found, .inr member⟩
  by_cases other : r.kind ≠ .osbuild
  · simp only [if_pos other]
    exact .error (.invalidJobType id r.kind) trivial
  simp only [if_neg other]
  refine ActionHeeds.heeds ?_
  refine .reads_bind (fun _ => rfl) (Heeds.jobInfo honest (.inl ⟨r, found⟩))
    fun (build : JobInfo BuildResult) read => ?_
  obtain ⟨r', found', -, result, rfl⟩ := Snapshot.jobInfo_ok read
  obtain rfl := Except.ok.inj (found.symm.trans found')
  refine .reads_bind (fun _ => rfl) (Heeds.ensureChannel (scope r found)) fun _ _ => ?_
  refine .reads_bind (fun _ => rfl) (.const fun _ => CloneSource.notMissing_of_ofBuild)
    fun source _ => ?_
  split
  · refine (ActionHeeds.copyInto honest known source _ _ _).blind_bind fun image => .ite ?_ ?_
    · exact Action.Blind.bind (.pure image) fun last => .pure _
    · exact Action.Blind.bind (.enqueue ..) fun last => .pure _
  · refine ActionHeeds.blind (Action.Blind.bind (.pure id) fun image => .ite ?_ ?_)
    · exact Action.Blind.bind (.pure image) fun last => .pure _
    · exact Action.Blind.bind (.enqueue ..) fun last => .pure _

end

/-- An operation on a job that a request names. -/
inductive Operation
  | composeStatus
  | composeMetadata
  | composeLogs
  | composeManifests
  | cloneStatus
  | cloneCompose (request : CloneRequest) (fresh : Fresh)

namespace Operation

/-- What an operation answers with. -/
abbrev Answer : Operation → Type
  | composeStatus => ComposeStatus
  | composeMetadata => ComposeMetadata
  | composeLogs => ComposeLogs
  | composeManifests => ComposeManifests
  | cloneStatus => CloneStatus
  | cloneCompose .. => CloneId

/-- What an operation ends in on a tenant channel. -/
def result (op : Operation) (id : Uuid) (channel : String) (st : σ) (backend : Backend σ) :
    Except ServiceError op.Answer :=
  match op with
  | composeStatus => (backend.snapshot st).composeStatus id channel
  | composeMetadata => (backend.snapshot st).composeMetadata id channel
  | composeLogs => (backend.snapshot st).composeLogs id channel
  | composeManifests => (backend.snapshot st).composeManifests id channel
  | cloneStatus => (backend.snapshot st).cloneStatus id channel
  | cloneCompose request fresh =>
    ((ImageCompose.cloneCompose id request fresh channel).run backend st).1

/-- An operation says that a job is not found only of the job that the request names. Any other job
that it finds missing, and only such a job, is told as one that a stored job lists. -/
theorem missing_job (op : Operation) (backend : Backend σ) (st : σ) (id : Uuid) (channel : String)
    (honest : (backend.snapshot st).Honest)
    (scope : ∀ r, (backend.snapshot st).job id = .ok r → channel = "" ∨ channel = r.channel) :
    MissingTold backend st id (op.result id channel st) := by
  cases op with
  | composeStatus => exact missingTold_composeStatus honest scope
  | composeMetadata => exact missingTold_composeMetadata honest scope
  | composeLogs => exact missingTold_composeLogs honest scope
  | composeManifests => exact missingTold_composeManifests honest scope
  | cloneStatus => exact missingTold_cloneStatus honest scope
  | cloneCompose request fresh => exact missingTold_cloneCompose honest scope request fresh

/-- A last job of a chain that waits for a first job that is hidden. -/
def hiddenFirst : SkewedStore where
  store := ⟨[
    ⟨.ofNat 1, .kojiInit, "", .null, none, {}, []⟩,
    ⟨.ofNat 2, .osbuild, "", .null, none, {}, [.ofNat 1]⟩,
    ⟨.ofNat 3, .kojiFinalize, "", .null, none, {}, [.ofNat 1, .ofNat 2]⟩]⟩
  overrides := [(.ofNat 1, { hidden := true })]

/-- The job that is hidden is told as missing, not as the one that was asked for. -/
theorem missing_job_hiddenFirst :
    hiddenFirst.snapshot.composeStatus (.ofNat 3) "" = .error (.missingJob (.ofNat 1)) ∧
      hiddenFirst.snapshot.Lists (.ofNat 1) := by
  have told := missing_job .composeStatus (SkewedStore.backend .ofNat (.ofSeconds 0)) hiddenFirst
    (.ofNat 3) "" hiddenFirst.honest_snapshot fun _ _ => .inl rfl
  have failed : hiddenFirst.snapshot.composeStatus (.ofNat 3) "" =
      .error (.missingJob (.ofNat 1)) := by rfl
  exact ⟨failed, (told.right _ failed).2.2⟩

end Operation

end ImageCompose
