import ImageCompose.Proofs.Service.Reads
import ImageCompose.Service.Clone
import ImageCompose.Service.Logs
import ImageCompose.Service.Metadata
import ImageCompose.Service.Status

/-!
# What operations do first

Every operation that reads a job is for some kinds of jobs. It asks for the kind of the job, refuses
the job if it is not for that kind, and otherwise reads the job and checks the tenant channel before
it does anything else. `Snapshot.Serves` says so once for all of them.

The manifest of a build is among its arguments, or else it is the one of the nearest job that
resolves manifests (`Snapshot.manifest_eq`).
-/

namespace ImageCompose.Snapshot

variable {α : Type} (s : Snapshot) (id : Uuid) (channel : String)

/-- An operation that reads a job of a kind first, and then checks the channel. -/
def ReadsFirst (k : JobKind) (answer : Except ServiceError α) : Prop :=
  ∃ (ρ : Type) (_ : ResultOf ρ) (_ : LawfulResult ρ) (next : JobInfo ρ → Except ServiceError α),
    ResultOf.kind ρ = k ∧ answer = do
      let job ← s.jobInfo id
      job.ensureChannel channel
      next job

/-- An operation for jobs of some kinds. -/
structure Serves (kinds : List JobKind) (answer : Except ServiceError α) : Prop where
  /-- It fails if there is no kind to be told. -/
  failed {e : ServiceError} : s.composeKind id = .error e → answer = .error e
  /-- It refuses the kinds it is not for. -/
  refused {k : JobKind} : s.composeKind id = .ok k → k ∉ kinds →
    answer = .error (.invalidJobType id k)
  /-- It reads a job of a kind that it is for, and then checks the channel. -/
  reads {k : JobKind} : s.composeKind id = .ok k → k ∈ kinds → s.ReadsFirst id channel k answer

/-- A job is read as what its type of results says. -/
theorem ReadsFirst.intro (ρ : Type) [ResultOf ρ] [LawfulResult ρ]
    (next : JobInfo ρ → Except ServiceError α) :
    s.ReadsFirst id channel (ResultOf.kind ρ) (do
      let job ← s.jobInfo id
      job.ensureChannel channel
      next job) :=
  ⟨ρ, _, inferInstance, next, rfl, rfl⟩

/-- An operation asks for the kind of a job. It has to refuse the kinds that it is not for, and to
read jobs of the others first. -/
theorem Serves.of_kind {kinds : List JobKind} {next : JobKind → Except ServiceError α}
    (refused : ∀ k, k ∉ kinds → next k = .error (.invalidJobType id k))
    (reads : ∀ k ∈ kinds, s.ReadsFirst id channel k (next k)) :
    s.Serves id channel kinds (s.composeKind id >>= next) where
  failed asked := by
    rw [asked]
    rfl
  refused asked other := by
    rw [asked]
    exact refused _ other
  reads asked served := by
    rw [asked]
    exact reads _ served

/-- The status of a compose is for builds and imports. -/
theorem serves_composeStatus :
    s.Serves id channel [.osbuild, .kojiFinalize] (s.composeStatus id channel) := by
  refine .of_kind s id channel (fun k other => ?_) fun k served => ?_
  · cases k <;> first | rfl | exact absurd (by decide) other
  · cases k with
    | osbuild => exact .intro s id channel BuildResult _
    | kojiFinalize => exact .intro s id channel KojiFinalizeResult _
    | _ => exact absurd served (by decide)

/-- The logs of a compose are for builds and imports. -/
theorem serves_composeLogs :
    s.Serves id channel [.osbuild, .kojiFinalize] (s.composeLogs id channel) := by
  refine .of_kind s id channel (fun k other => ?_) fun k served => ?_
  · cases k <;> first | rfl | exact absurd (by decide) other
  · cases k with
    | osbuild => exact .intro s id channel BuildResult _
    | kojiFinalize => exact .intro s id channel KojiFinalizeResult _
    | _ => exact absurd served (by decide)

/-- The manifests of a compose are for builds and imports. -/
theorem serves_composeManifests :
    s.Serves id channel [.osbuild, .kojiFinalize] (s.composeManifests id channel) := by
  refine .of_kind s id channel (fun k other => ?_) fun k served => ?_
  · cases k <;> first | rfl | exact absurd (by decide) other
  · cases k with
    | osbuild => exact .intro s id channel BuildResult _
    | kojiFinalize => exact .intro s id channel KojiFinalizeResult _
    | _ => exact absurd served (by decide)

/-- The metadata of a compose is for builds. -/
theorem serves_composeMetadata :
    s.Serves id channel [.osbuild] (s.composeMetadata id channel) := by
  refine .of_kind s id channel (fun k other => ?_) fun k served => ?_
  · cases k <;> first | rfl | exact absurd (by decide) other
  · cases k with
    | osbuild => exact .intro s id channel BuildResult _
    | _ => exact absurd served (by decide)

/-- The status of a clone is for copies and shares. -/
theorem serves_cloneStatus :
    s.Serves id channel [.awsEc2Copy, .awsEc2Share] (s.cloneStatus id channel) := by
  refine .of_kind s id channel (fun k other => ?_) fun k served => ?_
  · cases k <;> first | rfl | exact absurd (by decide) other
  · cases k with
    | awsEc2Copy => exact .intro s id channel CopyResult _
    | awsEc2Share => exact .intro s id channel ShareResult _
    | _ => exact absurd served (by decide)

/-! ## Manifests -/

/-- The manifest of the nearest job that resolves manifests among what a build depends on. -/
def nearestManifest (build : JobInfo BuildResult) : Except ServiceError Json := do
  match ← s.findDependency build.dependencies .manifestIdOnly with
  | none => throw (.missingManifest build.id)
  | some id =>
    let job : JobInfo ManifestResult ← s.jobInfo id
    return job.result.manifest.getD .null

/-- A build has its own manifest unless that is missing or null, and else the nearest one. -/
theorem manifest_eq (build : JobInfo BuildResult) :
    s.manifest build = build.args >>= fun (args : BuildArgs) =>
      match args.manifest with
      | some manifest => if manifest.isNull then s.nearestManifest build else .ok manifest
      | none => s.nearestManifest build := by
  refine congrArg (build.args >>= ·) (funext fun args => ?_)
  cases args.manifest with
  | none => rfl
  | some manifest => cases manifest <;> rfl

end ImageCompose.Snapshot
