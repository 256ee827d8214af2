import ImageCompose.Api.Report
import ImageCompose.Service.Chain
import ImageCompose.Service.Search

/-!
# Logs and manifests of a compose

Both hand back what is stored, for people to read (`Snapshot.composeLogs`,
`Snapshot.composeManifests`). The manifest of a build is among its arguments, or else in the result
of the nearest job that resolves manifests among its dependencies.
-/

namespace ImageCompose.Snapshot

/-- A build of a compose in Koji; a job of another kind in its place is refused. -/
def kojiBuild (s : Snapshot) (id : Uuid) : Except ServiceError (JobInfo BuildResult) := do
  let kind ← s.referredKind id
  if kind ≠ .osbuild then throw (.invalidJobType id kind)
  s.jobInfo id

/-- What the jobs of a compose reported. -/
def composeLogs (s : Snapshot) (id : Uuid) (channel : String) :
    Except ServiceError ComposeLogs := do
  let reference := ObjectReference.at_ s!"/composes/{id}/logs" id "ComposeLogs"
  match ← s.composeKind id with
  | .osbuild =>
    let build : JobInfo BuildResult ← s.jobInfo id
    build.ensureChannel channel
    return { reference := reference, imageBuilds := [build.log] }
  | .kojiFinalize =>
    let finalize : JobInfo KojiFinalizeResult ← s.jobInfo id
    finalize.ensureChannel channel
    let chain ← KojiChain.ofFinalize id finalize.dependencies
    let init : JobInfo KojiInitResult ← s.jobInfo chain.init
    let builds ← chain.builds.mapM s.kojiBuild
    return {
      reference := reference
      imageBuilds := builds.map (·.log)
      koji := some ⟨init.log, finalize.log⟩ }
  | kind => throw (.invalidJobType id kind)

/-- The manifest of a build. -/
def manifest (s : Snapshot) (build : JobInfo BuildResult) : Except ServiceError Json := do
  let args : BuildArgs ← build.args
  match args.manifest with
  | some manifest => if !manifest.isNull then return manifest
  | none => pure ()
  match ← s.findDependency build.dependencies .manifestIdOnly with
  | none => throw (.missingManifest build.id)
  | some id =>
    let job : JobInfo ManifestResult ← s.jobInfo id
    return job.result.manifest.getD .null

/-- The manifests of the images of a compose. -/
def composeManifests (s : Snapshot) (id : Uuid) (channel : String) :
    Except ServiceError ComposeManifests := do
  let reference := ObjectReference.at_ s!"/composes/{id}/manifests" id "ComposeManifests"
  match ← s.composeKind id with
  | .osbuild =>
    let build : JobInfo BuildResult ← s.jobInfo id
    build.ensureChannel channel
    let manifest ← s.manifest build
    return ⟨reference, [manifest]⟩
  | .kojiFinalize =>
    let finalize : JobInfo KojiFinalizeResult ← s.jobInfo id
    finalize.ensureChannel channel
    let chain ← KojiChain.ofFinalize id finalize.dependencies
    let manifests ← chain.builds.mapM fun build => do s.manifest (← s.kojiBuild build)
    return ⟨reference, manifests⟩
  | kind => throw (.invalidJobType id kind)

end ImageCompose.Snapshot
