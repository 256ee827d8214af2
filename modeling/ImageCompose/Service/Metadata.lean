import ImageCompose.Api.Report
import ImageCompose.Service.JobInfo

/-!
# Metadata of a compose

What went into an image, read off what the build tool reported (`Snapshot.composeMetadata`): the
packages of the payload pipelines in order, and the last ostree commit. Only a build that finished
well has any.
-/

namespace ImageCompose

/-- An installed package as a report tells it. -/
def PackageMetadata.ofRpm (p : RpmPackage) : PackageMetadata where
  packageType := "rpm"
  name := p.name
  version := p.version
  release := p.release
  epoch := p.epoch
  arch := p.arch
  sigmd5 := p.sigmd5
  signature := p.signature

/-- The stages of some pipelines that are understood, in order. -/
def payloadStages (id : Uuid) (output : BuildOutput) (pipelines : List String) :
    Except ServiceError (List StageMetadata) := do
  let stages ← pipelines.mapM fun pipeline =>
    (output.stageMetadata pipeline).mapM fun stage =>
      stage.mapError fun _ => ServiceError.malformedJob id (.stageMetadata pipeline)
  return stages.flatten

namespace StageMetadata

/-- The packages that a stage installed. -/
def packages : StageMetadata → List PackageMetadata
  | .rpm stage => stage.packages.map .ofRpm
  | .ostreeCommit _ => []

/-- The commit that a stage made. -/
def commit? : StageMetadata → Option String
  | .rpm _ => none
  | .ostreeCommit stage => some stage.compose.ostreeCommit

end StageMetadata

namespace Snapshot

/-- What went into the image of a compose. -/
def composeMetadata (s : Snapshot) (id : Uuid) (channel : String) :
    Except ServiceError ComposeMetadata := do
  let kind ← s.composeKind id
  if kind ≠ .osbuild then throw (.invalidJobType id kind)
  let build : JobInfo BuildResult ← s.jobInfo id
  build.ensureChannel channel
  let args : BuildArgs ← build.args
  let reference := ObjectReference.at_ s!"/composes/{id}/metadata" id "ComposeMetadata"
  if !build.status.isFinished || build.status.canceled || !build.result.success then
    return { reference := reference }
  match build.result.osbuildOutput.filter fun output => !output.log.isEmpty with
  | none => throw (.missingBuildOutput id)
  | some output =>
    let stages ← payloadStages id output args.pipelineNames.payload
    return {
      reference := reference
      packages := some (stages.flatMap (·.packages))
      ostreeCommit := (stages.filterMap (·.commit?)).getLast? }

end Snapshot

end ImageCompose
