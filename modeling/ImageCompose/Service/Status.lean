import ImageCompose.Service.Chain
import ImageCompose.Service.Rules
import ImageCompose.Service.Search

/-!
# Status of a compose

A compose is followed by the identifier of its last job: a build, or the job that imports images
into Koji. `Snapshot.composeStatus` reads off that job, and off those it depends on, how far the
compose and each image have come.
-/

namespace ImageCompose

/-- The deliveries that a build reports, all with one status. Files that Koji was given and images
that stay on the worker server are none that a request asked for. -/
def uploadStatuses (results : List TargetResult) (status : UploadStatusValue) :
    Except ServiceError (List UploadStatus) :=
  let asked := results.filter fun r =>
    match r with
    | .koji .. | .workerServer => false
    | _ => true
  asked.mapM fun r =>
    match UploadStatus.ofResult r with
    | .ok upload => .ok (upload.withStatus status)
    | .error name => .error (.unknownUploadTarget name)

namespace Snapshot

/-- How far the image of a build has come, by a rule for its status. -/
def imageStatus (s : Snapshot) (build : JobInfo BuildResult)
    (rule : JobStatus → BuildResult → ImageStatusValue) : Except ServiceError ImageStatus := do
  let error ← s.chainError build.id
  let uploads ← uploadStatuses build.result.targetResults
    (deliveryStatus build.status build.result.jobError)
  return .ofUploads (rule build.status build.result) (error.map .ofJobError) uploads

/-- How far an image that goes into Koji has come, and what its build reported. -/
def kojiImage (s : Snapshot) (init : KojiInitResult) (id : Uuid) :
    Except ServiceError (ImageStatus × BuildResult) := do
  let build : JobInfo BuildResult ← s.jobInfo id
  let image ← s.imageStatus build fun status result => kojiImageStatus status init result
  return (image, build.result)

/-- How far a compose and its images have come. -/
def composeStatus (s : Snapshot) (id : Uuid) (channel : String) :
    Except ServiceError ComposeStatus := do
  let reference := ObjectReference.at_ s!"/composes/{id}" id "ComposeStatus"
  match ← s.composeKind id with
  | .osbuild =>
    let build : JobInfo BuildResult ← s.jobInfo id
    build.ensureChannel channel
    let image ← s.imageStatus build buildImageStatus
    return {
      reference := reference
      status := buildComposeStatus build.status build.result
      imageStatus := image }
  | .kojiFinalize =>
    let finalize : JobInfo KojiFinalizeResult ← s.jobInfo id
    finalize.ensureChannel channel
    let chain ← KojiChain.ofFinalize id finalize.dependencies
    let init : JobInfo KojiInitResult ← s.jobInfo chain.init
    let images ← chain.builds.mapM (s.kojiImage init.result)
    match images with
    | [] => throw (.malformedChain id finalize.dependencies.length)
    | (first, _) :: _ =>
      return {
        reference := reference
        status := kojiComposeStatus finalize.status init.result (images.map (·.2)) finalize.result
        imageStatus := first
        imageStatuses := some (images.map (·.1))
        kojiStatus := some {
          buildId := if init.result.buildId = 0 then none else some init.result.buildId } }
  | kind => throw (.invalidJobType id kind)

end Snapshot

end ImageCompose
