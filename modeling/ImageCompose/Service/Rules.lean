import ImageCompose.Api.Report
import ImageCompose.Job.Payload

/-!
# Rules for statuses

How far a compose, an image and a delivery have come, as functions of the statuses and the results
of the jobs behind them. Being canceled is a failure at any time. A build on its own and a build
whose image goes into Koji are judged by different results.
-/

namespace ImageCompose

/-- How far the image of a build has come. -/
def buildImageStatus (status : JobStatus) (result : BuildResult) : ImageStatusValue :=
  if status.canceled then .failure
  else if !status.isStarted then .pending
  else if !status.isFinished then .building
  else if result.success then .success
  else .failure

/-- How far a compose has come that is a single build. -/
def buildComposeStatus (status : JobStatus) (result : BuildResult) : ComposeStatusValue :=
  if status.canceled then .failure
  else if !status.isFinished then .pending
  else if result.success then .success
  else .failure

/-- Whether a build whose image goes into Koji reported no failure. -/
def BuildResult.isGoodForKoji (result : BuildResult) : Bool :=
  result.jobError.isNone && !result.outputFailed

/-- How far an image that goes into Koji has come. If the build could not be opened in Koji, no
image of it succeeds. -/
def kojiImageStatus (status : JobStatus) (init : KojiInitResult) (build : BuildResult) :
    ImageStatusValue :=
  if status.canceled || init.jobError.isSome then .failure
  else if !status.isStarted then .pending
  else if !status.isFinished then .building
  else if build.isGoodForKoji then .success
  else .failure

/-- How far a compose has come that is imported into Koji. Once the last job has finished, the
compose succeeds if none of its jobs failed. -/
def kojiComposeStatus (status : JobStatus) (init : KojiInitResult) (builds : List BuildResult)
    (finalize : KojiFinalizeResult) : ComposeStatusValue :=
  if status.canceled then .failure
  else if !status.isFinished then .pending
  else if init.jobError.isNone && builds.all (·.isGoodForKoji) && finalize.jobError.isNone then
    .success
  else .failure

/-- How far a delivery has come that a job makes. -/
def deliveryStatus (status : JobStatus) (error : Option JobError) : UploadStatusValue :=
  if error.isSome || status.canceled then .failure
  else if !status.isStarted then .pending
  else if !status.isFinished then .running
  else .success

end ImageCompose
