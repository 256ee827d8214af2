import ImageCompose.Api.Clone
import ImageCompose.Service.Action
import ImageCompose.Service.Fresh
import ImageCompose.Service.Rules

/-!
# Clones of composes

`cloneCompose` delivers an EC2 image that is already built to another region or to more accounts. A
job copies the image if another region is wanted, unless one already does (`findCopy`); a job shares
it if there are accounts to share it with. Which builds can be cloned is decided by the build alone
(`CloneSource.ofBuild`). The clone is followed by the last of these jobs, and by the build if there
is none.
-/

namespace ImageCompose

/-- The image that is cloned. -/
structure CloneSource where
  ami : String
  region : String
  /-- The accounts that the build was to share it with. -/
  declaredAccounts : List String
  deriving DecidableEq

namespace CloneSource

/-- The image of a build that finished well and delivered one EC2 image. -/
def ofBuild (build : JobInfo BuildResult) : Except ServiceError CloneSource := do
  if !build.status.isFinished || !build.result.success then
    throw (.composeBadState build.id)
  match build.result.targetResults with
  | [result] =>
    match result with
    | .workerServer | .koji .. => throw (.unsupportedCloneTarget result.name)
    | _ => pure ()
    let upload ← (UploadStatus.ofResult result).mapError .unknownUploadTarget
    let args : BuildArgs ← build.args
    match args.targets with
    | [target] =>
      match upload.details, target.options with
      | .aws ami region, .aws _ _ accounts _ => return ⟨ami, region, accounts⟩
      | .aws .., _ => throw (.malformedJob build.id (.foreignTarget target.name))
      | _, _ => throw (.unsupportedCloneTarget result.name)
    | targets => throw (.severalUploadTargets build.id targets.length)
  | results => throw (.severalUploadTargets build.id results.length)

end CloneSource

/-- A copy of an image into a region, among jobs that wait for its build: the first that has not
failed. A canceled copy counts as failed. -/
def findCopy (region : String) : List Uuid → Action (Option Uuid)
  | [] => pure none
  | dependent :: rest => do
    if (← Action.referredKind dependent) ≠ .awsEc2Copy then findCopy region rest
    else
      let copy : JobInfo CopyResult ← Action.jobInfo dependent
      let args : CopyArgs ← Action.of copy.args
      if args.targetRegion = region ∧
          deliveryStatus copy.status copy.result.jobError ≠ .failure then
        return some dependent
      else findCopy region rest

/-- The accounts to share with: those declared at the build, then those requested, each once. -/
def shareAccounts (declared requested : List String) : List String :=
  (declared ++ requested).foldl
    (fun accounts account => if account ∈ accounts then accounts else accounts ++ [account]) []

/-- The copy of an image into a region: one that is there or under way, or a new one. -/
def copyInto (build : JobInfo BuildResult) (source : CloneSource) (region : String) (name : Uuid)
    (channel : String) : Action Uuid := do
  match ← findCopy region build.dependents with
  | some copy => return copy
  | none =>
    Action.enqueue (.copy ⟨source.ami, source.region, region, storageName name⟩) [build.id] channel

/-- Clones the image of a compose on a tenant channel. -/
def cloneCompose (id : Uuid) (request : CloneRequest) (fresh : Fresh) (channel : String) :
    Action CloneId := do
  let kind ← Action.composeKind id
  if kind ≠ .osbuild then throw (.invalidJobType id kind)
  let build : JobInfo BuildResult ← Action.jobInfo id
  Action.of (build.ensureChannel channel)
  let source ← Action.of (CloneSource.ofBuild build)
  let moves := request.region ≠ source.region
  let image ← if moves then copyInto build source request.region fresh.copy channel else pure id
  let accounts := shareAccounts source.declaredAccounts (request.shareWithAccounts.getD [])
  let last ←
    if accounts.isEmpty then pure image
    else
      let args : ShareArgs :=
        if moves then ⟨"", "", accounts⟩ else ⟨source.ami, request.region, accounts⟩
      Action.enqueue (.share args) [image] channel
  return ⟨.at_ s!"/composes/{id}/clone" last "CloneComposeId"⟩

/-- How far the delivery of an image by a job has come. -/
def cloneUpload [ResultOf ρ] (job : JobInfo ρ) (ami region : String) : UploadStatus :=
  ⟨some (deliveryStatus job.status (ResultOf.jobError job.result)), .aws ami region⟩

/-- How far a clone has come. -/
def Snapshot.cloneStatus (s : Snapshot) (id : Uuid) (channel : String) :
    Except ServiceError CloneStatus := do
  let reference := ObjectReference.at_ s!"/clones/{id}" id "CloneComposeStatus"
  match ← s.composeKind id with
  | .awsEc2Copy =>
    let copy : JobInfo CopyResult ← s.jobInfo id
    copy.ensureChannel channel
    return ⟨reference, cloneUpload copy copy.result.ami copy.result.region⟩
  | .awsEc2Share =>
    let share : JobInfo ShareResult ← s.jobInfo id
    share.ensureChannel channel
    return ⟨reference, cloneUpload share share.result.ami share.result.region⟩
  | kind => throw (.invalidJobType id kind)

end ImageCompose
