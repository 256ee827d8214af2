import ImageCompose.Proofs.Api.Reports
import ImageCompose.Proofs.Job.Payloads

/-!
# Types on the wire

All types that are both written and read (`WireType`): what jobs are given and what they report, the
requests of the API and its answers. A value of any of them is read back as it is written, provided
that it was read: what no decoder yields, as an object with two members of one name, need not be.
-/

namespace ImageCompose

/-- A type that is written as JSON and read. -/
inductive WireType
  | target
  | targetResult
  /-- The arguments of the jobs of a kind. -/
  | args (kind : JobKind)
  /-- The results of the jobs of a kind. -/
  | result (kind : JobKind)
  | composeRequest
  | cloneRequest
  | composeId
  | cloneId
  | composeStatus
  | cloneStatus
  | composeMetadata
  | composeLogs
  | composeManifests
  | errorResponse

/-- The arguments of the jobs of a kind. -/
def JobKind.Args : JobKind → Type
  | .osbuild => BuildArgs
  | .manifestIdOnly => ManifestArgs
  | .kojiInit => KojiInitArgs
  | .kojiFinalize => KojiFinalizeArgs
  | .awsEc2Copy => CopyArgs
  | .awsEc2Share => ShareArgs

/-- The results of the jobs of a kind. -/
def JobKind.Result : JobKind → Type
  | .osbuild => BuildResult
  | .manifestIdOnly => ManifestResult
  | .kojiInit => KojiInitResult
  | .kojiFinalize => KojiFinalizeResult
  | .awsEc2Copy => CopyResult
  | .awsEc2Share => ShareResult

instance : (kind : JobKind) → Wire kind.Args
  | .osbuild => inferInstanceAs (Wire BuildArgs)
  | .manifestIdOnly => inferInstanceAs (Wire ManifestArgs)
  | .kojiInit => inferInstanceAs (Wire KojiInitArgs)
  | .kojiFinalize => inferInstanceAs (Wire KojiFinalizeArgs)
  | .awsEc2Copy => inferInstanceAs (Wire CopyArgs)
  | .awsEc2Share => inferInstanceAs (Wire ShareArgs)

instance : (kind : JobKind) → Wire kind.Result
  | .osbuild => inferInstanceAs (Wire BuildResult)
  | .manifestIdOnly => inferInstanceAs (Wire ManifestResult)
  | .kojiInit => inferInstanceAs (Wire KojiInitResult)
  | .kojiFinalize => inferInstanceAs (Wire KojiFinalizeResult)
  | .awsEc2Copy => inferInstanceAs (Wire CopyResult)
  | .awsEc2Share => inferInstanceAs (Wire ShareResult)

instance : (kind : JobKind) → Reread kind.Args
  | .osbuild => inferInstanceAs (Reread BuildArgs)
  | .manifestIdOnly => inferInstanceAs (Reread ManifestArgs)
  | .kojiInit => inferInstanceAs (Reread KojiInitArgs)
  | .kojiFinalize => inferInstanceAs (Reread KojiFinalizeArgs)
  | .awsEc2Copy => inferInstanceAs (Reread CopyArgs)
  | .awsEc2Share => inferInstanceAs (Reread ShareArgs)

instance : (kind : JobKind) → Reread kind.Result
  | .osbuild => inferInstanceAs (Reread BuildResult)
  | .manifestIdOnly => inferInstanceAs (Reread ManifestResult)
  | .kojiInit => inferInstanceAs (Reread KojiInitResult)
  | .kojiFinalize => inferInstanceAs (Reread KojiFinalizeResult)
  | .awsEc2Copy => inferInstanceAs (Reread CopyResult)
  | .awsEc2Share => inferInstanceAs (Reread ShareResult)

namespace WireType

/-- The values of a type on the wire. -/
def Value : WireType → Type
  | target => Target
  | targetResult => TargetResult
  | args kind => kind.Args
  | result kind => kind.Result
  | composeRequest => ComposeRequest
  | cloneRequest => CloneRequest
  | composeId => ComposeId
  | cloneId => CloneId
  | composeStatus => ComposeStatus
  | cloneStatus => CloneStatus
  | composeMetadata => ComposeMetadata
  | composeLogs => ComposeLogs
  | composeManifests => ComposeManifests
  | errorResponse => ErrorResponse

instance : (type : WireType) → Wire type.Value
  | target => inferInstanceAs (Wire Target)
  | targetResult => inferInstanceAs (Wire TargetResult)
  | args kind => inferInstanceAs (Wire kind.Args)
  | result kind => inferInstanceAs (Wire kind.Result)
  | composeRequest => inferInstanceAs (Wire ComposeRequest)
  | cloneRequest => inferInstanceAs (Wire CloneRequest)
  | composeId => inferInstanceAs (Wire ComposeId)
  | cloneId => inferInstanceAs (Wire CloneId)
  | composeStatus => inferInstanceAs (Wire ComposeStatus)
  | cloneStatus => inferInstanceAs (Wire CloneStatus)
  | composeMetadata => inferInstanceAs (Wire ComposeMetadata)
  | composeLogs => inferInstanceAs (Wire ComposeLogs)
  | composeManifests => inferInstanceAs (Wire ComposeManifests)
  | errorResponse => inferInstanceAs (Wire ErrorResponse)

instance : (type : WireType) → Reread type.Value
  | target => inferInstanceAs (Reread Target)
  | targetResult => inferInstanceAs (Reread TargetResult)
  | args kind => inferInstanceAs (Reread kind.Args)
  | result kind => inferInstanceAs (Reread kind.Result)
  | composeRequest => inferInstanceAs (Reread ComposeRequest)
  | cloneRequest => inferInstanceAs (Reread CloneRequest)
  | composeId => inferInstanceAs (Reread ComposeId)
  | cloneId => inferInstanceAs (Reread CloneId)
  | composeStatus => inferInstanceAs (Reread ComposeStatus)
  | cloneStatus => inferInstanceAs (Reread CloneStatus)
  | composeMetadata => inferInstanceAs (Reread ComposeMetadata)
  | composeLogs => inferInstanceAs (Reread ComposeLogs)
  | composeManifests => inferInstanceAs (Reread ComposeManifests)
  | errorResponse => inferInstanceAs (Reread ErrorResponse)

/-- **What was read is read back.** Whatever value a JSON value decodes to as one of the types, that
value is written as JSON that decodes to it again. -/
theorem decode?_encode_of_decoded (type : WireType) (v : Json) (x : type.Value)
    (h : decode? v = some x) : decode? (encode x) = some x :=
  decode?_encode_of_decode? h

/-- The result of a build as an array: a report for a target that is not known, whose options have
two members of one name, and an error with details. -/
def arrayResult : Json :=
  .arr [.bool true,
    .obj [("success", .bool true), ("metadata", .obj [("os", .obj [("stage", .null)])])],
    .arr [.arr [.str "org.osbuild.new", .obj [("a", Json.nat 1), ("a", Json.nat 2)]]],
    .obj [("reason", .str "late"), ("details", .obj [("b", .null), ("b", .arr [])]),
      ("id", Json.nat 7)]]

/-- A result of a build in which everything that must be settled stands twice, is read and read
back. -/
theorem decode?_encode_arrayResult : ∃ r : (result .osbuild).Value,
    decode? arrayResult = some r ∧ decode? (encode r) = some r := by
  have read : decode? arrayResult = some (show (result .osbuild).Value from
      { success := true
        osbuildOutput := some { success := true, metadata := [("os", [("stage", .null)])] }
        targetResults := [.unknown "org.osbuild.new" (.obj [("a", Json.nat 2)])]
        jobError := some ⟨7, "late", some (.obj [("b", .arr [])])⟩ }) := rfl
  exact ⟨_, read, decode?_encode_of_decoded (result .osbuild) arrayResult _ read⟩

end WireType

end ImageCompose
