import ImageCompose.Client.Basic
import ImageCompose.Main
import ImageCompose.Proofs.Api.WireTypes
import ImageCompose.Proofs.Client.Call
import ImageCompose.Proofs.Client.Scope
import ImageCompose.Proofs.Clone.Accepted
import ImageCompose.Proofs.Clone.Effect
import ImageCompose.Proofs.Clone.Eligible
import ImageCompose.Proofs.Clone.Follow
import ImageCompose.Proofs.Clone.OneCopy
import ImageCompose.Proofs.Clone.Traffic
import ImageCompose.Proofs.Compose.Attribution
import ImageCompose.Proofs.Compose.Conjunction
import ImageCompose.Proofs.Compose.Forward
import ImageCompose.Proofs.Compose.Koji
import ImageCompose.Proofs.Compose.Manifests
import ImageCompose.Proofs.Compose.Metadata
import ImageCompose.Proofs.Compose.Readable
import ImageCompose.Proofs.Compose.Success
import ImageCompose.Proofs.Compose.TargetResults
import ImageCompose.Proofs.Compose.Uploads
import ImageCompose.Proofs.Http.Failure
import ImageCompose.Proofs.Service.FirstError
import ImageCompose.Proofs.Service.NotFound
import ImageCompose.Proofs.Service.Readers
import ImageCompose.Proofs.Store.Simulation
import ImageCompose.Proofs.Store.Undisturbed
import ImageCompose.Proofs.Store.Workload
import ImageCompose.Proofs.Submission.Accepted
import ImageCompose.Proofs.Submission.Builds
import ImageCompose.Proofs.Submission.Compiled
import ImageCompose.Proofs.Submission.Distribution
import ImageCompose.Proofs.Submission.KojiFiles
import ImageCompose.Proofs.Submission.LocalSave
import ImageCompose.Proofs.Submission.Repositories
import ImageCompose.Proofs.Submission.UploadTarget
import ImageCompose.Proofs.Tenant.Masking
import ImageCompose.Proofs.Tenant.Noninterference
import ImageCompose.Store.Skew
