import ImageCompose.Service.JobInfo
import ImageCompose.Store.Program

/-!
# Actions

An `Action` is an operation of the service that submits jobs: a program over the job store that
ends in a value or a failure. The calls it makes to the store are single steps, so other requests
may come between them.
-/

namespace ImageCompose

/-- An operation of the service that submits jobs. -/
abbrev Action (α : Type) := ExceptT ServiceError StoreProgram α

namespace Action

/-- A value or a failure, without a call to the store. -/
def of (result : Except ServiceError α) : Action α := ExceptT.mk (.done result)

/-- The kind of the job that a request names. -/
def composeKind (id : Uuid) : Action JobKind :=
  ExceptT.mk (.jobKind id fun answer => .done (ImageCompose.composeKind id answer))

/-- The kind of a job that another one refers to. -/
def referredKind (id : Uuid) : Action JobKind :=
  ExceptT.mk (.jobKind id fun answer => .done (answer.mapError .ofStore))

/-- A job with its result decoded. -/
def jobInfo [ResultOf ρ] (id : Uuid) : Action (JobInfo ρ) :=
  ExceptT.mk (.job id fun answer => .done (do
    let record ← answer.mapError .ofStore
    JobInfo.ofRecord id record))

/-- Submits a job. -/
def enqueue (args : JobArgs) (dependencies : List Uuid) (channel : String) : Action Uuid :=
  let new : NewJob := {
    kind := args.kind
    args := args.toJson
    dependencies := dependencies
    channel := channel }
  ExceptT.mk (.enqueue new fun answer => .done (answer.mapError (.enqueue args.kind)))

/-- Runs an action against a store. -/
def run (backend : Backend σ) (action : Action α) (s : σ) : Except ServiceError α × σ :=
  StoreProgram.run backend (ExceptT.run action) s

end Action

end ImageCompose
