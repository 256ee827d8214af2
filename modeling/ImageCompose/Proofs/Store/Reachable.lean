import ImageCompose.Proofs.Store.Moves
import ImageCompose.Proofs.Store.Run
import ImageCompose.Service.Clone
import ImageCompose.Submission.Plan

/-!
# Reachable stores

A store changes in five ways: a compose or a clone is requested, on any tenant channel and with any
outcome, and a worker starts, finishes or cancels a job (`Store.Step`). What workers report is left
open: a property of the job and the result says which reports are considered. `Store.Reachable` are
the stores that the empty one becomes in any number of such steps. Each step is a number of single
calls (`Store.Step.moves`), so what any calls keep holds of these stores, too.
-/

namespace ImageCompose

/-- What a program does to a store is a number of submissions. -/
theorem StoreProgram.Runs.moves {reports : StoredJob → Json → Prop} {p : StoreProgram α}
    {s s' : Store} {a : α} (h : p.Runs s a s') : Store.Moves reports s s' := by
  induction h with
  | done => exact .refl
  | jobKind _ ih | job _ ih | refused _ ih => exact ih
  | accepted fresh added _ ih => exact .head (.enqueue _ _ _ fresh added) ih

namespace Store

/-- What can happen to a store, if workers report as a property says. -/
inductive Step (reports : StoredJob → Json → Prop) : Store → Store → Prop
  | submit {config : Config} {request : ComposeRequest} {fresh : Fresh} {channel : String}
      {s s' : Store} {r : Except ServiceError ComposeId}
      (run : (submitCompose config request fresh channel).Runs s r s') : Step reports s s'
  | clone {id : Uuid} {request : CloneRequest} {fresh : Fresh} {channel : String} {s s' : Store}
      {r : Except ServiceError CloneId}
      (run : (cloneCompose id request fresh channel).Runs s r s') : Step reports s s'
  /-- A worker starts a job. -/
  | start {s : Store} (id : Uuid) (now : Timestamp) : Step reports s (s.start id now)
  /-- A worker finishes a job. -/
  | finish {s : Store} {id : Uuid} {v : Json} (now : Timestamp)
      (reported : ∀ j ∈ s.jobs, j.id = id → reports j v) : Step reports s (s.finish id v now)
  | cancel {s : Store} (id : Uuid) : Step reports s (s.cancel id)

/-- What a store becomes in any number of steps. -/
def Steps (reports : StoredJob → Json → Prop) : Store → Store → Prop :=
  Relation.ReflTransGen (Step reports)

/-- The stores that the empty one becomes. -/
def Reachable (reports : StoredJob → Json → Prop) (s : Store) : Prop := Steps reports {} s

/-- Workers that may report anything. -/
def AnyReport : StoredJob → Json → Prop := fun _ _ => True

variable {reports : StoredJob → Json → Prop} {s s' : Store}

/-- A compose that is requested of the store in memory is a step, as long as the supply gives new
identifiers. -/
theorem Step.submit_run (config : Config) (request : ComposeRequest) (fresh : Fresh)
    (channel : String) (supply : Nat → Uuid) (now : Timestamp) (s : Store)
    (nodup :
      ((submitCompose config request fresh channel).run (backend supply now) s).2.ids.Nodup) :
    Step reports s ((submitCompose config request fresh channel).run (backend supply now) s).2 :=
  .submit (StoreProgram.runs_run supply now _ s nodup)

/-- A clone that is requested of the store in memory is a step under the same condition. -/
theorem Step.clone_run (id : Uuid) (request : CloneRequest) (fresh : Fresh) (channel : String)
    (supply : Nat → Uuid) (now : Timestamp) (s : Store)
    (nodup :
      ((cloneCompose id request fresh channel).run (backend supply now) s).2.ids.Nodup) :
    Step reports s ((cloneCompose id request fresh channel).run (backend supply now) s).2 :=
  .clone (StoreProgram.runs_run supply now _ s nodup)

/-- The calls of a request, or of a worker, are a run of calls. -/
theorem Step.moves (h : Step reports s s') : Moves reports s s' := by
  cases h with
  | submit run => exact StoreProgram.Runs.moves run
  | clone run => exact StoreProgram.Runs.moves run
  | start id now => exact .single (.start id now)
  | finish now reported => exact .single (.finish _ _ now reported)
  | cancel id => exact .single (.cancel id)

/-- So are those of any number of steps. -/
theorem Steps.moves (h : Steps reports s s') : Moves reports s s' := by
  induction h with
  | refl => exact .refl
  | tail _ last ih => exact .trans ih last.moves

/-- A store that is reached stays reached in later steps. -/
theorem Reachable.steps (h : Reachable reports s) (later : Steps reports s s') :
    Reachable reports s' :=
  Relation.ReflTransGen.trans h later

/-- What holds of the empty store and is kept by every step holds of every store that is reached. -/
theorem Reachable.invariant {Inv : Store → Prop} (empty : Inv {})
    (step : ∀ {s s'}, Inv s → Step reports s s' → Inv s') (h : Reachable reports s) : Inv s := by
  induction h with
  | refl => exact empty
  | tail _ last ih => exact step ih last

end Store

end ImageCompose
