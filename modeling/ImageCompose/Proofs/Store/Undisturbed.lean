import ImageCompose.Proofs.Clone.Call
import ImageCompose.Proofs.Service.Agreement
import ImageCompose.Proofs.Store.Order

/-!
# Requests leave what is told of earlier jobs

A request submits jobs after those that are there (`StoreProgram.Runs.prefix_jobs`). The new ones
may wait for old ones, so that the store lists more jobs that wait for these; but as jobs only wait
for earlier ones (`Store.Ordered`), nothing that is reached from an old job is new, and nothing that
is told of a job depends on what waits for it. So two stores before and after requests agree on all
old jobs (`Store.Ordered.agree`), and `Store.requests_undisturbed` says that everything that is
asked about them is answered as before.
-/

namespace ImageCompose

/-! ## Programs only submit -/

namespace StoreProgram

variable {p : StoreProgram α} {s s' : Store} {a : α}

/-- A program leaves the jobs that are there, each in its place. -/
theorem Runs.prefix_jobs (h : p.Runs s a s') : s.jobs <+: s'.jobs := by
  induction h with
  | done => exact List.prefix_refl _
  | jobKind _ ih | job _ ih | refused _ ih => exact ih
  | accepted _ added _ ih =>
    refine .trans ?_ ih
    rw [(Store.enqueue_ok added).2]
    exact List.prefix_append _ _

end StoreProgram

namespace Store

variable {reports : StoredJob → Json → Prop} {s s' s'' : Store}

/-- In a store that is reached, jobs wait for earlier ones. -/
theorem Reachable.ordered (h : Reachable reports s) : s.Ordered :=
  (Steps.moves h).ordered .empty

/-! ## Requests -/

/-- A compose or a clone is requested, on any tenant channel, and carried out, refused, or broken
off where a job is not accepted. -/
inductive Request : Store → Store → Prop
  | compose {config : Config} {request : ComposeRequest} {fresh : Fresh} {channel : String}
      {s s' : Store} {r : Except ServiceError ComposeId}
      (run : (submitCompose config request fresh channel).Runs s r s') : Request s s'
  | clone {id : Uuid} {request : CloneRequest} {fresh : Fresh} {channel : String} {s s' : Store}
      {r : Except ServiceError CloneId}
      (run : (cloneCompose id request fresh channel).Runs s r s') : Request s s'

/-- A request leaves the jobs that are there, however it ends. -/
theorem Request.prefix_jobs (h : Request s s') : s.jobs <+: s'.jobs := by
  cases h with
  | compose run => exact StoreProgram.Runs.prefix_jobs run
  | clone run => exact StoreProgram.Runs.prefix_jobs run

/-- Any number of requests, one after the other. -/
def Requests : Store → Store → Prop := Relation.ReflTransGen Request

/-- So do any number of requests. -/
theorem Requests.prefix_jobs (h : Requests s s') : s.jobs <+: s'.jobs := by
  induction h with
  | refl => exact List.prefix_refl _
  | tail _ last ih => exact ih.trans last.prefix_jobs

/-- A job is found again among more jobs. -/
theorem find?_of_prefix_jobs (later : s.jobs <+: s'.jobs) {id : Uuid} {j : StoredJob}
    (found : s.find? id = some j) : s'.find? id = some j := by
  obtain ⟨added, jobs⟩ := later
  rw [find?] at found
  rw [find?, ← jobs, List.find?_append, found, Option.some_or]

/-- A store agrees with what it becomes by further jobs on all that it has. -/
theorem Ordered.agree (inv : s.Ordered) (later : s.jobs <+: s'.jobs) :
    Snapshot.Agree s.snapshot s'.snapshot (· ∈ s.ids) where
  same {id} stored := by
    obtain ⟨r, answered⟩ := mem_ids_iff.1 stored
    obtain ⟨j, found, rfl⟩ := find?_of_snapshot_job answered
    exact ⟨_, s'.dependents j.id, answered,
      snapshot_job_of_find? (find?_of_prefix_jobs later found)⟩
  closed _ answered _ hd := (inv.waitsFor ⟨_, answered, hd⟩).1

/-- Whatever is requested, on any tenant channel and however it ends, everything that is asked about
a job of the store from any channel is answered as before. -/
theorem requests_undisturbed (h : Reachable reports s) (requests : Requests s s') {id : Uuid}
    (stored : id ∈ s.ids) (channel : String) :
    Snapshot.SameAnswers s.snapshot s'.snapshot id channel :=
  (h.ordered.agree requests.prefix_jobs).answers stored channel

/-- A build on which another tenant's clone goes on to wait is told of as before. -/
theorem requests_undisturbed_clonedStore :
    Reachable AnyReport deliveredStore ∧ Requests deliveredStore (clonedStore "") ∧
      deliveredStore.dependents ec2Build = [] ∧
      (clonedStore "").dependents ec2Build ≠ [] ∧
      Snapshot.SameAnswers deliveredStore.snapshot (clonedStore "").snapshot ec2Build "own" := by
  have reached : Reachable AnyReport deliveredStore := reachable_deliveredStore fun _ _ _ => trivial
  have requests : Requests deliveredStore (clonedStore "") :=
    .single (.clone (StoreProgram.runs_run _ _ _ _ (by decide +kernel)))
  exact ⟨reached, requests, by decide +kernel, by decide +kernel,
    requests_undisturbed reached requests (by decide +kernel) "own"⟩

end Store

end ImageCompose
