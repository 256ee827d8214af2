import ImageCompose.Proofs.Graph.Basic
import ImageCompose.Proofs.Job.Arguments
import ImageCompose.Proofs.Service.Reads
import ImageCompose.Proofs.Store.Run

/-!
# The job graph of a store

`Store.look` is the graph that a store holds: a place is an identifier, and a job stands there with
its arguments as they are read. `Store.Graph` is the invariant: the identifiers are distinct, the
arguments of every job can be read, and the graph is a `JobGraph`. Work on jobs does not show in the
graph at all (`Store.look_update`), and a submission adds one job to it (`Store.look_enqueue`), so
that the invariant survives if that job is placed (`Store.Graph.enqueue`).
-/

namespace ImageCompose

/-- Arguments are read as those of a job of the kind. -/
theorem JobArgs.kind_of_read? {v : Json} {k : JobKind} {a : JobArgs} (h : read? v k = some a) :
    a.kind = k := by
  cases k <;> simp only [read?, Option.map_eq_some_iff] at h <;> obtain ⟨_, -, rfl⟩ := h <;> rfl

@[simp] theorem JobArgs.kind_kept (a : JobArgs) : a.kept.kind = a.kind := by
  cases a <;> rfl

/-- A stored job as the graph has it, if its arguments can be read. -/
def StoredJob.node? (j : StoredJob) : Option (JobNode Uuid) :=
  (JobArgs.read? j.args j.kind).map fun a => ⟨j.channel, a, j.dependencies⟩

/-- A job in the graph is the stored job. -/
theorem StoredJob.of_node? {j : StoredJob} {n : JobNode Uuid} (h : j.node? = some n) :
    JobArgs.read? j.args j.kind = some n.args ∧ n.args.kind = j.kind ∧ n.channel = j.channel ∧
      n.dependencies = j.dependencies := by
  obtain ⟨a, ha, rfl⟩ := Option.map_eq_some_iff.1 h
  exact ⟨ha, JobArgs.kind_of_read? ha, rfl, rfl⟩

/-- A submitted job comes into the graph with its arguments as they are read back. -/
theorem StoredJob.node?_stored (args : JobArgs) (dependencies : List Uuid) (channel : String)
    (id : Uuid) (now : Timestamp) :
    node? (NewJob.stored ⟨args.kind, args.toJson, dependencies, channel⟩ id now) =
      some ⟨channel, args.kept, dependencies⟩ :=
  congrArg (Option.map fun a => JobNode.mk channel a dependencies) args.read?_toJson

namespace Store

variable {s s' : Store}

/-- The graph of a store. -/
def look (s : Store) (id : Uuid) : Option (JobNode Uuid) :=
  (s.find? id).bind StoredJob.node?

/-- A job in the graph is a stored job. -/
theorem look_some {id : Uuid} {n : JobNode Uuid} (h : s.look id = some n) :
    ∃ j, s.find? id = some j ∧ j.node? = some n :=
  Option.bind_eq_some_iff.1 h

/-- A place that is no identifier of a job is empty. -/
theorem look_eq_none {id : Uuid} (h : id ∉ s.ids) : s.look id = none := by
  rw [look, find?_eq_none h]
  rfl

/-- A job in the graph has its place as identifier. -/
theorem mem_ids_of_look {id : Uuid} {n : JobNode Uuid} (h : s.look id = some n) : id ∈ s.ids :=
  Decidable.byContradiction fun absent => by simp [look_eq_none absent] at h

/-- A job of the graph has its kind. -/
theorem composeKind_of_look {id : Uuid} {n : JobNode Uuid} (place : s.look id = some n) :
    s.snapshot.composeKind id = .ok n.args.kind := by
  obtain ⟨j, found, hn⟩ := look_some place
  rw [Snapshot.composeKind_of_job (snapshot_job_of_find? found), (StoredJob.of_node? hn).2.1]
  rfl

/-- So it has for a job that refers to it. -/
theorem referredKind_of_look {id : Uuid} {n : JobNode Uuid} (place : s.look id = some n) :
    s.snapshot.referredKind id = .ok n.args.kind := by
  obtain ⟨j, found, hn⟩ := look_some place
  rw [Snapshot.referredKind_of_job (snapshot_job_of_find? found), (StoredJob.of_node? hn).2.1]
  rfl

/-- Work on jobs does not show in the graph. -/
theorem look_update {change : StoredJob → StoredJob} (keeps : StoredJob.Keeps change) (s : Store)
    (id : Uuid) : (s.update id change).look = s.look := by
  funext x
  rw [look, find?_update keeps, look]
  cases s.find? x with
  | none => rfl
  | some j =>
    obtain ⟨result, status, h⟩ := keeps j
    simp only [Option.map_some, Option.bind_some]
    split
    · rw [h]
      rfl
    · rfl

/-- A submitted job stands at its identifier, with its arguments as they are read back. -/
theorem look_enqueue {args : JobArgs} {dependencies : List Uuid} {channel : String} {id : Uuid}
    {now : Timestamp} (fresh : id ∉ s.ids)
    (h : s.enqueue ⟨args.kind, args.toJson, dependencies, channel⟩ id now = .ok s') :
    s'.look id = some ⟨channel, args.kept, dependencies⟩ := by
  rw [look, find?_enqueue_self fresh h, Option.bind_some, StoredJob.node?_stored]

/-- A submission changes nothing at other identifiers. -/
theorem look_enqueue_of_ne {new : NewJob} {id x : Uuid} {now : Timestamp} (fresh : id ∉ s.ids)
    (h : s.enqueue new id now = .ok s') (hx : x ≠ id) : s'.look x = s.look x := by
  rw [look, find?_enqueue fresh h, if_neg hx, look]

/-- What is in the graph stays there when a job is submitted. -/
theorem look_enqueue_of_look {new : NewJob} {id x : Uuid} {now : Timestamp} {n : JobNode Uuid}
    (fresh : id ∉ s.ids) (h : s.enqueue new id now = .ok s') (hx : s.look x = some n) :
    s'.look x = some n := by
  have other : x ≠ id := fun e => fresh (e ▸ mem_ids_of_look hx)
  rw [look_enqueue_of_ne fresh h other, hx]

/-- What is in the graph stays there while a program runs. -/
theorem look_of_runs {p : StoreProgram α} {a : α} (h : p.Runs s a s') {x : Uuid}
    {n : JobNode Uuid} (hx : s.look x = some n) : s'.look x = some n := by
  induction h with
  | done => exact hx
  | jobKind _ ih | job _ ih | refused _ ih => exact ih hx
  | accepted fresh added _ ih => exact ih (look_enqueue_of_look fresh added hx)

/-- The identifiers of a store are distinct, the arguments of its jobs can be read, and the jobs
make a graph. -/
structure Graph (s : Store) : Prop where
  /-- No two jobs have one identifier. -/
  nodup : s.ids.Nodup
  /-- The arguments of every job can be read. -/
  readable : ∀ j ∈ s.jobs, ∃ n, j.node? = some n
  /-- The jobs make a graph. -/
  graph : JobGraph s.look

namespace Graph

/-- An empty store has a graph without jobs. -/
theorem empty : Graph {} where
  nodup := List.nodup_nil
  readable _ h := nomatch h
  graph := JobGraph.empty

/-- Every job is in the graph. -/
theorem look_of_mem (g : s.Graph) {j : StoredJob} (h : j ∈ s.jobs) :
    ∃ n, j.node? = some n ∧ s.look j.id = some n := by
  obtain ⟨n, hn⟩ := g.readable j h
  refine ⟨n, hn, ?_⟩
  rw [look, find?_of_mem g.nodup h]
  exact hn

/-- Every job is placed, with what it waits for and with its arguments as they are read. -/
theorem placed_of_mem (g : s.Graph) {j : StoredJob} (h : j ∈ s.jobs) :
    ∃ n : JobNode Uuid, n.Placed s.look ∧ JobArgs.read? j.args j.kind = some n.args ∧
      n.args.kind = j.kind ∧ n.dependencies = j.dependencies := by
  obtain ⟨n, hn, place⟩ := g.look_of_mem h
  obtain ⟨args, kind, -, waits⟩ := StoredJob.of_node? hn
  exact ⟨n, g.graph.placed place, args, kind, waits⟩

/-- Every job that is found is in the graph. -/
theorem look_of_find? (g : s.Graph) {id : Uuid} {j : StoredJob} (h : s.find? id = some j) :
    ∃ n, j.node? = some n ∧ s.look id = some n := by
  obtain ⟨member, rfl⟩ := find?_some h
  exact g.look_of_mem member

/-- A job that the store answers about is in the graph. -/
theorem look_of_job (g : s.Graph) {id : Uuid} {r : JobRecord} (h : s.snapshot.job id = .ok r) :
    ∃ n, s.look id = some n ∧ n.args.kind = r.kind := by
  obtain ⟨j, found, rfl⟩ := find?_of_snapshot_job h
  obtain ⟨n, hn, place⟩ := g.look_of_find? found
  exact ⟨n, place, (StoredJob.of_node? hn).2.1⟩

/-- Work on jobs keeps the invariant. -/
theorem update {change : StoredJob → StoredJob} (keeps : StoredJob.Keeps change) (g : s.Graph)
    (id : Uuid) : (s.update id change).Graph where
  nodup := by
    rw [ids_update keeps]
    exact g.nodup
  readable j h := by
    obtain ⟨k, hk, rfl⟩ := List.mem_map.1 h
    obtain ⟨n, hn⟩ := g.readable k hk
    obtain ⟨result, status, changed⟩ := keeps k
    refine ⟨n, ?_⟩
    split
    · rw [changed]
      exact hn
    · exact hn
  graph := by
    rw [look_update keeps]
    exact g.graph

/-- A submission keeps the invariant if its job is placed and takes for itself only what no other
job has. -/
theorem enqueue (g : s.Graph) {args : JobArgs} {dependencies : List Uuid} {channel : String}
    {id : Uuid} {now : Timestamp} (fresh : id ∉ s.ids)
    (h : s.enqueue ⟨args.kind, args.toJson, dependencies, channel⟩ id now = .ok s')
    (placed : JobNode.Placed s.look ⟨channel, args.kept, dependencies⟩)
    (free : ∀ d ∈ dependencies, ∀ t, s.look d = some t →
      JobNode.Takes ⟨channel, args.kept, dependencies⟩ t →
        ∀ x m, s.look x = some m → m.Takes t → d ∉ m.dependencies) : s'.Graph where
  nodup := nodup_enqueue g.nodup fresh h
  readable j hj := by
    rw [(enqueue_ok h).2, List.mem_append, List.mem_singleton] at hj
    rcases hj with hj | rfl
    · exact g.readable j hj
    · exact ⟨_, StoredJob.node?_stored args dependencies channel id now⟩
  graph := g.graph.insert (look_eq_none fresh) (look_enqueue fresh h)
    (fun _ other => look_enqueue_of_ne fresh h other) placed free

end Graph

end Store

end ImageCompose
