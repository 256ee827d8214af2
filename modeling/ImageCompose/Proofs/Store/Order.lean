import ImageCompose.Proofs.Store.Moves

/-!
# Jobs in the order of their submission

A store that is a list of jobs keeps them in the order in which they were submitted, and works out
from what they wait for which jobs wait for them. That this is an acyclic graph
(`Store.Ordered.acyclic`) is an invariant of all calls together (`Store.Moves.ordered`): a job is
submitted under a new identifier and after all jobs that it waits for, and what it waits for never
changes (`Store.Moves.extends`).
-/

namespace ImageCompose

/-- One job waits for another one, as is answered about jobs. -/
def WaitsFor (job : Uuid → Except StoreError JobRecord) (x d : Uuid) : Prop :=
  ∃ r, job x = .ok r ∧ d ∈ r.dependencies

/-- What is answered about jobs is an acyclic graph, and an order is that of their submission. -/
structure AcyclicGraph (order : List Uuid) (job : Uuid → Except StoreError JobRecord) : Prop where
  /-- The order lists every job, and none twice. -/
  once : order.Nodup ∧ ∀ x, x ∈ order ↔ ∃ r, job x = .ok r
  earlier : ∀ {x d}, WaitsFor job x d → d ∈ order ∧ order.idxOf d < order.idxOf x
  acyclic : ∀ x, ¬Relation.TransGen (WaitsFor job) x x
  mirrored : ∀ {a b ra rb}, job a = .ok ra → job b = .ok rb →
    (b ∈ ra.dependents ↔ a ∈ rb.dependencies)
  dependents : ∀ {a ra}, job a = .ok ra → ra.dependents.Nodup ∧ ra.dependents.Sublist order

namespace Store

variable {reports : StoredJob → Json → Prop} {s s' s'' : Store}

/-! ## What stays -/

/-- A store has been added to: the order goes on, and the jobs in it are the same but for results
and statuses. -/
structure Extends (s s' : Store) : Prop where
  ids : s.ids <+: s'.ids
  jobs : ∀ {x j}, s.find? x = some j →
    ∃ result status, s'.find? x = some { j with result := result, status := status }

namespace Extends

/-- A store goes on from itself. -/
theorem refl (s : Store) : s.Extends s where
  ids := List.prefix_refl _
  jobs found := ⟨_, _, found⟩

/-- What is added to later is added to from the start. -/
theorem trans (h : s.Extends s') (h' : s'.Extends s'') : s.Extends s'' where
  ids := h.ids.trans h'.ids
  jobs found := by
    obtain ⟨_, _, found'⟩ := h.jobs found
    obtain ⟨_, _, found''⟩ := h'.jobs found'
    exact ⟨_, _, found''⟩

/-- Work on a job leaves the order and what the jobs are. -/
theorem update {change : StoredJob → StoredJob} (keeps : StoredJob.Keeps change) (s : Store)
    (id : Uuid) : s.Extends (s.update id change) where
  ids := (ids_update keeps s id).symm ▸ List.prefix_refl _
  jobs {x j} found := by
    obtain ⟨result, status, changed⟩ := keeps j
    rw [find?_update keeps, found, Option.map_some]
    split
    · exact ⟨result, status, by rw [changed]⟩
    · exact ⟨_, _, rfl⟩

end Extends

/-- A call adds a job at the end or works on one. -/
theorem Move.extends (h : Move reports s s') : s.Extends s' := by
  cases h with
  | enqueue new id now fresh added =>
    refine ⟨?_, fun {x j} found => ?_⟩
    · rw [ids_enqueue added]
      exact List.prefix_append _ _
    · have other : x ≠ id := by
        rintro rfl
        rw [find?_eq_none fresh] at found
        cases found
      rw [find?_enqueue fresh added, if_neg other, found]
      exact ⟨_, _, rfl⟩
  | start id now => exact .update (StoredJob.keeps_start now) s id
  | finish id v now => exact .update (StoredJob.keeps_finish v now) s id
  | cancel id => exact .update StoredJob.keeps_cancel s id

/-- So whatever the calls, the order goes on and the jobs in it stay what they are. -/
theorem Moves.extends (h : Moves reports s s') : s.Extends s' := by
  induction h with
  | refl => exact .refl s
  | tail _ last ih => exact ih.trans last.extends

/-! ## The order -/

/-- No two jobs have one identifier, and each waits for jobs that stand before it. -/
structure Ordered (s : Store) : Prop where
  nodup : s.ids.Nodup
  earlier : ∀ {k : Nat} {j : StoredJob}, s.jobs[k]? = some j →
    ∀ d ∈ j.dependencies, ∃ i < k, s.ids[i]? = some d

namespace Ordered

/-- There is nothing to be out of order in the empty store. -/
theorem empty : Ordered {} where
  nodup := List.nodup_nil
  earlier found := nomatch found

/-- A job is submitted after those that it waits for. -/
theorem enqueue (inv : s.Ordered) {new : NewJob} {id : Uuid} {now : Timestamp} (fresh : id ∉ s.ids)
    (added : s.enqueue new id now = .ok s') : s'.Ordered where
  nodup := nodup_enqueue inv.nodup fresh added
  earlier {k j} found d hd := by
    obtain ⟨known, jobs⟩ := enqueue_ok added
    rw [ids_enqueue added]
    rw [jobs] at found
    obtain ⟨i, before, stands⟩ : ∃ i < k, s.ids[i]? = some d := by
      rcases Nat.lt_or_ge k s.jobs.length with old | new_one
      · rw [List.getElem?_append_left old] at found
        exact inv.earlier found d hd
      · rw [List.getElem?_append_right new_one] at found
        obtain rfl := List.mem_singleton.1 (List.mem_of_getElem? found)
        obtain ⟨i, bound, rfl⟩ := List.getElem_of_mem (known d hd)
        rw [ids, List.length_map] at bound
        exact ⟨i, Nat.lt_of_lt_of_le bound new_one, List.getElem?_eq_getElem _⟩
    exact ⟨i, before, List.getElem?_append_left (List.getElem?_eq_some_iff.1 stands).1 ▸ stands⟩

/-- Work on a job changes neither the order nor what jobs wait for. -/
theorem update (inv : s.Ordered) {change : StoredJob → StoredJob}
    (keeps : StoredJob.Keeps change) (id : Uuid) : (s.update id change).Ordered where
  nodup := by
    rw [ids_update keeps]
    exact inv.nodup
  earlier {k j} found d hd := by
    rw [ids_update keeps]
    rw [Store.update, List.getElem?_map, Option.map_eq_some_iff] at found
    obtain ⟨before, stands, rfl⟩ := found
    obtain ⟨result, status, changed⟩ := keeps before
    refine inv.earlier stands d ?_
    split at hd
    · rwa [changed] at hd
    · exact hd

end Ordered

/-- A call keeps the order: it submits a job after those it waits for, or works on one. -/
theorem Move.ordered (inv : s.Ordered) (h : Move reports s s') : s'.Ordered := by
  cases h with
  | enqueue new id now fresh added => exact inv.enqueue fresh added
  | start id now => exact inv.update (StoredJob.keeps_start now) id
  | finish id v now => exact inv.update (StoredJob.keeps_finish v now) id
  | cancel id => exact inv.update StoredJob.keeps_cancel id

/-- Whatever the calls, the order is kept. -/
theorem Moves.ordered (inv : s.Ordered) (h : Moves reports s s') : s'.Ordered := by
  induction h with
  | refl => exact inv
  | tail _ last ih => exact last.ordered ih

/-! ## The graph -/

/-- The order lists the jobs that are found, and only those. -/
theorem mem_ids_iff {x : Uuid} : x ∈ s.ids ↔ ∃ r, s.snapshot.job x = .ok r := by
  constructor
  · intro stored
    obtain ⟨j, hj, rfl⟩ := List.mem_map.1 stored
    cases found : s.find? j.id with
    | none => simpa using List.find?_eq_none.1 found j hj
    | some j' => exact ⟨_, snapshot_job_of_find? found⟩
  · rintro ⟨r, answered⟩
    obtain ⟨j, found, rfl⟩ := find?_of_snapshot_job answered
    obtain ⟨hj, rfl⟩ := find?_some found
    exact List.mem_map_of_mem hj

/-- If identifiers are distinct, what waits for a job are the jobs that name it. -/
theorem mem_dependents_iff (nodup : s.ids.Nodup) {a b : Uuid} {j : StoredJob}
    (found : s.find? b = some j) : b ∈ s.dependents a ↔ a ∈ j.dependencies := by
  obtain ⟨hj, rfl⟩ := find?_some found
  simp only [dependents, List.mem_map, List.mem_filter, List.contains_eq_mem, decide_eq_true_eq]
  constructor
  · rintro ⟨other, ⟨hother, waits⟩, same⟩
    have found' := find?_of_mem nodup hother
    rw [same, found] at found'
    cases found'
    exact waits
  · exact fun waits => ⟨j, ⟨hj, waits⟩, rfl⟩

/-- The jobs that wait for a job are listed in the order of submission. -/
theorem dependents_sublist (s : Store) (a : Uuid) : (s.dependents a).Sublist s.ids :=
  List.filter_sublist.map _

namespace Ordered

/-- A job stands after what it waits for. -/
theorem waitsFor (inv : s.Ordered) {x d : Uuid} (h : WaitsFor s.snapshot.job x d) :
    d ∈ s.ids ∧ s.ids.idxOf d < s.ids.idxOf x := by
  obtain ⟨r, answered, hd⟩ := h
  obtain ⟨j, found, rfl⟩ := find?_of_snapshot_job answered
  obtain ⟨hj, rfl⟩ := find?_some found
  obtain ⟨k, stands⟩ := List.mem_iff_getElem?.1 hj
  obtain ⟨i, before, earlier⟩ := inv.earlier stands d hd
  have at_k : s.ids[k]? = some j.id := by rw [ids, List.getElem?_map, stands, Option.map_some]
  obtain ⟨_, rfl⟩ := List.getElem?_eq_some_iff.1 earlier
  obtain ⟨_, is_x⟩ := List.getElem?_eq_some_iff.1 at_k
  refine ⟨List.getElem_mem _, ?_⟩
  rwa [← is_x, inv.nodup.idxOf_getElem, inv.nodup.idxOf_getElem]

/-- So does a job after all jobs that it waits for through others. -/
theorem reaches (inv : s.Ordered) {x d : Uuid}
    (h : Relation.TransGen (WaitsFor s.snapshot.job) x d) : s.ids.idxOf d < s.ids.idxOf x := by
  induction h with
  | single waits => exact (inv.waitsFor waits).2
  | tail _ waits ih => exact Nat.lt_trans (inv.waitsFor waits).2 ih

/-- So the store is an acyclic graph. -/
theorem acyclic (inv : s.Ordered) : AcyclicGraph s.ids s.snapshot.job where
  once := ⟨inv.nodup, fun _ => mem_ids_iff⟩
  earlier := inv.waitsFor
  acyclic _ cycle := Nat.lt_irrefl _ (inv.reaches cycle)
  mirrored {a b ra rb} answered_a answered_b := by
    obtain ⟨ja, found_a, rfl⟩ := find?_of_snapshot_job answered_a
    obtain ⟨jb, found_b, rfl⟩ := find?_of_snapshot_job answered_b
    obtain ⟨_, rfl⟩ := find?_some found_a
    exact mem_dependents_iff inv.nodup found_b
  dependents answered := by
    obtain ⟨j, _, rfl⟩ := find?_of_snapshot_job answered
    exact ⟨inv.nodup.sublist (dependents_sublist s j.id), dependents_sublist s j.id⟩

end Ordered

/-- What a store answers about a job stays but for the result, the status and the jobs that wait
for it. -/
theorem Extends.job (h : s.Extends s') {x : Uuid} {r : JobRecord}
    (answered : s.snapshot.job x = .ok r) :
    ∃ result status dependents, s'.snapshot.job x =
      .ok { r with result := result, status := status, dependents := dependents } := by
  obtain ⟨j, found, rfl⟩ := find?_of_snapshot_job answered
  obtain ⟨result, status, found'⟩ := h.jobs found
  exact ⟨result, status, _, snapshot_job_of_find? found'⟩

end Store

end ImageCompose
