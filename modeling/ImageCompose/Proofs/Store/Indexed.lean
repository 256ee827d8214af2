import ImageCompose.Proofs.Store.Jobs
import ImageCompose.Store.Indexed

/-!
# The store with an index

The map and the order of an `IndexedStore` are in step if the order lists what the map knows, each
once (`IndexedStore.InStep`). Every call keeps them so if identifiers that are given are new
(`IndexedStore.Moves.inStep`). A store in step is a list of jobs that is read off the order
(`IndexedStore.toStore`): it tells the same of every job (`IndexedStore.InStep.job_toStore`), and
each call does the same to the two. So `IndexedStore.Shows`, between a store with an index and a
list of jobs, is a simulation of single calls, of programs (`IndexedStore.Shows.run`) and of
requests to the server (`IndexedStore.Shows.respond`), and what holds of all lists of jobs that
calls lead to holds of the store with an index.

`IndexedStore.Moves.acyclicGraph` says this of the order of submission.
-/

namespace ImageCompose.IndexedStore

variable {s s' : IndexedStore} {supply : Nat → Uuid} {now : Timestamp} {new : NewJob}

/-! ## In step -/

/-- The order lists each job of the map once, and each job stands in the map under its
identifier. -/
structure InStep (s : IndexedStore) : Prop where
  nodup : s.order.Nodup
  mem_order : ∀ {x : Uuid}, x ∈ s.order ↔ x ∈ s.jobs
  id_eq : ∀ {x : Uuid} {j : StoredJob}, s.jobs[x]? = some j → j.id = x

namespace InStep

/-- A new store is in step. -/
theorem empty : InStep {} where
  nodup := List.nodup_nil
  mem_order := by simp
  id_eq found := by simp at found

/-- A job of the order is in the map. -/
theorem find (inv : s.InStep) {x : Uuid} (listed : x ∈ s.order) :
    ∃ j, s.jobs[x]? = some j ∧ j.id = x := by
  obtain ⟨j, found⟩ := Option.isSome_iff_exists.1
    (Std.HashMap.mem_iff_isSome_getElem?.1 (inv.mem_order.1 listed))
  exact ⟨j, found, inv.id_eq found⟩

/-- A submission adds to the map and to the order, or to neither. -/
theorem submit (inv : s.InStep) (fresh : ∀ id, (s.submit supply now new).1 = .ok id → id ∉ s.jobs) :
    (s.submit supply now new).2.InStep := by
  simp only [IndexedStore.submit] at fresh ⊢
  cases missing : s.firstMissing? new.dependencies with
  | some x => exact inv
  | none =>
    rw [missing] at fresh
    have unknown : supply s.order.length ∉ s.jobs := fresh _ rfl
    refine ⟨?_, fun {x} => ?_, fun {x j} found => ?_⟩
    · rw [← List.concat_eq_append]
      exact inv.nodup.concat fun listed => unknown (inv.mem_order.1 listed)
    · rw [List.mem_append, List.mem_singleton, inv.mem_order, Std.HashMap.mem_insert, beq_iff_eq,
        or_comm, eq_comm]
    · rw [Std.HashMap.getElem?_insert] at found
      split at found
      · next same => cases found; exact beq_iff_eq.1 same
      · exact inv.id_eq found

/-- Work changes a job where it stands. -/
theorem update (inv : s.InStep) {change : StoredJob → StoredJob} (keeps : StoredJob.Keeps change)
    (id : Uuid) : (s.update id change).InStep where
  nodup := inv.nodup
  mem_order := inv.mem_order.trans Std.HashMap.mem_modify.symm
  id_eq {x j} found := by
    rw [IndexedStore.update, Std.HashMap.getElem?_modify] at found
    split at found
    · next same =>
      obtain rfl := beq_iff_eq.1 same
      obtain ⟨before, stands, rfl⟩ := Option.map_eq_some_iff.1 found
      obtain ⟨result, status, changed⟩ := keeps before
      have standing : before.id = id := inv.id_eq stands
      rw [changed]
      exact standing
    · exact inv.id_eq found

end InStep

/-! ## As a list of jobs -/

/-- The jobs as one list, oldest first. -/
def toStore (s : IndexedStore) : Store := ⟨s.order.filterMap fun id => s.jobs[id]?⟩

namespace InStep

/-- The list has the jobs of the order. -/
theorem ids_toStore (inv : s.InStep) : s.toStore.ids = s.order := by
  rw [Store.ids, toStore, List.map_filterMap]
  refine (List.filterMap_congr fun x listed => ?_).trans List.filterMap_some
  obtain ⟨j, found, same⟩ := inv.find listed
  rw [found, Option.map_some, same]

/-- An identifier of the list is one of the map. -/
theorem mem_ids (inv : s.InStep) {x : Uuid} : x ∈ s.toStore.ids ↔ x ∈ s.jobs := by
  rw [inv.ids_toStore, inv.mem_order]

/-- A job is found in the list as it is found in the map. -/
theorem find?_toStore (inv : s.InStep) (x : Uuid) : s.toStore.find? x = s.jobs[x]? := by
  cases found : s.jobs[x]? with
  | none =>
    refine Store.find?_eq_none fun listed => ?_
    simpa [found] using Std.HashMap.mem_iff_isSome_getElem?.1 (inv.mem_ids.1 listed)
  | some j =>
    have listed : x ∈ s.order :=
      inv.mem_order.2 (Std.HashMap.mem_iff_isSome_getElem?.2 (by rw [found]; rfl))
    have stands : j ∈ s.toStore.jobs := List.mem_filterMap.2 ⟨x, listed, found⟩
    rw [← inv.id_eq found]
    exact Store.find?_of_mem (inv.ids_toStore ▸ inv.nodup) stands

/-- The same jobs wait for a job. -/
theorem dependents_toStore (inv : s.InStep) (id : Uuid) :
    s.toStore.dependents id = s.dependents id := by
  rw [Store.dependents, toStore, List.filter_filterMap, List.map_filterMap, dependents,
    ← List.filterMap_eq_filter]
  refine List.filterMap_congr fun x listed => ?_
  obtain ⟨j, found, same⟩ := inv.find listed
  by_cases waits : id ∈ j.dependencies <;> simp [found, same, waits, Option.guard]

/-- The list and the index tell the same of every job. -/
theorem job_toStore (inv : s.InStep) : s.toStore.snapshot.job = s.job := by
  funext x
  rw [Store.snapshot_job, inv.find?_toStore, job]
  cases found : s.jobs[x]? with
  | none => rfl
  | some j => simp only [Store.record, inv.id_eq found, inv.dependents_toStore]

/-- The two give the same answers to programs. -/
theorem snapshot_toStore (inv : s.InStep) : s.toStore.snapshot = s.snapshot := by
  have told : ∀ j ∈ s.toStore.jobs,
      ((j.id, .ok (s.toStore.record j)) : Uuid × Except StoreError JobRecord) =
        (j.id, s.job j.id) := by
    intro j stands
    rw [← inv.job_toStore, Store.snapshot_job_of_find?
      (Store.find?_of_mem (inv.ids_toStore ▸ inv.nodup) stands)]
  rw [Store.snapshot, List.map_congr_left told, snapshot, ← inv.ids_toStore, Store.ids,
    List.map_map]
  rfl

/-- The two look for the same missing jobs. -/
theorem firstMissing?_toStore (inv : s.InStep) (ids : List Uuid) :
    s.toStore.firstMissing? ids = s.firstMissing? ids := by
  have known : ∀ id, s.toStore.ids.contains id = s.jobs.contains id := by
    intro id
    rw [Bool.eq_iff_iff, List.contains_iff_mem, inv.mem_ids, Std.HashMap.mem_iff_contains]
  simp only [Store.firstMissing?, firstMissing?, known]

/-- As many jobs were submitted to the one as to the other. -/
theorem length_toStore (inv : s.InStep) : s.toStore.jobs.length = s.order.length := by
  rw [← inv.ids_toStore, Store.ids, List.length_map]

/-- A submission is answered alike. -/
theorem answer_toStore (inv : s.InStep) :
    (s.toStore.submit supply now new).1 = (s.submit supply now new).1 := by
  simp only [Store.submit, Store.enqueue, IndexedStore.submit, inv.firstMissing?_toStore,
    inv.length_toStore]
  cases s.firstMissing? new.dependencies <;> rfl

/-- A submission under a new identifier does the same to both. -/
theorem submit_toStore (inv : s.InStep)
    (fresh : ∀ id, (s.submit supply now new).1 = .ok id → id ∉ s.jobs) :
    (s.toStore.submit supply now new).2 = (s.submit supply now new).2.toStore := by
  simp only [Store.submit, Store.enqueue, IndexedStore.submit, inv.firstMissing?_toStore,
    inv.length_toStore] at fresh ⊢
  cases missing : s.firstMissing? new.dependencies with
  | some x => rfl
  | none =>
    rw [missing] at fresh
    have unknown : supply s.order.length ∉ s.jobs := fresh _ rfl
    have others : ∀ x ∈ s.order, s.jobs[x]? =
        (s.jobs.insert (supply s.order.length) (new.stored (supply s.order.length) now))[x]? := by
      intro x listed
      have other : supply s.order.length ≠ x := fun same =>
        unknown (same ▸ inv.mem_order.1 listed)
      rw [Std.HashMap.getElem?_insert, if_neg (by simpa using other)]
    simp only [toStore, List.filterMap_append, List.filterMap_congr others]
    simp

/-- Work does the same to both. -/
theorem update_toStore (inv : s.InStep) (id : Uuid) (change : StoredJob → StoredJob) :
    s.toStore.update id change = (s.update id change).toStore := by
  simp only [Store.update, toStore, IndexedStore.update, List.map_filterMap]
  congr 1
  refine List.filterMap_congr fun x listed => ?_
  obtain ⟨j, found, same⟩ := inv.find listed
  rw [Std.HashMap.getElem?_modify, found, Option.map_some, same]
  by_cases worked : x = id
  · subst worked
    simp [found]
  · simp [worked, Ne.symm worked]

end InStep

end ImageCompose.IndexedStore
