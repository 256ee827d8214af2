import ImageCompose.Store.Memory

/-!
# Jobs of the store in memory

What the store in memory answers about an identifier is decided by the first of its jobs that has it
(`Store.snapshot_job`), so everything that happens to the store is described by what is found
afterwards: a submission adds one job (`Store.find?_enqueue`), and a worker changes the job it works
on (`Store.find?_update`) without touching what the job is (`StoredJob.Keeps`).
-/

namespace ImageCompose

/-- A job is stored under its identifier. -/
@[simp]
theorem NewJob.id_stored (new : NewJob) (id : Uuid) (now : Timestamp) :
    (new.stored id now).id = id :=
  rfl

namespace Store

/-! ## Questions -/

/-- The store answers with the record of the first job of an identifier. -/
theorem snapshot_job (s : Store) (id : Uuid) :
    s.snapshot.job id = match s.find? id with
      | some j => .ok (s.record j)
      | none => .error (.notFound id) := by
  have found : ∀ jobs : List StoredJob,
      (jobs.map fun j => (j.id, (Except.ok (s.record j) : Except StoreError JobRecord))).lookup id =
        (jobs.find? fun j => j.id == id).map fun j => .ok (s.record j) := by
    intro jobs
    induction jobs with
    | nil => rfl
    | cons j rest ih =>
      rw [List.map_cons, List.lookup_cons, List.find?_cons, ih]
      by_cases h : j.id = id
      · simp [h]
      · have h' : (id == j.id) = false := by simpa using fun e => h e.symm
        rw [h', beq_eq_false_iff_ne.2 h]
  rw [Snapshot.job, snapshot, found s.jobs, find?]
  cases s.jobs.find? fun j => j.id == id <;> rfl

/-- The store answers about a job that is found. -/
theorem snapshot_job_of_find? {s : Store} {id : Uuid} {j : StoredJob} (h : s.find? id = some j) :
    s.snapshot.job id = .ok (s.record j) := by
  rw [snapshot_job, h]

/-- What the store answers about is a job that is found. -/
theorem find?_of_snapshot_job {s : Store} {id : Uuid} {r : JobRecord}
    (h : s.snapshot.job id = .ok r) : ∃ j, s.find? id = some j ∧ r = s.record j := by
  rw [snapshot_job] at h
  split at h <;> cases h
  next j found => exact ⟨j, found, rfl⟩

/-- A job that is found is one of the jobs of the store. -/
theorem find?_some {s : Store} {id : Uuid} {j : StoredJob} (h : s.find? id = some j) :
    j ∈ s.jobs ∧ j.id = id :=
  ⟨List.mem_of_find?_eq_some h, by simpa using List.find?_some h⟩

/-- An identifier that no job has is not found. -/
theorem find?_eq_none {s : Store} {id : Uuid} (h : id ∉ s.ids) : s.find? id = none :=
  List.find?_eq_none.2 fun j hj => by
    have other : j.id ≠ id := fun e => h (e ▸ List.mem_map_of_mem hj)
    simpa using other

/-- If no two jobs have one identifier, each job is found by its own. -/
theorem find?_of_mem {s : Store} (nodup : s.ids.Nodup) {j : StoredJob} (h : j ∈ s.jobs) :
    s.find? j.id = some j := by
  have unique : ∀ jobs : List StoredJob, (jobs.map (·.id)).Nodup → j ∈ jobs →
      (jobs.find? fun k => k.id == j.id) = some j := by
    intro jobs nodup h
    induction jobs with
    | nil => cases h
    | cons k rest ih =>
      rw [List.map_cons, List.nodup_cons] at nodup
      rcases List.mem_cons.1 h with rfl | h
      · simp
      · have other : k.id ≠ j.id := fun e => nodup.1 (e ▸ List.mem_map_of_mem h)
        rw [List.find?_cons, beq_eq_false_iff_ne.2 other]
        exact ih nodup.2 h
  exact unique s.jobs nodup h

/-! ## Submissions -/

/-- A job is submitted if the jobs that it waits for are there, and is then the newest. -/
theorem enqueue_ok {s s' : Store} {new : NewJob} {id : Uuid} {now : Timestamp}
    (h : s.enqueue new id now = .ok s') :
    (∀ d ∈ new.dependencies, d ∈ s.ids) ∧
      s'.jobs = s.jobs ++ [new.stored id now] := by
  unfold enqueue at h
  split at h
  · cases h
  · next known =>
    cases h
    refine ⟨fun d hd => ?_, rfl⟩
    have := List.find?_eq_none.1 known d hd
    simpa using this

/-- A submitted job adds its identifier. -/
theorem ids_enqueue {s s' : Store} {new : NewJob} {id : Uuid} {now : Timestamp}
    (h : s.enqueue new id now = .ok s') : s'.ids = s.ids ++ [id] := by
  simp [ids, (enqueue_ok h).2]

/-- Identifiers stay distinct when a job is submitted under a new one. -/
theorem nodup_enqueue {s s' : Store} {new : NewJob} {id : Uuid} {now : Timestamp}
    (nodup : s.ids.Nodup) (fresh : id ∉ s.ids) (h : s.enqueue new id now = .ok s') :
    s'.ids.Nodup := by
  rw [ids_enqueue h, List.nodup_append]
  refine ⟨nodup, by simp, fun x hx y hy e => fresh ?_⟩
  obtain rfl := List.mem_singleton.1 hy
  exact e ▸ hx

/-- A job is found by its identifier once it was submitted, and the others as before. -/
theorem find?_enqueue {s s' : Store} {new : NewJob} {id : Uuid} {now : Timestamp}
    (fresh : id ∉ s.ids) (h : s.enqueue new id now = .ok s') (x : Uuid) :
    s'.find? x = if x = id then some (new.stored id now) else s.find? x := by
  rw [find?, (enqueue_ok h).2, List.find?_append]
  by_cases hx : x = id
  · subst hx
    have before : s.jobs.find? (fun j => j.id == x) = none := by
      rw [← find?, find?_eq_none fresh]
    simp [before]
  · have other : (id == x) = false := beq_eq_false_iff_ne.2 fun e => hx e.symm
    simp [hx, other, find?]

/-- A submitted job is found by its identifier. -/
theorem find?_enqueue_self {s s' : Store} {new : NewJob} {id : Uuid} {now : Timestamp}
    (fresh : id ∉ s.ids) (h : s.enqueue new id now = .ok s') :
    s'.find? id = some (new.stored id now) :=
  (find?_enqueue fresh h id).trans (if_pos rfl)

end Store

/-! ## Work -/

/-- A change of a job that leaves what the job is: only its result and its status may change. -/
def StoredJob.Keeps (change : StoredJob → StoredJob) : Prop :=
  ∀ j, ∃ result status, change j = { j with result := result, status := status }

/-- A job that is started stays what it is. -/
theorem StoredJob.keeps_start (now : Timestamp) : Keeps (start now) :=
  fun _ => ⟨_, _, rfl⟩

/-- So does a job that is finished. -/
theorem StoredJob.keeps_finish (v : Json) (now : Timestamp) : Keeps (finish v now) :=
  fun _ => ⟨_, _, rfl⟩

/-- So does a job that is canceled. -/
theorem StoredJob.keeps_cancel : Keeps cancel :=
  fun _ => ⟨_, _, rfl⟩

namespace Store

/-- A worker changes the job that it works on and no other. -/
theorem find?_update {change : StoredJob → StoredJob} (keeps : StoredJob.Keeps change) (s : Store)
    (id x : Uuid) :
    (s.update id change).find? x = (s.find? x).map fun j => if x = id then change j else j := by
  have same_id : ∀ j, (if j.id = id then change j else j).id = j.id := by
    intro j
    obtain ⟨result, status, h⟩ := keeps j
    split
    · rw [h]
    · rfl
  rw [find?, update, List.find?_map, find?]
  simp only [Function.comp_def, same_id]
  cases found : s.jobs.find? fun j => j.id == x with
  | none => rfl
  | some j =>
    have : j.id = x := by simpa using List.find?_some found
    simp [this]

/-- A job that a worker has finished is found as it then is. -/
theorem find?_finish {s : Store} {id : Uuid} {j : StoredJob} (found : s.find? id = some j)
    (v : Json) (now : Timestamp) : (s.finish id v now).find? id = some (j.finish v now) := by
  show (s.update id (.finish v now)).find? id = _
  rw [find?_update (StoredJob.keeps_finish v now), found, Option.map_some, if_pos rfl]

/-- Work adds no identifiers. -/
theorem ids_update {change : StoredJob → StoredJob} (keeps : StoredJob.Keeps change) (s : Store)
    (id : Uuid) : (s.update id change).ids = s.ids := by
  rw [ids, update, List.map_map, ids]
  refine List.map_congr_left fun j _ => ?_
  obtain ⟨result, status, h⟩ := keeps j
  simp only [Function.comp]
  split
  · rw [h]
  · rfl

end Store

end ImageCompose
