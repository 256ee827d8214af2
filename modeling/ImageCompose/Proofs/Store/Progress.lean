import ImageCompose.Proofs.Store.Run

/-!
# Work moves forward

Workers start, finish and cancel jobs in any order, and submissions come in between. If no job is
finished twice, nothing that happened to a job is ever taken back: what was started, finished or
canceled stays so, and a result stays as it was reported (`StoredJob.Becomes`). A store becomes
another one if its jobs do, whatever is added (`Store.Becomes`). Submissions keep to this
(`Store.Becomes.enqueue`), and so does work, which adds nothing (`Store.Works`).
-/

namespace ImageCompose

namespace StoredJob

/-- A report on a job that has none yet, so that no job is finished twice. -/
def Unreported (j : StoredJob) (_ : Json) : Prop := j.result = none

instance (j : StoredJob) (v : Json) : Decidable (j.Unreported v) :=
  inferInstanceAs (Decidable (j.result = none))

/-- A job has become another one: it is the same job, and nothing that happened to it was taken
back. -/
structure Becomes (j j' : StoredJob) : Prop where
  /-- At most the result and the status have changed. -/
  same : ∃ result status, j' = { j with result := result, status := status }
  started : j.status.isStarted → j'.status.isStarted
  finished : j.status.isFinished → j'.status.isFinished
  canceled : j.status.canceled → j'.status.canceled
  /-- A result stays as it was reported. -/
  result : ∀ v, j.result = some v → j'.result = some v

namespace Becomes

variable {j j' j'' : StoredJob}

/-- Nothing has to happen to a job. -/
theorem refl (j : StoredJob) : j.Becomes j where
  same := ⟨_, _, rfl⟩
  started h := h
  finished h := h
  canceled h := h
  result _ h := h

/-- What was not taken back at first is not taken back later. -/
theorem trans (h : j.Becomes j') (h' : j'.Becomes j'') : j.Becomes j'' where
  same := by
    obtain ⟨_, _, rfl⟩ := h.same
    obtain ⟨_, _, rfl⟩ := h'.same
    exact ⟨_, _, rfl⟩
  started started := h'.started (h.started started)
  finished finished := h'.finished (h.finished finished)
  canceled canceled := h'.canceled (h.canceled canceled)
  result v reported := h'.result v (h.result v reported)

/-- A job keeps its identifier. -/
theorem id (h : j.Becomes j') : j'.id = j.id := by
  obtain ⟨_, _, rfl⟩ := h.same
  rfl

/-- A job keeps its kind. -/
theorem kind (h : j.Becomes j') : j'.kind = j.kind := by
  obtain ⟨_, _, rfl⟩ := h.same
  rfl

/-- A job keeps its arguments. -/
theorem args (h : j.Becomes j') : j'.args = j.args := by
  obtain ⟨_, _, rfl⟩ := h.same
  rfl

/-- A job keeps waiting for the same jobs. -/
theorem dependencies (h : j.Becomes j') : j'.dependencies = j.dependencies := by
  obtain ⟨_, _, rfl⟩ := h.same
  rfl

/-- A job that is started moves forward, also if it was started before. -/
theorem start (j : StoredJob) (now : Timestamp) : j.Becomes (j.start now) where
  same := ⟨_, _, rfl⟩
  started _ := rfl
  finished h := h
  canceled h := h
  result _ h := h

/-- A job that is finished for the first time moves forward. -/
theorem finish {v : Json} (first : j.Unreported v) (now : Timestamp) :
    j.Becomes (j.finish v now) where
  same := ⟨_, _, rfl⟩
  started _ := rfl
  finished _ := rfl
  canceled h := h
  result w h := by
    rw [Unreported] at first
    rw [first] at h
    cases h

/-- A job that is canceled moves forward, and what it has reported stays. -/
theorem cancel (j : StoredJob) : j.Becomes j.cancel where
  same := ⟨_, _, rfl⟩
  started h := h
  finished h := h
  canceled _ := rfl
  result _ h := h

end Becomes

end StoredJob

namespace Store

variable {s s' s'' : Store}

/-- A store has become another one: its jobs moved forward, and jobs may have been added. -/
structure Becomes (s s' : Store) : Prop where
  /-- If identifiers were distinct, they still are. -/
  nodup : s.ids.Nodup → s'.ids.Nodup
  jobs : ∀ {x j}, s.find? x = some j → ∃ j', s'.find? x = some j' ∧ j.Becomes j'

namespace Becomes

/-- Nothing has to happen to a store. -/
theorem refl (s : Store) : s.Becomes s where
  nodup h := h
  jobs h := ⟨_, h, .refl _⟩

/-- Jobs that move forward twice have moved forward. -/
theorem trans (h : s.Becomes s') (h' : s'.Becomes s'') : s.Becomes s'' where
  nodup nodup := h'.nodup (h.nodup nodup)
  jobs found := by
    obtain ⟨j', found', first⟩ := h.jobs found
    obtain ⟨j'', found'', second⟩ := h'.jobs found'
    exact ⟨j'', found'', first.trans second⟩

/-- A submission leaves the jobs that were there. -/
theorem enqueue {new : NewJob} {id : Uuid} {now : Timestamp} (fresh : id ∉ s.ids)
    (added : s.enqueue new id now = .ok s') : s.Becomes s' where
  nodup nodup := nodup_enqueue nodup fresh added
  jobs {x j} found := by
    have other : x ≠ id := by
      rintro rfl
      rw [find?_eq_none fresh] at found
      cases found
    refine ⟨j, ?_, .refl j⟩
    rw [find?_enqueue fresh added, if_neg other, found]

end Becomes

/-- A worker has done something: jobs moved forward, and none was added. -/
structure Works (s s' : Store) : Prop where
  becomes : s.Becomes s'
  /-- What is there was there before. -/
  before : ∀ {x j'}, s'.find? x = some j' → ∃ j, s.find? x = some j ∧ j.Becomes j'

namespace Works

/-- A change that moves the job forward that it is made to is work. -/
theorem update {change : StoredJob → StoredJob} (keeps : StoredJob.Keeps change) {id : Uuid}
    (forward : ∀ j, s.find? id = some j → j.Becomes (change j)) :
    s.Works (s.update id change) := by
  have moved : ∀ {x j}, s.find? x = some j → j.Becomes (if x = id then change j else j) := by
    intro x j found
    split
    · next e => exact forward j (e ▸ found)
    · exact .refl j
  refine ⟨⟨fun nodup => ?_, fun {x j} found => ?_⟩, fun {x j'} found => ?_⟩
  · rw [ids_update keeps]
    exact nodup
  · refine ⟨_, ?_, moved found⟩
    rw [find?_update keeps, found, Option.map_some]
  · rw [find?_update keeps, Option.map_eq_some_iff] at found
    obtain ⟨j, found, rfl⟩ := found
    exact ⟨j, found, moved found⟩

/-- A worker starts a job. -/
theorem start (s : Store) (id : Uuid) (now : Timestamp) : s.Works (s.start id now) :=
  update (StoredJob.keeps_start now) fun j _ => .start j now

/-- A worker finishes a job that has no result yet. -/
theorem finish {id : Uuid} {v : Json} (first : ∀ j ∈ s.jobs, j.id = id → j.Unreported v)
    (now : Timestamp) : s.Works (s.finish id v now) :=
  update (StoredJob.keeps_finish v now) fun j found =>
    .finish (first j (find?_some found).1 (find?_some found).2) now

/-- A job is canceled, whether or not a worker has it. -/
theorem cancel (s : Store) (id : Uuid) : s.Works (s.cancel id) :=
  update StoredJob.keeps_cancel fun j _ => .cancel j

end Works

end Store

end ImageCompose
