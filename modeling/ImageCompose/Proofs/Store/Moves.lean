import ImageCompose.Proofs.Store.Progress
import ImageCompose.Store.Program
import Mathlib.Logic.Relation

/-!
# Single calls in any order

What a store goes through if anything may be submitted and workers may start, finish and cancel any
job in any order (`Store.Move`), also a finished one or one that nobody started. If no job is
finished twice, jobs still only move forward (`Store.Moves.becomes`). What workers may report for a
job of a kind, every result is that is ever stored for one (`Store.Moves.results`).
-/

namespace ImageCompose.Store

variable {reports : StoredJob → Json → Prop} {s s' : Store}

/-- One call that changes a store, if workers report as a property says. -/
inductive Move (reports : StoredJob → Json → Prop) : Store → Store → Prop
  | enqueue {s s' : Store} (new : NewJob) (id : Uuid) (now : Timestamp) (fresh : id ∉ s.ids)
      (added : s.enqueue new id now = .ok s') : Move reports s s'
  | start {s : Store} (id : Uuid) (now : Timestamp) : Move reports s (s.start id now)
  | finish {s : Store} (id : Uuid) (v : Json) (now : Timestamp)
      (reported : ∀ j ∈ s.jobs, j.id = id → reports j v) : Move reports s (s.finish id v now)
  | cancel {s : Store} (id : Uuid) : Move reports s (s.cancel id)

/-- Any number of calls. -/
def Moves (reports : StoredJob → Json → Prop) : Store → Store → Prop :=
  Relation.ReflTransGen (Move reports)

/-- A submission gives the next identifier of the supply. -/
theorem submit_ok {supply : Nat → Uuid} {now : Timestamp} {new : NewJob} {id : Uuid}
    (given : (s.submit supply now new).1 = .ok id) : id = supply s.jobs.length := by
  rw [Store.submit] at given
  cases added : s.enqueue new (supply s.jobs.length) now with
  | error e => rw [added] at given; cases given
  | ok s' => rw [added] at given; cases given; rfl

/-- A submission is such a run, whether or not it is refused, if the identifier that it gives is
new. -/
theorem Moves.submit {supply : Nat → Uuid} {now : Timestamp} {new : NewJob}
    (fresh : ∀ id, (s.submit supply now new).1 = .ok id → id ∉ s.ids) :
    Moves reports s (s.submit supply now new).2 := by
  simp only [Store.submit] at fresh ⊢
  cases added : s.enqueue new (supply s.jobs.length) now with
  | error e => exact .refl
  | ok s' =>
    rw [added] at fresh
    exact .single (.enqueue new _ now (fresh _ rfl) added)

/-- A call that finishes no job twice moves jobs forward. -/
theorem Move.becomes (h : Move StoredJob.Unreported s s') : s.Becomes s' := by
  cases h with
  | enqueue new id now fresh added => exact .enqueue fresh added
  | start id now => exact (Works.start s id now).becomes
  | finish id v now first => exact (Works.finish first now).becomes
  | cancel id => exact (Works.cancel s id).becomes

/-- Whatever the calls, jobs move forward if none of them finishes a job twice. -/
theorem Moves.becomes (h : Moves StoredJob.Unreported s s') : s.Becomes s' := by
  induction h with
  | refl => exact .refl s
  | tail _ last ih => exact ih.trans last.becomes

/-- A job that has finished has a result. -/
def Settled (s : Store) : Prop :=
  ∀ {x j}, s.find? x = some j → j.status.isFinished → j.result.isSome

/-- A change of a job that keeps this keeps it for the store. -/
theorem Settled.update (settled : s.Settled) {change : StoredJob → StoredJob}
    (keeps : StoredJob.Keeps change) (id : Uuid)
    (kept : ∀ j, (j.status.isFinished → j.result.isSome) →
      (change j).status.isFinished → (change j).result.isSome) : (s.update id change).Settled := by
  intro x j found
  rw [find?_update keeps, Option.map_eq_some_iff] at found
  obtain ⟨j, found, rfl⟩ := found
  split
  · exact kept j (settled found)
  · exact settled found

/-- A call keeps that finished jobs have results, as a job is finished with its result. -/
theorem Move.settled (settled : s.Settled) (h : Move reports s s') : s'.Settled := by
  cases h with
  | enqueue new id now fresh added =>
    intro x j found
    rw [find?_enqueue fresh added] at found
    split at found
    · cases found
      exact fun finished => nomatch finished
    · exact settled found
  | start id now => exact settled.update (StoredJob.keeps_start now) id fun _ kept => kept
  | finish id v now => exact settled.update (StoredJob.keeps_finish v now) id fun _ _ _ => rfl
  | cancel id => exact settled.update StoredJob.keeps_cancel id fun _ kept => kept

/-- Whatever the calls, a job that has finished has a result. -/
theorem Moves.settled (h : Moves reports {} s) : s.Settled := by
  induction h with
  | refl => exact fun found => nomatch found
  | tail _ last ih => exact last.settled ih

/-! ## Results -/

section
variable {may : JobKind → Json → Prop}

/-- Every result of a job is one that may be reported for its kind. -/
def Results (may : JobKind → Json → Prop) (s : Store) : Prop :=
  ∀ j ∈ s.jobs, ∀ v, j.result = some v → may j.kind v

/-- Work keeps results or replaces them by others that may be reported. -/
theorem Results.update (res : s.Results may) {change : StoredJob → StoredJob}
    (keeps : StoredJob.Keeps change) {id : Uuid}
    (reported : ∀ j ∈ s.jobs, j.id = id → ∀ v, (change j).result = some v → may j.kind v) :
    (s.update id change).Results may := by
  intro j hj v hv
  obtain ⟨k, hk, rfl⟩ := List.mem_map.1 hj
  by_cases worked : k.id = id
  · rw [if_pos worked] at hv ⊢
    have fits := reported k hk worked v hv
    obtain ⟨result, status, changed⟩ := keeps k
    rw [changed]
    exact fits
  · rw [if_neg worked] at hv ⊢
    exact res k hk v hv

/-- A call keeps that results may be reported if it reports only such. -/
theorem Move.results (res : s.Results may) (h : Move (fun j v => may j.kind v) s s') :
    s'.Results may := by
  cases h with
  | enqueue new id now fresh added =>
    intro j hj v hv
    rw [(enqueue_ok added).2, List.mem_append, List.mem_singleton] at hj
    rcases hj with hj | rfl
    · exact res j hj v hv
    · cases hv
  | start id now => exact res.update (StoredJob.keeps_start now) fun j hj _ => res j hj
  | finish id v now reported =>
    refine res.update (StoredJob.keeps_finish v now) fun j hj worked v' hv => ?_
    cases hv
    exact reported j hj worked
  | cancel id => exact res.update StoredJob.keeps_cancel fun j hj _ => res j hj

/-- If workers report what they may for the kind of a job, every stored result is such a report. -/
theorem Moves.results (h : Moves (fun j v => may j.kind v) {} s) : s.Results may := by
  induction h with
  | refl => exact fun _ hj => nomatch hj
  | tail _ last ih => exact last.results ih

end

end ImageCompose.Store
