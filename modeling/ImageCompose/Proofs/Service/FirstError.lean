import ImageCompose.Proofs.Service.BreadthFirst
import Mathlib.Data.Nat.Find

/-!
# The error behind a job

The error that is told of a job is found by a search among all that the job depends on. In a store
that may show anything, also cycles, missing jobs and results that do not decode, the search ends at
the first job in breadth-first order that is not sound, and with what stands there
(`Snapshot.chainError_breadthFirst`). So the error of the job itself wins, a nearer error wins over
one that is farther away, and there is none exactly if all that the job depends on is sound.
-/

namespace ImageCompose.Snapshot

variable {s : Snapshot} {id : Uuid} {answer : Except ServiceError (Option JobError)}

/-- A job is there, and if it has a result, it decodes and holds no error. -/
def Sound (s : Snapshot) (id : Uuid) : Prop :=
  ∃ r, s.job id = .ok r ∧ ∀ v, r.result = some v → AnyResult.decoder.ofJson? v = some ⟨none⟩

/-- What the search for an error ends with at a job that is not sound. -/
inductive Stops (s : Snapshot) (id : Uuid) : Except ServiceError (Option JobError) → Prop
  /-- The job is not there. -/
  | missing {other : Uuid} (absent : s.job id = .error (.notFound other)) :
      Stops s id (.error (.missingJob other))
  /-- The store does not answer. -/
  | unanswered {e : StoreError} (failed : s.job id = .error e)
      (known : ∀ other, e ≠ .notFound other) : Stops s id (.error (.ofStore e))
  /-- The result of the job does not decode. -/
  | undecodable {r : JobRecord} {v : Json} (found : s.job id = .ok r) (stored : r.result = some v)
      (unread : AnyResult.decoder.ofJson? v = none) :
      Stops s id (.error (.malformedJob id .undecodable))
  /-- The job ended in an error. -/
  | failed {r : JobRecord} {v : Json} {error : JobError} (found : s.job id = .ok r)
      (stored : r.result = some v) (read : AnyResult.decoder.ofJson? v = some ⟨some error⟩) :
      Stops s id (.ok (some error))

/-- A search that is stopped ends with an error or a failure. -/
theorem Stops.ends (h : s.Stops id answer) : answer ≠ .ok none := by
  cases h <;> exact nofun

/-- A job that is not sound answers with what the search ends with. -/
theorem Stops.consult (h : s.Stops id answer) : s.consult ownError id = answer := by
  cases h with
  | missing failed | unanswered failed => exact consult_of_error failed
  | undecodable found stored read | failed found stored read =>
    rw [consult_of_job found]
    simp only [ownError, stored, read]

/-- A sound job answers that it has no error. -/
theorem Sound.consult (h : s.Sound id) : s.consult ownError id = .ok none := by
  obtain ⟨r, found, sound⟩ := h
  rw [consult_of_job found]
  cases stored : r.result with
  | none => simp only [ownError, stored]
  | some v => simp only [ownError, stored, sound v stored]

/-- A job is sound or stops the search. -/
theorem sound_or_stops (s : Snapshot) (id : Uuid) :
    s.Sound id ∨ ∃ answer, s.Stops id answer := by
  cases found : s.job id with
  | error e =>
    cases e with
    | notFound other => exact .inr ⟨_, .missing found⟩
    | _ => exact .inr ⟨_, .unanswered found nofun⟩
  | ok r =>
    cases stored : r.result with
    | none => exact .inl ⟨r, found, fun v hv => by simp [stored] at hv⟩
    | some v =>
      cases read : AnyResult.decoder.ofJson? v with
      | none => exact .inr ⟨_, .undecodable found stored read⟩
      | some result =>
        obtain ⟨_ | error⟩ := result
        · exact .inl ⟨r, found, fun w hw => Option.some.inj (stored.symm.trans hw) ▸ read⟩
        · exact .inr ⟨_, .failed found stored read⟩

/-- A job answers that it has no error exactly if it is sound. -/
theorem consult_ownError_eq_none : s.consult ownError id = .ok none ↔ s.Sound id := by
  refine ⟨fun h => ?_, Sound.consult⟩
  rcases s.sound_or_stops id with sound | ⟨answer, stops⟩
  · exact sound
  · exact absurd (stops.consult.symm.trans h) stops.ends

/-- It answers anything else exactly if the search stops there with that answer. -/
theorem consult_ownError_eq_iff (ends : answer ≠ .ok none) :
    s.consult ownError id = answer ↔ s.Stops id answer := by
  refine ⟨fun h => ?_, Stops.consult⟩
  rcases s.sound_or_stops id with sound | ⟨answer', stops⟩
  · exact absurd (h.symm.trans sound.consult) ends
  · exact stops.consult.symm.trans h ▸ stops

/-- The first job in breadth-first order that is not sound decides. -/
theorem chainError_eq_iff (ends : answer ≠ .ok none) :
    s.chainError id = answer ↔ ∃ before x after, s.breadthFirst [id] = before ++ x :: after ∧
      (∀ y ∈ before, s.Sound y) ∧ s.Stops x answer := by
  rw [chainError, search_eq_findSomeM?, Except.findSomeM?_eq_iff ends]
  simp only [consult_ownError_eq_none, consult_ownError_eq_iff ends]

/-- There is no error exactly if all jobs that dependencies lead to are sound. -/
theorem chainError_eq_none :
    s.chainError id = .ok none ↔ ∀ n x, s.Away [id] n x → s.Sound x := by
  rw [chainError, search_eq_findSomeM?, Except.findSomeM?_eq_none]
  simp only [consult_ownError_eq_none, mem_breadthFirst]
  exact ⟨fun h n x path => h x ⟨n, path⟩, fun h x ⟨n, path⟩ => h n x path⟩

/-- A job that dependencies lead to is so many steps away and no fewer. -/
theorem exists_least_away {starts : List Uuid} {x : Uuid} (h : ∃ n, s.Away starts n x) :
    ∃ n, s.Away starts n x ∧ ∀ m < n, ¬s.Away starts m x := by
  classical
  exact ⟨Nat.find h, Nat.find_spec h, fun _ => Nat.find_min h⟩

/-- **The search for an error is breadth first.** It ends with what stops it at the first job in
breadth-first order that is not sound, and tells that there is no error exactly if every job that
dependencies lead to is sound. Every job that is nearer than the one it stops at is sound, and if
the job itself is not sound, it stops there. -/
theorem chainError_breadthFirst (s : Snapshot) (id : Uuid) :
    (∀ answer, answer ≠ .ok none → (s.chainError id = answer ↔
      ∃ before x after, s.breadthFirst [id] = before ++ x :: after ∧ (∀ y ∈ before, s.Sound y) ∧
        s.Stops x answer)) ∧
    (s.chainError id = .ok none ↔ ∀ n x, s.Away [id] n x → s.Sound x) ∧
    (∀ answer, answer ≠ .ok none → s.chainError id = answer →
      ∃ n x, s.Away [id] n x ∧ s.Stops x answer ∧ ∀ m < n, ∀ y, s.Away [id] m y → s.Sound y) ∧
    ∀ answer, s.Stops id answer → s.chainError id = answer := by
  refine ⟨fun _ => chainError_eq_iff, chainError_eq_none, ?_, ?_⟩
  · intro answer ends told
    obtain ⟨before, x, after, order, sound, stops⟩ := (chainError_eq_iff ends).1 told
    have listed : x ∈ s.breadthFirst [id] :=
      order ▸ List.mem_append_right _ (List.mem_cons_self ..)
    obtain ⟨n, path, least⟩ := exists_least_away (mem_breadthFirst.1 listed)
    refine ⟨n, x, path, stops, fun m hm y near => sound y ?_⟩
    exact mem_before_of_nearer order near fun k hk => least k (by omega)
  · intro answer stops
    obtain ⟨after, order⟩ := within_prefix_breadthFirst s [id] 0
    exact (chainError_eq_iff stops.ends).2 ⟨[], id, after, order.symm, nofun, stops⟩

end ImageCompose.Snapshot
