import ImageCompose.Proofs.Except
import ImageCompose.Service.Search

/-!
# What a search depends on

A search reads only jobs that it comes to, and it comes only to jobs that those it starts from
depend on. So whatever is shown of a set of jobs that is closed under dependencies is all that a
search among them depends on: if every visit there goes well, the search ends well
(`Snapshot.search_ok`), and in two stores that show the same there it ends alike
(`Snapshot.search_congr`).
-/

namespace ImageCompose

/-- What is put on a queue was there or is newly discovered. -/
theorem mem_discover {seen queue deps : List Uuid} {x : Uuid}
    (h : x ∈ (discover seen queue deps).2) : x ∈ queue ∨ x ∈ deps := by
  induction deps generalizing seen queue with
  | nil => exact .inl h
  | cons dep rest ih =>
    unfold discover at h
    split at h
    · exact (ih h).imp_right (List.mem_cons_of_mem _)
    · rcases ih h with h | h
      · rcases List.mem_append.1 h with h | h
        · exact .inl h
        · exact .inr (List.mem_singleton.1 h ▸ List.mem_cons_self ..)
      · exact .inr (List.mem_cons_of_mem _ h)

/-- Jobs that were seen are not put on the queue. -/
theorem discover_known {seen queue deps : List Uuid} (known : ∀ d ∈ deps, d ∈ seen) :
    discover seen queue deps = (seen, queue) := by
  induction deps with
  | nil => rfl
  | cons d rest ih =>
    rw [discover, if_pos (known d (List.mem_cons_self ..))]
    exact ih fun d hd => known d (List.mem_cons_of_mem _ hd)

namespace Snapshot

variable {α : Type} {visit : Uuid → JobRecord → Except ServiceError (Option α)}
  {seen : List Uuid}

@[simp] theorem search_nil (s : Snapshot) : s.search visit seen [] = .ok none := by
  rw [search]

/-- A search that comes to a job that is there ends with its visit or goes on among what the job
depends on. -/
theorem search_cons {s : Snapshot} {id : Uuid} {queue : List Uuid} {r : JobRecord}
    (h : s.job id = .ok r) :
    s.search visit seen (id :: queue) =
      match visit id r with
      | .error e => .error e
      | .ok (some answer) => .ok (some answer)
      | .ok none =>
        s.search visit (discover seen queue r.dependencies).1
          (discover seen queue r.dependencies).2 := by
  rw [search]
  split
  · next failed => rw [h] at failed; cases failed
  · next found =>
    rw [h] at found
    cases found
    rfl

/-- A search asks for the next job, visits it, and goes on if the visit gives no answer. -/
theorem search_cons_bind (s : Snapshot) (id : Uuid) (queue : List Uuid) :
    s.search visit seen (id :: queue) =
      ((s.job id).mapError .ofStore >>= fun r => visit id r >>= fun
        | some answer => .ok (some answer)
        | none => s.search visit (discover seen queue r.dependencies).1
            (discover seen queue r.dependencies).2) := by
  cases found : s.job id with
  | ok r =>
    rw [search_cons found, Except.mapError_ok]
    show _ = (visit id r >>= _)
    cases visit id r with
    | error e => rfl
    | ok answer => cases answer <;> rfl
  | error e =>
    rw [search]
    split
    · next failed =>
      rw [found] at failed
      cases failed
      rfl
    · next found' =>
      rw [found] at found'
      cases found'

/-- If visits go well wherever the search comes, the search ends well. -/
theorem search_ok {s : Snapshot} {P : Uuid → Prop}
    (step : ∀ id, P id → ∃ r, s.job id = .ok r ∧ (∃ answer, visit id r = .ok answer) ∧
      ∀ d ∈ r.dependencies, P d)
    {queue : List Uuid} (start : ∀ id ∈ queue, P id) :
    ∃ answer, s.search visit seen queue = .ok answer := by
  fun_induction search s visit seen queue with
  | case1 => exact ⟨_, rfl⟩
  | case2 seen id queue e failed =>
    obtain ⟨r, found, -⟩ := step id (start id (List.mem_cons_self ..))
    rw [failed] at found
    cases found
  | case3 seen id queue r found e failed =>
    obtain ⟨r', found', ⟨answer, visited⟩, -⟩ := step id (start id (List.mem_cons_self ..))
    obtain rfl := Except.ok.inj (found.symm.trans found')
    rw [failed] at visited
    cases visited
  | case4 => exact ⟨_, rfl⟩
  | case5 seen id queue r found visited ih =>
    obtain ⟨r', found', -, closed⟩ := step id (start id (List.mem_cons_self ..))
    obtain rfl := Except.ok.inj (found.symm.trans found')
    refine ih fun x hx => ?_
    rcases mem_discover hx with hx | hx
    · exact start x (List.mem_cons_of_mem _ hx)
    · exact closed x hx

/-- What a search answers is the answer of a visit to a job that it comes to. -/
theorem search_answer {s : Snapshot} {P : Uuid → Prop}
    (closed : ∀ id r, P id → s.job id = .ok r → ∀ d ∈ r.dependencies, P d)
    {queue : List Uuid} (start : ∀ id ∈ queue, P id) {answer : α}
    (h : s.search visit seen queue = .ok (some answer)) :
    ∃ id r, P id ∧ s.job id = .ok r ∧ visit id r = .ok (some answer) := by
  fun_induction search s visit seen queue with
  | case1 => cases h
  | case2 => cases h
  | case3 => cases h
  | case4 seen id queue r found answer' visited =>
    cases h
    exact ⟨id, r, start id (List.mem_cons_self ..), found, visited⟩
  | case5 seen id queue r found visited ih =>
    refine ih (fun x hx => ?_) h
    rcases mem_discover hx with hx | hx
    · exact start x (List.mem_cons_of_mem _ hx)
    · exact closed id r (start id (List.mem_cons_self ..)) found x hx

/-- If two stores show the same wherever the search comes, the search ends alike in both. -/
theorem search_congr {s s' : Snapshot} {P : Uuid → Prop}
    (step : ∀ id, P id → Alike (fun r r' => visit id r = visit id r' ∧
      r.dependencies = r'.dependencies ∧ ∀ d ∈ r.dependencies, P d) (s.job id) (s'.job id))
    {queue : List Uuid} (start : ∀ id ∈ queue, P id) :
    s.search visit seen queue = s'.search visit seen queue := by
  fun_induction search s visit seen queue with
  | case1 => rw [search_nil]
  | case2 seen id queue e failed =>
    have failed' := (failed ▸ step id (start id (List.mem_cons_self ..))).of_error
    rw [search_cons_bind, failed']
    rfl
  | case3 seen id queue r found e visited =>
    obtain ⟨r', found', same, -⟩ := (found ▸ step id (start id (List.mem_cons_self ..))).of_ok
    rw [search_cons found', ← same, visited]
  | case4 seen id queue r found answer visited =>
    obtain ⟨r', found', same, -⟩ := (found ▸ step id (start id (List.mem_cons_self ..))).of_ok
    rw [search_cons found', ← same, visited]
  | case5 seen id queue r found visited ih =>
    obtain ⟨r', found', same, waits, closed⟩ :=
      (found ▸ step id (start id (List.mem_cons_self ..))).of_ok
    rw [search_cons found', ← same, visited, ← waits]
    -- Both go on with the same queue, on which there are only jobs of the set.
    refine ih fun x hx => ?_
    rcases mem_discover hx with hx | hx
    · exact start x (List.mem_cons_of_mem _ hx)
    · exact closed x hx

end Snapshot

end ImageCompose
