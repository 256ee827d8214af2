import ImageCompose.Proofs.Service.Search
import Mathlib.Data.List.Induction
import Mathlib.Data.List.Infix
import Mathlib.Data.List.Nodup

/-!
# Searches are breadth first

`Snapshot.breadthFirst` lists the jobs that a search can come to in the order of their discovery,
without a queue: what is within one more step is what the search starts from, and then what the
jobs within the steps before wait for, each job where it comes up first. No job is listed twice,
exactly the jobs are listed that dependencies lead to (`Snapshot.mem_breadthFirst`), and the nearer
ones come first (`Snapshot.mem_before_of_nearer`).

A search consults the jobs in this order until it is told something
(`Snapshot.search_eq_findSomeM?`). The invariant of its queue (`Snapshot.Progress`) ties the two
together: what was visited and what is queued are what the visited jobs have led to so far.
-/

namespace ImageCompose

/-! ## Where items come up first -/

section
variable {α β : Type} [BEq α] [LawfulBEq α] {as as' bs : List α} {a : α}

/-- What comes up first does not depend on what follows. -/
theorem eraseDups_prefix (as bs : List α) : as.eraseDups <+: (as ++ bs).eraseDups := by
  rw [List.eraseDups_append]
  exact List.prefix_append _ _

/-- An item that came up before does not count. -/
theorem eraseDups_concat_of_mem (h : a ∈ as) : (as ++ [a]).eraseDups = as.eraseDups := by
  rw [List.eraseDups_append]
  simp [List.removeAll, h]

/-- A new item comes up last. -/
theorem eraseDups_concat_of_not_mem (h : a ∉ as) :
    (as ++ [a]).eraseDups = as.eraseDups ++ [a] := by
  rw [List.eraseDups_append]
  simp [List.removeAll, h, List.eraseDups_cons]

/-- Where items come up first after some others, it only matters which these are and in which order
they came up. -/
theorem eraseDups_append_congr (same : as.eraseDups = as'.eraseDups) (bs : List α) :
    (as ++ bs).eraseDups = (as' ++ bs).eraseDups := by
  have among : ∀ b, b ∈ as ↔ b ∈ as' := fun b => by
    rw [← List.mem_eraseDups, same, List.mem_eraseDups]
  have rest : bs.removeAll as = bs.removeAll as' := by
    simp [List.removeAll, among]
  rw [List.eraseDups_append, List.eraseDups_append, same, rest]

/-- Items that came up before do not count. -/
theorem eraseDups_append_of_subset (known : ∀ b ∈ bs, b ∈ as) :
    (as ++ bs).eraseDups = as.eraseDups := by
  have none_new : bs.removeAll as = [] := by simpa [List.removeAll] using known
  rw [List.eraseDups_append, none_new, List.eraseDups_nil, List.append_nil]

/-- Each item comes up first in one place. -/
theorem nodup_eraseDups (as : List α) : as.eraseDups.Nodup := by
  induction as using List.reverseRecOn with
  | nil => exact List.nodup_nil
  | append_singleton as a ih =>
    by_cases h : a ∈ as
    · rwa [eraseDups_concat_of_mem h]
    · rw [eraseDups_concat_of_not_mem h]
      rw [← List.concat_eq_append]
      exact ih.concat (by rwa [List.mem_eraseDups])

/-- What items lead to comes up first where they come up first. -/
theorem eraseDups_append_flatMap (starts : List α) (f : α → List α) (as : List α) :
    (starts ++ as.eraseDups.flatMap f).eraseDups = (starts ++ as.flatMap f).eraseDups := by
  induction as using List.reverseRecOn with
  | nil => rfl
  | append_singleton as a ih =>
    rw [List.flatMap_append, List.flatMap_singleton, ← List.append_assoc]
    by_cases h : a ∈ as
    · have known : ∀ b ∈ f a, b ∈ starts ++ as.flatMap f := fun b hb =>
        List.mem_append_right _ (List.mem_flatMap.2 ⟨a, h, hb⟩)
      rw [eraseDups_concat_of_mem h, ih, eraseDups_append_of_subset known]
    · rw [eraseDups_concat_of_not_mem h, List.flatMap_append, List.flatMap_singleton,
        ← List.append_assoc]
      exact eraseDups_append_congr ih _

end

/-- What is put on the queue and what is seen by then, if what was visited and queued before was all
that was seen. -/
theorem discover_spec {seen queue visited : List Uuid} (deps : List Uuid)
    (known : ∀ x, x ∈ seen ↔ x ∈ visited ++ queue) :
    (∀ x, x ∈ (discover seen queue deps).1 ↔ x ∈ visited ++ (discover seen queue deps).2) ∧
      (visited ++ (discover seen queue deps).2).eraseDups =
        (visited ++ queue ++ deps).eraseDups := by
  induction deps generalizing seen queue with
  | nil => exact ⟨known, by rw [List.append_nil]; rfl⟩
  | cons dep rest ih =>
    have shift : visited ++ queue ++ dep :: rest = visited ++ queue ++ [dep] ++ rest := by simp
    unfold discover
    split
    · next old =>
      obtain ⟨seen_iff, order⟩ := ih known
      refine ⟨seen_iff, order.trans ?_⟩
      rw [shift]
      exact eraseDups_append_congr (eraseDups_concat_of_mem ((known dep).1 old)).symm rest
    · have known' : ∀ x, x ∈ dep :: seen ↔ x ∈ visited ++ (queue ++ [dep]) := fun x => by
        rw [List.mem_cons, known, ← List.append_assoc, List.mem_append (t := [dep]),
          List.mem_singleton, or_comm]
      obtain ⟨seen_iff, order⟩ := ih known'
      refine ⟨seen_iff, order.trans ?_⟩
      rw [shift, List.append_assoc visited queue [dep]]

namespace Snapshot

variable (s : Snapshot) (starts : List Uuid)

/-! ## The order of discovery -/

/-- The jobs that a job waits for; none if it cannot be read. -/
def waitsFor (id : Uuid) : List Uuid :=
  match s.job id with
  | .ok r => r.dependencies
  | .error _ => []

/-- The jobs within a number of steps, in the order of their discovery. -/
def within : Nat → List Uuid
  | 0 => starts.eraseDups
  | n + 1 => (starts ++ (within n).flatMap s.waitsFor).eraseDups

/-- All jobs that dependencies lead to, in the order of their discovery. -/
def breadthFirst : List Uuid := s.within starts s.mentioned.length

/-- A number of dependencies leads to a job. -/
inductive Away : Nat → Uuid → Prop
  | start {x : Uuid} (h : x ∈ starts) : Away 0 x
  | step {n : Nat} {x y : Uuid} {r : JobRecord} (path : Away n x) (found : s.job x = .ok r)
      (waits : y ∈ r.dependencies) : Away (n + 1) y

variable {s starts} {x y : Uuid} {m n : Nat}

/-- A job waits for what its record says, if it can be read. -/
theorem mem_waitsFor : y ∈ s.waitsFor x ↔ ∃ r, s.job x = .ok r ∧ y ∈ r.dependencies := by
  unfold waitsFor
  cases s.job x <;> simp

/-- No dependency leads to the jobs that the search starts at. -/
theorem away_zero : s.Away starts 0 x ↔ x ∈ starts :=
  ⟨fun h => by cases h; assumption, .start⟩

/-- One more dependency leads to what these jobs wait for. -/
theorem away_succ : s.Away starts (n + 1) y ↔ ∃ x, s.Away starts n x ∧ y ∈ s.waitsFor x := by
  constructor
  · intro h
    cases h with
    | step path found waits => exact ⟨_, path, mem_waitsFor.2 ⟨_, found, waits⟩⟩
  · rintro ⟨x, path, waits⟩
    obtain ⟨r, found, waits⟩ := mem_waitsFor.1 waits
    exact .step path found waits

/-- Within a number of steps are the jobs that no more dependencies lead to. -/
theorem mem_within : x ∈ s.within starts n ↔ ∃ m ≤ n, s.Away starts m x := by
  induction n generalizing x with
  | zero => simp [within, away_zero]
  | succ n ih =>
    rw [within, List.mem_eraseDups, List.mem_append, List.mem_flatMap]
    constructor
    · rintro (h | ⟨y, hy, waits⟩)
      · exact ⟨0, by omega, .start h⟩
      · obtain ⟨m, hm, path⟩ := ih.1 hy
        exact ⟨m + 1, by omega, away_succ.2 ⟨y, path, waits⟩⟩
    · rintro ⟨_ | m, hm, path⟩
      · exact .inl (away_zero.1 path)
      · obtain ⟨y, path, waits⟩ := away_succ.1 path
        exact .inr ⟨y, ih.2 ⟨m, by omega, path⟩, waits⟩

/-- No job is discovered twice. -/
theorem nodup_within (s : Snapshot) (starts : List Uuid) (n : Nat) :
    (s.within starts n).Nodup := by
  cases n <;> exact nodup_eraseDups _

/-- One more step discovers more jobs after those discovered before. -/
theorem within_prefix_succ (s : Snapshot) (starts : List Uuid) (n : Nat) :
    s.within starts n <+: s.within starts (n + 1) := by
  induction n with
  | zero => exact eraseDups_prefix _ _
  | succ n ih =>
    obtain ⟨new, more⟩ := ih
    rw [within, within, ← more, List.flatMap_append, ← List.append_assoc]
    exact eraseDups_prefix _ _

/-- What is discovered within fewer steps is discovered first. -/
theorem within_prefix (h : m ≤ n) : s.within starts m <+: s.within starts n := by
  induction h with
  | refl => exact List.prefix_refl _
  | step _ ih => exact ih.trans (within_prefix_succ ..)

/-- The more was seen, the fewer dependencies are unseen. -/
theorem unseen_anti {seen seen' : List Uuid} (more : ∀ x ∈ seen, x ∈ seen') :
    s.unseen seen' ≤ s.unseen seen := by
  refine (List.monotone_filter_right _ fun x => ?_).length_le
  simpa using mt (more x)

/-- If one more step discovers something, fewer dependencies are unseen after it. -/
theorem within_succ_cases (s : Snapshot) (starts : List Uuid) (n : Nat) :
    s.within starts (n + 1) = s.within starts n ∨
      s.unseen (s.within starts (n + 1)) < s.unseen (s.within starts n) := by
  by_cases more : ∀ y ∈ s.within starts (n + 1), y ∈ s.within starts n
  · obtain ⟨new, grown⟩ := within_prefix_succ s starts n
    have distinct : (s.within starts n ++ new).Nodup := grown ▸ nodup_within s starts (n + 1)
    cases new with
    | nil => exact .inl (by rw [← grown, List.append_nil])
    | cons y new =>
      have old := more y (grown ▸ List.mem_append_right _ (List.mem_cons_self ..))
      exact absurd rfl ((List.nodup_append.1 distinct).2.2 y old y (List.mem_cons_self ..))
  · obtain ⟨y, discovered, new⟩ : ∃ y ∈ s.within starts (n + 1), y ∉ s.within starts n := by
      simpa using more
    have dependency : y ∈ s.mentioned := by
      rw [within, List.mem_eraseDups, List.mem_append, List.mem_flatMap] at discovered
      rcases discovered with h | ⟨x, -, waits⟩
      · exact absurd (mem_within.2 ⟨0, Nat.zero_le n, .start h⟩) new
      · obtain ⟨r, found, waits⟩ := mem_waitsFor.1 waits
        exact mem_mentioned found waits
    refine .inr (Nat.lt_of_le_of_lt (unseen_anti ?_) (unseen_cons_lt dependency new))
    exact List.forall_mem_cons.2 ⟨discovered, (within_prefix_succ s starts n).subset⟩

/-- What one more step discovers depends only on what was discovered before. -/
theorem within_succ_congr (same : s.within starts m = s.within starts n) :
    s.within starts (m + 1) = s.within starts (n + 1) := by
  rw [within, same]
  rfl

/-- When there were as many steps as there are dependencies, nothing more is discovered. -/
theorem within_stable (s : Snapshot) (starts : List Uuid) (n : Nat) :
    s.within starts (s.mentioned.length + n) = s.breadthFirst starts := by
  -- Every step that discovers something leaves at least one dependency fewer unseen.
  have progress : ∀ k, s.within starts (k + 1) = s.within starts k ∨
      s.unseen (s.within starts k) + k ≤ s.mentioned.length := by
    intro k
    induction k with
    | zero => exact .inr (List.length_filter_le _ _)
    | succ k ih =>
      rcases ih with stable | bound
      · exact .inl (within_succ_congr stable)
      · rcases within_succ_cases s starts k with stable | fewer
        · exact .inl (within_succ_congr stable)
        · exact .inr (by omega)
  have last : s.within starts (s.mentioned.length + 1) = s.breadthFirst starts := by
    rcases progress s.mentioned.length with stable | bound
    · exact stable
    · rcases within_succ_cases s starts s.mentioned.length with stable | fewer
      · exact stable
      · omega
  induction n with
  | zero => rfl
  | succ n ih =>
    rw [← last]
    exact within_succ_congr ih

/-- However many steps are taken, they go along the breadth-first order. -/
theorem within_prefix_breadthFirst (s : Snapshot) (starts : List Uuid) (n : Nat) :
    s.within starts n <+: s.breadthFirst starts := by
  rw [← within_stable s starts n]
  exact within_prefix (Nat.le_add_left ..)

/-- In breadth-first order, jobs come up first as what the search starts from or as what the jobs
before them wait for. -/
theorem breadthFirst_eq (s : Snapshot) (starts : List Uuid) :
    (starts ++ (s.breadthFirst starts).flatMap s.waitsFor).eraseDups = s.breadthFirst starts :=
  within_stable s starts 1

/-- Two jobs that wait for each other, and one that both of them wait for. -/
example :
    let record (dependencies : List Uuid) : Except StoreError JobRecord :=
      .ok ⟨.osbuild, "", .null, none, {}, dependencies, []⟩
    let s : Snapshot := ⟨[(.ofNat 0, record [.ofNat 1, .ofNat 2, .ofNat 1]),
      (.ofNat 1, record [.ofNat 0, .ofNat 3]), (.ofNat 2, record [.ofNat 3])]⟩
    s.breadthFirst [.ofNat 0] = [.ofNat 0, .ofNat 1, .ofNat 2, .ofNat 3] := by
  decide +kernel

/-- Exactly the jobs are listed that dependencies lead to. -/
theorem mem_breadthFirst : x ∈ s.breadthFirst starts ↔ ∃ n, s.Away starts n x := by
  constructor
  · intro h
    obtain ⟨n, -, path⟩ := mem_within.1 h
    exact ⟨n, path⟩
  · rintro ⟨n, path⟩
    exact (within_prefix_breadthFirst s starts n).subset (mem_within.2 ⟨n, Nat.le_refl n, path⟩)

/-- A job that fewer dependencies lead to comes before. -/
theorem mem_before_of_nearer {before after : List Uuid}
    (order : s.breadthFirst starts = before ++ x :: after) (near : s.Away starts m y)
    (far : ∀ k ≤ m, ¬s.Away starts k x) : y ∈ before := by
  have hy : y ∈ s.within starts m := mem_within.2 ⟨m, Nat.le_refl m, near⟩
  have hx : x ∉ s.within starts m := fun h => by
    obtain ⟨k, hk, path⟩ := mem_within.1 h
    exact far k hk path
  obtain ⟨rest, split⟩ := within_prefix_breadthFirst s starts m
  rw [order] at split
  rcases List.append_eq_append_iff.1 split with ⟨mid, rfl, -⟩ | ⟨mid, e, ends⟩
  · exact List.mem_append_left _ hy
  · rw [e] at hy hx
    cases mid with
    | nil => rwa [List.append_nil] at hy
    | cons z mid =>
      cases ends
      exact absurd (List.mem_append_right _ (List.mem_cons_self ..)) hx

/-! ## The search -/

variable {α : Type} {visit : Uuid → JobRecord → Except ServiceError (Option α)}
  {visited queue seen : List Uuid}

/-- Asks for a job and visits it. -/
def consult (s : Snapshot) (visit : Uuid → JobRecord → Except ServiceError (Option α)) (id : Uuid) :
    Except ServiceError (Option α) := do
  visit id (← (s.job id).mapError .ofStore)

/-- A job that is there is visited. -/
theorem consult_of_job {id : Uuid} {r : JobRecord} (found : s.job id = .ok r) :
    s.consult visit id = visit id r := by
  rw [consult, found]
  rfl

/-- The search fails at a job that the store does not tell of. -/
theorem consult_of_error {id : Uuid} {e : StoreError} (failed : s.job id = .error e) :
    s.consult visit id = .error (.ofStore e) := by
  rw [consult, failed]
  rfl

/-- How far a search has come that goes on with a queue. -/
structure Progress (s : Snapshot) (visit : Uuid → JobRecord → Except ServiceError (Option α))
    (starts visited queue seen : List Uuid) : Prop where
  /-- What was seen was visited or is queued. -/
  seen_iff : ∀ x, x ∈ seen ↔ x ∈ visited ++ queue
  /-- What was visited and what is queued is what the visited jobs have led to, in this order. -/
  discovered : (visited ++ queue).eraseDups = (starts ++ visited.flatMap s.waitsFor).eraseDups
  /-- Jobs are visited in breadth-first order. -/
  ordered : visited.eraseDups <+: s.breadthFirst starts
  /-- No visit has told anything. -/
  untold : ∀ x ∈ visited, s.consult visit x = .ok none

namespace Progress

/-- A search begins with nothing visited and the starts queued. -/
theorem begin : s.Progress visit starts [] starts starts where
  seen_iff _ := by rw [List.nil_append]
  discovered := by simp
  ordered := by simp
  untold := nofun

/-- What is queued comes next in breadth-first order. -/
theorem queue_ordered (h : s.Progress visit starts visited queue seen) :
    (visited ++ queue).eraseDups <+: s.breadthFirst starts := by
  obtain ⟨rest, order⟩ := h.ordered
  rw [h.discovered, ← eraseDups_append_flatMap, ← breadthFirst_eq, ← order, List.flatMap_append,
    ← List.append_assoc]
  exact eraseDups_prefix _ _

/-- After a visit that tells nothing, what the visited job waits for was discovered. -/
theorem step {id : Uuid} {r : JobRecord} (h : s.Progress visit starts visited (id :: queue) seen)
    (found : s.job id = .ok r) (nothing : visit id r = .ok none) :
    s.Progress visit starts (visited ++ [id]) (discover seen queue r.dependencies).2
      (discover seen queue r.dependencies).1 := by
  have shift : visited ++ id :: queue = visited ++ [id] ++ queue := by simp
  have known : ∀ x, x ∈ seen ↔ x ∈ visited ++ [id] ++ queue := shift ▸ h.seen_iff
  obtain ⟨seen_iff, order⟩ := discover_spec r.dependencies known
  have waits : s.waitsFor id = r.dependencies := by rw [waitsFor, found]
  constructor
  · exact seen_iff
  · rw [order, List.flatMap_append, List.flatMap_singleton, waits, ← List.append_assoc, ← shift]
    exact eraseDups_append_congr h.discovered _
  · refine List.IsPrefix.trans ?_ h.queue_ordered
    rw [shift]
    exact eraseDups_prefix _ _
  · intro x hx
    rcases List.mem_append.1 hx with hx | hx
    · exact h.untold x hx
    · rw [List.mem_singleton.1 hx, consult_of_job found, nothing]

/-- When the queue is empty, no job that dependencies lead to tells anything. -/
theorem done (h : s.Progress visit starts visited [] seen) :
    (s.breadthFirst starts).findSomeM? (s.consult visit) = .ok none := by
  have closed : ∀ x, x ∈ visited ↔ x ∈ starts ∨ x ∈ visited.flatMap s.waitsFor := fun x => by
    rw [← List.mem_append, ← List.mem_eraseDups (l := starts ++ _), ← h.discovered,
      List.mem_eraseDups, List.append_nil]
  refine Except.findSomeM?_eq_none.2 fun x hx => h.untold x ?_
  obtain ⟨n, path⟩ := mem_breadthFirst.1 hx
  induction n generalizing x with
  | zero => exact (closed x).2 (.inl (away_zero.1 path))
  | succ n ih =>
    obtain ⟨y, path, waits⟩ := away_succ.1 path
    have hy := ih y (mem_breadthFirst.2 ⟨n, path⟩) path
    exact (closed x).2 (.inr (List.mem_flatMap.2 ⟨y, hy, waits⟩))

/-- A visit that fails or tells something decides. -/
theorem told {id : Uuid} {answer : Except ServiceError (Option α)}
    (h : s.Progress visit starts visited (id :: queue) seen)
    (tells : s.consult visit id = answer) (ends : answer ≠ .ok none) :
    (s.breadthFirst starts).findSomeM? (s.consult visit) = answer := by
  have new : id ∉ visited := fun old => ends (tells.symm.trans (h.untold id old))
  obtain ⟨rest, order⟩ := h.queue_ordered
  have split : ∃ after, s.breadthFirst starts = visited.eraseDups ++ id :: after := by
    obtain ⟨more, later⟩ := eraseDups_prefix (visited ++ [id]) queue
    refine ⟨more ++ rest, ?_⟩
    rw [← order, ← List.singleton_append, ← List.append_assoc visited, ← later,
      eraseDups_concat_of_not_mem new]
    simp
  obtain ⟨after, split⟩ := split
  rw [split, Except.findSomeM?_append_of_none
    fun x hx => h.untold x (List.mem_eraseDups.1 hx)]
  exact Except.findSomeM?_cons_of_told tells ends after

/-- However far a search has come, it ends as it does when jobs are consulted in breadth-first
order. -/
theorem search_eq (h : s.Progress visit starts visited queue seen) :
    s.search visit seen queue = (s.breadthFirst starts).findSomeM? (s.consult visit) := by
  fun_induction search s visit seen queue generalizing visited with
  | case1 => exact h.done.symm
  | case2 seen id queue e failed => exact (h.told (consult_of_error failed) (by simp)).symm
  | case3 seen id queue r found e failed =>
    exact (h.told ((consult_of_job found).trans failed) (by simp)).symm
  | case4 seen id queue r found answer tells =>
    exact (h.told ((consult_of_job found).trans tells) (by simp)).symm
  | case5 seen id queue r found nothing ih => exact ih (h.step found nothing)

end Progress

/-- A search asks the jobs that dependencies lead to in breadth-first order, and ends with the first
of them that is missing, fails or tells something. -/
theorem search_eq_findSomeM? :
    s.search visit starts starts = (s.breadthFirst starts).findSomeM? (s.consult visit) :=
  Progress.begin.search_eq

end Snapshot

end ImageCompose
