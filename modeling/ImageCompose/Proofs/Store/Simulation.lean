import ImageCompose.Http.Server
import ImageCompose.Proofs.Store.Indexed
import ImageCompose.Proofs.Store.Order
import ImageCompose.Proofs.Store.Run

/-!
# Calls of the store with an index

Whatever is submitted to an `IndexedStore` and whatever workers do (`IndexedStore.Moves`), its map
and its order stay in step if identifiers that are given are new (`IndexedStore.Moves.inStep`), and
the list of its jobs goes through the same calls (`IndexedStore.Moves.toStore`). So what is known of
the order of submission of such lists is known of the two containers together: they are an acyclic
graph, to which jobs are only ever added at the end (`IndexedStore.Moves.acyclicGraph`).

`IndexedStore.Shows` relates a store that calls lead to with the list of its jobs. It is a
simulation of single calls, of programs (`IndexedStore.Shows.run`) and of requests to the server
(`IndexedStore.Shows.respond`): they are answered alike, and related stores are left behind.
-/

namespace ImageCompose.IndexedStore

variable {s s' : IndexedStore} {t : Store} {supply : Nat → Uuid} {now : Timestamp} {new : NewJob}

/-! ## Runs -/

/-- One call to a store, a refused one as well, if identifiers that are given are new. -/
inductive Move : IndexedStore → IndexedStore → Prop
  | submit {s : IndexedStore} {supply : Nat → Uuid} {now : Timestamp} {new : NewJob}
      (fresh : ∀ id, (s.submit supply now new).1 = .ok id → id ∉ s.jobs) :
      Move s (s.submit supply now new).2
  | start {s : IndexedStore} (id : Uuid) (now : Timestamp) : Move s (s.start id now)
  | finish {s : IndexedStore} (id : Uuid) (v : Json) (now : Timestamp) : Move s (s.finish id v now)
  | cancel {s : IndexedStore} (id : Uuid) : Move s (s.cancel id)

/-- Any number of calls. -/
def Moves : IndexedStore → IndexedStore → Prop := Relation.ReflTransGen Move

/-- A call changes the map and the order in step. -/
theorem Move.inStep (inv : s.InStep) (h : Move s s') : s'.InStep := by
  cases h with
  | submit fresh => exact inv.submit fresh
  | start id now => exact inv.update (StoredJob.keeps_start now) id
  | finish id v now => exact inv.update (StoredJob.keeps_finish v now) id
  | cancel id => exact inv.update StoredJob.keeps_cancel id

/-- So do any number of calls. -/
theorem Moves.inStep (inv : s.InStep) (h : Moves s s') : s'.InStep := by
  induction h with
  | refl => exact inv
  | tail _ last ih => exact last.inStep ih

/-- A call does to the list of jobs what a call to it does. -/
theorem Move.toStore (inv : s.InStep) (h : Move s s') :
    Store.Moves (fun _ _ => True) s.toStore s'.toStore := by
  cases h with
  | submit fresh =>
    rw [← inv.submit_toStore fresh]
    exact .submit fun id given => inv.mem_ids.not.2 (fresh id (inv.answer_toStore ▸ given))
  | start id now => exact inv.update_toStore id (.start now) ▸ .single (.start id now)
  | finish id v now =>
    exact inv.update_toStore id (.finish v now) ▸ .single (.finish id v now fun _ _ _ => trivial)
  | cancel id => exact inv.update_toStore id .cancel ▸ .single (.cancel id)

/-- Any number of calls do to the list of jobs what calls to it do. -/
theorem Moves.toStore (inv : s.InStep) (h : Moves s s') :
    Store.Moves (fun _ _ => True) s.toStore s'.toStore := by
  induction h with
  | refl => exact .refl
  | tail before last ih => exact ih.trans (last.toStore (Moves.inStep inv before))

/-! ## The list that a store shows -/

/-- A store that calls lead to shows the list of its jobs. -/
structure Shows (s : IndexedStore) (t : Store) : Prop where
  reached : Moves {} s
  jobs : s.toStore = t

/-- One value comes with a store and with the list that it shows. -/
def Alike (r : α × IndexedStore) (r' : α × Store) : Prop := r.1 = r'.1 ∧ r.2.Shows r'.2

namespace Shows

/-- A new store shows no jobs. -/
theorem empty : Shows {} {} := ⟨.refl, rfl⟩

/-- The two containers of such a store are in step. -/
theorem inStep (h : s.Shows t) : s.InStep := h.reached.inStep .empty

/-- Programs are answered alike. -/
theorem snapshot (h : s.Shows t) : s.snapshot = t.snapshot :=
  h.jobs ▸ h.inStep.snapshot_toStore.symm

/-- A submission under a new identifier is answered alike, and shows again. -/
theorem submit (h : s.Shows t) (fresh : ∀ id, (t.submit supply now new).1 = .ok id → id ∉ t.ids) :
    Alike (s.submit supply now new) (t.submit supply now new) := by
  obtain ⟨reached, rfl⟩ := h
  have inv : s.InStep := reached.inStep .empty
  have unknown : ∀ id, (s.submit supply now new).1 = .ok id → id ∉ s.jobs := fun id given =>
    inv.mem_ids.not.1 (fresh id (inv.answer_toStore.trans given))
  exact ⟨inv.answer_toStore.symm, reached.tail (.submit unknown), (inv.submit_toStore unknown).symm⟩

/-- It also shows again if the next identifier of the supply is new. -/
theorem submit_next (h : s.Shows t) (fresh : supply t.jobs.length ∉ t.ids) :
    (s.submit supply now new).2.Shows (t.submit supply now new).2 := by
  refine (h.submit fun id given => ?_).2
  rw [Store.submit_ok given]
  exact fresh

/-- A worker who picks a job up does so in both. -/
theorem start (h : s.Shows t) (id : Uuid) (now : Timestamp) :
    (s.start id now).Shows (t.start id now) :=
  ⟨h.reached.tail (.start id now), h.jobs ▸ (h.inStep.update_toStore id (.start now)).symm⟩

/-- A worker who reports a result does so to both. -/
theorem finish (h : s.Shows t) (id : Uuid) (v : Json) (now : Timestamp) :
    (s.finish id v now).Shows (t.finish id v now) :=
  ⟨h.reached.tail (.finish id v now), h.jobs ▸ (h.inStep.update_toStore id (.finish v now)).symm⟩

/-- A job is canceled in both. -/
theorem cancel (h : s.Shows t) (id : Uuid) : (s.cancel id).Shows (t.cancel id) :=
  ⟨h.reached.tail (.cancel id), h.jobs ▸ (h.inStep.update_toStore id .cancel).symm⟩

/-- A program runs alike against both, as long as the supply gives new identifiers. -/
theorem run (h : s.Shows t) (p : StoreProgram α)
    (nodup : (p.run (Store.backend supply now) t).2.ids.Nodup) :
    Alike (p.run (backend supply now) s) (p.run (Store.backend supply now) t) := by
  induction p generalizing s t with
  | done a => exact ⟨rfl, h⟩
  | jobKind id next ih =>
    simp only [StoreProgram.run, backend, h.snapshot]
    exact ih _ h nodup
  | job id next ih =>
    simp only [StoreProgram.run, backend, h.snapshot]
    exact ih _ h nodup
  | enqueue new next ih =>
    have fresh : ∀ id, (t.submit supply now new).1 = .ok id → id ∉ t.ids := by
      intro id given
      simp only [StoreProgram.run, Store.backend, Store.submit] at nodup given
      cases added : t.enqueue new (supply t.jobs.length) now with
      | error e => rw [added] at given; cases given
      | ok t₁ =>
        rw [added] at nodup given
        cases given
        exact StoreProgram.fresh_of_nodup_run added _ nodup
    obtain ⟨answer, shows'⟩ := h.submit fresh
    simp only [StoreProgram.run, backend, Store.backend, answer] at nodup ⊢
    exact ih _ shows' nodup

/-- An action is answered alike. -/
theorem answerAction [Wire α] (h : s.Shows t) (action : Except ServiceError (Action α))
    (nodup : (Http.answerAction (Store.backend supply now) action t).2.ids.Nodup) :
    Alike (Http.answerAction (backend supply now) action s)
      (Http.answerAction (Store.backend supply now) action t) := by
  cases action with
  | error e => exact ⟨rfl, h⟩
  | ok action =>
    obtain ⟨same, shows'⟩ := h.run (ExceptT.run action) nodup
    exact ⟨congrArg (Http.answer 201) same, shows'⟩

/-- A request for a route is answered alike. -/
theorem serve (h : s.Shows t) (config : Config) (fresh : Fresh) (r : Http.Request)
    (route : Http.Route)
    (nodup : (Http.serve config (Store.backend supply now) fresh r route t).2.ids.Nodup) :
    Alike (Http.serve config (backend supply now) fresh r route s)
      (Http.serve config (Store.backend supply now) fresh r route t) := by
  have told : (backend supply now).snapshot s = (Store.backend supply now).snapshot t := h.snapshot
  cases route with
  | compose => exact h.answerAction _ nodup
  | cloneCompose id =>
    simp only [Http.serve] at nodup ⊢
    cases read : Http.percentDecode? id with
    | none => exact ⟨rfl, h⟩
    | some text =>
      rw [read] at nodup
      exact h.answerAction _ nodup
  | health => exact ⟨rfl, h⟩
  | composeStatus id | composeMetadata id | composeLogs id | composeManifests id | cloneStatus id =>
    simp only [Http.serve, told]
    exact ⟨rfl, h⟩

/-- A request is answered alike, as long as the supply gives new identifiers. -/
theorem respond (h : s.Shows t) (config : Config) (fresh : Fresh) (r : Http.Request)
    (nodup : (Http.respond config (Store.backend supply now) fresh r t).2.ids.Nodup) :
    Alike (Http.respond config (backend supply now) fresh r s)
      (Http.respond config (Store.backend supply now) fresh r t) := by
  simp only [Http.respond] at nodup ⊢
  cases found : (Http.path? r.target).bind Http.Route.ofPath? with
  | none => exact ⟨rfl, h⟩
  | some route =>
    rw [found] at nodup
    dsimp only at nodup ⊢
    by_cases allowed : route.allows r.method = true
    · simp only [if_pos allowed] at nodup ⊢
      by_cases head : r.method = "HEAD"
      · simp only [if_pos head] at nodup ⊢
        obtain ⟨answer, shows'⟩ := h.serve config fresh r route nodup
        exact ⟨congrArg (fun told : Http.Response => { told with body := "" }) answer, shows'⟩
      · simp only [if_neg head] at nodup ⊢
        exact h.serve config fresh r route nodup
    · simp only [if_neg allowed]
      exact ⟨rfl, h⟩

end Shows

/-! ## The graph -/

/-- The first of some identifiers that no job has. -/
def FirstMissing (s : IndexedStore) (ids : List Uuid) (missing : Uuid) : Prop :=
  ∃ known rest, ids = known ++ missing :: rest ∧ (∀ d ∈ known, d ∈ s.jobs) ∧ missing ∉ s.jobs

/-- What is looked up before a submission is the first identifier that no job has. -/
theorem firstMissing?_eq_some_iff {ids : List Uuid} {missing : Uuid} :
    s.firstMissing? ids = some missing ↔ s.FirstMissing ids missing := by
  rw [firstMissing?, List.find?_eq_some_iff_append]
  simp only [Bool.not_eq_eq_eq_not, Bool.not_true, Std.HashMap.contains_eq_false_iff_not_mem,
    Bool.not_not, Std.HashMap.contains_iff_mem]
  constructor
  · rintro ⟨absent, known, rest, split, present⟩
    exact ⟨known, rest, split, present, absent⟩
  · rintro ⟨known, rest, split, present, absent⟩
    exact ⟨absent, known, rest, split, present⟩

/-- A submission is refused exactly if a job that it waits for is missing. It names the first one,
and the store stays as it is. -/
theorem submit_error_iff {e : StoreError} :
    s.submit supply now new = (.error e, s') ↔
      s' = s ∧ ∃ missing, s.FirstMissing new.dependencies missing ∧ e = .notFound missing := by
  simp only [submit, ← firstMissing?_eq_some_iff]
  cases s.firstMissing? new.dependencies with
  | none => simp
  | some missing => simp [and_comm, eq_comm]

/-- Whatever is submitted and whatever workers do, the map and the order of a store are in step, and
its jobs are an acyclic graph, to which others are only ever added at the end and whose jobs stay
what they are. A submission is refused exactly if a job that it waits for is missing; it then names
the first such job and changes nothing. -/
theorem Moves.acyclicGraph (h : Moves {} s) :
    s.InStep ∧ AcyclicGraph s.order s.job ∧
      (∀ s', Moves s s' → s.order <+: s'.order ∧
        ∀ x r, s.job x = .ok r → ∃ result status dependents, s'.job x =
          .ok { r with result := result, status := status, dependents := dependents }) ∧
      (∀ supply now new e s', s.submit supply now new = (.error e, s') ↔
        s' = s ∧ ∃ missing, s.FirstMissing new.dependencies missing ∧ e = .notFound missing) := by
  have inv : s.InStep := h.inStep .empty
  refine ⟨inv, ?_, fun s' later => ?_, fun _ _ _ _ _ => submit_error_iff⟩
  · rw [← inv.ids_toStore, ← inv.job_toStore]
    exact ((h.toStore .empty).ordered .empty).acyclic
  · have extended := (later.toStore inv).extends
    have inv' := later.inStep inv
    rw [← inv.ids_toStore, ← inv'.ids_toStore, ← inv.job_toStore, ← inv'.job_toStore]
    exact ⟨extended.ids, fun _ _ answered => extended.job answered⟩

/-- A submission of a job that waits for the jobs with some numbers. -/
def waiting (numbers : List Nat) : NewJob :=
  ⟨.osbuild, .null, numbers.map .ofNat, "tenant"⟩

/-- Three jobs: the second names the first one twice, the third one names both. Between the two, a
job was refused, as the first one was worked on. -/
def triangle : IndexedStore :=
  let s := (submit .ofNat (.ofSeconds 0) (waiting []) {}).2
  let s := (s.submit .ofNat (.ofSeconds 1) (waiting [0, 0])).2
  let s := (s.start (.ofNat 0) (.ofSeconds 2)).finish (.ofNat 0) .null (.ofSeconds 3)
  let s := (s.submit .ofNat (.ofSeconds 4) (waiting [1, 7, 8])).2
  ((s.submit .ofNat (.ofSeconds 5) (waiting [1, 0])).2).cancel (.ofNat 1)

/-- The list that it shows. -/
def triangleStore : Store :=
  let s := (Store.submit .ofNat (.ofSeconds 0) (waiting []) {}).2
  let s := (s.submit .ofNat (.ofSeconds 1) (waiting [0, 0])).2
  let s := (s.start (.ofNat 0) (.ofSeconds 2)).finish (.ofNat 0) .null (.ofSeconds 3)
  let s := (s.submit .ofNat (.ofSeconds 4) (waiting [1, 7, 8])).2
  ((s.submit .ofNat (.ofSeconds 5) (waiting [1, 0])).2).cancel (.ofNat 1)

/-- It shows that list, as its calls are those that the list comes from. -/
theorem shows_triangle : triangle.Shows triangleStore := by
  refine .cancel (.submit_next ?_ (by decide)) _
  refine .submit_next (.finish (.start ?_ _ _) _ _ _) (by decide)
  exact .submit_next (.submit_next .empty (by decide)) (by decide)

/-- The second and the third job of that store wait for the first one, each listed once, and the
first identifier that is missing is named. -/
theorem acyclicGraph_triangle :
    Moves {} triangle ∧ triangle.order = [.ofNat 0, .ofNat 1, .ofNat 2] ∧ triangle.InStep ∧
      AcyclicGraph triangle.order triangle.job ∧
      triangle.dependents (.ofNat 0) = [.ofNat 1, .ofNat 2] ∧
      triangle.submit .ofNat (.ofSeconds 6) (waiting [2, 8, 7]) =
        (.error (.notFound (.ofNat 8)), triangle) := by
  have shown := shows_triangle
  obtain ⟨inv, graph, -, refused⟩ := Moves.acyclicGraph shown.reached
  have order : triangle.order = [.ofNat 0, .ofNat 1, .ofNat 2] := by
    rw [← inv.ids_toStore, shown.jobs]
    decide
  have dependents : triangle.dependents (.ofNat 0) = [.ofNat 1, .ofNat 2] := by
    rw [← inv.dependents_toStore, shown.jobs]
    decide
  have missing : triangle.FirstMissing (waiting [2, 8, 7]).dependencies (.ofNat 8) := by
    rw [← firstMissing?_eq_some_iff, ← inv.firstMissing?_toStore, shown.jobs]
    decide
  exact ⟨shown.reached, order, inv, graph, dependents,
    (refused _ _ _ _ _).2 ⟨rfl, _, missing, rfl⟩⟩

end ImageCompose.IndexedStore
