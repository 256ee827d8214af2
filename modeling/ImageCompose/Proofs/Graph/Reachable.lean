import ImageCompose.Proofs.Graph.Clone
import ImageCompose.Proofs.Graph.Submission
import ImageCompose.Proofs.Store.Reachable

/-!
# The job graph of a reachable store

Whatever is requested and however requests end, the jobs of a store make a graph
(`Store.Reachable.graph`). What that means for the stored jobs and their arguments is spelled out in
`Store.WellFormed`: which jobs an import, a build and a manifest wait for, and that no manifest is
shared by two jobs and no build by two imports (`Store.reachable_wellFormed`).
-/

namespace ImageCompose.Store

variable {reports : StoredJob → Json → Prop} {s s' : Store}

/-- Every step keeps the job graph. -/
theorem Step.graph (g : s.Graph) (h : Step reports s s') : s'.Graph := by
  cases h with
  | submit run => exact (submitCompose_runs g run).1
  | clone run => exact cloneCompose_runs g run
  | start id now => exact g.update (StoredJob.keeps_start now) id
  | finish now _ => exact g.update (StoredJob.keeps_finish _ now) _
  | cancel id => exact g.update StoredJob.keeps_cancel id

/-- Every reachable store has a job graph. -/
theorem Reachable.graph (h : Reachable reports s) : s.Graph :=
  h.invariant .empty Step.graph

/-- What is in the graph stays there. -/
theorem Step.look (h : Step reports s s') {x : Uuid} {n : JobNode Uuid} (hx : s.look x = some n) :
    s'.look x = some n := by
  cases h with
  | submit run => exact look_of_runs run hx
  | clone run => exact look_of_runs run hx
  | start id now => exact look_update (StoredJob.keeps_start now) s id ▸ hx
  | finish now _ => exact look_update (StoredJob.keeps_finish _ now) s _ ▸ hx
  | cancel id => exact look_update StoredJob.keeps_cancel s id ▸ hx

/-- It stays there over any number of steps. -/
theorem Steps.look (h : Steps reports s s') {x : Uuid} {n : JobNode Uuid}
    (hx : s.look x = some n) : s'.look x = some n := by
  induction h with
  | refl => exact hx
  | tail _ last ih => exact last.look ih

/-- How the jobs of a store belong together. -/
structure WellFormed (s : Store) : Prop where
  /-- No two jobs have one identifier. -/
  distinct : s.ids.Nodup
  /-- The arguments of every job decode as those of its kind. -/
  args : ∀ j ∈ s.jobs, ∃ a, JobArgs.read? j.args j.kind = some a
  /-- A job that opens a build in Koji waits for nothing. -/
  init : ∀ j ∈ s.jobs, j.kind = .kojiInit → j.dependencies = []
  /-- A manifest waits for nothing, or for the opening of a build. -/
  manifest : ∀ j ∈ s.jobs, j.kind = .manifestIdOnly → j.dependencies = [] ∨
    ∃ i ∈ s.jobs, i.kind = .kojiInit ∧ j.dependencies = [i.id]
  /-- A build waits for a manifest that waits for nothing, or for the opening of a build and a
  manifest that waits for the same. -/
  build : ∀ j ∈ s.jobs, j.kind = .osbuild →
    (∃ m ∈ s.jobs, m.kind = .manifestIdOnly ∧ m.dependencies = [] ∧ j.dependencies = [m.id]) ∨
    ∃ i ∈ s.jobs, ∃ m ∈ s.jobs, i.kind = .kojiInit ∧ m.kind = .manifestIdOnly ∧
      m.dependencies = [i.id] ∧ j.dependencies = [i.id, m.id]
  /-- An import waits for the opening of a build and then for different builds that wait for the
  same first, and names the file that each of them delivers to Koji. -/
  finalize : ∀ j ∈ s.jobs, j.kind = .kojiFinalize → ∃ i ∈ s.jobs, ∃ builds : List StoredJob,
    i.kind = .kojiInit ∧ builds ≠ [] ∧ j.dependencies = i.id :: builds.map (·.id) ∧
    (builds.map (·.id)).Nodup ∧
    (∀ b ∈ builds, b ∈ s.jobs ∧ b.kind = .osbuild ∧ b.dependencies.head? = some i.id) ∧
    ∃ a : KojiFinalizeArgs, decode? j.args = some a ∧
      List.Forall₂ (fun b name => ∃ ab : BuildArgs, decode? b.args = some ab ∧
        ab.kojiNames = [name]) builds a.kojiFilenames
  /-- Only one job waits for a manifest. -/
  manifest_once : ∀ m ∈ s.jobs, m.kind = .manifestIdOnly → ∀ j ∈ s.jobs, ∀ k ∈ s.jobs,
    m.id ∈ j.dependencies → m.id ∈ k.dependencies → j = k
  /-- Only one import waits for a build. -/
  build_once : ∀ b ∈ s.jobs, b.kind = .osbuild → ∀ j ∈ s.jobs, j.kind = .kojiFinalize →
    ∀ k ∈ s.jobs, k.kind = .kojiFinalize → b.id ∈ j.dependencies → b.id ∈ k.dependencies → j = k

/-- A job in the graph is a job of the store. -/
theorem job_of_look {id : Uuid} {n : JobNode Uuid} (h : s.look id = some n) :
    ∃ j ∈ s.jobs, j.id = id ∧ j.node? = some n := by
  obtain ⟨j, found, hn⟩ := look_some h
  obtain ⟨member, e⟩ := find?_some found
  exact ⟨j, member, e, hn⟩

/-- A job in the graph is one of its kind, and waits for what it waits for in the graph. -/
theorem job_of_look_mk {id : Uuid} {c : String} {a : JobArgs} {deps : List Uuid}
    (h : s.look id = some ⟨c, a, deps⟩) :
    ∃ j ∈ s.jobs, j.id = id ∧ j.kind = a.kind ∧ j.dependencies = deps := by
  obtain ⟨j, member, e, hn⟩ := job_of_look h
  obtain ⟨-, kind, -, waits⟩ := StoredJob.of_node? hn
  exact ⟨j, member, e, kind.symm, waits.symm⟩

/-- The builds that an import waits for are jobs of the store, and deliver to Koji what the import
names. -/
theorem imported {c : String} {i : Uuid} {ids : List Uuid} {names : List String}
    (files : List.Forall₂ (fun b name => ∃ ab m, s.look b = some ⟨c, .build ab, [i, m]⟩ ∧
      ab.kojiNames = [name]) ids names) :
    ∃ builds : List StoredJob, builds.map (·.id) = ids ∧
      (∀ b ∈ builds, b ∈ s.jobs ∧ b.kind = .osbuild ∧ b.dependencies.head? = some i) ∧
      List.Forall₂ (fun b name => ∃ ab : BuildArgs, decode? b.args = some ab ∧
        ab.kojiNames = [name]) builds names := by
  induction files with
  | nil => exact ⟨[], rfl, fun _ h => (nomatch h), .nil⟩
  | cons file _ ih =>
    obtain ⟨ab, m, place, name⟩ := file
    obtain ⟨builds, rfl, each, named⟩ := ih
    obtain ⟨b, member, rfl, hn⟩ := job_of_look place
    obtain ⟨args, kind, -, waits⟩ := StoredJob.of_node? hn
    replace kind : .osbuild = b.kind := kind
    replace args : (decode? b.args).map JobArgs.build = some (.build ab) := by
      rw [← kind] at args
      exact args
    obtain ⟨ab', decoded, e⟩ := Option.map_eq_some_iff.1 args
    cases e
    refine ⟨b :: builds, rfl, fun b' hb' => ?_, .cons ⟨ab, decoded, name⟩ named⟩
    rcases List.mem_cons.1 hb' with rfl | hb'
    · exact ⟨member, kind.symm, by rw [← waits]; rfl⟩
    · exact each b' hb'

namespace Graph

/-- What one job of the store has for itself, no other job has. -/
theorem once (g : s.Graph) {t j k : StoredJob} (ht : t ∈ s.jobs) (hj : j ∈ s.jobs)
    (hk : k ∈ s.jobs) (waits_j : t.id ∈ j.dependencies) (waits_k : t.id ∈ k.dependencies)
    (takes_j : t.kind = .manifestIdOnly ∨ t.kind = .osbuild ∧ j.kind = .kojiFinalize)
    (takes_k : t.kind = .manifestIdOnly ∨ t.kind = .osbuild ∧ k.kind = .kojiFinalize) :
    j = k := by
  obtain ⟨nt, hnt, place_t⟩ := g.look_of_mem ht
  obtain ⟨nj, hnj, place_j⟩ := g.look_of_mem hj
  obtain ⟨nk, hnk, place_k⟩ := g.look_of_mem hk
  obtain ⟨-, kind_t, -, -⟩ := StoredJob.of_node? hnt
  obtain ⟨-, kind_j, -, same_j⟩ := StoredJob.of_node? hnj
  obtain ⟨-, kind_k, -, same_k⟩ := StoredJob.of_node? hnk
  have same_id : j.id = k.id := by
    refine g.graph.once place_t place_j place_k (same_j ▸ waits_j) (same_k ▸ waits_k) ?_ ?_
    · rwa [JobNode.Takes, kind_t, kind_j]
    · rwa [JobNode.Takes, kind_t, kind_k]
  have found := find?_of_mem g.nodup hj
  rw [same_id, find?_of_mem g.nodup hk] at found
  exact (Option.some.inj found).symm

/-- In the stored jobs themselves, a job graph is what `WellFormed` says. -/
theorem wellFormed (g : s.Graph) : s.WellFormed where
  distinct := g.nodup
  args j hj := by
    obtain ⟨n, hn⟩ := g.readable j hj
    exact ⟨n.args, (StoredJob.of_node? hn).1⟩
  init j hj kind := by
    obtain ⟨n, placed, -, same_kind, waits⟩ := g.placed_of_mem hj
    rw [← waits]
    rw [kind] at same_kind
    cases placed <;> first | rfl | cases same_kind
  manifest j hj kind := by
    obtain ⟨n, placed, -, same_kind, waits⟩ := g.placed_of_mem hj
    rw [← waits]
    rw [kind] at same_kind
    cases placed with
    | manifest => exact .inl rfl
    | kojiManifest a init =>
      obtain ⟨i, hi, rfl, init_kind, -⟩ := job_of_look_mk init
      exact .inr ⟨i, hi, init_kind, rfl⟩
    | _ => cases same_kind
  build j hj kind := by
    obtain ⟨n, placed, -, same_kind, waits⟩ := g.placed_of_mem hj
    rw [← waits]
    rw [kind] at same_kind
    cases placed with
    | build a manifest =>
      obtain ⟨m, hm, rfl, manifest_kind, manifest_waits⟩ := job_of_look_mk manifest
      exact .inl ⟨m, hm, manifest_kind, manifest_waits, rfl⟩
    | kojiBuild a init manifest =>
      obtain ⟨i, hi, rfl, init_kind, -⟩ := job_of_look_mk init
      obtain ⟨m, hm, rfl, manifest_kind, manifest_waits⟩ := job_of_look_mk manifest
      exact .inr ⟨i, hi, m, hm, init_kind, manifest_kind, manifest_waits, rfl⟩
    | _ => cases same_kind
  finalize j hj kind := by
    obtain ⟨n, placed, args, same_kind, waits⟩ := g.placed_of_mem hj
    rw [← waits]
    rw [kind] at same_kind args
    cases placed with
    | kojiFinalize a init some_build distinct files =>
      obtain ⟨i, hi, rfl, init_kind, -⟩ := job_of_look_mk init
      obtain ⟨builds, rfl, each, named⟩ := imported files
      obtain ⟨a', decoded, e⟩ := Option.map_eq_some_iff.1 args
      cases e
      exact ⟨i, hi, builds, init_kind, by simpa using some_build, rfl, distinct, each, a, decoded,
        named⟩
    | _ => cases same_kind
  manifest_once m hm kind j hj k hk waits_j waits_k :=
    g.once hm hj hk waits_j waits_k (.inl kind) (.inl kind)
  build_once b hb kind j hj kind_j k hk kind_k waits_j waits_k :=
    g.once hb hj hk waits_j waits_k (.inr ⟨kind, kind_j⟩) (.inr ⟨kind, kind_k⟩)

end Graph

/-- Whatever is requested, however requests end, and whatever workers do and report, the jobs of the
store belong together as they should. -/
theorem reachable_wellFormed (h : Reachable reports s) : s.WellFormed :=
  h.graph.wellFormed

/-- A request for two images that are imported into Koji. -/
def kojiRequest : ComposeRequest where
  distribution := "rhel-9"
  imageRequests := some [
    { architecture := "x86_64", imageType := .guestImage },
    { architecture := "aarch64", imageType := .guestImage }]
  koji := some ⟨"https://koji.example.com", 1, "image", "9.4", "1"⟩

/-- The store after that request. -/
def kojiStore : Store :=
  ((submitCompose {} kojiRequest (.ofRandom 0 0) "tenant").run
    (backend (Fresh.jobIds 0) (.ofSeconds 0)) {}).2

/-- The request is accepted. -/
theorem kojiRequest_accepted :
    ∃ answer, ((submitCompose {} kojiRequest (.ofRandom 0 0) "tenant").run
      (backend (Fresh.jobIds 0) (.ofSeconds 0)) {}).1 = .ok answer :=
  ⟨_, rfl⟩

/-- The store is reached by it. -/
theorem reachable_kojiStore : Reachable reports kojiStore :=
  .single (.submit_run _ _ _ _ _ _ _ (by decide +kernel))

/-- The six jobs of such a request belong together as they should. -/
theorem wellFormed_kojiStore :
    Reachable AnyReport kojiStore ∧ kojiStore.jobs.length = 6 ∧ kojiStore.WellFormed :=
  ⟨reachable_kojiStore, rfl, reachable_wellFormed (reachable_kojiStore : Reachable AnyReport _)⟩

end ImageCompose.Store
