import ImageCompose.Proofs.Graph.Reachable
import ImageCompose.Proofs.Service.Agreement

/-!
# Tenants do not see each other

A request names one job, and only the tenant channel of that job is ever checked; what the job waits
for is read unchecked. That nothing of another tenant is shown all the same is a property of the job
graph: all jobs of a compose are on one channel, and though a clone may wait for a compose on
another one, its status is read off its own job. So two reachable stores with the same jobs on a
channel agree on the composes there (`Store.Graph.agree`), and give the same answers about all jobs
there, whatever other tenants do (`Store.tenant_answers`).
-/

namespace ImageCompose.Store

variable {s s' : Store} {c : String}

/-- Two stores hold the same jobs on a tenant channel. -/
def SameTenant (s s' : Store) (c : String) : Prop :=
  ∀ j : StoredJob, j.channel = c → (j ∈ s.jobs ↔ j ∈ s'.jobs)

/-- An identifier of a job on a tenant channel that is no clone. -/
def InCompose (s : Store) (c : String) (id : Uuid) : Prop :=
  ∃ n, s.look id = some n ∧ n.channel = c ∧ ¬n.IsClone

namespace Graph

/-- Two stores that hold the same job show the same of it. -/
theorem sameJob (g : s.Graph) (g' : s'.Graph) {j : StoredJob} (h : j ∈ s.jobs) (h' : j ∈ s'.jobs) :
    Snapshot.SameJob s.snapshot s'.snapshot j.id :=
  ⟨s.record j, s'.dependents j.id, snapshot_job_of_find? (find?_of_mem g.nodup h),
    snapshot_job_of_find? (find?_of_mem g'.nodup h')⟩

/-- Two stores that hold the same jobs on a tenant channel agree on the composes there. -/
theorem agree (g : s.Graph) (g' : s'.Graph) (same : SameTenant s s' c) :
    Snapshot.Agree s.snapshot s'.snapshot (s.InCompose c) where
  same := by
    rintro id ⟨n, place, rfl, -⟩
    obtain ⟨j, member, rfl, hn⟩ := job_of_look place
    obtain ⟨-, -, channel, -⟩ := StoredJob.of_node? hn
    exact g.sameJob g' member ((same j channel.symm).1 member)
  closed := by
    rintro id r ⟨n, place, rfl, own⟩ found d hd
    obtain ⟨j, stored, hn⟩ := look_some place
    obtain ⟨-, -, -, waits⟩ := StoredJob.of_node? hn
    obtain rfl := Except.ok.inj (found.symm.trans (snapshot_job_of_find? stored))
    exact (g.graph.placed place).own_channel own (waits ▸ hd)

end Graph

/-- In any two reachable stores with the same jobs on a tenant channel, whatever the jobs of other
tenants are, every job on that channel is told of alike, to the requests of any channel. -/
theorem tenant_answers {reports reports' : StoredJob → Json → Prop} (h : Reachable reports s)
    (h' : Reachable reports' s') (same : SameTenant s s' c) {j : StoredJob} (member : j ∈ s.jobs)
    (own : j.channel = c) (channel : String) :
    Snapshot.SameAnswers s.snapshot s'.snapshot j.id channel := by
  obtain ⟨n, hn, place⟩ := h.graph.look_of_mem member
  obtain ⟨-, kind, on_channel, -⟩ := StoredJob.of_node? hn
  by_cases clone : n.IsClone
  -- What a clone waits for may be on another channel, so its own record is all that is shared.
  · have shown := h.graph.sameJob h'.graph member ((same j own).1 member)
    have other : n.args.kind ∉ [.osbuild, .kojiFinalize] := by
      rcases clone with e | e <;> rw [e] <;> decide
    exact shown.answers (composeKind_of_look place) other channel
  · exact (h.graph.agree h'.graph same).answers ⟨n, place, on_channel.trans own, clone⟩ channel

/-- The store with a compose in Koji, after another tenant requested one, too. -/
def sharedStore : Store :=
  ((submitCompose {} kojiRequest (.ofRandom 0 1) "other").run
    (backend (Fresh.jobIds 0) (.ofSeconds 1)) kojiStore).2

/-- A compose in Koji is told of alike, whether or not another tenant requested one, too. -/
theorem tenant_answers_sharedStore :
    Reachable AnyReport kojiStore ∧ Reachable AnyReport sharedStore ∧
      sharedStore.jobs.length = 12 ∧ SameTenant kojiStore sharedStore "tenant" ∧
      ∃ j ∈ kojiStore.jobs, j.channel = "tenant" ∧ j.kind = .kojiFinalize ∧
        Snapshot.SameAnswers kojiStore.snapshot sharedStore.snapshot j.id "tenant" := by
  have reached : Reachable AnyReport sharedStore :=
    reachable_kojiStore.steps (.single (.submit_run _ _ _ _ _ _ _ (by decide +kernel)))
  obtain ⟨j, member, own, kind⟩ :
      ∃ j ∈ kojiStore.jobs, j.channel = "tenant" ∧ j.kind = .kojiFinalize := by decide +kernel
  have foreign : ∀ j ∈ sharedStore.jobs.drop 6, j.channel = "other" := by decide +kernel
  have same : SameTenant kojiStore sharedStore "tenant" := by
    intro j channel
    obtain ⟨added, jobs⟩ : kojiStore.jobs <+: sharedStore.jobs :=
      StoreProgram.jobs_prefix_run _ _ _ kojiStore
    have six : kojiStore.jobs.length = 6 := rfl
    rw [← jobs, List.drop_left' six] at foreign
    rw [← jobs, List.mem_append]
    refine ⟨.inl, fun h => h.resolve_right fun h => ?_⟩
    rw [foreign j h] at channel
    exact absurd channel (by decide)
  exact ⟨reachable_kojiStore, reached, rfl, same, j, member, own, kind,
    tenant_answers (reachable_kojiStore : Reachable AnyReport _) reached same member own _⟩

end ImageCompose.Store
