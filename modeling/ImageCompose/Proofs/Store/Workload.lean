import ImageCompose.Proofs.Clone.Traffic

/-!
# Requests at the same time

A `Workload` is a store with all requests that are under way, each with what is still to be done
about it. Under one configuration, `Workload.Step` lets composes and clones come in at any time and
any of them make its next call to the store, while workers start, finish and cancel jobs in any
order and report anything. A request that nobody lets go on is one that was given up.

A run is what the empty store becomes, with the composes that were requested meanwhile
(`Workload.After`). If the composes and the clones submit only jobs of certain kinds, whatever the
store answers, every job of a run is one that a clone submits or that one of these composes does
(`Workload.After.jobs`): the calls add no others, and work leaves what a job is
(`Workload.Submits.work`). What a request does if nothing comes between its calls is a case of this
(`Workload.After.compose_runs`).
-/

namespace ImageCompose

/-- A request that is under way, whatever it is answered with in the end. -/
structure Pending : Type 1 where
  {Answer : Type}
  /-- What is still to be done. -/
  rest : StoreProgram Answer

/-- A store and the requests that are under way. -/
structure Workload : Type 1 where
  store : Store := {}
  pending : List Pending := []

namespace Workload

variable {config : Config} {w w' : Workload}

/-- What can happen next under a configuration. -/
inductive Step (config : Config) : Workload → Workload → Prop
  /-- A compose is requested. -/
  | compose {w : Workload} (request : ComposeRequest) (fresh : Fresh) (channel : String) :
      Step config w
        ⟨w.store, ⟨ExceptT.run (submitCompose config request fresh channel)⟩ :: w.pending⟩
  /-- A clone is requested. -/
  | clone {w : Workload} (id : Uuid) (request : CloneRequest) (fresh : Fresh) (channel : String) :
      Step config w
        ⟨w.store, ⟨ExceptT.run (cloneCompose id request fresh channel)⟩ :: w.pending⟩
  /-- One of the requests makes one call to the store. -/
  | call {w : Workload} (before : List Pending) {after : List Pending} {α : Type}
      {rest rest' : StoreProgram α} {s' : Store} {submitted : Option Uuid}
      (place : w.pending = before ++ ⟨rest⟩ :: after)
      (call : rest.Calls w.store rest' s' submitted) :
      Step config w ⟨s', before ++ ⟨rest'⟩ :: after⟩
  | start {w : Workload} (id : Uuid) (now : Timestamp) :
      Step config w ⟨w.store.start id now, w.pending⟩
  | finish {w : Workload} (id : Uuid) (v : Json) (now : Timestamp) :
      Step config w ⟨w.store.finish id v now, w.pending⟩
  | cancel {w : Workload} (id : Uuid) : Step config w ⟨w.store.cancel id, w.pending⟩

/-- What the empty store becomes. -/
def Reachable (config : Config) (w : Workload) : Prop :=
  Relation.ReflTransGen (Step config) {} w

/-! ## Runs and their composes -/

/-- Something happens while no request comes in, so that as many are under way as before. -/
structure Works (config : Config) (w w' : Workload) : Prop where
  step : Step config w w'
  count : w'.pending.length = w.pending.length

/-- What the empty store becomes, with the composes that are requested meanwhile, the last one
first. -/
inductive After (config : Config) : List ComposeRequest → Workload → Prop
  | empty : After config [] {}
  | compose {asked : List ComposeRequest} {w : Workload} (before : After config asked w)
      (request : ComposeRequest) (fresh : Fresh) (channel : String) :
      After config (request :: asked)
        ⟨w.store, ⟨ExceptT.run (submitCompose config request fresh channel)⟩ :: w.pending⟩
  | clone {asked : List ComposeRequest} {w : Workload} (before : After config asked w) (id : Uuid)
      (request : CloneRequest) (fresh : Fresh) (channel : String) :
      After config asked
        ⟨w.store, ⟨ExceptT.run (cloneCompose id request fresh channel)⟩ :: w.pending⟩
  | work {asked : List ComposeRequest} {w w' : Workload} (before : After config asked w)
      (works : Works config w w') : After config asked w'

variable {asked : List ComposeRequest}

/-- What comes after some composes is reached, as each of them is a step. -/
theorem After.reachable (h : After config asked w) : w.Reachable config := by
  induction h with
  | empty => exact .refl
  | compose _ request fresh channel ih => exact ih.tail (.compose request fresh channel)
  | clone _ id request fresh channel ih => exact ih.tail (.clone id request fresh channel)
  | work _ works ih => exact ih.tail works.step

/-- Whatever the empty store becomes, some composes were requested meanwhile. -/
theorem Reachable.after (h : w.Reachable config) : ∃ asked, After config asked w := by
  induction h with
  | refl => exact ⟨[], .empty⟩
  | tail _ last ih =>
    obtain ⟨asked, before⟩ := ih
    cases last with
    | compose request fresh channel => exact ⟨_, before.compose request fresh channel⟩
    | clone id request fresh channel => exact ⟨_, before.clone id request fresh channel⟩
    | call first place call =>
      exact ⟨asked, before.work ⟨.call first place call, by simp [place]⟩⟩
    | start id now => exact ⟨asked, before.work ⟨.start id now, rfl⟩⟩
    | finish id v now => exact ⟨asked, before.work ⟨.finish id v now, rfl⟩⟩
    | cancel id => exact ⟨asked, before.work ⟨.cancel id, rfl⟩⟩

/-! ## One request after the other -/

/-- A program that nothing comes between makes its calls one by one. -/
theorem works_of_runs {α : Type} {p : StoreProgram α} {s s' : Store} {a : α} (h : p.Runs s a s')
    (others : List Pending) :
    Relation.ReflTransGen (Works config) ⟨s, ⟨p⟩ :: others⟩
      ⟨s', ⟨(.done a : StoreProgram α)⟩ :: others⟩ := by
  induction h with
  | done => exact .refl
  | jobKind _ ih => exact .head ⟨.call [] rfl .jobKind, rfl⟩ ih
  | job _ ih => exact .head ⟨.call [] rfl .job, rfl⟩ ih
  | accepted fresh added _ ih => exact .head ⟨.call [] rfl (.accepted _ _ fresh added), rfl⟩ ih
  | refused _ ih => exact .head ⟨.call [] rfl (.refused _), rfl⟩ ih

/-- A compose may be carried out at once. -/
theorem After.compose_runs (h : After config asked w) {request : ComposeRequest} {fresh : Fresh}
    {channel : String} {r : Except ServiceError ComposeId} {s' : Store}
    (run : (submitCompose config request fresh channel).Runs w.store r s') :
    After config (request :: asked)
      ⟨s', ⟨(.done r : StoreProgram (Except ServiceError ComposeId))⟩ :: w.pending⟩ := by
  have calls : Relation.ReflTransGen (Works config) _ _ := works_of_runs run w.pending
  generalize (⟨s', _⟩ : Workload) = w' at calls ⊢
  induction calls with
  | refl => exact h.compose request fresh channel
  | tail _ last ih => exact ih.work last

/-- What is reached by a compose that is carried out at once is reached. -/
theorem Reachable.compose (h : Reachable config w) {request : ComposeRequest} {fresh : Fresh}
    {channel : String} {r : Except ServiceError ComposeId} {s' : Store}
    (run : (submitCompose config request fresh channel).Runs w.store r s') :
    Reachable config
      ⟨s', ⟨(.done r : StoreProgram (Except ServiceError ComposeId))⟩ :: w.pending⟩ := by
  obtain ⟨asked, before⟩ := h.after
  exact (before.compose_runs run).reachable

/-! ## What is submitted -/

/-- All jobs of the store are of a certain kind, and so are those that will be submitted. -/
structure Submits (may : NewJob → Prop) (w : Workload) : Prop where
  jobs : ∀ j ∈ w.store.jobs, ∃ new, may new ∧ j.Of new
  pending : ∀ p ∈ w.pending, p.rest.SubmitsOnly may

namespace Submits

variable {may : NewJob → Prop}

/-- A request that comes in submits only such jobs. -/
theorem request (inv : w.Submits may) {α : Type} {rest : StoreProgram α}
    (h : rest.SubmitsOnly may) : Submits may ⟨w.store, ⟨rest⟩ :: w.pending⟩ where
  jobs := inv.jobs
  pending := List.forall_mem_cons.2 ⟨h, inv.pending⟩

/-- Work leaves what a job is. -/
theorem update (inv : w.Submits may) {change : StoredJob → StoredJob}
    (keeps : StoredJob.Keeps change) (id : Uuid) :
    Submits may ⟨w.store.update id change, w.pending⟩ where
  jobs j member := by
    obtain ⟨j, before, rfl⟩ := List.mem_map.1 member
    obtain ⟨new, allowed, of⟩ := inv.jobs j before
    refine ⟨new, allowed, ?_⟩
    split
    · obtain ⟨_, _, changed⟩ := keeps j
      rw [changed]
      exact of
    · exact of
  pending := inv.pending

/-- A call adds such a job at most. -/
theorem call (inv : w.Submits may) {before after : List Pending} {α : Type}
    {rest rest' : StoreProgram α} {s' : Store} {submitted : Option Uuid}
    (place : w.pending = before ++ ⟨rest⟩ :: after)
    (call : rest.Calls w.store rest' s' submitted) :
    Submits may ⟨s', before ++ ⟨rest'⟩ :: after⟩ := by
  have all := place ▸ inv.pending
  obtain ⟨first, at_place⟩ := List.forall_mem_append.1 all
  obtain ⟨here, last⟩ := List.forall_mem_cons.1 at_place
  obtain ⟨later, effect⟩ := here.call call
  -- The other requests have not moved, and this one has the same left to submit, or less.
  refine ⟨?_, List.forall_mem_append.2 ⟨first, List.forall_mem_cons.2 ⟨later, last⟩⟩⟩
  rcases effect with rfl | ⟨new, id, now, allowed, added⟩
  · exact inv.jobs
  · intro j member
    rw [(Store.enqueue_ok added).2, List.mem_append, List.mem_singleton] at member
    rcases member with member | rfl
    · exact inv.jobs j member
    · exact ⟨new, allowed, rfl, rfl, rfl⟩

/-- While no request comes in, nothing is submitted but by those that are under way. -/
theorem work (inv : w.Submits may) (h : Works config w w') : w'.Submits may := by
  obtain ⟨step, count⟩ := h
  cases step with
  | compose | clone => simp at count
  | call before place call => exact inv.call place call
  | start id now => exact inv.update (StoredJob.keeps_start now) id
  | finish id v now => exact inv.update (StoredJob.keeps_finish v now) id
  | cancel id => exact inv.update StoredJob.keeps_cancel id

/-- What is submitted may also be said to be of a wider kind. -/
theorem mono (inv : w.Submits may) {may' : NewJob → Prop} (wider : ∀ new, may new → may' new) :
    w.Submits may' where
  jobs j member := by
    obtain ⟨new, allowed, of⟩ := inv.jobs j member
    exact ⟨new, wider new allowed, of⟩
  pending p member := (inv.pending p member).mono wider

end Submits

/-- If clones submit only jobs of one kind, and composes those that go with their requests, each job
of a run is one of these. -/
theorem After.jobs {cloned : NewJob → Prop} {may : ComposeRequest → NewJob → Prop}
    (composes : ∀ request fresh channel,
      (submitCompose config request fresh channel).SubmitsOnly (may request))
    (clones : ∀ id request fresh channel,
      (cloneCompose id request fresh channel).SubmitsOnly cloned)
    (h : After config asked w) :
    ∀ j ∈ w.store.jobs, ∃ new, (cloned new ∨ ∃ request ∈ asked, may request new) ∧ j.Of new := by
  -- The jobs alone are no invariant: a call submits what the rest of its request says.
  have inv : w.Submits fun new => cloned new ∨ ∃ request ∈ asked, may request new := by
    induction h with
    | empty => exact ⟨nofun, nofun⟩
    | @compose asked _ _ request fresh channel ih =>
      -- What was submitted for earlier requests may still be.
      have wider : ∀ new, (cloned new ∨ ∃ earlier ∈ asked, may earlier new) →
          cloned new ∨ ∃ earlier ∈ request :: asked, may earlier new := by
        rintro new (clone | ⟨earlier, member, allowed⟩)
        · exact .inl clone
        · exact .inr ⟨earlier, List.mem_cons_of_mem _ member, allowed⟩
      refine (ih.mono wider).request ((composes request fresh channel).mono fun new allowed => ?_)
      exact .inr ⟨request, List.mem_cons_self .., allowed⟩
    | clone _ id request fresh channel ih =>
      exact ih.request ((clones id request fresh channel).mono fun _ => .inl)
    | work _ works ih => exact ih.work works
  exact inv.jobs

/-- If composes and clones submit only jobs of a certain kind, there are no others in any run. -/
theorem Reachable.jobs {may : NewJob → Prop}
    (composes : ∀ request fresh channel,
      (submitCompose config request fresh channel).SubmitsOnly may)
    (clones : ∀ id request fresh channel, (cloneCompose id request fresh channel).SubmitsOnly may)
    (h : Reachable config w) : ∀ j ∈ w.store.jobs, ∃ new, may new ∧ j.Of new := by
  obtain ⟨asked, run⟩ := h.after
  intro j member
  obtain ⟨new, allowed | ⟨-, -, allowed⟩, of⟩ := run.jobs composes clones j member
  · exact ⟨new, allowed, of⟩
  · exact ⟨new, allowed, of⟩

end Workload

end ImageCompose
