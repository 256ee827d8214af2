import ImageCompose.Proofs.Graph.Reachable
import ImageCompose.Proofs.Store.Submissions
import ImageCompose.Proofs.Submission.Checks

/-!
# What is stored of a submission

A backend that appends what it accepts may refuse any job of a plan. What is stored then is the
beginning of the plan, each job as it is planned, with the identifiers that were given for what it
waits for (`PlannedJob.StoredAs`). That is kept by every job that is submitted, so it holds wherever
the submission ends (`submitJobs_stores`).

A request that fails for another reason than a refusal has submitted nothing, and a compose that is
accepted is stored whole (`submitCompose_stores`).
-/

namespace ImageCompose

/-! ## Planned jobs that are stored -/

/-- A job is stored as it was planned, on a tenant channel and after jobs with some identifiers. -/
structure PlannedJob.StoredAs (channel : String) (ids : List Uuid) (job : PlannedJob)
    (j : StoredJob) : Prop where
  is : j.Is job.args j.dependencies channel
  /-- It waits for the jobs at the positions that were planned, in that order. -/
  dependencies : j.dependencies.map some = job.dependencies.map fun position => ids[position]?

namespace PlannedJob.StoredAs

variable {channel : String} {ids : List Uuid} {job : PlannedJob} {j : StoredJob}

/-- What a job waits for does not change when more jobs are stored. -/
theorem append (h : job.StoredAs channel ids j) (later : List Uuid) :
    job.StoredAs channel (ids ++ later) j where
  is := h.is
  dependencies := by
    rw [h.dependencies]
    refine List.map_congr_left fun position planned => ?_
    have known : ids[position]? ∈ j.dependencies.map some := by
      rw [h.dependencies]
      exact List.mem_map_of_mem planned
    obtain ⟨id, -, found⟩ := List.mem_map.1 known
    rw [List.getElem?_append_left (List.getElem?_eq_some_iff.1 found.symm).1]

/-- A job that waits for earlier ones is stored as it was planned. -/
theorem of_submitted (earlier : ∀ position ∈ job.dependencies, position < ids.length)
    (h : j.Is job.args (job.dependencies.filterMap fun position => ids[position]?) channel) :
    job.StoredAs channel ids j where
  is := h.dependencies.symm ▸ h
  dependencies := by
    rw [h.dependencies, filterMap_getElem? earlier, List.map_map]
    exact List.map_congr_left fun position planned =>
      (getElem?_given (earlier position planned)).symm

/-- A job is stored after the jobs that have the identifiers it waits for. -/
theorem after (h : job.StoredAs channel ids j) {waits : List Uuid}
    (given : (job.dependencies.map fun position => ids[position]?) = waits.map some) :
    j.Is job.args waits channel := by
  have same : j.dependencies = waits :=
    List.map_injective_iff.2 (Option.some_injective _) (h.dependencies.trans given)
  exact same ▸ h.is

end PlannedJob.StoredAs

/-- Jobs have their identifiers in their places. -/
theorem getElem?_ids {added : List StoredJob} {k : Nat} {j : StoredJob}
    (found : added[k]? = some j) : (added.map (·.id))[k]? = some j.id := by
  rw [List.getElem?_map, found]
  rfl

/-- Some jobs are stored as a plan begins. -/
def Plan.Begins (p : Plan) (channel : String) (added : List StoredJob) : Prop :=
  List.Forall₂ (PlannedJob.StoredAs channel (added.map (·.id))) (p.jobs.take added.length) added

namespace Plan.Begins

variable {p : Plan} {channel : String} {added : List StoredJob}

/-- Every plan begins with no jobs. -/
theorem nil : p.Begins channel [] := List.Forall₂.nil

/-- A job is stored after others as it stands in the plan. -/
theorem snoc (begins : p.Begins channel added) {job : PlannedJob} {j : StoredJob}
    (next : p.jobs[added.length]? = some job)
    (stored : job.StoredAs channel (added.map (·.id)) j) : p.Begins channel (added ++ [j]) := by
  have taken : p.jobs.take (added ++ [j]).length = p.jobs.take added.length ++ [job] := by
    rw [List.length_append, List.length_singleton, List.take_add_one, next]
    rfl
  rw [Begins, List.map_append, taken]
  exact List.rel_append (begins.imp fun _ _ before => before.append _)
    (.cons (stored.append _) .nil)

/-- A stored job is one of the plan, at the same position. -/
theorem planned (begins : p.Begins channel added) {k : Nat} {j : StoredJob}
    (found : added[k]? = some j) :
    ∃ job, p.jobs[k]? = some job ∧ job.StoredAs channel (added.map (·.id)) j := by
  obtain ⟨bound, rfl⟩ := List.getElem?_eq_some_iff.1 found
  have taken : k < (p.jobs.take added.length).length := by rwa [begins.length_eq]
  refine ⟨_, ?_, (List.forall₂_iff_get.1 begins).2 k taken bound⟩
  rw [List.get_eq_getElem, List.getElem_take, List.getElem?_eq_getElem]

/-- Every job of a plan that is stored whole is stored at its position. -/
theorem stored (begins : p.Begins channel added) (whole : added.length = p.jobs.length) {k : Nat}
    {job : PlannedJob} (found : p.jobs[k]? = some job) :
    ∃ j, added[k]? = some j ∧ job.StoredAs channel (added.map (·.id)) j := by
  have bound : k < added.length := whole ▸ (List.getElem?_eq_some_iff.1 found).1
  obtain ⟨job', found', stored⟩ := begins.planned (List.getElem?_eq_getElem bound)
  cases found.symm.trans found'
  exact ⟨_, List.getElem?_eq_getElem bound, stored⟩

/-- All stored jobs are on the channel of the request. -/
theorem on_channel (begins : p.Begins channel added) : ∀ j ∈ added, j.channel = channel := by
  intro j member
  obtain ⟨k, bound, rfl⟩ := List.getElem_of_mem member
  obtain ⟨_, -, stored⟩ := begins.planned (List.getElem?_eq_getElem bound)
  exact stored.is.channel

end Plan.Begins

/-! ## Jobs of a plan in turn -/

variable {σ : Type} {backend : Backend σ} {jobs : σ → List StoredJob}

/-- How the submission of a plan ends: after its last job, or with a job that is refused. -/
def Plan.Ends (p : Plan) (added : List StoredJob) (r : Except ServiceError (List Uuid)) : Prop :=
  (r = .ok (added.map (·.id)) ∧ added.length = p.jobs.length) ∨
    ∃ job cause, p.jobs[added.length]? = some job ∧ r = .error (.enqueue job.args.kind cause)

/-- A submission of the jobs of a plan stores what the plan begins with: all of it, or what stands
before the job that is refused. -/
theorem submitJobs_stores (appends : backend.Appends jobs) {channel : String} {p : Plan}
    (plan : p.Graph channel) {rest : List PlannedJob} {before added : List StoredJob} {s : σ}
    (place : p.jobs.drop added.length = rest) (begins : p.Begins channel added)
    (stored : jobs s = before ++ added) :
    ∃ all r s', (submitJobs channel rest (added.map (·.id))).run backend s = (r, s') ∧
      jobs s' = before ++ all ∧ p.Begins channel all ∧ p.Ends all r := by
  induction rest generalizing added s with
  | nil =>
    have all : p.jobs.length ≤ added.length := List.drop_eq_nil_iff.1 place
    have some_of := begins.length_eq
    rw [List.length_take] at some_of
    exact ⟨added, _, s, rfl, stored, begins, .inl ⟨rfl, by omega⟩⟩
  | cons job rest ih =>
    have next : p.jobs[added.length]? = some job := by
      rw [← List.head?_drop, place]
      rfl
    rw [submitJobs]
    rcases Action.run_enqueue_cases appends job.args
      (job.dependencies.filterMap fun position => (added.map (·.id))[position]?) channel s with
      ⟨j, s₁, first, later, submitted⟩ | ⟨e, s₁, first, same⟩
    · have earlier : ∀ position ∈ job.dependencies, position < (added.map (·.id)).length :=
        List.length_map (StoredJob.id) ▸ plan.earlier (Plan.look_of_getElem? next)
      have more : added.map (·.id) ++ [j.id] = (added ++ [j]).map (·.id) := by
        rw [List.map_append, List.map_singleton]
      rw [Action.run_bind_of_ok _ first, more]
      refine ih ?_ (begins.snoc next (.of_submitted earlier submitted)) ?_
      · rw [List.length_append, List.length_singleton, ← List.tail_drop, place]
        rfl
      · rw [later, stored, List.append_assoc]
    · rw [Action.run_bind_of_error _ first]
      exact ⟨added, _, _, rfl, same.trans stored, begins, .inr ⟨job, e, next, rfl⟩⟩

/-! ## Composes -/

/-- The kind of the job that a compose is followed by. -/
def ComposeRequest.followedKind (request : ComposeRequest) : JobKind :=
  if request.koji.isSome then .kojiFinalize else .osbuild

namespace Plan

variable {config : Config} {request : ComposeRequest} {fresh : Fresh} {p : Plan}

/-- Only the last job of a plan imports into Koji. -/
theorem import_last (planned : ofRequest config request fresh = .ok p) {k : Nat} {job : PlannedJob}
    (found : p.jobs[k]? = some job) (kind : job.args.kind = .kojiFinalize) :
    k + 1 = p.jobs.length := by
  have stands : p.look "" k = some ⟨"", job.args.kept, job.dependencies⟩ := look_of_getElem? found
  rw [← JobArgs.kind_kept] at kind
  obtain ⟨_, _, -, ⟨-, rfl⟩ | ⟨koji, -, rfl⟩⟩ := ofRequest_ok planned
  · obtain ⟨_, _, _, ⟨-, e⟩ | ⟨-, e⟩⟩ := look_standalone_cases stands <;>
      (rw [(JobNode.mk.inj e).2.1] at kind; cases kind)
  · rcases look_forKoji_cases stands with ⟨-, e⟩ | ⟨_, _, _, -, e⟩ | ⟨_, _, _, -, e⟩ | ⟨rfl, -⟩
    case inr.inr.inr => exact length_forKoji.symm
    all_goals
      rw [(JobNode.mk.inj e).2.1] at kind
      cases kind

/-- A compose is followed by the first job of its kind. -/
theorem followed_first (planned : ofRequest config request fresh = .ok p) :
    (∃ job, p.jobs[p.followed]? = some job ∧ job.args.kind = request.followedKind) ∧
      ∀ k < p.followed, ∀ job, p.jobs[k]? = some job → job.args.kind ≠ request.followedKind := by
  obtain ⟨_, images, checked, ⟨alone, rfl⟩ | ⟨koji, into_koji, rfl⟩⟩ := ofRequest_ok planned
  · obtain ⟨image, rest, rfl⟩ := List.exists_cons_of_ne_nil checked.ne_nil
    rw [ComposeRequest.followedKind, alone]
    refine ⟨⟨_, rfl, rfl⟩, fun k before job found => ?_⟩
    obtain rfl : k = 0 := Nat.lt_one_iff.1 before
    cases found
    nofun
  · rw [ComposeRequest.followedKind, into_koji]
    refine ⟨⟨_, getElem?_forKoji_import, rfl⟩, fun k before job found kind => ?_⟩
    have last := import_last planned found kind
    have before : k < 2 * images.length + 1 := before
    rw [length_forKoji] at last
    omega

end Plan

/-- Of the stored jobs of a plan, the one that the compose is followed by is the first of its
kind. -/
theorem Plan.Begins.find?_followed {config : Config} {request : ComposeRequest} {fresh : Fresh}
    {p : Plan} {channel : String} {added : List StoredJob} {j : StoredJob}
    (begins : p.Begins channel added) (planned : ofRequest config request fresh = .ok p)
    (followed : added[p.followed]? = some j) :
    (added.find? fun j => j.kind = request.followedKind) = some j := by
  obtain ⟨⟨job, found, kind⟩, before⟩ := followed_first planned
  obtain ⟨bound, e⟩ := List.getElem?_eq_some_iff.1 followed
  rw [List.find?_eq_some_iff_getElem]
  refine ⟨?_, p.followed, bound, e, fun k earlier => ?_⟩
  · obtain ⟨job', found', as_planned⟩ := begins.planned followed
    cases found.symm.trans found'
    exact decide_eq_true (as_planned.is.kind.trans kind)
  · obtain ⟨job', found', as_planned⟩ :=
      begins.planned (List.getElem?_eq_getElem (earlier.trans bound))
    simpa [as_planned.is.kind] using before k earlier job' found'

/-- As long as a job of a plan is missing, no import is stored. -/
theorem Plan.Begins.no_import {config : Config} {request : ComposeRequest} {fresh : Fresh}
    {p : Plan} {channel : String} {added : List StoredJob} (begins : p.Begins channel added)
    (planned : ofRequest config request fresh = .ok p) (unfinished : added.length < p.jobs.length) :
    ∀ j ∈ added, j.kind ≠ .kojiFinalize := by
  intro j member kind
  obtain ⟨k, bound, rfl⟩ := List.getElem_of_mem member
  obtain ⟨job, found, as_planned⟩ := begins.planned (List.getElem?_eq_getElem bound)
  have last := import_last planned found (as_planned.is.kind ▸ kind)
  omega

/-- A request that is not planned submits nothing. -/
theorem submitCompose_unplanned {config : Config} {request : ComposeRequest} {fresh : Fresh}
    {e : ServiceError} (unplanned : Plan.ofRequest config request fresh = .error e)
    (channel : String) (s : σ) :
    (submitCompose config request fresh channel).run backend s = (.error e, s) ∧
      (submitCompose config request fresh channel).submissions backend s = [] := by
  rw [submitCompose, unplanned]
  exact ⟨rfl, rfl⟩

section
variable {config : Config} {request : ComposeRequest} {fresh : Fresh} {channel : String} {s : σ}
  {answer : ComposeId}

/-- A request that is accepted was planned, whatever the store does. -/
theorem Plan.exists_of_accepted
    (accepted : ((submitCompose config request fresh channel).run backend s).1 = .ok answer) :
    ∃ p, ofRequest config request fresh = .ok p := by
  cases planned : ofRequest config request fresh with
  | error e =>
    rw [(submitCompose_unplanned planned channel s).1] at accepted
    cases accepted
  | ok p => exact ⟨p, rfl⟩

/-- So it is acceptable. -/
theorem ComposeRequest.acceptable_of_accepted
    (accepted : ((submitCompose config request fresh channel).run backend s).1 = .ok answer) :
    request.Acceptable config := by
  obtain ⟨p, planned⟩ := Plan.exists_of_accepted accepted
  exact holds_rules.1 ((request.enforces_ofRequest config fresh).holds p planned)

end

/-- A request that is planned is stored as its plan begins. It is accepted if the whole plan is
stored, and otherwise the next job of the plan is refused. -/
theorem submitCompose_stores (appends : backend.Appends jobs) {config : Config}
    {request : ComposeRequest} {fresh : Fresh} {p : Plan}
    (planned : Plan.ofRequest config request fresh = .ok p) (channel : String) (s : σ) :
    ∃ added r s', (submitCompose config request fresh channel).run backend s = (r, s') ∧
      jobs s' = jobs s ++ added ∧ p.Begins channel added ∧
      ((added.length = p.jobs.length ∧ ∃ answer j, r = .ok answer ∧
          added[p.followed]? = some j ∧ answer.reference.id = j.id) ∨
        ∃ job cause, p.jobs[added.length]? = some job ∧
          r = .error (.enqueue job.args.kind cause)) := by
  have plan := Plan.graph_ofRequest channel planned
  obtain ⟨added, r, s', run, stored, begins, ends⟩ :=
    submitJobs_stores appends plan (s := s) rfl .nil (List.append_nil _).symm
  replace run : (submitJobs channel p.jobs []).run backend s = (r, s') := run
  rw [submitCompose, planned, Action.run_of_ok_bind]
  rcases ends with ⟨rfl, whole⟩ | ⟨job, cause, next, rfl⟩
  · obtain ⟨⟨job, found, -⟩, -⟩ := Plan.followed_first planned
    obtain ⟨j, followed, -⟩ := begins.stored whole found
    rw [Action.run_bind_of_ok _ run, getElem?_ids followed]
    exact ⟨added, _, s', rfl, stored, begins, .inl ⟨whole, _, j, rfl, followed, rfl⟩⟩
  · rw [Action.run_bind_of_error _ run]
    exact ⟨added, _, s', rfl, stored, begins, .inr ⟨job, cause, next, rfl⟩⟩

/-- A request that is accepted was planned, and its plan is stored whole. -/
theorem submitCompose_accepted (appends : backend.Appends jobs) {config : Config}
    {request : ComposeRequest} {fresh : Fresh} {channel : String} {s : σ} {answer : ComposeId}
    (accepted : ((submitCompose config request fresh channel).run backend s).1 = .ok answer) :
    ∃ p added, Plan.ofRequest config request fresh = .ok p ∧
      jobs ((submitCompose config request fresh channel).run backend s).2 = jobs s ++ added ∧
      p.Begins channel added ∧ added.length = p.jobs.length := by
  cases planned : Plan.ofRequest config request fresh with
  | error e =>
    rw [(submitCompose_unplanned planned channel s).1] at accepted
    cases accepted
  | ok p =>
    obtain ⟨added, r, s', run, stored, begins, ends⟩ :=
      submitCompose_stores appends planned channel s
    rw [run] at accepted ⊢
    cases accepted
    rcases ends with ⟨whole, -⟩ | ⟨_, _, -, refused⟩
    · exact ⟨p, added, rfl, stored, begins, whole⟩
    · cases refused

/-- A request that fails before a job is refused has not submitted any, and leaves the store as it
is. If a job is refused, just those before it in the plan are stored, and no import is. A request
that is accepted is stored whole, and is followed by its import into Koji or else by its first
build. -/
theorem submitCompose_all_or_prefix (appends : backend.Appends jobs) (config : Config)
    (request : ComposeRequest) (fresh : Fresh) (channel : String) (s : σ) :
    let action := submitCompose config request fresh channel
    let s' := (action.run backend s).2
    match (action.run backend s).1 with
    | .error (.enqueue kind _) => ∃ p added job, Plan.ofRequest config request fresh = .ok p ∧
        jobs s' = jobs s ++ added ∧ p.Begins channel added ∧
        p.jobs[added.length]? = some job ∧ job.args.kind = kind ∧
        ∀ j ∈ added, j.kind ≠ .kojiFinalize
    | .error _ => action.submissions backend s = [] ∧ s' = s
    | .ok answer => ∃ p added, Plan.ofRequest config request fresh = .ok p ∧
        jobs s' = jobs s ++ added ∧ p.Begins channel added ∧ added.length = p.jobs.length ∧
        (added.find? fun j => j.kind = request.followedKind).map (·.id) =
          some answer.reference.id := by
  intro action s'
  cases planned : Plan.ofRequest config request fresh with
  | error e =>
    obtain ⟨run, silent⟩ := submitCompose_unplanned planned channel s
    have same : s' = s := congrArg Prod.snd run
    rw [show (action.run backend s).1 = .error e from congrArg Prod.fst run]
    have blame := Plan.checks_ofRequest config request fresh e planned
    cases e with
    | enqueue kind cause => rcases blame with blame | blame <;> cases blame
    | _ => exact ⟨silent, same⟩
  | ok p =>
    obtain ⟨added, r, s₁, run, stored, begins, ends⟩ :=
      submitCompose_stores appends planned channel s
    have same : s' = s₁ := congrArg Prod.snd run
    rw [show (action.run backend s).1 = r from congrArg Prod.fst run, same]
    rcases ends with ⟨whole, answer, j, rfl, followed, e⟩ | ⟨job, cause, next, rfl⟩
    · have first : (added.find? fun j => j.kind = request.followedKind) = some j :=
        begins.find?_followed planned followed
      refine ⟨p, added, rfl, stored, begins, whole, ?_⟩
      rw [first, e]
      rfl
    · have unfinished := (List.getElem?_eq_some_iff.1 next).1
      exact ⟨p, added, job, rfl, stored, begins, next, rfl, begins.no_import planned unfinished⟩

/-- A compose in Koji that is submitted to a store which refuses the fourth job. -/
def refusedRun : Except ServiceError ComposeId × SkewedStore :=
  (submitCompose {} Store.kojiRequest (.ofRandom 0 0) "tenant").run
    (SkewedStore.backend (Fresh.jobIds 0) (.ofSeconds 0)) { refusal := some (3, .database "down") }

/-- The store keeps the first three jobs of the compose, as they are planned. -/
theorem submitCompose_all_or_prefix_refusedRun :
    refusedRun.1 = .error (.enqueue .manifestIdOnly (.database "down")) ∧
      refusedRun.2.store.jobs.map (·.kind) = [.kojiInit, .manifestIdOnly, .osbuild] ∧
      ∃ p, Plan.ofRequest {} Store.kojiRequest (.ofRandom 0 0) = .ok p ∧
        p.Begins "tenant" refusedRun.2.store.jobs := by
  have refused : refusedRun.1 = .error (.enqueue .manifestIdOnly (.database "down")) := by
    with_unfolding_all rfl
  have outcome := submitCompose_all_or_prefix
    (SkewedStore.appends_backend (Fresh.jobIds 0) (.ofSeconds 0)) {} Store.kojiRequest
    (.ofRandom 0 0) "tenant" { refusal := some (3, .database "down") }
  simp only at outcome
  rw [← refusedRun, refused] at outcome
  obtain ⟨p, added, job, planned, stored, begins, -⟩ := outcome
  obtain rfl : refusedRun.2.store.jobs = added := stored
  exact ⟨refused, rfl, p, planned, begins⟩

end ImageCompose
