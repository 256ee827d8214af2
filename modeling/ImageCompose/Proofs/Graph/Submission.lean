import ImageCompose.Proofs.Graph.Plan
import ImageCompose.Proofs.Graph.Store
import ImageCompose.Submission.Plan

/-!
# Submissions keep the job graph

A submission takes the jobs of a plan one by one, and may be refused at any of them. What has to
hold between two of them is `Submitted`: the store has a job graph, what was submitted so far stands
in it as it stands in the plan, and no other job waits for it. Each job that is submitted keeps this
(`Submitted.enqueue`), so it holds wherever the submission ends (`submitJobs_runs`). A compose that
is accepted is followed by the job that its plan says (`submitCompose_stands`): by a build of its
own that waits for nothing but a manifest, or by the import into Koji (`submitCompose_follows`).
-/

namespace ImageCompose

/-! ## Jobs of a plan in turn -/

/-- If every submission of a next job keeps an invariant of the identifiers given so far and the
store, the invariant holds wherever the submission of all jobs ends: after the last, or where one is
refused. -/
theorem submitJobs_inv {channel : String} {jobs : List PlannedJob}
    (Inv : List Uuid → Store → Prop)
    (step : ∀ {job ids s id now s'}, jobs[ids.length]? = some job → Inv ids s → id ∉ s.ids →
      s.enqueue ⟨job.args.kind, job.args.toJson,
        job.dependencies.filterMap fun position => ids[position]?, channel⟩ id now = .ok s' →
      Inv (ids ++ [id]) s')
    {rest : List PlannedJob} {ids : List Uuid} {s s' : Store} {r : Except ServiceError (List Uuid)}
    (place : jobs.drop ids.length = rest) (inv : Inv ids s)
    (run : (submitJobs channel rest ids).Runs s r s') :
    ∃ all, Inv all s' ∧ (r = .ok all ∧ jobs.length ≤ all.length ∨
      ∃ job cause, jobs[all.length]? = some job ∧ r = .error (.enqueue job.args.kind cause)) := by
  induction rest generalizing ids s with
  | nil =>
    obtain ⟨rfl, rfl⟩ := run.pure_inv
    exact ⟨ids, inv, .inl ⟨rfl, List.drop_eq_nil_iff.1 place⟩⟩
  | cons job rest ih =>
    have next : jobs[ids.length]? = some job := by
      rw [← List.head?_drop, place]
      rfl
    rcases run.bind_inv with ⟨e, first, rfl⟩ | ⟨id, s₁, first, run⟩
    · rcases first.enqueue_inv with ⟨_, _, impossible, -⟩ | ⟨⟨cause, refused⟩, rfl⟩
      · cases impossible
      · cases refused
        exact ⟨ids, inv, .inr ⟨job, cause, next, rfl⟩⟩
    · rcases first.enqueue_inv with ⟨_, now, accepted, fresh, added⟩ | ⟨⟨_, impossible⟩, -⟩
      · cases accepted
        refine ih ?_ (step next inv fresh added) run
        rw [List.length_append, List.length_singleton, ← List.tail_drop, place]
        rfl
      · cases impossible

/-! ## Composes -/

/-- The identifier that was given for a position. -/
def given (ids : List Uuid) (k : Nat) : Uuid := ids[k]?.getD (Uuid.ofNat 0)

/-- What was given for a position is what stands there. -/
theorem given_eq {ids : List Uuid} {k : Nat} {id : Uuid} (h : ids[k]? = some id) :
    given ids k = id := by
  rw [given, h]
  rfl

/-- Every position before the end was given an identifier. -/
theorem getElem?_given {ids : List Uuid} {k : Nat} (h : k < ids.length) :
    ids[k]? = some (given ids k) := by
  rw [given, List.getElem?_eq_getElem h]
  rfl

/-- The identifiers that were given do not change when another one is given. -/
theorem given_append {ids : List Uuid} {k : Nat} (id : Uuid) (h : k < ids.length) :
    given (ids ++ [id]) k = given ids k := by
  rw [given, List.getElem?_append_left h, given]

/-- The dependencies of a job are the identifiers given for what it waits for. -/
theorem filterMap_getElem? {ids : List Uuid} {positions : List Nat}
    (h : ∀ k ∈ positions, k < ids.length) :
    (positions.filterMap fun k => ids[k]?) = positions.map (given ids) := by
  rw [← List.filterMap_eq_map]
  exact List.filterMap_congr fun k hk => getElem?_given (h k hk)

/-- Different positions were given different identifiers. -/
theorem given_inj {ids : List Uuid} (nodup : ids.Nodup) {k k' : Nat} (h : k < ids.length)
    (h' : k' < ids.length) (e : given ids k = given ids k') : k = k' := by
  refine (List.getElem?_inj h nodup).1 ?_
  rw [getElem?_given h, getElem?_given h', e]

/-- What holds between two submissions of a plan. -/
structure Submitted (channel : String) (p : Plan) (ids : List Uuid) (s : Store) : Prop where
  /-- The store has a job graph. -/
  graph : s.Graph
  /-- The identifiers given so far are distinct. -/
  nodup : ids.Nodup
  /-- What was submitted stands in the store as it stands in the plan. -/
  stands : ∀ {k}, k < ids.length →
    ∃ n, p.look channel k = some n ∧ s.look (given ids k) = some (n.map (given ids))
  /-- No other job waits for what was submitted. -/
  apart : ∀ {x n}, s.look x = some n → x ∉ ids → ∀ d ∈ n.dependencies, d ∉ ids

namespace Submitted

variable {channel : String} {p : Plan} {ids : List Uuid} {s s' : Store}

/-- Before the first submission nothing is submitted. -/
theorem start (g : s.Graph) : Submitted channel p [] s where
  graph := g
  nodup := List.nodup_nil
  stands h := absurd h (Nat.not_lt_zero _)
  apart _ _ _ _ := List.not_mem_nil

/-- What was submitted is in the store. -/
theorem known (sub : Submitted channel p ids s) {id : Uuid} (h : id ∈ ids) : id ∈ s.ids := by
  obtain ⟨k, hk, rfl⟩ := List.getElem_of_mem h
  obtain ⟨n, -, found⟩ := sub.stands hk
  rw [given_eq (List.getElem?_eq_getElem hk)] at found
  exact Store.mem_ids_of_look found

/-- The next job of a plan is placed among what was submitted. -/
theorem placed (sub : Submitted channel p ids s) (plan : p.Graph channel) {n : JobNode Nat}
    (hn : p.look channel ids.length = some n) : (n.map (given ids)).Placed s.look := by
  refine (plan.graph.placed hn).map ?_ ?_
  · intro d hd m hm
    obtain ⟨m', hm', found⟩ := sub.stands (plan.earlier hn d hd)
    obtain rfl := Option.some.inj (hm.symm.trans hm')
    exact found
  · intro d hd d' hd' e
    exact given_inj sub.nodup (plan.earlier hn d hd) (plan.earlier hn d' hd') e

/-- What the next job of a plan takes for itself, no job has. -/
theorem free (sub : Submitted channel p ids s) (plan : p.Graph channel) {n : JobNode Nat}
    (hn : p.look channel ids.length = some n) {d : Uuid} (hd : d ∈ n.dependencies.map (given ids))
    {t : JobNode Uuid} (ht : s.look d = some t) (takes : (n.map (given ids)).Takes t) {x : Uuid}
    {m : JobNode Uuid} (hx : s.look x = some m) (taken : m.Takes t) : d ∉ m.dependencies := by
  intro waits
  obtain ⟨k, hk, rfl⟩ := List.mem_map.1 hd
  have bound := plan.earlier hn k hk
  obtain ⟨t', ht', found⟩ := sub.stands bound
  obtain rfl := Option.some.inj (ht.symm.trans found)
  have x_given : x ∈ ids := Decidable.byContradiction fun other =>
    sub.apart hx other _ waits (List.mem_of_getElem? (getElem?_given bound))
  -- So the other job stands in the plan, too, and before the one that comes next.
  obtain ⟨j, hj, rfl⟩ := List.getElem_of_mem x_given
  obtain ⟨m', hm', found'⟩ := sub.stands hj
  rw [given_eq (List.getElem?_eq_getElem hj)] at found'
  obtain rfl := Option.some.inj (hx.symm.trans found')
  obtain ⟨k', hk', e⟩ := List.mem_map.1 waits
  obtain rfl := given_inj sub.nodup ((plan.earlier hm' k' hk').trans hj) bound e
  have same := plan.graph.once ht' hn hm' hk hk' takes taken
  omega

/-- The submission of the next job of a plan keeps what holds between two of them. -/
theorem enqueue (sub : Submitted channel p ids s) (plan : p.Graph channel) {job : PlannedJob}
    (next : p.jobs[ids.length]? = some job) {id : Uuid} {now : Timestamp} (fresh : id ∉ s.ids)
    (added : s.enqueue ⟨job.args.kind, job.args.toJson,
      job.dependencies.filterMap fun position => ids[position]?, channel⟩ id now = .ok s') :
    Submitted channel p (ids ++ [id]) s' := by
  have hn : p.look channel ids.length = some ⟨channel, job.args.kept, job.dependencies⟩ :=
    Plan.look_of_getElem? next
  rw [filterMap_getElem? (plan.earlier hn)] at added
  have graph : s'.Graph := sub.graph.enqueue fresh added (sub.placed plan hn)
    fun d hd t ht takes x m hx taken => sub.free plan hn hd ht takes hx taken
  have unmoved : ∀ {n : JobNode Nat}, (∀ d ∈ n.dependencies, d < ids.length) →
      n.map (given (ids ++ [id])) = n.map (given ids) := fun {n} earlier => by
    rw [JobNode.map, JobNode.map,
      List.map_congr_left fun d hd => given_append id (earlier d hd)]
  refine ⟨graph, ?_, ?_, ?_⟩
  · rw [List.nodup_append]
    refine ⟨sub.nodup, List.nodup_singleton _, fun x hx y hy e => fresh ?_⟩
    obtain rfl := List.mem_singleton.1 hy
    exact e ▸ sub.known hx
  · intro k hk
    rw [List.length_append, List.length_singleton] at hk
    rcases Nat.lt_or_eq_of_le (Nat.le_of_lt_succ hk) with hk | rfl
    · obtain ⟨n, planned, found⟩ := sub.stands hk
      refine ⟨n, planned, ?_⟩
      rw [given_append id hk, unmoved fun d hd => (plan.earlier planned d hd).trans hk]
      exact Store.look_enqueue_of_look fresh added found
    · refine ⟨_, hn, ?_⟩
      rw [given_eq List.getElem?_concat_length, unmoved (plan.earlier hn)]
      exact Store.look_enqueue fresh added
  · intro x n hx other d hd member
    rw [List.mem_append, List.mem_singleton] at other member
    push Not at other
    rw [Store.look_enqueue_of_ne fresh added other.2] at hx
    rcases member with member | rfl
    · exact sub.apart hx other.1 d hd member
    · obtain ⟨m, hm⟩ := (sub.graph.graph.placed hx).known hd
      exact fresh (Store.mem_ids_of_look hm)

end Submitted

/-- The submission of a plan ends after its last job, or where one is refused. -/
theorem submitJobs_runs {channel : String} {p : Plan} (plan : p.Graph channel) {s s' : Store}
    (g : s.Graph) {r : Except ServiceError (List Uuid)}
    (run : (submitJobs channel p.jobs []).Runs s r s') :
    ∃ ids, Submitted channel p ids s' ∧
      (r = .ok ids ∧ p.jobs.length ≤ ids.length ∨ ∃ e, r = .error e) := by
  obtain ⟨ids, sub, accepted | ⟨_, _, _, refused⟩⟩ := submitJobs_inv (Submitted channel p)
    (fun next sub fresh added => sub.enqueue plan next fresh added) rfl (.start g) run
  · exact ⟨ids, sub, .inl accepted⟩
  · exact ⟨ids, sub, .inr ⟨_, refused⟩⟩

/-- A submission keeps the job graph wherever it ends, and a compose that is accepted is followed by
the job that its plan says. -/
theorem submitCompose_stands {config : Config} {request : ComposeRequest} {fresh : Fresh}
    {channel : String} {s s' : Store} {r : Except ServiceError ComposeId} (g : s.Graph)
    (run : (submitCompose config request fresh channel).Runs s r s') :
    s'.Graph ∧ ∀ answer, r = .ok answer → ∃ p ids n, Plan.ofRequest config request fresh = .ok p ∧
      p.look channel p.followed = some n ∧
      s'.look answer.reference.id = some (n.map (given ids)) := by
  rcases (Action.reads_of _).bind_inv run with ⟨e, -, rfl, rfl⟩ | ⟨p, planned, rest⟩
  · exact ⟨g, fun _ h => (nomatch h)⟩
  have plan := Plan.graph_ofRequest channel planned
  rcases rest.bind_inv with ⟨e, jobs, rfl⟩ | ⟨ids, s₂, jobs, rest⟩
  · obtain ⟨_, sub, -⟩ := submitJobs_runs plan g jobs
    exact ⟨sub.graph, fun _ h => (nomatch h)⟩
  obtain ⟨_, sub, ⟨e, all⟩ | ⟨_, impossible⟩⟩ := submitJobs_runs plan g jobs
  · cases e
    obtain ⟨n, hn, -⟩ := plan.followed
    have bound : p.followed < ids.length := by
      obtain ⟨job, found, -⟩ := Option.map_eq_some_iff.1 hn
      exact (List.getElem?_eq_some_iff.1 found).1.trans_le all
    obtain ⟨n', hn', found⟩ := sub.stands bound
    obtain rfl := Option.some.inj (hn.symm.trans hn')
    rw [getElem?_given bound] at rest
    obtain ⟨rfl, rfl⟩ := rest.pure_inv
    refine ⟨sub.graph, fun answer h => ?_⟩
    cases h
    exact ⟨p, ids, n, planned, hn, found⟩
  · cases impossible

/-- A compose that is accepted is followed by a build or an import on its tenant channel. -/
theorem submitCompose_runs {config : Config} {request : ComposeRequest} {fresh : Fresh}
    {channel : String} {s s' : Store} {r : Except ServiceError ComposeId} (g : s.Graph)
    (run : (submitCompose config request fresh channel).Runs s r s') :
    s'.Graph ∧ ∀ answer, r = .ok answer → ∃ n, s'.look answer.reference.id = some n ∧
      n.channel = channel ∧ (n.args.kind = .osbuild ∨ n.args.kind = .kojiFinalize) := by
  obtain ⟨graph, stands⟩ := submitCompose_stands g run
  refine ⟨graph, fun answer accepted => ?_⟩
  obtain ⟨p, ids, n, planned, hn, found⟩ := stands answer accepted
  obtain ⟨n', hn', kind⟩ := (Plan.graph_ofRequest channel planned).followed
  obtain rfl := Option.some.inj (hn.symm.trans hn')
  obtain ⟨job, -, rfl⟩ := Option.map_eq_some_iff.1 hn
  exact ⟨_, found, rfl, kind⟩

/-- A compose on its own is followed by a build that only waits for its manifest, and one for Koji
by the import. -/
theorem submitCompose_follows {config : Config} {request : ComposeRequest} {fresh : Fresh}
    {channel : String} {s s' : Store} {answer : ComposeId} (g : s.Graph)
    (run : (submitCompose config request fresh channel).Runs s (.ok answer) s') :
    (request.koji = none ∧
      ∃ a m, s'.look answer.reference.id = some ⟨channel, .build a, [m]⟩) ∨
    (request.koji.isSome = true ∧
      ∃ a waits, s'.look answer.reference.id = some ⟨channel, .kojiFinalize a, waits⟩) := by
  obtain ⟨p, ids, n, planned, hn, found⟩ := (submitCompose_stands g run).2 answer rfl
  obtain ⟨_, images, checked, ⟨alone, rfl⟩ | ⟨koji, into_koji, rfl⟩⟩ := Plan.ofRequest_ok planned
  · obtain ⟨image, rest, rfl⟩ := List.exists_cons_of_ne_nil checked.ne_nil
    cases hn
    exact .inl ⟨alone, _, _, found⟩
  · cases hn.symm.trans Plan.look_forKoji_import
    exact .inr ⟨into_koji ▸ rfl, _, _, found⟩

end ImageCompose
