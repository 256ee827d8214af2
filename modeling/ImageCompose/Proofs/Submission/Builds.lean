import ImageCompose.Proofs.Submission.Compiled

/-!
# The builds of a request

The builds that a request submits are those of its images, one for each and in their order, in both
forms of requests and also where a submission is broken off (`Store.newBuilds_of_runs`). A build is
to deliver its image where the request says, and to no other place but Koji
(`StoredJob.BuildsImage`).
-/

namespace ImageCompose

/-! ## The builds of a plan -/

/-- A job of a plan builds an image. -/
def PlannedJob.isBuild (job : PlannedJob) : Bool := job.args.kind = .osbuild

/-- What is kept of pairs if only their second halves are. -/
theorem filter_pairs {keeps : β → Bool} {f g : α → Nat → β} (first : ∀ a k, keeps (f a k) = false)
    (second : ∀ a k, keeps (g a k) = true) (as : List α) (n : Nat) :
    (pairs f g as n).filter keeps = (as.zipIdx n).map fun (a, k) => g a k := by
  induction as generalizing n with
  | nil => rfl
  | cons a rest ih =>
    rw [pairs_cons, List.filter_cons_of_neg (by simp [first]), List.filter_cons_of_pos (second a n),
      ih]
    rfl

namespace Plan

/-- The builds of a plan, in order. -/
def builds (p : Plan) : List PlannedJob := p.jobs.filter (·.isBuild)

/-- Each build waits for the job in front of it, which resolves its manifest. -/
theorem builds_standalone (images : List PlannedImage) :
    (standalone images).builds = images.zipIdx.map fun (image, k) =>
      ⟨.build image.build, [2 * k]⟩ := by
  rw [builds, jobs_standalone, filter_pairs (fun _ _ => rfl) fun _ _ => rfl]

/-- In a compose for Koji, it also waits for the first job of all. -/
theorem builds_forKoji (koji : KojiRequest) (fresh : Fresh) (images : List PlannedImage) :
    (forKoji koji fresh images).builds = images.zipIdx.map fun (image, k) =>
      ⟨.build (kojiBuild koji fresh k image), [0, 2 * k + 1]⟩ := by
  rw [builds, jobs_forKoji, List.filter_cons_of_neg Bool.false_ne_true, List.filter_append,
    filter_pairs (fun _ _ => rfl) fun _ _ => rfl]
  exact List.append_nil _

/-- A plan has one build for each image of its request. The build delivers the image where the
request says and, in a compose for Koji, also there. -/
theorem builds_ofRequest {config : Config} {request : ComposeRequest} {fresh : Fresh} {p : Plan}
    (planned : ofRequest config request fresh = .ok p) {k : Nat} {job : PlannedJob}
    (found : p.builds[k]? = some job) :
    ∃ images image a more, request.images = .ok images ∧ images[k]? = some image ∧
      job.args = .build a ∧ a.Builds config.localSave (fresh.image k) image more ∧
      (∀ t ∈ more, t.name = .koji) ∧ (request.koji = none → more = []) := by
  obtain ⟨images, checks, checked, shape⟩ := ofRequest_ok planned
  rcases shape with ⟨alone, rfl⟩ | ⟨koji, into_koji, rfl⟩
  · rw [builds_standalone, List.getElem?_map, List.getElem?_zipIdx, Option.map_map] at found
    obtain ⟨p, at_k, rfl⟩ := Option.map_eq_some_iff.1 found
    obtain ⟨image, asked, ok⟩ := checked.of_planned at_k
    have no_koji : request.koji.isSome = true → ([] : List Target) ≠ [] := by
      rw [alone]
      nofun
    have builds := builds_of_planImage ok no_koji
    rw [List.append_nil] at builds
    exact ⟨images, image, _, [], checked.asked, asked, rfl, builds, nofun, fun _ => rfl⟩
  · rw [builds_forKoji, List.getElem?_map, List.getElem?_zipIdx, Option.map_map] at found
    obtain ⟨p, at_k, rfl⟩ := Option.map_eq_some_iff.1 found
    obtain ⟨image, asked, ok⟩ := checked.of_planned at_k
    rw [Function.comp_apply, Nat.zero_add]
    refine ⟨images, image, _, _, checked.asked, asked, rfl,
      builds_of_planImage ok fun _ => List.cons_ne_nil _ _, ?_, ?_⟩
    · exact fun t ht => List.mem_singleton.1 ht ▸ rfl
    · rw [into_koji]
      nofun

end Plan

/-! ## The builds of a run -/

section
variable {config : Config} {request : ComposeRequest} {fresh : Fresh} {channel : String}
  {s s' : Store}

/-- What a submission of the jobs of a plan stores is what the plan begins with. -/
theorem submitJobs_begins {p : Plan} (plan : p.Graph channel) {r : Except ServiceError (List Uuid)}
    (run : (submitJobs channel p.jobs []).Runs s r s') :
    ∃ added, s'.jobs = s.jobs ++ added ∧ p.Begins channel added := by
  let Inv (ids : List Uuid) (t : Store) : Prop :=
    ∃ added, ids = added.map StoredJob.id ∧ t.jobs = s.jobs ++ added ∧ p.Begins channel added
  have step : ∀ {job ids t id now t'}, p.jobs[ids.length]? = some job → Inv ids t → id ∉ t.ids →
      t.enqueue ⟨job.args.kind, job.args.toJson,
        job.dependencies.filterMap fun position => ids[position]?, channel⟩ id now = .ok t' →
      Inv (ids ++ [id]) t' := by
    rintro job _ t id now t' next ⟨added, rfl, jobs, begins⟩ - accepted
    rw [List.length_map] at next
    have earlier : ∀ position ∈ job.dependencies, position < (added.map (·.id)).length :=
      List.length_map (StoredJob.id) ▸ plan.earlier (Plan.look_of_getElem? next)
    let new : NewJob := ⟨job.args.kind, job.args.toJson,
      job.dependencies.filterMap fun position => (added.map (·.id))[position]?, channel⟩
    have submitted : (new.stored id now).Is job.args new.dependencies channel :=
      ⟨rfl, rfl, rfl, rfl, now, rfl, rfl⟩
    refine ⟨added ++ [new.stored id now], ?_, ?_,
      begins.snoc next (.of_submitted earlier submitted)⟩
    · rw [List.map_append]
      rfl
    · rw [(Store.enqueue_ok accepted).2, jobs, List.append_assoc]
  have start : Inv [] s := ⟨[], rfl, (List.append_nil _).symm, .nil⟩
  obtain ⟨_, ⟨added, -, stored⟩, -⟩ := submitJobs_inv Inv step rfl start run
  exact ⟨added, stored⟩

/-- However a submission ends, what it stores is what the plan of the request begins with, and
nothing if the request is not planned. -/
theorem submitCompose_begins {r : Except ServiceError ComposeId}
    (run : (submitCompose config request fresh channel).Runs s r s') :
    ∃ added, s'.jobs = s.jobs ++ added ∧ (added = [] ∨
      ∃ p, Plan.ofRequest config request fresh = .ok p ∧ p.Begins channel added) := by
  rcases (Action.reads_of _).bind_inv run with ⟨_, -, -, rfl⟩ | ⟨p, planned, run⟩
  · exact ⟨[], (List.append_nil _).symm, .inl rfl⟩
  have plan := Plan.graph_ofRequest channel planned
  rcases run.bind_inv with ⟨_, first, -⟩ | ⟨ids, s₁, first, rest⟩
  · obtain ⟨added, jobs, begins⟩ := submitJobs_begins plan first
    exact ⟨added, jobs, .inr ⟨p, planned, begins⟩⟩
  · obtain ⟨added, jobs, begins⟩ := submitJobs_begins plan first
    obtain rfl : s' = s₁ := by
      split at rest
      · exact rest.pure_inv.2
      · exact rest.throw_inv.2
    exact ⟨added, jobs, .inr ⟨p, planned, begins⟩⟩

/-- A stored job is the build of an image of a request, the one at a position, and was submitted on
a tenant channel. -/
structure StoredJob.BuildsImage (b : StoredJob) (config : Config) (request : ComposeRequest)
    (fresh : Fresh) (channel : String) (k : Nat) (image : ImageRequest) (args : BuildArgs) :
    Prop where
  asked : ∃ images, request.images = .ok images ∧ images[k]? = some image
  is : ∃ waits, b.Is (.build args) waits channel
  /-- It delivers the image where the request says, and in a compose for Koji also there. -/
  builds : ∃ more, args.Builds config.localSave (fresh.image k) image more ∧
    (∀ t ∈ more, t.name = .koji) ∧ (request.koji = none → more = [])

/-- The arguments of a build are read back. -/
theorem StoredJob.BuildsImage.read {b : StoredJob} {k : Nat} {image : ImageRequest}
    {args : BuildArgs} (h : b.BuildsImage config request fresh channel k image args) :
    decode? b.args = some args.kept := by
  obtain ⟨_, is⟩ := h.is
  rw [is.args]
  exact args.decode?_encode

/-- The builds that a store has beyond an earlier one, in the order of their submission. -/
def Store.newBuilds (s s' : Store) : List StoredJob :=
  (s'.jobs.drop s.jobs.length).filter (·.kind = .osbuild)

/-- The builds that a request submits are those of its images, in order. -/
theorem Store.newBuilds_of_runs {r : Except ServiceError ComposeId}
    (run : (submitCompose config request fresh channel).Runs s r s') {k : Nat} {b : StoredJob}
    (built : (s.newBuilds s')[k]? = some b) :
    b ∈ s'.jobs ∧ ∃ image args, b.BuildsImage config request fresh channel k image args := by
  have member : b ∈ s'.jobs :=
    List.drop_subset _ _ (List.mem_of_mem_filter (List.mem_of_getElem? built))
  refine ⟨member, ?_⟩
  obtain ⟨added, jobs, rfl | ⟨p, planned, begins⟩⟩ := submitCompose_begins run
  · rw [newBuilds, jobs, List.drop_left] at built
    cases built
  rw [newBuilds, jobs, List.drop_left] at built
  have builds : List.Forall₂ (PlannedJob.StoredAs channel (added.map (·.id)))
      ((p.jobs.take added.length).filter (·.isBuild)) (added.filter (·.kind = .osbuild)) := by
    refine List.rel_filter (fun job j stored => ?_) begins
    simp only [PlannedJob.isBuild, stored.is.kind]
  obtain ⟨bound, rfl⟩ := List.getElem?_eq_some_iff.1 built
  have planned_bound : k < ((p.jobs.take added.length).filter (·.isBuild)).length :=
    builds.length_eq ▸ bound
  have stored := (List.forall₂_iff_get.1 builds).2 k planned_bound bound
  have found : p.builds[k]? = some ((p.jobs.take added.length).filter (·.isBuild))[k] :=
    List.prefix_iff_getElem?.1 ((List.take_prefix added.length p.jobs).filter _) k planned_bound
  obtain ⟨images, image, args, more, asked, at_k, is_build, builds, rest⟩ :=
    Plan.builds_ofRequest planned found
  refine ⟨image, args, ⟨images, asked, at_k⟩, ?_, more, builds, rest⟩
  exact ⟨_, is_build ▸ stored.is⟩

end

end ImageCompose
