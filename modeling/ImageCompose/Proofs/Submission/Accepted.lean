import ImageCompose.Proofs.Submission.Stored

/-!
# Which compose requests are accepted

A backend that refuses no job whose dependencies it holds accepts just the acceptable requests, and
any other fails with the error of the first rule that it breaks (`submitCompose_ok_iff`).
-/

namespace ImageCompose

variable {σ : Type} {backend : Backend σ} {holds : σ → Uuid → Prop}

/-- A backend accepts each job whose dependencies it holds, holds it from then on, and goes on
holding all others. One that accepts every job may be said to hold whatever one likes. -/
def Backend.Accepts (backend : Backend σ) (holds : σ → Uuid → Prop) : Prop :=
  ∀ new s, (∀ d ∈ new.dependencies, holds s d) → ∃ id s', backend.enqueue new s = (.ok id, s') ∧
    holds s' id ∧ ∀ d, holds s d → holds s' d

/-- The store in memory accepts each job that waits for jobs of the store. -/
theorem Store.accepts_backend (supply : Nat → Uuid) (now : Timestamp) :
    (Store.backend supply now).Accepts fun s id => id ∈ s.ids := by
  intro new s known
  have none_missing : s.firstMissing? new.dependencies = none :=
    List.find?_eq_none.2 fun d hd => by simpa using known d hd
  rcases submit_cases supply now new s with ⟨id, s', accepted, jobs⟩ | ⟨e, refused⟩
  · have ids : s'.ids = s.ids ++ [id] := by simp [Store.ids, jobs, NewJob.stored]
    exact ⟨id, s', accepted, by simp [ids], fun d there => by simp [ids, there]⟩
  · simp only [submit, Store.enqueue, none_missing] at refused
    cases refused

/-- A job that waits for jobs that are held is accepted, and all of them are held from then on. -/
theorem Action.run_enqueue_of_accepts (accepts : backend.Accepts holds) (args : JobArgs)
    {dependencies : List Uuid} (channel : String) {s : σ} (known : ∀ d ∈ dependencies, holds s d) :
    ∃ id s', (Action.enqueue args dependencies channel).run backend s = (.ok id, s') ∧
      holds s' id ∧ ∀ d, holds s d → holds s' d := by
  obtain ⟨id, s', accepted, held, before⟩ :=
    accepts ⟨args.kind, args.toJson, dependencies, channel⟩ s known
  refine ⟨id, s', ?_, held, before⟩
  change (Except.mapError _ (backend.enqueue _ s).1, (backend.enqueue _ s).2) = _
  rw [accepted]
  rfl

/-- Jobs that wait for earlier ones are all accepted in turn. -/
theorem submitJobs_accepted (accepts : backend.Accepts holds) (channel : String)
    (jobs : List PlannedJob) {ids : List Uuid} {s : σ} (known : ∀ id ∈ ids, holds s id) :
    ∃ all s', (submitJobs channel jobs ids).run backend s = (.ok all, s') ∧
      all.length = ids.length + jobs.length := by
  induction jobs generalizing ids s with
  | nil => exact ⟨ids, s, rfl, rfl⟩
  | cons job rest ih =>
    have waits : ∀ d ∈ job.dependencies.filterMap fun position => ids[position]?, holds s d := by
      intro d member
      obtain ⟨position, -, found⟩ := List.mem_filterMap.1 member
      exact known d (List.mem_of_getElem? found)
    obtain ⟨id, s₁, accepted, held, before⟩ :=
      Action.run_enqueue_of_accepts accepts job.args channel waits
    have known₁ : ∀ x ∈ ids ++ [id], holds s₁ x := by
      intro x member
      rcases List.mem_append.1 member with member | member
      · exact before x (known x member)
      · exact List.mem_singleton.1 member ▸ held
    obtain ⟨all, s', later, count⟩ := ih known₁
    rw [submitJobs, Action.run_bind_of_ok _ accepted]
    refine ⟨all, s', later, ?_⟩
    rw [count, List.length_append, List.length_singleton, List.length_cons]
    omega

/-- What is planned is accepted. -/
theorem submitCompose_of_plan (accepts : backend.Accepts holds) {config : Config}
    {request : ComposeRequest} {fresh : Fresh} {p : Plan}
    (planned : Plan.ofRequest config request fresh = .ok p) (channel : String) (s : σ) :
    ∃ answer, ((submitCompose config request fresh channel).run backend s).1 = .ok answer := by
  have known : ∀ id ∈ ([] : List Uuid), holds s id := nofun
  obtain ⟨all, s', submitted, count⟩ := submitJobs_accepted accepts channel p.jobs known
  obtain ⟨⟨job, found, -⟩, -⟩ := Plan.followed_first planned
  have bound : p.followed < all.length := by
    have within := (List.getElem?_eq_some_iff.1 found).1
    rw [count, List.length_nil]
    omega
  rw [submitCompose, planned, Action.run_of_ok_bind, Action.run_bind_of_ok _ submitted,
    List.getElem?_eq_getElem bound]
  exact ⟨_, rfl⟩

/-- A store that accepts every job which waits for jobs that it holds accepts just the requests that
are acceptable under the configuration. Any other request leaves the store as it is, and is told
the first of the rules that it breaks. -/
theorem submitCompose_ok_iff (accepts : backend.Accepts holds) (config : Config)
    (request : ComposeRequest) (fresh : Fresh) (channel : String) (s : σ) :
    let outcome := (submitCompose config request fresh channel).run backend s
    ((∃ answer, outcome.1 = .ok answer) ↔ request.Acceptable config) ∧
      (¬request.Acceptable config →
        ∃ e, (request.rules config).Breaks e ∧ outcome = (.error e, s)) := by
  intro outcome
  have checked := ComposeRequest.enforces_ofRequest config request fresh
  rw [← ComposeRequest.holds_rules]
  cases planned : Plan.ofRequest config request fresh with
  | ok p =>
    have fine := checked.holds p planned
    have accepted := submitCompose_of_plan accepts planned channel s
    exact ⟨⟨fun _ => fine, fun _ => accepted⟩, absurd fine⟩
  | error e =>
    have broken := checked.breaks e planned
    have refused : outcome = (.error e, s) := (submitCompose_unplanned planned channel s).1
    refine ⟨⟨fun ⟨answer, accepted⟩ => ?_, fun fine => absurd fine broken.not_holds⟩,
      fun _ => ⟨e, broken, refused⟩⟩
    rw [refused] at accepted
    cases accepted

/-- A request for two images that has four things wrong with it: in the first image a repository
checks signatures without a key and the image is to stay on the worker server, the second is for an
architecture that images are not built for and has nowhere to go. -/
def faultyRequest : ComposeRequest where
  distribution := "rhel-9"
  imageRequests := some [
    { architecture := "x86_64"
      imageType := .guestImage
      repositories := [{ baseurl := some "", metalink := some "m", checkGpg := some true }]
      uploadOptions := some (.obj [("local_save", .bool true)]) },
    { architecture := "sparc"
      imageType := .guestImage }]

/-- The store in memory accepts a request for two images in Koji, and refuses the faulty one for the
missing key. -/
theorem submitCompose_ok_iff_faultyRequest :
    let backend := Store.backend (Fresh.jobIds 0) (.ofSeconds 0)
    backend.Accepts (fun s id => id ∈ s.ids) ∧
      Store.kojiRequest.Acceptable {} ∧ ¬faultyRequest.Acceptable {} ∧
      (faultyRequest.rules {}).Breaks .noGpgKey := by
  have accepts := Store.accepts_backend (Fresh.jobIds 0) (.ofSeconds 0)
  have koji := submitCompose_ok_iff accepts {} Store.kojiRequest (.ofRandom 0 0) "tenant" {}
  have faulty := submitCompose_ok_iff accepts {} faultyRequest (.ofRandom 0 0) "tenant" {}
  have refused : (submitCompose {} faultyRequest (.ofRandom 0 0) "tenant").run
      (Store.backend (Fresh.jobIds 0) (.ofSeconds 0)) {} = (.error .noGpgKey, {}) := rfl
  simp only [refused] at faulty
  have unacceptable : ¬faultyRequest.Acceptable {} := fun fine => by
    obtain ⟨answer, accepted⟩ := faulty.1.2 fine
    cases accepted
  obtain ⟨e, broken, told⟩ := faulty.2 unacceptable
  cases told
  exact ⟨accepts, koji.1.1 ⟨_, rfl⟩, unacceptable, broken⟩

end ImageCompose
