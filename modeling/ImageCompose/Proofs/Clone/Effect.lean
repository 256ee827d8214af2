import ImageCompose.Proofs.Clone.Refused

/-!
# What a clone stores

A clone that is accepted has settled on a job that has the image in the region that is asked for
(`CloneCall.Settles`): the build, the first live copy among the jobs that wait for it, or a new
copy. It has shared the image with the declared and the requested accounts, if there are any
(`CloneCall.Shares`). The new copy and the share are all that is added to the store, and a clone
that fails without a refusal adds nothing (`cloneCompose_stores`).
-/

namespace ImageCompose

namespace CloneCall

/-- A clone settles on a job that has the image in the region that is asked for, and stores some
jobs. -/
inductive Settles (c : CloneCall) (s : Snapshot) (source : CloneSource) (dependents : List Uuid) :
    Uuid → List StoredJob → Prop
  /-- The image is there already. -/
  | stays (same : c.request.region = source.region) : Settles c s source dependents c.build []
  /-- The first live copy is used. -/
  | reuses {k : Uuid} (moves : c.request.region ≠ source.region)
      (first : s.FirstLive c.request.region dependents k) : Settles c s source dependents k []
  /-- There is no live copy, so the image is copied. -/
  | copies {j : StoredJob} (moves : c.request.region ≠ source.region)
      (none_live : ∀ d ∈ dependents, ¬s.LiveCopy c.request.region d)
      (is : j.Is (.copy ⟨source.ami, source.region, c.request.region, storageName c.fresh.copy⟩)
        [c.build] c.channel) : Settles c s source dependents j.id [j]

/-- A clone shares the image of a job with some accounts, and is followed by a job. -/
inductive Shares (c : CloneCall) (source : CloneSource) (accounts : List String) (image : Uuid) :
    Uuid → List StoredJob → Prop
  | nobody (nobody : accounts = []) : Shares c source accounts image image []
  /-- The image of the build is shared. -/
  | delivered {j : StoredJob} (somebody : accounts ≠ [])
      (same : c.request.region = source.region)
      (is : j.Is (.share ⟨source.ami, source.region, accounts⟩) [image] c.channel) :
      Shares c source accounts image j.id [j]
  /-- The image of a copy is shared, which is only known once the copy was made. -/
  | copied {j : StoredJob} (somebody : accounts ≠ []) (moves : c.request.region ≠ source.region)
      (is : j.Is (.share ⟨"", "", accounts⟩) [image] c.channel) :
      Shares c source accounts image j.id [j]

variable {σ : Type} {backend : Backend σ} {jobs : σ → List StoredJob} {c : CloneCall}
  {build : JobInfo BuildResult} {source : CloneSource}

/-- The image is settled on with at most a copy stored, or a job cannot be read and nothing is
stored, or the copy is refused. -/
theorem settle_cases (appends : backend.Appends jobs) (source : CloneSource) (t : σ)
    (id : build.id = c.build) :
    (∃ image copies t', (c.settle build source).run backend t = (.ok image, t') ∧
      jobs t' = jobs t ++ copies ∧
      c.Settles (backend.snapshot t) source build.dependents image copies) ∨
    (∃ e, (c.settle build source).run backend t = (.error e, t)) ∨
    ∃ kind cause t', (c.settle build source).run backend t =
      (.error (.enqueue kind cause), t') := by
  rw [settle]
  split
  swap
  · next same =>
    exact .inl ⟨c.build, [], t, rfl, (List.append_nil _).symm, .stays (Decidable.not_not.1 same)⟩
  next moves =>
  rw [run_copyInto]
  cases found : (backend.snapshot t).findCopy c.request.region build.dependents with
  | error e => exact .inr (.inl ⟨e, rfl⟩)
  | ok copy =>
    rw [Action.run_of_ok_bind]
    cases copy with
    | some k =>
      have first := Snapshot.findCopy_some found
      exact .inl ⟨k, [], t, rfl, (List.append_nil _).symm, .reuses moves first⟩
    | none =>
      have none_live := Snapshot.findCopy_none found
      rcases Action.run_enqueue_cases appends
        (.copy ⟨source.ami, source.region, c.request.region, storageName c.fresh.copy⟩) [build.id]
        c.channel t with ⟨j, t', accepted, stored, is⟩ | ⟨cause, t', refused, -⟩
      · exact .inl ⟨j.id, [j], t', accepted, stored, .copies moves none_live (id ▸ is)⟩
      · exact .inr (.inr ⟨_, cause, t', refused⟩)

/-- The accounts to share with are the declared and the requested ones without repeats. -/
theorem accounts_eq (c : CloneCall) (source : CloneSource) : c.accounts source =
    (source.declaredAccounts ++ c.request.shareWithAccounts.getD []).eraseDups :=
  shareAccounts_eq ..

/-- The image is shared with at most a share stored, or the share is refused. -/
theorem share_cases (appends : backend.Appends jobs) (t : σ) (image : Uuid) :
    (∃ answer shares t', (c.share source image).run backend t = (.ok answer, t') ∧
      jobs t' = jobs t ++ shares ∧
      c.Shares source (c.accounts source) image answer.reference.id shares) ∨
    ∃ kind cause t', (c.share source image).run backend t =
      (.error (.enqueue kind cause), t') := by
  rw [share]
  split
  · next nobody =>
    refine .inl ⟨c.answer image, [], t, rfl, (List.append_nil _).symm, ?_⟩
    exact .nobody (List.isEmpty_iff.1 nobody)
  next some_accounts =>
  have somebody : c.accounts source ≠ [] := fun nobody =>
    some_accounts (List.isEmpty_iff.2 nobody)
  rcases Action.run_enqueue_cases appends (.share (c.shareArgs source)) [image] c.channel t with
    ⟨j, t', accepted, stored, is⟩ | ⟨cause, t', refused, -⟩
  · rw [Action.run_bind_of_ok _ accepted]
    refine .inl ⟨c.answer j.id, [j], t', rfl, stored, ?_⟩
    by_cases moves : c.request.region ≠ source.region
    · rw [shareArgs, if_pos moves] at is
      exact .copied somebody moves is
    · rw [shareArgs, if_neg moves, Decidable.not_not.1 moves] at is
      exact .delivered somebody (Decidable.not_not.1 moves) is
  · rw [Action.run_bind_of_error _ refused]
    exact .inr ⟨_, cause, t', rfl⟩

end CloneCall

/-- A clone that is accepted adds a copy if the image is to be in another region and there is no
live copy in it, and then a share if there are accounts to share with, and is followed by the last
of these jobs, by the copy that it found, or by the build. All other jobs stay as they are. A clone
that fails leaves the store as it is, unless a submission is refused. -/
theorem cloneCompose_stores {σ : Type} {backend : Backend σ} {jobs : σ → List StoredJob}
    (appends : backend.Appends jobs) (c : CloneCall) (t : σ) :
    let s := backend.snapshot t
    let outcome := (cloneCompose c.build c.request c.fresh c.channel).run backend t
    (∀ answer, outcome.1 = .ok answer → ∃ r source image copies shares,
      s.job c.build = .ok r ∧ (r.shown c.build).Delivers source ∧
      c.Settles s source r.dependents image copies ∧
      c.Shares source (source.declaredAccounts ++ c.request.shareWithAccounts.getD []).eraseDups
        image answer.reference.id shares ∧
      jobs outcome.2 = jobs t ++ copies ++ shares) ∧
    ∀ e, outcome.1 = .error e → (∀ kind cause, e ≠ .enqueue kind cause) → outcome.2 = t := by
  intro s outcome
  have run : outcome = _ := c.run_action backend t
  cases checked : s.cloneSource c.build c.channel with
  | error e =>
    rw [checked, Action.run_of_error_bind] at run
    rw [run]
    exact ⟨nofun, fun _ _ _ => rfl⟩
  | ok passed =>
    obtain ⟨build, source⟩ := passed
    obtain ⟨r, found, delivers, id, waits⟩ := Snapshot.cloneSource_ok checked
    rw [checked, Action.run_of_ok_bind] at run
    rcases CloneCall.settle_cases appends source t id with
      ⟨image, copies, t₁, settled, copied, settles⟩ | ⟨e, failed⟩ | ⟨kind, cause, t₁, refused⟩
    · rw [Action.run_bind_of_ok _ settled] at run
      rcases c.share_cases appends t₁ image with
        ⟨answer, shares, t₂, shared, stored, ends⟩ | ⟨kind, cause, t₂, refused⟩
      · rw [run, shared]
        refine ⟨fun answer' told => ?_, nofun⟩
        cases told
        rw [c.accounts_eq] at ends
        exact ⟨r, source, image, copies, shares, found, delivers, waits ▸ settles, ends,
          by rw [stored, copied]⟩
      · rw [run, refused]
        refine ⟨nofun, fun e told other => ?_⟩
        cases told
        exact absurd rfl (other kind cause)
    · rw [run, Action.run_bind_of_error _ failed]
      exact ⟨nofun, fun _ _ _ => rfl⟩
    · rw [run, Action.run_bind_of_error _ refused]
      refine ⟨nofun, fun e told other => ?_⟩
      cases told
      exact absurd rfl (other kind cause)

/-- The delivered build is cloned for two accounts, of which one is named twice: a copy and a share
are stored, and the clone is followed by the share. -/
theorem cloneCompose_stores_deliveredStore :
    let c := Store.cloneEc2 2 "own" (some ["1", "2", "1"])
    let outcome := (cloneCompose c.build c.request c.fresh c.channel).run
      (Store.backend (Fresh.jobIds 0) (.ofSeconds 2)) Store.deliveredStore
    ∃ answer copy share, outcome.1 = .ok answer ∧
      outcome.2.jobs = Store.deliveredStore.jobs ++ [copy, share] ∧
      copy.Is (.copy ⟨"ami-1", "us-east-1", "eu-west-1", storageName c.fresh.copy⟩)
        [Store.ec2Build] "own" ∧
      share.Is (.share ⟨"", "", ["1", "2"]⟩) [copy.id] "own" ∧ answer.reference.id = share.id := by
  intro c outcome
  obtain ⟨answer, accepted⟩ : ∃ answer, outcome.1 = .ok answer := ⟨_, rfl⟩
  have appends := Store.appends_backend (Fresh.jobIds 0) (.ofSeconds 2)
  obtain ⟨r, source, image, copies, shares, found, delivers, settles, ends, stored⟩ :=
    (cloneCompose_stores appends c Store.deliveredStore).1 answer accepted
  obtain ⟨r', found', no_dependents, delivers'⟩ : ∃ r,
      Store.deliveredStore.snapshot.job c.build = .ok r ∧ r.dependents = [] ∧
        (r.shown c.build).Delivers ⟨"ami-1", "us-east-1", []⟩ :=
    ⟨_, rfl, rfl, rfl, rfl, ⟨_, rfl, _, rfl, rfl, rfl⟩, _, rfl, _, _, _, _, rfl, rfl⟩
  cases found.symm.trans found'
  obtain rfl := delivers.unique delivers'
  cases settles with
  | stays same => exact absurd same (by decide)
  | reuses _ first =>
    obtain ⟨before, after, waits, -⟩ := first
    rw [no_dependents] at waits
    exact absurd waits (by simp)
  | copies _ _ is_copy =>
    generalize last : answer.reference.id = id at ends
    cases ends with
    | nobody nobody => exact absurd nobody (by decide)
    | delivered _ same => exact absurd same (by decide)
    | copied _ _ is_share =>
      refine ⟨answer, _, _, accepted, ?_, is_copy, is_share, last⟩
      rw [stored, List.append_assoc]
      rfl

end ImageCompose
