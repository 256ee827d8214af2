import ImageCompose.Proofs.Clone.Call
import Mathlib.Logic.Relation

/-!
# Clones at the same time

No lock is held between the calls that a clone makes to the store, so two clones may both find that
a copy is missing, and what one has read may have changed when it submits a job. `Traffic` is a
store with the clones that are under way, each with what is left of its program, and
`Traffic.Step` lets any of them make its next call while composes are requested and workers work.

Every job that a clone has submitted is well formed nevertheless (`Traffic.clones_wellFormed`):
what a clone relies on stays so, whoever acts in between. The invariant is that each clone under way
is safe (`StoreProgram.Safe`) and that each copy and each share was submitted by one of them.
-/

namespace ImageCompose

/-- A clone that is under way or has ended. -/
structure CloneRun where
  call : CloneCall
  /-- The jobs that it has submitted so far. -/
  submitted : List Uuid
  /-- What it is still to do. -/
  rest : StoreProgram (Except ServiceError CloneId)

/-- A request comes in. -/
def CloneCall.begin (c : CloneCall) : CloneRun := ⟨c, [], ExceptT.run c.action⟩

/-- A store and the clones that were requested. -/
structure Traffic where
  store : Store := {}
  runs : List CloneRun := []

namespace Traffic

/-- What can happen next. -/
inductive Step : Traffic → Traffic → Prop
  /-- A compose is submitted, or the store refuses some job of it. -/
  | submit {config : Config} {request : ComposeRequest} {fresh : Fresh} {channel : String}
      {t : Traffic} {r : Except ServiceError ComposeId} {s' : Store}
      (run : (submitCompose config request fresh channel).Runs t.store r s') : Step t ⟨s', t.runs⟩
  | request {t : Traffic} (c : CloneCall) : Step t ⟨t.store, c.begin :: t.runs⟩
  /-- One of the clones makes one call to the store. -/
  | call {t : Traffic} (before : List CloneRun) {after : List CloneRun} {run : CloneRun}
      {rest : StoreProgram (Except ServiceError CloneId)} {s' : Store} {submitted : Option Uuid}
      (place : t.runs = before ++ run :: after)
      (call : run.rest.Calls t.store rest s' submitted) :
      Step t ⟨s', before ++ ⟨run.call, submitted.toList ++ run.submitted, rest⟩ :: after⟩
  | start {t : Traffic} (id : Uuid) (now : Timestamp) : Step t ⟨t.store.start id now, t.runs⟩
  /-- A worker finishes a job that was not finished before. -/
  | finish {t : Traffic} {id : Uuid} {v : Json} (now : Timestamp)
      (first : ∀ j ∈ t.store.jobs, j.id = id → j.Unreported v) :
      Step t ⟨t.store.finish id v now, t.runs⟩
  | cancel {t : Traffic} (id : Uuid) : Step t ⟨t.store.cancel id, t.runs⟩

/-- What the empty store becomes. -/
def Reachable (t : Traffic) : Prop := Relation.ReflTransGen Step {} t

end Traffic

/-! ## One clone -/

/-- Whatever comes, a clone that is under way submits only what it may. -/
def CloneRun.Safe (run : CloneRun) (s : Store) : Prop :=
  ∃ start, run.rest.Safe .busy (run.call.Submits .busy start) (fun _ _ => True) s

/-- It goes on to do so while jobs move forward. -/
theorem CloneRun.Safe.becomes {run : CloneRun} {s s' : Store} (h : run.Safe s)
    (later : s.Becomes s') : run.Safe s' := by
  obtain ⟨start, safe⟩ := h
  exact ⟨start, safe.mono later fun _ _ => trivial⟩

/-- A clone is safe from its beginning. -/
theorem CloneCall.safe_begin (c : CloneCall) {s : Store} (nodup : s.ids.Nodup) :
    c.begin.Safe s :=
  ⟨s, StoreProgram.Safe.weaken (c.action_safe .busy nodup) fun _ _ _ => trivial⟩

/-- A stored job is as it was submitted, whatever was done on it. -/
def StoredJob.Of (j : StoredJob) (new : NewJob) : Prop :=
  j.kind = new.kind ∧ j.args = new.args ∧ j.dependencies = new.dependencies

/-- It goes on to be so while it moves forward. -/
theorem StoredJob.Of.becomes {j j' : StoredJob} {new : NewJob} (h : j.Of new)
    (later : j.Becomes j') : j'.Of new := by
  rw [Of, later.kind, later.args, later.dependencies]
  exact h

/-- A clone has submitted a job of the store, and was allowed to. -/
def CloneRun.Made (run : CloneRun) (s : Store) (j : StoredJob) : Prop :=
  j.id ∈ run.submitted ∧ ∃ start s₀ new,
    run.call.Submits .busy start s₀ new ∧ s₀.Becomes s ∧ j.Of new

namespace CloneRun.Made

variable {run run' : CloneRun} {s s' : Store} {j j' : StoredJob}

/-- What a clone submitted goes on to be its own while jobs move forward. -/
theorem becomes (h : run.Made s j) (later : s.Becomes s') (moved : j.Becomes j') :
    run.Made s' j' := by
  obtain ⟨member, start, s₀, new, may, before, of⟩ := h
  exact ⟨moved.id ▸ member, start, s₀, new, may, before.trans later, of.becomes moved⟩

/-- A clone that has got further submitted all that it had submitted. -/
theorem further (h : run.Made s j) (same : run'.call = run.call)
    (more : ∀ x ∈ run.submitted, x ∈ run'.submitted) : run'.Made s j := by
  obtain ⟨member, submits⟩ := h
  exact ⟨more _ member, same ▸ submits⟩

end CloneRun.Made

namespace Traffic

variable {t t' : Traffic}

/-! ## The invariant -/

/-- What holds of a store and the clones under way. -/
structure Sound (t : Traffic) : Prop where
  nodup : t.store.ids.Nodup
  safe : ∀ run ∈ t.runs, run.Safe t.store
  /-- Each copy and each share was submitted by one of the clones. -/
  made : ∀ {x j}, t.store.find? x = some j → j.kind.IsClone → ∃ run ∈ t.runs, run.Made t.store j

namespace Sound

/-- In an empty store no clone is under way. -/
theorem empty : Sound {} where
  nodup := List.nodup_nil
  safe _ member := nomatch member
  made found := nomatch found

/-- What moves jobs forward and adds no clones keeps the invariant. -/
theorem becomes (inv : t.Sound) {s' : Store} (later : t.store.Becomes s')
    (before : ∀ {x j'}, s'.find? x = some j' → j'.kind.IsClone →
      ∃ j, t.store.find? x = some j ∧ j.Becomes j') : Sound ⟨s', t.runs⟩ where
  nodup := later.nodup inv.nodup
  safe run member := (inv.safe run member).becomes later
  made found clone := by
    obtain ⟨j, found, moved⟩ := before found clone
    obtain ⟨run, member, made⟩ := inv.made found (moved.kind ▸ clone)
    exact ⟨run, member, made.becomes later moved⟩

/-- Work keeps the invariant. -/
theorem works (inv : t.Sound) {s' : Store} (work : t.store.Works s') : Sound ⟨s', t.runs⟩ :=
  inv.becomes work.becomes fun found _ => work.before found

/-- A compose adds no clones. -/
theorem submit (inv : t.Sound) {config : Config} {request : ComposeRequest} {fresh : Fresh}
    {channel : String} {r : Except ServiceError ComposeId} {s' : Store}
    (run : (submitCompose config request fresh channel).Runs t.store r s') :
    Sound ⟨s', t.runs⟩ := by
  refine ((submitCompose_safe .idle ..).runs run (fun s => Sound ⟨s, t.runs⟩) inv
    fun inv other fresh added => ?_).1
  refine inv.becomes (.enqueue fresh added) fun {x j'} found clone => ?_
  rw [Store.find?_enqueue fresh added] at found
  split at found
  · cases found
    exact absurd clone other
  · exact ⟨j', found, .refl j'⟩

/-- A clone that begins has submitted nothing yet. -/
theorem request (inv : t.Sound) (c : CloneCall) : Sound ⟨t.store, c.begin :: t.runs⟩ where
  nodup := inv.nodup
  safe run member := by
    rcases List.mem_cons.1 member with rfl | member
    · exact c.safe_begin inv.nodup
    · exact inv.safe run member
  made found clone := by
    obtain ⟨run, member, made⟩ := inv.made found clone
    exact ⟨run, List.mem_cons_of_mem _ member, made⟩

/-- If a clone gets further, what every clone had submitted before is submitted still. -/
theorem made_further {before after : List CloneRun} {run run' : CloneRun} {s : Store}
    {j : StoredJob} (place : t.runs = before ++ run :: after) (same : run'.call = run.call)
    (more : ∀ x ∈ run.submitted, x ∈ run'.submitted) (made : ∃ run ∈ t.runs, run.Made s j) :
    ∃ run ∈ before ++ run' :: after, run.Made s j := by
  obtain ⟨other, member, made⟩ := made
  rw [place, List.mem_append, List.mem_cons] at member
  rcases member with member | rfl | member
  · exact ⟨other, by simp [member], made⟩
  · exact ⟨run', by simp, made.further same more⟩
  · exact ⟨other, by simp [member], made⟩

/-- If a clone gets further and is safe then, so are all. -/
theorem safe_further (inv : t.Sound) {before after : List CloneRun} {run run' : CloneRun}
    {s' : Store} (place : t.runs = before ++ run :: after) (later : t.store.Becomes s')
    (safe : run'.Safe s') : ∀ other ∈ before ++ run' :: after, other.Safe s' := by
  intro other member
  rw [List.mem_append, List.mem_cons] at member
  rcases member with member | rfl | member
  · exact (inv.safe other (by simp [place, member])).becomes later
  · exact safe
  · exact (inv.safe other (by simp [place, member])).becomes later

/-- A clone that makes a call stays safe, and what it submits then is its own. -/
theorem call (inv : t.Sound) {before after : List CloneRun} {run : CloneRun}
    {rest : StoreProgram (Except ServiceError CloneId)} {s' : Store} {submitted : Option Uuid}
    (place : t.runs = before ++ run :: after) (call : run.rest.Calls t.store rest s' submitted) :
    Sound ⟨s', before ++ ⟨run.call, submitted.toList ++ run.submitted, rest⟩ :: after⟩ := by
  obtain ⟨start, safe⟩ := inv.safe run (by simp [place])
  obtain ⟨rest_safe, effect⟩ := safe.call call
  have later : t.store.Becomes s' := by
    rcases effect with ⟨-, rfl⟩ | ⟨_, _, _, -, -, fresh, added⟩
    · exact .refl _
    · exact .enqueue fresh added
  have old : ∀ {x j}, t.store.find? x = some j → j.kind.IsClone →
      ∃ run ∈ t.runs, run.Made s' j := by
    intro x j found clone
    obtain ⟨other, member, made⟩ := inv.made found clone
    exact ⟨other, member, made.becomes later (.refl j)⟩
  have still : ∀ {j}, (∃ run ∈ t.runs, run.Made s' j) →
      ∃ run' ∈ before ++ ⟨run.call, submitted.toList ++ run.submitted, rest⟩ :: after,
        run'.Made s' j :=
    made_further place rfl fun _ member => List.mem_append_right _ member
  refine ⟨later.nodup inv.nodup, inv.safe_further place later ⟨start, rest_safe⟩, ?_⟩
  intro x j found clone
  rcases effect with ⟨-, rfl⟩ | ⟨new, id, now, rfl, may, fresh, added⟩
  · exact still (old found clone)
  · rw [Store.find?_enqueue fresh added] at found
    split at found
    · cases found
      refine ⟨⟨run.call, id :: run.submitted, rest⟩, by simp, List.mem_cons_self .., ?_⟩
      exact ⟨start, t.store, new, may, later, rfl, rfl, rfl⟩
    · exact still (old found clone)

/-- Whatever happens next, the invariant is kept. -/
theorem step (inv : t.Sound) (h : Step t t') : t'.Sound := by
  cases h with
  | submit run => exact inv.submit run
  | request c => exact inv.request c
  | call before place call => exact inv.call place call
  | start id now => exact inv.works (.start t.store id now)
  | finish now first => exact inv.works (.finish first now)
  | cancel id => exact inv.works (.cancel t.store id)

end Sound

/-- The invariant holds of whatever is reached. -/
theorem Reachable.sound (h : t.Reachable) : t.Sound := by
  induction h with
  | refl => exact .empty
  | tail _ last ih => exact ih.step last

/-! ## Well-formed clones -/

/-- The copies and the shares of a store are as their requests mean them. -/
structure WellFormed (t : Traffic) : Prop where
  /-- A copy waits for one build, which has delivered one EC2 image, and is of that image and into
  another region. -/
  copy : ∀ j ∈ t.store.jobs, j.kind = .awsEc2Copy → ∃ b ∈ t.store.jobs, ∃ source : CloneSource,
    j.dependencies = [b.id] ∧ b.Delivers source ∧ ∃ a : CopyArgs, decode? j.args = some a ∧
      a.ami = source.ami ∧ a.sourceRegion = source.region ∧ a.targetRegion ≠ source.region
  /-- A share was requested for a build that has delivered one EC2 image. It is with some accounts,
  none twice, and first those that the build declares. It waits for that build and names the image,
  or it waits for a copy of it into the region that was requested and names nothing. -/
  share : ∀ j ∈ t.store.jobs, j.kind = .awsEc2Share → ∃ run ∈ t.runs, j.id ∈ run.submitted ∧
    ∃ b ∈ t.store.jobs, b.id = run.call.build ∧ ∃ source : CloneSource, b.Delivers source ∧
      ∃ a : ShareArgs, decode? j.args = some a ∧ a.shareWithAccounts ≠ [] ∧
        a.shareWithAccounts.Nodup ∧ source.declaredAccounts.eraseDups <+: a.shareWithAccounts ∧
        (j.dependencies = [b.id] ∧ a.ami = source.ami ∧ a.region = source.region ∨
          ∃ k ∈ t.store.jobs, j.dependencies = [k.id] ∧
            k.CopiesInto b.id run.call.request.region ∧ a.ami = "" ∧ a.region = "")

end Traffic

namespace CloneRun

variable {run : CloneRun} {s : Store} {j : StoredJob}

/-- A copy that a clone submitted is as it should be. -/
theorem Made.copy (made : run.Made s j) (kind : j.kind = .awsEc2Copy) :
    ∃ b ∈ s.jobs, ∃ source : CloneSource, j.dependencies = [b.id] ∧ b.Delivers source ∧
      ∃ a : CopyArgs, decode? j.args = some a ∧ a.ami = source.ami ∧
        a.sourceRegion = source.region ∧ a.targetRegion ≠ source.region := by
  obtain ⟨-, start, s₀, new, may, later, same_kind, args, dependencies⟩ := made
  cases may with
  | share => cases same_kind.symm.trans kind
  | @copy source may =>
    obtain ⟨b, found, delivers⟩ := may.clones.becomes later
    obtain ⟨member, is_build⟩ := Store.find?_some found
    refine ⟨b, member, source, ?_, delivers, _, (congrArg decode? args).trans (decode?_encode _),
      rfl, rfl, may.moves⟩
    rw [dependencies, is_build]
    rfl

/-- A share that a clone submitted is as it should be. -/
theorem Made.share (made : run.Made s j) (kind : j.kind = .awsEc2Share) :
    ∃ b ∈ s.jobs, b.id = run.call.build ∧ ∃ source : CloneSource, b.Delivers source ∧
      ∃ a : ShareArgs, decode? j.args = some a ∧ a.shareWithAccounts ≠ [] ∧
        a.shareWithAccounts.Nodup ∧ source.declaredAccounts.eraseDups <+: a.shareWithAccounts ∧
        (j.dependencies = [b.id] ∧ a.ami = source.ami ∧ a.region = source.region ∨
          ∃ k ∈ s.jobs, j.dependencies = [k.id] ∧
            k.CopiesInto b.id run.call.request.region ∧ a.ami = "" ∧ a.region = "") := by
  obtain ⟨-, start, s₀, new, may, later, same_kind, args, dependencies⟩ := made
  cases may with
  | copy => cases same_kind.symm.trans kind
  | @share source image may =>
    obtain ⟨b, found, delivers⟩ := may.clones.becomes later
    obtain ⟨member, is_build⟩ := Store.find?_some found
    have read : decode? j.args = some (run.call.shareArgs source) :=
      (congrArg decode? args).trans (decode?_encode _)
    have accounts : (run.call.shareArgs source).shareWithAccounts = run.call.accounts source := by
      rw [CloneCall.shareArgs]
      split <;> rfl
    refine ⟨b, member, is_build, source, delivers, _, read, ?_, ?_, ?_, ?_⟩
    · rw [accounts]
      exact may.accounts
    · rw [accounts]
      exact nodup_shareAccounts _ _
    · rw [accounts]
      exact prefix_shareAccounts _ _
    · obtain ⟨s₁, settled, between⟩ := may.settled
      rcases settled.cases_on with ⟨same, rfl⟩ | ⟨moves, k, found, copies⟩
      · rw [CloneCall.shareArgs, if_neg (not_not_intro same)]
        exact .inl ⟨dependencies.trans (is_build ▸ rfl), rfl, same⟩
      · obtain ⟨k', found', moved⟩ := (Store.Becomes.trans between later).jobs found
        obtain ⟨member', rfl⟩ := Store.find?_some found'
        rw [CloneCall.shareArgs, if_pos moves]
        exact .inr ⟨k', member', dependencies, is_build ▸ moved.copiesInto_iff.2 copies, rfl, rfl⟩

end CloneRun

/-- However clones, composes and workers take turns, and however many clones are under way, every
copy and every share is well formed. -/
theorem Traffic.clones_wellFormed {t : Traffic} (h : t.Reachable) : t.WellFormed where
  copy j member kind := by
    obtain ⟨run, -, made⟩ := h.sound.made (Store.find?_of_mem h.sound.nodup member) (.inl kind)
    exact made.copy kind
  share j member kind := by
    obtain ⟨run, under_way, made⟩ :=
      h.sound.made (Store.find?_of_mem h.sound.nodup member) (.inr kind)
    exact ⟨run, under_way, made.1, made.share kind⟩

/-- Two clones of a build read it before either submits a job, so both copy the image. One of the
copies is canceled before it is shared. -/
theorem Traffic.clones_wellFormed_race :
    ∃ t : Traffic, t.Reachable ∧ t.store.jobs.map (·.kind) =
      [.manifestIdOnly, .osbuild, .awsEc2Copy, .awsEc2Copy, .awsEc2Share, .awsEc2Share] ∧
      t.WellFormed := by
  obtain ⟨_, submitted⟩ := Store.ec2Store_runs
  have delivered : Reachable ⟨Store.deliveredStore, []⟩ :=
    .tail (.single (.submit submitted)) (.finish _ fun j member is_build =>
      (Store.ec2Store_build j member is_build).2)
  have requested := (delivered.tail
    (.request (Store.cloneEc2 2 "own" (some ["123456789012"])))).tail
    (.request (Store.cloneEc2 3 "" (some ["210987654321"])))
  have asked := (requested.tail (.call [] rfl .jobKind)).tail
    (.call [_] rfl .jobKind)
  have read := (asked.tail (.call [] rfl .job)).tail (.call [_] rfl .job)
  have copied := (read.tail (.call [] rfl
      (.accepted (Fresh.jobIds 0 2) (.ofSeconds 3) (by decide) rfl))).tail
    (.call [_] rfl
      (.accepted (Fresh.jobIds 0 3) (.ofSeconds 3) (by decide) rfl))
  have shared := ((copied.tail (.cancel (Fresh.jobIds 0 3))).tail (.call [] rfl
      (.accepted (Fresh.jobIds 0 4) (.ofSeconds 4) (by decide) rfl))).tail
    (.call [_] rfl
      (.accepted (Fresh.jobIds 0 5) (.ofSeconds 4) (by decide) rfl))
  exact ⟨_, shared, rfl, clones_wellFormed shared⟩

end ImageCompose
