import ImageCompose.Proofs.Clone.Call

/-!
# One copy for each region

A clone uses the copy that is there and submits one only if all have failed. Requests that come one
after the other therefore never make two live copies of a build into one region, however they end
and whatever workers do in between (`Store.CopiesOnce`), and a clone into a region with a live copy
is that copy or a share of it.
-/

namespace ImageCompose

namespace Store

variable {s s' : Store} {c : CloneCall} {source : CloneSource}

/-- No two live copies of a build are into one region. -/
structure CopiesOnce (s : Store) : Prop where
  nodup : s.ids.Nodup
  /-- A copy is of the image of a build, into another region. -/
  fits : ∀ {x j build region}, s.find? x = some j → j.CopiesInto build region →
    ∃ b source, s.find? build = some b ∧ b.Delivers source ∧ region ≠ source.region
  once : ∀ {x x' j j' build region}, s.find? x = some j → s.find? x' = some j' →
    j.LiveCopy build region → j'.LiveCopy build region → x = x'

/-- A request that runs alone submits no copy while there is a live one. -/
theorem not_mayCopy {x : Uuid} {j : StoredJob} (found : s.find? x = some j)
    (live : j.LiveCopy c.build c.request.region) : ¬c.MayCopy .idle s source s' := by
  rintro ⟨-, -, s₁, rfl, rfl, none_left⟩
  have waits : x ∈ s.dependents c.build := by
    obtain ⟨member, rfl⟩ := find?_some found
    exact List.mem_map_of_mem (List.mem_filter.2 ⟨member, by simpa using live.1.2.1⟩)
  obtain ⟨j', found', useless⟩ := none_left x waits
  obtain rfl := Option.some.inj (found.symm.trans found')
  exact live.2 (useless live.1)

namespace CopiesOnce

/-- An empty store holds no copies. -/
theorem empty : CopiesOnce {} where
  nodup := List.nodup_nil
  fits found := nomatch found
  once found := nomatch found

/-- Work makes no copies. -/
theorem works (inv : s.CopiesOnce) (work : s.Works s') : s'.CopiesOnce where
  nodup := work.becomes.nodup inv.nodup
  fits found copies := by
    obtain ⟨j, before, moved⟩ := work.before found
    obtain ⟨b, source, found, delivers, other⟩ := inv.fits before (moved.copiesInto_iff.1 copies)
    obtain ⟨b', found', moved'⟩ := work.becomes.jobs found
    exact ⟨b', source, found', delivers.becomes moved', other⟩
  once found found' live live' := by
    obtain ⟨j, before, moved⟩ := work.before found
    obtain ⟨j', before', moved'⟩ := work.before found'
    exact inv.once before before' (live.before moved) (live'.before moved')

/-- A job is submitted that is no copy, or none was left of that build into that region. -/
theorem enqueue (inv : s.CopiesOnce) {new : NewJob} {id : Uuid} {now : Timestamp}
    (fresh : id ∉ s.ids) (added : s.enqueue new id now = .ok s')
    (may : new.kind ≠ .awsEc2Copy ∨
      ∃ (c : CloneCall) (source : CloneSource), new = c.copyJob source ∧
        c.MayCopy .idle s source s) :
    s'.CopiesOnce := by
  have becomes : s.Becomes s' := .enqueue fresh added
  -- A copy is the new one or was there before.
  have cases_on : ∀ {x j build region}, s'.find? x = some j → j.CopiesInto build region →
      s.find? x = some j ∨ x = id ∧ ∃ (c : CloneCall) (source : CloneSource),
        c.MayCopy .idle s source s ∧ c.build = build ∧ c.request.region = region := by
    intro x j build region found copies
    rw [find?_enqueue fresh added] at found
    split at found
    · next same =>
      cases found
      obtain ⟨kind, member, a, read, into⟩ := copies
      obtain ⟨c, source, rfl, allowed⟩ := may.resolve_left (not_not_intro kind)
      obtain rfl := Option.some.inj ((decode?_encode _).symm.trans read)
      exact .inr ⟨same, c, source, allowed, (List.mem_singleton.1 member).symm, into⟩
    · exact .inl found
  refine ⟨becomes.nodup inv.nodup, fun found copies => ?_, fun found found' live live' => ?_⟩
  · have at_end : ∀ {build region}, (∃ b source, s.find? build = some b ∧ b.Delivers source ∧
          region ≠ source.region) → ∃ b source, s'.find? build = some b ∧ b.Delivers source ∧
          region ≠ source.region := by
      rintro build region ⟨b, source, found, delivers, other⟩
      obtain ⟨b', found', moved⟩ := becomes.jobs found
      exact ⟨b', source, found', delivers.becomes moved, other⟩
    rcases cases_on found copies with before | ⟨-, c, source, may, rfl, rfl⟩
    · exact at_end (inv.fits before copies)
    · obtain ⟨b, found, delivers⟩ := may.clones
      exact at_end ⟨b, source, found, delivers, may.moves⟩
  · rcases cases_on found live.1 with before | ⟨rfl, c, source, may, rfl, rfl⟩ <;>
      rcases cases_on found' live'.1 with before' | ⟨rfl, c', source', may', build, region⟩
    · exact inv.once before before' live live'
    · rw [← build, ← region] at live
      exact absurd may' (not_mayCopy before live)
    · exact absurd may (not_mayCopy before' live')
    · rfl

/-- Composes, clones and work keep it that no two live copies are into one region. -/
theorem step (inv : s.CopiesOnce) (h : Step StoredJob.Unreported s s') : s'.CopiesOnce := by
  cases h with
  | submit run =>
    refine ((submitCompose_safe .idle ..).runs run _ inv fun inv may fresh added => ?_).1
    exact inv.enqueue fresh added (.inl fun kind => may (.inl kind))
  | @clone id request fresh channel _ _ _ run =>
    let c : CloneCall := ⟨id, request, fresh, channel⟩
    refine ((c.action_safe .idle inv.nodup).runs run _ inv fun inv may fresh added => ?_).1
    cases may with
    | copy may =>
      obtain ⟨clones, moves, _, rfl, rfl, none_left⟩ := may
      exact inv.enqueue fresh added (.inr ⟨c, _, rfl, clones, moves, _, rfl, rfl, none_left⟩)
    | share => exact inv.enqueue fresh added (.inl fun kind => nomatch kind)
  | start id now => exact inv.works (.start s id now)
  | finish now first => exact inv.works (.finish first now)
  | cancel id => exact inv.works (.cancel s id)

/-- A request that runs alone while there is a live copy settles on it. -/
theorem image_eq (inv : s.CopiesOnce) {x k : Uuid} {j : StoredJob} (found : s.find? x = some j)
    (live : j.LiveCopy c.build c.request.region) (clones : c.Clones source s')
    (later : s.Becomes s') {s₁ : Store} (image : c.Image .idle s source k s₁) : k = x := by
  cases image with
  | stays same =>
    obtain ⟨b, source', found, delivers, other⟩ := inv.fits found live.1
    obtain ⟨b', found', moved⟩ := later.jobs found
    obtain ⟨b'', found'', delivers'⟩ := clones
    obtain rfl := Option.some.inj (found'.symm.trans found'')
    obtain rfl := (delivers.becomes moved).unique delivers'
    exact absurd same other
  | found moves now found' reusable =>
    cases now
    exact inv.once found' found reusable.live live
  | made may => exact absurd may (not_mayCopy found live)

/-- A request that runs alone while there is a live copy submits no other, however it ends. -/
theorem no_new_copy (inv : s.CopiesOnce) {x : Uuid} {j : StoredJob} (found : s.find? x = some j)
    (live : j.LiveCopy c.build c.request.region) {r : Except ServiceError CloneId}
    (run : c.action.Runs s r s') : ∀ k ∈ s'.jobs, k.kind = .awsEc2Copy → k ∈ s.jobs := by
  refine ((c.action_safe .idle inv.nodup).runs run
    (fun t => ∀ k ∈ t.jobs, k.kind = .awsEc2Copy → k ∈ s.jobs) (fun _ member _ => member) ?_).1
  intro t t' new id now old may _ added k member kind
  rw [(enqueue_ok added).2, List.mem_append, List.mem_singleton] at member
  rcases member with member | rfl
  · exact old k member kind
  · cases may with
    | copy may => exact absurd may (not_mayCopy found live)
    | share => cases kind

/-- If it succeeds, it is followed by the live copy or by a share of it. -/
theorem last_of_live (inv : s.CopiesOnce) {x last : Uuid} {j : StoredJob}
    (found : s.find? x = some j) (live : j.LiveCopy c.build c.request.region)
    (later : s.Becomes s') (ends : c.Ends .idle s last s') :
    last = x ∨ ∃ share ∈ s'.jobs, share.id = last ∧ share.kind = .awsEc2Share ∧
      share.dependencies = [x] := by
  cases ends with
  | image clones image => exact .inl (inv.image_eq found live clones later image)
  | share may fresh added =>
    obtain ⟨s₁, settled, rfl⟩ := may.settled
    have becomes : s₁.Becomes s' := .enqueue fresh added
    obtain rfl := inv.image_eq found live (may.clones.becomes becomes) later settled
    exact .inr ⟨_, (find?_some (find?_enqueue_self fresh added)).1, rfl, rfl, rfl⟩

end CopiesOnce

/-- At any time there is at most one live copy of a build into a region. While there is one, a clone
of the build into that region submits no copy, and is followed by the live one or by a share of
it. -/
theorem Reachable.one_live_copy (h : Reachable StoredJob.Unreported s) (build : Uuid)
    (region : String) :
    s.jobs.Pairwise (fun j j' => ¬(j.LiveCopy build region ∧ j'.LiveCopy build region)) ∧
      ∀ j ∈ s.jobs, j.LiveCopy build region → ∀ request fresh channel answer s',
        request.region = region →
        (cloneCompose build request fresh channel).Runs s (.ok answer) s' →
          (∀ k ∈ s'.jobs, k.kind = .awsEc2Copy → k ∈ s.jobs) ∧
          (answer.reference.id = j.id ∨ ∃ share ∈ s'.jobs, share.id = answer.reference.id ∧
            share.kind = .awsEc2Share ∧ share.dependencies = [j.id]) := by
  have inv : s.CopiesOnce := h.invariant .empty .step
  refine ⟨?_, fun j member live request fresh channel answer s' into run => ?_⟩
  · have distinct : s.jobs.Pairwise fun j j' => j.id ≠ j'.id := List.pairwise_map.1 inv.nodup
    refine distinct.imp_of_mem fun hj hj' other both => other ?_
    exact inv.once (find?_of_mem inv.nodup hj) (find?_of_mem inv.nodup hj') both.1 both.2
  · subst into
    let c : CloneCall := ⟨build, request, fresh, channel⟩
    have found := find?_of_mem inv.nodup member
    obtain ⟨later, ends⟩ := (c.action_safe .idle inv.nodup).later.ends run
    exact ⟨inv.no_new_copy (c := c) found live run, inv.last_of_live found live later ends⟩

/-- When the build is cloned again, the copy is not made again. -/
theorem one_live_copy_clonedStore :
    Reachable StoredJob.Unreported (clonedStore "own") ∧
      ∃ j ∈ (clonedStore "own").jobs, j.LiveCopy ec2Build "eu-west-1" ∧ ∃ answer s',
        (cloneEc2 3 "own").action.Runs (clonedStore "own") (.ok answer) s' ∧
        (∀ k ∈ s'.jobs, k.kind = .awsEc2Copy → k ∈ (clonedStore "own").jobs) ∧
        (answer.reference.id = j.id ∨ ∃ share ∈ s'.jobs, share.id = answer.reference.id ∧
          share.kind = .awsEc2Share ∧ share.dependencies = [j.id]) := by
  obtain ⟨j, found, kind, waits, ⟨a, read, into⟩, fine, unreported⟩ :
      ∃ j, (clonedStore "own").find? (Fresh.jobIds 0 2) = some j ∧ j.kind = .awsEc2Copy ∧
        ec2Build ∈ j.dependencies ∧ (∃ a : CopyArgs, decode? j.args = some a ∧
          a.targetRegion = "eu-west-1") ∧ j.status.canceled = false ∧ j.result = none :=
    ⟨_, rfl, rfl, by decide, ⟨_, rfl, rfl⟩, rfl, rfl⟩
  have live : j.LiveCopy ec2Build "eu-west-1" := by
    refine ⟨⟨kind, waits, a, read, into⟩, ?_⟩
    rintro (canceled | ⟨v, stored, -⟩)
    · rw [fine] at canceled
      cases canceled
    · rw [unreported] at stored
      cases stored
  have run : (cloneEc2 3 "own").action.Runs (clonedStore "own") (.ok _) _ :=
    StoreProgram.runs_run (Fresh.jobIds 0) (.ofSeconds 3) _ _ (by decide +kernel)
  have member := (find?_some found).1
  have reached : Reachable StoredJob.Unreported (clonedStore "own") :=
    reachable_clonedStore (fun _ _ unreported => unreported) (by decide +kernel)
  exact ⟨reached, j, member, live, _, _, run,
    (reached.one_live_copy ec2Build "eu-west-1").2 j member live _ _ _ _ _ rfl run⟩

end Store

end ImageCompose
