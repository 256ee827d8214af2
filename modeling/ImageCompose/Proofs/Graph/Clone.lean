import ImageCompose.Proofs.Graph.Store
import ImageCompose.Proofs.Service.Reads
import ImageCompose.Service.Clone

/-!
# Clones keep the job graph

A clone submits a copy of a build at most, and then a share of that copy, of one that is there, or
of the build. Nothing of a compose ever waits for such a job, and a build may be copied and shared
as often as one likes, so the job graph is kept wherever the clone ends (`cloneCompose_runs`).
-/

namespace ImageCompose

variable {s s' : Store}

/-- The search for a copy changes nothing, and finds a copy that is among the jobs it is given. -/
theorem findCopy_runs {region : String} {dependents : List Uuid}
    {r : Except ServiceError (Option Uuid)} (run : (findCopy region dependents).Runs s r s') :
    s' = s ∧ ∀ copy, r = .ok (some copy) →
      copy ∈ dependents ∧ s.snapshot.referredKind copy = .ok .awsEc2Copy := by
  induction dependents generalizing r with
  | nil =>
    obtain ⟨rfl, rfl⟩ := run.pure_inv
    exact ⟨rfl, fun _ h => (nomatch h)⟩
  | cons dependent rest ih =>
    have later : ∀ {r : Except ServiceError (Option Uuid)}, (findCopy region rest).Runs s r s' →
        s' = s ∧ ∀ copy, r = .ok (some copy) →
          copy ∈ dependent :: rest ∧ s.snapshot.referredKind copy = .ok .awsEc2Copy := by
      intro r run
      obtain ⟨same, found⟩ := ih run
      exact ⟨same, fun copy h => ⟨List.mem_cons_of_mem _ (found copy h).1, (found copy h).2⟩⟩
    rcases (Action.reads_referredKind dependent).bind_inv run with
      ⟨_, -, rfl, rfl⟩ | ⟨kind, hkind, run⟩
    · exact ⟨rfl, fun _ h => (nomatch h)⟩
    split at run
    · exact later run
    · next is_copy =>
      obtain rfl := Decidable.not_not.1 is_copy
      rcases (Action.reads_jobInfo CopyResult dependent).bind_inv run with
        ⟨_, -, rfl, rfl⟩ | ⟨copy, -, run⟩
      · exact ⟨rfl, fun _ h => (nomatch h)⟩
      rcases (Action.reads_of _).bind_inv run with ⟨_, -, rfl, rfl⟩ | ⟨args, -, run⟩
      · exact ⟨rfl, fun _ h => (nomatch h)⟩
      split at run
      · obtain ⟨rfl, rfl⟩ := run.pure_inv
        refine ⟨rfl, fun copy h => ?_⟩
        cases h
        exact ⟨List.mem_cons_self .., hkind⟩
      · exact later run

/-- A job on its own that submits a clone keeps the job graph: it takes nothing for itself. -/
theorem Store.Graph.enqueue_clone (g : s.Graph) {args : JobArgs} {d : Uuid} {channel : String}
    {id : Uuid} {now : Timestamp} (fresh : id ∉ s.ids)
    (added : s.enqueue ⟨args.kind, args.toJson, [d], channel⟩ id now = .ok s')
    (placed : JobNode.Placed s.look ⟨channel, args.kept, [d]⟩)
    (clone : args.kind = .awsEc2Copy ∨ args.kind = .awsEc2Share) {n : JobNode Uuid}
    (hd : s.look d = some n) (cloned : n.args.kind = .osbuild ∨ n.args.kind = .awsEc2Copy) :
    s'.Graph := by
  refine g.enqueue fresh added placed fun d' member t ht takes => ?_
  obtain rfl := List.mem_singleton.1 member
  obtain rfl := Option.some.inj (hd.symm.trans ht)
  rcases takes with kind | ⟨-, kind⟩
  · rcases cloned with cloned | cloned <;> simp [kind] at cloned
  · rw [JobArgs.kind_kept] at kind
    rcases clone with clone | clone <;> simp [kind] at clone

/-- The copy of an image is a copy that is there, or a new one that waits for its build. -/
theorem copyInto_runs (g : s.Graph) {build : JobInfo BuildResult} {source : CloneSource}
    {region : String} {name : Uuid} {channel : String} {cb : String} {ab : BuildArgs}
    {deps : List Uuid} (hb : s.look build.id = some ⟨cb, .build ab, deps⟩)
    {r : Except ServiceError Uuid}
    (run : (copyInto build source region name channel).Runs s r s') :
    s'.Graph ∧ ∀ copy, r = .ok copy → ∃ c a d, s'.look copy = some ⟨c, .copy a, d⟩ := by
  rcases run.bind_inv with ⟨e, search, rfl⟩ | ⟨found, s₁, search, rest⟩
  · obtain ⟨rfl, -⟩ := findCopy_runs search
    exact ⟨g, fun _ h => (nomatch h)⟩
  obtain ⟨rfl, is_copy⟩ := findCopy_runs search
  cases found with
  | some copy =>
    obtain ⟨rfl, rfl⟩ := rest.pure_inv
    refine ⟨g, fun copy' h => ?_⟩
    cases h
    obtain ⟨record, hrecord, kind⟩ := Snapshot.referredKind_ok (is_copy copy rfl).2
    obtain ⟨⟨c, a, d⟩, place, args⟩ := g.look_of_job hrecord
    rw [kind] at args
    cases a <;> cases args
    exact ⟨_, _, _, place⟩
  | none =>
    rcases rest.enqueue_inv with ⟨id, now, rfl, fresh, added⟩ | ⟨⟨cause, rfl⟩, rfl⟩
    · have placed := JobNode.Placed.copy channel
        ⟨source.ami, source.region, region, storageName name⟩ hb
      refine ⟨g.enqueue_clone fresh added placed (.inl rfl) hb (.inl rfl), fun copy h => ?_⟩
      cases h
      exact ⟨_, _, _, Store.look_enqueue fresh added⟩
    · exact ⟨g, fun _ h => (nomatch h)⟩

/-- A share of a build or of a copy keeps the job graph. -/
theorem enqueue_share_runs (g : s.Graph) {args : ShareArgs} {image : Uuid} {channel : String}
    {n : JobNode Uuid} (place : s.look image = some n)
    (cloned : n.args.kind = .osbuild ∨ n.args.kind = .awsEc2Copy) {r : Except ServiceError Uuid}
    (run : (Action.enqueue (.share args) [image] channel).Runs s r s') : s'.Graph := by
  rcases run.enqueue_inv with ⟨id, now, -, fresh, added⟩ | ⟨-, rfl⟩
  · refine g.enqueue_clone fresh added ?_ (.inr rfl) place cloned
    obtain ⟨c, a, deps⟩ := n
    rcases cloned with kind | kind <;> cases a <;> cases kind
    · exact .shareBuild channel args place
    · exact .shareCopy channel args place
  · exact g

/-- Whether or not there are accounts to share a build or a copy with, the job graph is kept up to
the end of the clone. -/
theorem Store.Graph.shareInto_runs (g : s.Graph) {image : Uuid} {n : JobNode Uuid}
    (place : s.look image = some n)
    (cloned : n.args.kind = .osbuild ∨ n.args.kind = .awsEc2Copy) {channel : String}
    {last : Uuid → Action CloneId} {args : ShareArgs} {accounts : List String}
    {r : Except ServiceError CloneId}
    (ends : ∀ {s₁ : Store} {image : Uuid}, (last image).Runs s₁ r s' → s' = s₁)
    (run : (if accounts.isEmpty then (do last (← pure image))
      else (do last (← Action.enqueue (.share args) [image] channel)) : Action CloneId).Runs
        s r s') : s'.Graph := by
  split at run
  · obtain rfl := ends run
    exact g
  · rcases run.bind_inv with ⟨_, first, -⟩ | ⟨_, s₁, first, rest⟩
    · exact enqueue_share_runs g place cloned first
    · obtain rfl := ends rest
      exact enqueue_share_runs g place cloned first

/-- A clone keeps the job graph wherever it ends. -/
theorem cloneCompose_runs (g : s.Graph) {id : Uuid} {request : CloneRequest} {fresh : Fresh}
    {channel : String} {r : Except ServiceError CloneId}
    (run : (cloneCompose id request fresh channel).Runs s r s') : s'.Graph := by
  rcases (Action.reads_composeKind id).bind_inv run with ⟨_, -, -, rfl⟩ | ⟨kind, hkind, run⟩
  · exact g
  split at run
  · rcases run.bind_inv with ⟨_, stop, -⟩ | ⟨_, _, stop, -⟩
    · exact stop.throw_inv.2 ▸ g
    · cases stop.throw_inv.1
  rcases (Action.reads_jobInfo BuildResult id).bind_inv run with
    ⟨_, -, -, rfl⟩ | ⟨build, hbuild, run⟩
  · exact g
  rcases (Action.reads_of _).bind_inv run with ⟨_, -, -, rfl⟩ | ⟨_, -, run⟩
  · exact g
  rcases (Action.reads_of _).bind_inv run with ⟨_, -, -, rfl⟩ | ⟨source, -, run⟩
  · exact g
  -- The image that is shared, if any is, is the build or a copy of it.
  obtain ⟨record, hrecord, record_kind, result, hinfo⟩ := Snapshot.jobInfo_ok hbuild
  obtain ⟨⟨cb, ab, deps⟩, place, args⟩ := g.look_of_job hrecord
  have build_id : build.id = id := by rw [hinfo]
  rw [record_kind] at args
  cases ab <;> cases args
  simp only at run
  split at run
  · rcases run.bind_inv with ⟨_, first, -⟩ | ⟨image, s₁, first, rest⟩
    · exact (copyInto_runs g (build_id ▸ place) first).1
    · obtain ⟨g₁, is_copy⟩ := copyInto_runs g (build_id ▸ place) first
      obtain ⟨c, a, d, image_place⟩ := is_copy image rfl
      exact g₁.shareInto_runs image_place (.inr rfl) (fun h => h.pure_inv.2) rest
  · exact g.shareInto_runs place (.inl rfl) (fun h => h.pure_inv.2) run

end ImageCompose
