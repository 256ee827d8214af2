import ImageCompose.Job.Payload
import Mathlib.Data.List.Forall2
import Mathlib.Data.List.Nodup

/-!
# Job graphs

What a compose is made of is read off the dependencies of its jobs, so what may depend on what is
an invariant of the store. It is stated here apart from any store, for a graph that gives for a
place (an identifier, or the position in a plan) the job that stands there: `JobNode.Placed` says
what one job may wait for, and `JobGraph` that every job is so placed and that no manifest serves
two jobs and no build two imports.

`JobGraph.insert` adds one job, which is what a store does, and `JobNode.Placed.map` renames
places, which is what a submission does with the positions of its plan.
-/

namespace ImageCompose

variable {ι κ : Type}

/-- The names under which a build delivers to Koji. -/
def BuildArgs.kojiNames (a : BuildArgs) : List String :=
  a.targets.filterMap fun t =>
    match t.options with
    | .koji .. => some t.imageName
    | _ => none

/-- A job as its graph has it. -/
structure JobNode (ι : Type) where
  /-- The tenant channel that the job was submitted on. -/
  channel : String
  /-- The arguments, as they are read. -/
  args : JobArgs
  /-- The places of the jobs that it waits for. -/
  dependencies : List ι

namespace JobNode

/-- The same job with its places renamed. -/
def map (f : ι → κ) (n : JobNode ι) : JobNode κ := ⟨n.channel, n.args, n.dependencies.map f⟩

/-- A job has another one for itself: every job that waits for a manifest, and an import that waits
for a build. -/
def Takes (n t : JobNode ι) : Prop :=
  t.args.kind = .manifestIdOnly ∨ t.args.kind = .osbuild ∧ n.args.kind = .kojiFinalize

/-- A job that copies or shares an image that another compose made. -/
def IsClone (n : JobNode ι) : Prop := n.args.kind = .awsEc2Copy ∨ n.args.kind = .awsEc2Share

/-- What a job may wait for. All jobs of a compose are on one tenant channel; a clone may be on
another than what it clones. -/
inductive Placed (look : ι → Option (JobNode ι)) : JobNode ι → Prop
  /-- A job that opens a build in Koji waits for nothing. -/
  | kojiInit (c : String) (a : KojiInitArgs) : Placed look ⟨c, .kojiInit a, []⟩
  /-- The manifest of an image waits for nothing. -/
  | manifest (c : String) (a : ManifestArgs) : Placed look ⟨c, .manifest a, []⟩
  /-- The manifest of an image for Koji waits for the opening of the build. -/
  | kojiManifest {c : String} (a : ManifestArgs) {i : ι} {ai : KojiInitArgs}
      (init : look i = some ⟨c, .kojiInit ai, []⟩) : Placed look ⟨c, .manifest a, [i]⟩
  /-- A build waits for its manifest. -/
  | build {c : String} (a : BuildArgs) {m : ι} {am : ManifestArgs}
      (manifest : look m = some ⟨c, .manifest am, []⟩) : Placed look ⟨c, .build a, [m]⟩
  /-- A build for Koji waits for the opening of the build, too. -/
  | kojiBuild {c : String} (a : BuildArgs) {i m : ι} {ai : KojiInitArgs} {am : ManifestArgs}
      (init : look i = some ⟨c, .kojiInit ai, []⟩)
      (manifest : look m = some ⟨c, .manifest am, [i]⟩) : Placed look ⟨c, .build a, [i, m]⟩
  /-- An import into Koji waits for the opening of the build and for the builds of its images, and
  names the file of each. -/
  | kojiFinalize {c : String} (a : KojiFinalizeArgs) {i : ι} {ai : KojiInitArgs} {builds : List ι}
      (init : look i = some ⟨c, .kojiInit ai, []⟩) (some_build : builds ≠ [])
      (distinct : builds.Nodup)
      (files : List.Forall₂ (fun b name => ∃ ab m, look b = some ⟨c, .build ab, [i, m]⟩ ∧
        ab.kojiNames = [name]) builds a.kojiFilenames) :
      Placed look ⟨c, .kojiFinalize a, i :: builds⟩
  /-- A copy waits for the build of what it copies. -/
  | copy (c : String) (a : CopyArgs) {b : ι} {cb : String} {ab : BuildArgs} {deps : List ι}
      (build : look b = some ⟨cb, .build ab, deps⟩) : Placed look ⟨c, .copy a, [b]⟩
  /-- A share waits for the build of what it shares. -/
  | shareBuild (c : String) (a : ShareArgs) {b : ι} {cb : String} {ab : BuildArgs} {deps : List ι}
      (build : look b = some ⟨cb, .build ab, deps⟩) : Placed look ⟨c, .share a, [b]⟩
  /-- A share waits for the copy that it shares. -/
  | shareCopy (c : String) (a : ShareArgs) {k : ι} {ck : String} {ak : CopyArgs} {deps : List ι}
      (copy : look k = some ⟨ck, .copy ak, deps⟩) : Placed look ⟨c, .share a, [k]⟩

namespace Placed

variable {look : ι → Option (JobNode ι)} {n : JobNode ι}

/-- Each of the builds of an import is there, and delivers one file to Koji. -/
theorem build_of_mem {c : String} {i : ι} {builds : List ι} {names : List String}
    (files : List.Forall₂ (fun b name => ∃ ab m, look b = some ⟨c, .build ab, [i, m]⟩ ∧
      ab.kojiNames = [name]) builds names) {b : ι} (hb : b ∈ builds) :
    ∃ ab m name, look b = some ⟨c, .build ab, [i, m]⟩ ∧ ab.kojiNames = [name] := by
  induction files with
  | nil => cases hb
  | cons file _ ih =>
    rcases List.mem_cons.1 hb with rfl | hb
    · obtain ⟨ab, m, found, name⟩ := file
      exact ⟨ab, m, _, found, name⟩
    · exact ih hb

/-- A job waits for jobs that are there. -/
theorem known (h : n.Placed look) {d : ι} (hd : d ∈ n.dependencies) : ∃ m, look d = some m := by
  cases h with
  | kojiInit | manifest => cases hd
  | kojiManifest _ found | build _ found | copy _ _ found | shareBuild _ _ found
  | shareCopy _ _ found =>
    obtain rfl := List.mem_singleton.1 hd
    exact ⟨_, found⟩
  | kojiBuild _ init manifest =>
    rcases List.mem_pair.1 hd with rfl | rfl
    · exact ⟨_, init⟩
    · exact ⟨_, manifest⟩
  | kojiFinalize a init _ _ files =>
    rcases List.mem_cons.1 hd with rfl | hd
    · exact ⟨_, init⟩
    · obtain ⟨_, _, _, found, -⟩ := build_of_mem files hd
      exact ⟨_, found⟩

/-- A job that is no clone waits for jobs on its own tenant channel, which are no clones. -/
theorem own_channel (h : n.Placed look) (own : ¬n.IsClone) {d : ι} (hd : d ∈ n.dependencies) :
    ∃ m, look d = some m ∧ m.channel = n.channel ∧ ¬m.IsClone := by
  cases h with
  | kojiInit | manifest => cases hd
  | kojiManifest _ found | build _ found =>
    obtain rfl := List.mem_singleton.1 hd
    exact ⟨_, found, rfl, by simp [IsClone, JobArgs.kind]⟩
  | kojiBuild _ init manifest =>
    rcases List.mem_pair.1 hd with rfl | rfl
    · exact ⟨_, init, rfl, by simp [IsClone, JobArgs.kind]⟩
    · exact ⟨_, manifest, rfl, by simp [IsClone, JobArgs.kind]⟩
  | kojiFinalize a init _ _ files =>
    rcases List.mem_cons.1 hd with rfl | hd
    · exact ⟨_, init, rfl, by simp [IsClone, JobArgs.kind]⟩
    · obtain ⟨_, _, _, found, -⟩ := build_of_mem files hd
      exact ⟨_, found, rfl, by simp [IsClone, JobArgs.kind]⟩
  | copy | shareBuild | shareCopy => exact absurd (by simp [IsClone, JobArgs.kind]) own

/-- A job is placed where its dependencies are sent to, if they are not sent to one place. -/
theorem map {f : ι → κ} {look' : κ → Option (JobNode κ)} (h : n.Placed look)
    (sent : ∀ d ∈ n.dependencies, ∀ m, look d = some m → look' (f d) = some (m.map f))
    (apart : ∀ d ∈ n.dependencies, ∀ d' ∈ n.dependencies, f d = f d' → d = d') :
    (n.map f).Placed look' := by
  cases h with
  | kojiInit c a => exact .kojiInit c a
  | manifest c a => exact .manifest c a
  | kojiManifest a init => exact .kojiManifest a (sent _ (by simp) _ init)
  | build a manifest => exact .build a (sent _ (by simp) _ manifest)
  | kojiBuild a init manifest =>
    exact .kojiBuild a (sent _ (by simp) _ init) (sent _ (by simp) _ manifest)
  | @kojiFinalize c a i ai builds init some_build distinct files =>
    have sent_build : ∀ b ∈ builds, ∀ m, look b = some m → look' (f b) = some (m.map f) :=
      fun b hb => sent b (List.mem_cons_of_mem _ hb)
    refine .kojiFinalize a (sent i (List.mem_cons_self ..) _ init) (by simpa using some_build) ?_ ?_
    · exact List.Nodup.map_on (fun b hb b' hb' => apart b (List.mem_cons_of_mem _ hb) b'
        (List.mem_cons_of_mem _ hb')) distinct
    · rw [List.forall₂_map_left_iff]
      clear some_build distinct sent apart
      generalize a.kojiFilenames = names at files
      induction files with
      | nil => exact .nil
      | cons file _ ih =>
        obtain ⟨ab, m, found, names⟩ := file
        refine .cons ⟨ab, f m, sent_build _ (List.mem_cons_self ..) _ found, names⟩ ?_
        exact ih fun b hb => sent_build b (List.mem_cons_of_mem _ hb)
  | copy c a build => exact .copy c a (sent _ (by simp) _ build)
  | shareBuild c a build => exact .shareBuild c a (sent _ (by simp) _ build)
  | shareCopy c a copy => exact .shareCopy c a (sent _ (by simp) _ copy)

/-- A job stays placed in a graph that has more jobs. -/
theorem mono {look' : ι → Option (JobNode ι)} (h : n.Placed look)
    (kept : ∀ d m, look d = some m → look' d = some m) : n.Placed look' := by
  have same : ∀ m : JobNode ι, m.map id = m := fun m => by simp [JobNode.map]
  rw [← same n]
  exact h.map (fun d _ m hm => (same m).symm ▸ kept d m hm) fun _ _ _ _ e => e

end Placed

end JobNode

/-- A graph in which every job is placed, and no job is had by two others for itself. -/
structure JobGraph (look : ι → Option (JobNode ι)) : Prop where
  placed : ∀ {x n}, look x = some n → n.Placed look
  /-- What one job has for itself, no other job has. -/
  once : ∀ {d t x y n m}, look d = some t → look x = some n → look y = some m →
    d ∈ n.dependencies → d ∈ m.dependencies → n.Takes t → m.Takes t → x = y

namespace JobGraph

variable {look look' : ι → Option (JobNode ι)}

/-- No jobs make a graph. -/
theorem empty : JobGraph fun _ : ι => none :=
  ⟨(nomatch ·), (nomatch ·)⟩

/-- A job is added that is placed, and that takes for itself only what no other job has. -/
theorem insert (g : JobGraph look) {i : ι} {n : JobNode ι} (absent : look i = none)
    (added : look' i = some n) (kept : ∀ x, x ≠ i → look' x = look x) (placed : n.Placed look)
    (free : ∀ d ∈ n.dependencies, ∀ t, look d = some t → n.Takes t →
      ∀ x m, look x = some m → m.Takes t → d ∉ m.dependencies) : JobGraph look' := by
  have more : ∀ d m, look d = some m → look' d = some m := by
    intro d m h
    have other : d ≠ i := fun e => by simp [e, absent] at h
    rw [kept d other, h]
  have placed_before : ∀ {x m}, look' x = some m → m.Placed look := by
    intro x m h
    by_cases hx : x = i
    · subst hx
      obtain rfl : n = m := Option.some.inj (added.symm.trans h)
      exact placed
    · exact g.placed ((kept x hx).symm.trans h)
  -- Nothing waits for the new job: every job, itself included, is placed in what was there before.
  have known_before : ∀ {x m d t}, look' x = some m → d ∈ m.dependencies → look' d = some t →
      look d = some t := by
    intro x m d t hx hd ht
    obtain ⟨t', ht'⟩ := (placed_before hx).known hd
    rw [ht', ← more d t' ht', ht]
  refine ⟨fun h => (placed_before h).mono more, ?_⟩
  intro d t x y m₁ m₂ ht hx hy hdx hdy tx ty
  have ht := known_before hx hdx ht
  by_cases ex : x = i <;> by_cases ey : y = i
  · exact ex.trans ey.symm
  · subst ex
    obtain rfl : n = m₁ := Option.some.inj (added.symm.trans hx)
    exact absurd hdy (free d hdx t ht tx y m₂ ((kept y ey).symm.trans hy) ty)
  · subst ey
    obtain rfl : n = m₂ := Option.some.inj (added.symm.trans hy)
    exact absurd hdx (free d hdy t ht ty x m₁ ((kept x ex).symm.trans hx) tx)
  · exact g.once ht ((kept x ex).symm.trans hx) ((kept y ey).symm.trans hy) hdx hdy tx ty

end JobGraph

end ImageCompose
