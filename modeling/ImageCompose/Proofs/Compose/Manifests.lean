import ImageCompose.Proofs.Service.BreadthFirst
import ImageCompose.Proofs.Service.Operations

/-!
# Where manifests come from

The manifest of a build is among its arguments, unless they hold none or `null`, and else it is what
the nearest job that resolves manifests has told (`Snapshot.ManifestOf`). A build lacks a manifest
if there is no such job among all that it depends on (`Snapshot.LacksManifest`). In a store that may
show anything, the manifests of a compose are told exactly if each of its builds has one, and the
first build that has none decides how it fails (`Snapshot.composeManifests_nearest`).
-/

namespace ImageCompose.Snapshot

variable {s : Snapshot} {starts : List Uuid} {kind : JobKind} {x : Uuid}

/-! ## The nearest job of a kind -/

/-- A job is there and of a kind. -/
def IsKind (s : Snapshot) (kind : JobKind) (x : Uuid) : Prop :=
  ∃ r, s.job x = .ok r ∧ r.kind = kind

/-- A job is there and of another kind. -/
def IsOther (s : Snapshot) (kind : JobKind) (x : Uuid) : Prop :=
  ∃ r, s.job x = .ok r ∧ r.kind ≠ kind

/-- The first job of a kind in breadth-first order. All jobs before it are there. -/
def Nearest (s : Snapshot) (starts : List Uuid) (kind : JobKind) (x : Uuid) : Prop :=
  ∃ before after, s.breadthFirst starts = before ++ x :: after ∧
    (∀ y ∈ before, s.IsOther kind y) ∧ s.IsKind kind x

/-- A visit in the search for a job of a kind. -/
def atKind (kind : JobKind) (id : Uuid) (r : JobRecord) : Except ServiceError (Option Uuid) :=
  .ok (if r.kind = kind then some id else none)

/-- The search passes over a job exactly if it is there and of another kind. -/
theorem consult_atKind_eq_none : s.consult (atKind kind) x = .ok none ↔ s.IsOther kind x := by
  cases found : s.job x with
  | error e => simp [consult_of_error found, IsOther, found]
  | ok r => simp [consult_of_job found, atKind, IsOther, found]

/-- It stops at a job exactly if that is of the kind. -/
theorem consult_atKind_eq_some {y : Uuid} :
    s.consult (atKind kind) x = .ok (some y) ↔ s.IsKind kind x ∧ x = y := by
  cases found : s.job x with
  | error e => simp [consult_of_error found, IsKind, found]
  | ok r => simp [consult_of_job found, atKind, IsKind, found]

/-- The search visits jobs in breadth-first order. -/
theorem findDependency_eq_findSomeM? : s.findDependency starts kind =
    (s.breadthFirst starts).findSomeM? (s.consult (atKind kind)) :=
  search_eq_findSomeM?

/-- What it finds is the nearest job of the kind. -/
theorem findDependency_eq_some :
    s.findDependency starts kind = .ok (some x) ↔ s.Nearest starts kind x := by
  rw [findDependency_eq_findSomeM?, Except.findSomeM?_eq_iff (by simp)]
  simp only [consult_atKind_eq_none, consult_atKind_eq_some]
  constructor
  · rintro ⟨before, y, after, order, others, found, rfl⟩
    exact ⟨before, after, order, others, found⟩
  · rintro ⟨before, after, order, others, found⟩
    exact ⟨before, x, after, order, others, found, rfl⟩

/-- It finds none exactly if all jobs that can be reached are there and of other kinds. -/
theorem findDependency_eq_none :
    s.findDependency starts kind = .ok none ↔ ∀ n x, s.Away starts n x → s.IsOther kind x := by
  rw [findDependency_eq_findSomeM?, Except.findSomeM?_eq_none]
  simp only [consult_atKind_eq_none, mem_breadthFirst]
  exact ⟨fun h n x path => h x ⟨n, path⟩, fun h x ⟨n, path⟩ => h n x path⟩

/-- The search for a job of a kind only fails as the store does. -/
theorem findDependency_error {e : ServiceError} (h : s.findDependency starts kind = .error e) :
    ∃ cause, e = .ofStore cause := by
  rw [findDependency_eq_findSomeM?, Except.findSomeM?_eq_iff (by simp)] at h
  obtain ⟨-, y, -, -, -, failed⟩ := h
  cases found : s.job y with
  | error cause =>
    rw [consult_of_error found] at failed
    cases failed
    exact ⟨cause, rfl⟩
  | ok r =>
    rw [consult_of_job found] at failed
    cases failed

/-! ## The manifest of a build -/

/-- Where the manifest of a build comes from. -/
inductive ManifestOf (s : Snapshot) (build : JobInfo BuildResult) : Json → Prop
  /-- It is among the arguments. -/
  | own {args : BuildArgs} {m : Json} (read : decode? build.rawArgs = some args)
      (given : args.manifest = some m) (proper : m ≠ .null) : ManifestOf s build m
  /-- The nearest job that resolves manifests has told it, or it is `null`. -/
  | nearest {args : BuildArgs} {x : Uuid} {r : JobRecord} {result : ManifestResult}
      (read : decode? build.rawArgs = some args) (lacks : args.manifest.getD .null = .null)
      (found : s.Nearest build.dependencies .manifestIdOnly x) (job : s.job x = .ok r)
      (told : ResultOf.Reads r.result result) :
      ManifestOf s build (result.manifest.getD .null)

/-- There is no manifest for a build: none is among its arguments, and all that it depends on is
there and resolves none. -/
def LacksManifest (s : Snapshot) (build : JobInfo BuildResult) : Prop :=
  ∃ args : BuildArgs, decode? build.rawArgs = some args ∧ args.manifest.getD .null = .null ∧
    ∀ n x, s.Away build.dependencies n x → s.IsOther .manifestIdOnly x

variable {build : JobInfo BuildResult} {args : BuildArgs} {b : Uuid} {m : Json}

/-- A manifest is absent if it is the literal `null`. -/
theorem isNull_iff : m.isNull = true ↔ m = .null := by
  cases m <;> simp [Json.isNull]

/-- A manifest among the arguments is the one of the build. -/
theorem manifest_of_own (read : decode? build.rawArgs = some args)
    (given : args.manifest = some m) (proper : m ≠ .null) : s.manifest build = .ok m := by
  rw [manifest_eq, JobInfo.args_of_decode? read]
  simp only [bind, Except.bind, given, if_neg (mt isNull_iff.1 proper)]

/-- Without one, it is that of the nearest job that resolves manifests. -/
theorem manifest_of_lacking (read : decode? build.rawArgs = some args)
    (lacks : args.manifest.getD .null = .null) : s.manifest build = s.nearestManifest build := by
  rw [manifest_eq, JobInfo.args_of_decode? read]
  cases given : args.manifest with
  | none => simp only [bind, Except.bind, given]
  | some m =>
    have null : m = .null := by rwa [given] at lacks
    simp only [bind, Except.bind, given, if_pos (isNull_iff.2 null)]

/-- A manifest that is found is the one in the result of the nearest job that resolves manifests, or
`null` if that has none. -/
theorem nearestManifest_eq_ok : s.nearestManifest build = .ok m ↔
    ∃ x r, s.Nearest build.dependencies .manifestIdOnly x ∧ s.job x = .ok r ∧
      ∃ result : ManifestResult, ResultOf.Reads r.result result ∧
        m = result.manifest.getD .null := by
  constructor
  · intro h
    obtain ⟨answer, found, h⟩ := Except.bind_ok h
    cases answer with
    | none => cases h
    | some x =>
      obtain ⟨job, read, h⟩ := Except.bind_ok h
      cases h
      obtain ⟨r, shown, -⟩ := jobInfo_ok read
      rw [jobInfo_of_job shown] at read
      exact ⟨x, r, findDependency_eq_some.1 found, shown, _, JobInfo.reads_of_ofRecord read, rfl⟩
  · rintro ⟨x, r, nearest, shown, result, reads, rfl⟩
    have kind : r.kind = .manifestIdOnly := by
      obtain ⟨-, -, -, -, r', shown', kind⟩ := nearest
      cases shown.symm.trans shown'
      exact kind
    rw [nearestManifest, findDependency_eq_some.2 nearest]
    simp only [bind, Except.bind, jobInfo_of_job shown, JobInfo.ofRecord_of_reads x kind reads]
    rfl

/-- The store never says that a manifest is missing. -/
theorem ofStore_ne_missing (b : Uuid) (cause : StoreError) :
    ServiceError.ofStore cause ≠ .missingManifest b := by
  cases cause <;> exact nofun

/-- A manifest is missing exactly if no job behind the build resolves manifests. -/
theorem nearestManifest_eq_missing : s.nearestManifest build = .error (.missingManifest b) ↔
    b = build.id ∧ ∀ n x, s.Away build.dependencies n x → s.IsOther .manifestIdOnly x := by
  rw [← findDependency_eq_none]
  constructor
  · intro h
    rcases Except.bind_error h with failed | ⟨answer, found, h⟩
    · obtain ⟨cause, e⟩ := findDependency_error failed
      exact absurd e.symm (ofStore_ne_missing b cause)
    · cases answer with
      | none =>
        cases h
        exact ⟨rfl, found⟩
      | some x =>
        rcases Except.bind_error h with failed | ⟨job, -, h⟩
        · rcases jobInfo_error failed with ⟨cause, e⟩ | ⟨defect, e⟩
          · exact absurd e.symm (ofStore_ne_missing b cause)
          · cases e
        · cases h
  · rintro ⟨rfl, found⟩
    rw [nearestManifest, found]
    rfl

/-- Arguments that do not lack a manifest hold one. -/
theorem lacks_or_own (args : BuildArgs) :
    args.manifest.getD .null = .null ∨ ∃ m, args.manifest = some m ∧ m ≠ .null := by
  cases args.manifest with
  | none => exact .inl rfl
  | some m =>
    by_cases null : m = .null
    · exact .inl null
    · exact .inr ⟨m, rfl, null⟩

/-- A manifest is only told of a build whose arguments decode. -/
theorem manifest_undecoded (unread : (decode? build.rawArgs : Option BuildArgs) = none) :
    s.manifest build = .error (.malformedJob build.id .undecodable) := by
  rw [manifest_eq, JobInfo.args, decodeStored, unread]
  rfl

/-- What is told as the manifest of a build is its manifest. -/
theorem manifest_eq_ok : s.manifest build = .ok m ↔ s.ManifestOf build m := by
  constructor
  · intro h
    cases read : (decode? build.rawArgs : Option BuildArgs) with
    | none =>
      rw [manifest_undecoded read] at h
      cases h
    | some args =>
      rcases lacks_or_own args with lacks | ⟨own, given, proper⟩
      · rw [manifest_of_lacking read lacks, nearestManifest_eq_ok] at h
        obtain ⟨x, r, nearest, shown, result, reads, rfl⟩ := h
        exact .nearest read lacks nearest shown reads
      · rw [manifest_of_own read given proper] at h
        cases h
        exact .own read given proper
  · intro h
    cases h with
    | own read given proper => exact manifest_of_own read given proper
    | nearest read lacks nearest shown reads =>
      rw [manifest_of_lacking read lacks]
      exact nearestManifest_eq_ok.2 ⟨_, _, nearest, shown, _, reads, rfl⟩

/-- It is told to be missing exactly if the build lacks one. -/
theorem manifest_eq_missing : s.manifest build = .error (.missingManifest b) ↔
    b = build.id ∧ s.LacksManifest build := by
  constructor
  · intro h
    cases read : (decode? build.rawArgs : Option BuildArgs) with
    | none =>
      rw [manifest_undecoded read] at h
      cases h
    | some args =>
      rcases lacks_or_own args with lacks | ⟨own, given, proper⟩
      · rw [manifest_of_lacking read lacks, nearestManifest_eq_missing] at h
        exact ⟨h.1, args, read, lacks, h.2⟩
      · rw [manifest_of_own read given proper] at h
        cases h
  · rintro ⟨same, args, read, lacks, none_found⟩
    rw [manifest_of_lacking read lacks]
    exact nearestManifest_eq_missing.2 ⟨same, none_found⟩

/-! ## The manifests of a compose -/

variable {id : Uuid} {channel : String} {builds : List (JobInfo BuildResult)}

/-- The builds of a compose, in their order: the compose itself, or what an import waits for after
the job that opens the build in Koji. They can be read, and the compose is shown on the channel. -/
inductive BuildsOf (s : Snapshot) (id : Uuid) (channel : String) :
    List (JobInfo BuildResult) → Prop
  | alone {build : JobInfo BuildResult} (read : s.jobInfo id = .ok build)
      (scope : channel = "" ∨ channel = build.channel) : BuildsOf s id channel [build]
  | koji {finalize : JobInfo KojiFinalizeResult} {builds : List (JobInfo BuildResult)}
      (read : s.jobInfo id = .ok finalize) (scope : channel = "" ∨ channel = finalize.channel)
      (each : List.Forall₂ (fun b build => s.jobInfo b = .ok build)
        finalize.dependencies.tail builds) : BuildsOf s id channel builds

/-- A job that is read as a build is one. -/
theorem kojiBuild_of_jobInfo (read : s.jobInfo b = .ok build) : s.kojiBuild b = .ok build := by
  obtain ⟨r, shown, kind, -⟩ := jobInfo_ok read
  replace kind : r.kind = .osbuild := kind
  rw [kojiBuild, referredKind_of_job shown, kind]
  exact read

/-- The builds are read on the way to their manifests. -/
theorem mapM_manifest_of_each {ids : List Uuid}
    (each : List.Forall₂ (fun b build => s.jobInfo b = .ok build) ids builds) :
    (ids.mapM fun b => do s.manifest (← s.kojiBuild b)) = builds.mapM s.manifest := by
  induction each with
  | nil => rfl
  | cons read _ ih =>
    rw [List.mapM_cons, List.mapM_cons, ih, kojiBuild_of_jobInfo read]
    rfl

/-- The manifests of a compose are those of its builds, in turn. -/
theorem composeManifests_eq (h : s.BuildsOf id channel builds) (some_build : builds ≠ []) :
    s.composeManifests id channel = do
      let manifests ← builds.mapM s.manifest
      return ⟨.at_ s!"/composes/{id}/manifests" id "ComposeManifests", manifests⟩ := by
  cases h with
  | @alone build read scope =>
    obtain ⟨r, shown, kind, -⟩ := jobInfo_ok read
    replace kind : r.kind = .osbuild := kind
    have asked : s.composeKind id = .ok .osbuild := kind ▸ composeKind_of_job shown
    rw [composeManifests, asked]
    simp only [read, JobInfo.ensureChannel_ok scope, bind, Except.bind]
    rw [List.mapM_cons]
    cases s.manifest build <;> rfl
  | @koji finalize builds read scope each =>
    obtain ⟨r, shown, kind, -⟩ := jobInfo_ok read
    replace kind : r.kind = .kojiFinalize := kind
    have asked : s.composeKind id = .ok .kojiFinalize := kind ▸ composeKind_of_job shown
    obtain ⟨init, ids, waits⟩ : ∃ init ids, finalize.dependencies = init :: ids := by
      cases waits : finalize.dependencies with
      | nil =>
        rw [waits] at each
        cases each
        exact absurd rfl some_build
      | cons init ids => exact ⟨init, ids, rfl⟩
    rw [waits, List.tail_cons] at each
    have some_id : ids ≠ [] := fun none_left => by
      rw [none_left] at each
      cases each
      exact some_build rfl
    have chained : KojiChain.ofFinalize id (init :: ids) = .ok ⟨id, init, ids, some_id⟩ :=
      KojiChain.ofFinalize_cons some_id
    rw [composeManifests, asked, ← mapM_manifest_of_each each]
    simp only [read, JobInfo.ensureChannel_ok scope, waits, chained, bind, Except.bind]

/-- A compose without builds is an import that waits for too little. -/
theorem composeManifests_of_none (h : s.BuildsOf id channel []) :
    ∃ count, s.composeManifests id channel = .error (.malformedChain id count) := by
  cases h with
  | @koji finalize builds read scope each =>
    obtain ⟨r, shown, kind, -⟩ := jobInfo_ok read
    replace kind : r.kind = .kojiFinalize := kind
    have asked : s.composeKind id = .ok .kojiFinalize := kind ▸ composeKind_of_job shown
    have short : KojiChain.ofFinalize id finalize.dependencies =
        .error (.malformedChain id finalize.dependencies.length) := by
      cases waits : finalize.dependencies with
      | nil => rfl
      | cons init ids =>
        rw [waits] at each
        cases each
        rfl
    refine ⟨finalize.dependencies.length, ?_⟩
    rw [composeManifests, asked]
    simp only [read, JobInfo.ensureChannel_ok scope, short, bind, Except.bind]

/-- The manifests of a compose are told exactly if it has builds and each of them has a manifest. -/
theorem composeManifests_eq_ok {ms : List Json} (h : s.BuildsOf id channel builds) :
    (∃ told, s.composeManifests id channel = .ok told ∧ told.manifests = ms) ↔
      builds ≠ [] ∧ List.Forall₂ s.ManifestOf builds ms := by
  by_cases some_build : builds = []
  · subst some_build
    obtain ⟨count, malformed⟩ := composeManifests_of_none h
    simp [malformed]
  · have each : builds.mapM s.manifest = .ok ms ↔ List.Forall₂ s.ManifestOf builds ms := by
      simp only [Except.mapM_eq_ok, manifest_eq_ok]
    rw [composeManifests_eq h some_build, ← each]
    constructor
    · rintro ⟨told, answer, rfl⟩
      obtain ⟨ms, read, answer⟩ := Except.bind_ok answer
      cases answer
      exact ⟨some_build, read⟩
    · rintro ⟨-, read⟩
      rw [read]
      exact ⟨_, rfl, rfl⟩

/-- The first build without a manifest is told, if there is none that fails before. -/
theorem composeManifests_eq_missing (h : s.BuildsOf id channel builds) :
    s.composeManifests id channel = .error (.missingManifest b) ↔
      ∃ before build after, builds = before ++ build :: after ∧
        (∀ earlier ∈ before, ∃ m, s.ManifestOf earlier m) ∧ b = build.id ∧
          s.LacksManifest build := by
  by_cases some_build : builds = []
  · subst some_build
    obtain ⟨count, malformed⟩ := composeManifests_of_none h
    simp [malformed]
  · have first : builds.mapM s.manifest = .error (.missingManifest b) ↔
        ∃ before build after, builds = before ++ build :: after ∧
          (∀ earlier ∈ before, ∃ m, s.ManifestOf earlier m) ∧ b = build.id ∧
            s.LacksManifest build := by
      simp only [Except.mapM_eq_error, manifest_eq_ok, manifest_eq_missing]
    rw [composeManifests_eq h some_build, ← first]
    constructor
    · intro failed
      rcases Except.bind_error failed with failed | ⟨ms, -, answer⟩
      · exact failed
      · cases answer
    · intro failed
      rw [failed]
      rfl

/-- What is read of the builds of a compose is read from the jobs of their identifiers. -/
theorem BuildsOf.jobInfo (h : s.BuildsOf id channel builds) (member : build ∈ builds) :
    s.jobInfo build.id = .ok build := by
  have read_id {b : Uuid} {build : JobInfo BuildResult} (read : s.jobInfo b = .ok build) :
      s.jobInfo build.id = .ok build := by
    obtain ⟨_, -, -, _, rfl⟩ := jobInfo_ok read
    exact read
  cases h with
  | alone read =>
    cases List.mem_singleton.1 member
    exact read_id read
  | koji _ _ each =>
    obtain ⟨b, -, read⟩ := Except.exists_of_mem_mapM (Except.mapM_eq_ok.2 each) member
    exact read_id read

/-- **Manifests come from the nearest job that resolves manifests.** The manifests of a compose are
told exactly if it has builds and each of them has one, and they are the manifests of the builds in
their order. A manifest is missing of the first build that lacks one if each build before has one;
none is missing of a build if one of the jobs that it depends on resolves manifests. -/
theorem composeManifests_nearest (h : s.BuildsOf id channel builds) :
    (∀ ms, (∃ told, s.composeManifests id channel = .ok told ∧ told.manifests = ms) ↔
      builds ≠ [] ∧ List.Forall₂ s.ManifestOf builds ms) ∧
    (∀ b, s.composeManifests id channel = .error (.missingManifest b) ↔
      ∃ before build after, builds = before ++ build :: after ∧
        (∀ earlier ∈ before, ∃ m, s.ManifestOf earlier m) ∧ b = build.id ∧
          s.LacksManifest build) ∧
    ∀ build ∈ builds, ∀ n x, s.Away build.dependencies n x → s.IsKind .manifestIdOnly x →
      s.composeManifests id channel ≠ .error (.missingManifest build.id) := by
  refine ⟨fun ms => composeManifests_eq_ok h, fun b => composeManifests_eq_missing h, ?_⟩
  rintro build member n x path ⟨r, found, kind⟩ missing
  obtain ⟨before, lacking, after, split, -, same, -, -, -, others⟩ :=
    (composeManifests_eq_missing h).1 missing
  have lacking_read := h.jobInfo (split ▸ List.mem_append_right _ (List.mem_cons_self ..))
  rw [← same, h.jobInfo member] at lacking_read
  cases lacking_read
  obtain ⟨r', found', other⟩ := others n x path
  cases found.symm.trans found'
  exact other kind

/-- An import of two builds that wait for each other. The first one has no manifest of its own, and
behind the second one is a job that resolves one. -/
def cyclicImport : Snapshot :=
  let record (kind : JobKind) (waits : List Nat) (args : Json) (result : Option Json) :
      Except StoreError JobRecord :=
    .ok ⟨kind, "", args, result, {}, waits.map .ofNat, []⟩
  let held (manifest : String) : Json := .obj [("manifest", .str manifest)]
  ⟨[(.ofNat 0, record .kojiFinalize [1, 2, 3] .null none),
    (.ofNat 1, record .kojiInit [] .null none),
    (.ofNat 2, record .osbuild [1, 3, 3] (.obj []) none),
    (.ofNat 3, record .osbuild [2, 4] (held "given") none),
    (.ofNat 4, record .manifestIdOnly [] .null (held "resolved"))]⟩

/-- The manifests of both builds are told, although the builds wait for each other. -/
theorem manifests_of_cyclicImport :
    ∃ told, cyclicImport.composeManifests (.ofNat 0) "" = .ok told ∧
      told.manifests = [.str "resolved", .str "given"] := by
  obtain ⟨first, second, read_first, read_second⟩ : ∃ first second : JobInfo BuildResult,
      cyclicImport.jobInfo (.ofNat 2) = .ok first ∧ cyclicImport.jobInfo (.ofNat 3) = .ok second :=
    ⟨_, _, rfl, rfl⟩
  have followed : cyclicImport.BuildsOf (.ofNat 0) "" [first, second] :=
    .koji rfl (.inl rfl) (.cons read_first (.cons read_second .nil))
  have nearest :
      cyclicImport.Nearest [.ofNat 1, .ofNat 3, .ofNat 3] .manifestIdOnly (.ofNat 4) := by
    refine ⟨[.ofNat 1, .ofNat 3, .ofNat 2], [], by decide +kernel, ?_, ⟨_, rfl, rfl⟩⟩
    simp only [List.forall_mem_cons]
    exact ⟨⟨_, rfl, by decide⟩, ⟨_, rfl, by decide⟩, ⟨_, rfl, by decide⟩, by simp⟩
  cases read_first
  cases read_second
  refine ((composeManifests_nearest followed).1 _).2 ⟨by simp, .cons ?_ (.cons ?_ .nil)⟩
  · obtain ⟨r, found, told⟩ : ∃ r, cyclicImport.job (.ofNat 4) = .ok r ∧
        ResultOf.Reads r.result ({ manifest := some (.str "resolved") } : ManifestResult) :=
      ⟨_, rfl, .inr ⟨_, rfl, rfl⟩⟩
    exact .nearest rfl rfl nearest found told
  · exact .own rfl rfl (by simp)

end ImageCompose.Snapshot
