import ImageCompose.Proofs.Service.Operations
import ImageCompose.Proofs.Store.Run

/-!
# Jobs of other tenants

An operation that is asked about a job looks at the kind of the job first, then decodes its result,
and only then checks the tenant channel. So a job of another tenant looks like no job at all if it
is of a kind that the operation is for and its result decodes, and not otherwise: the error tells
its kind, or that its result does not decode (`Masked`). This holds of all six operations that are
asked about a job, over any store (`foreign_answers`); in no case does a clone submit anything.
-/

namespace ImageCompose

/-- What an operation for some kinds of jobs answers about a job of another tenant. -/
structure Masked (kinds : List JobKind) (id : Uuid) (r : JobRecord)
    (answer : Except ServiceError α) : Prop where
  /-- The job looks like none if the operation is for its kind and its result decodes, and only
  then. -/
  hidden_iff : answer = .error (.composeNotFound id) ↔ r.kind ∈ kinds ∧ r.Readable
  /-- The kind of a job that the operation is not for is told. -/
  other_kind : r.kind ∉ kinds → answer = .error (.invalidJobType id r.kind)
  /-- It is told that a result does not decode. -/
  undecodable : r.kind ∈ kinds → ¬r.Readable → answer = .error (.malformedJob id .undecodable)

/-- An operation that reads a job of one of its kinds and then checks the channel masks as said. -/
theorem Masked.of_cases {kinds : List JobKind} {id : Uuid} {r : JobRecord}
    {answer : Except ServiceError α}
    (hidden : r.kind ∈ kinds → r.Readable → answer = .error (.composeNotFound id))
    (undecodable : r.kind ∈ kinds → ¬r.Readable → answer = .error (.malformedJob id .undecodable))
    (other_kind : r.kind ∉ kinds → answer = .error (.invalidJobType id r.kind)) :
    Masked kinds id r answer := by
  refine ⟨⟨fun h => ?_, fun h => hidden h.1 h.2⟩, other_kind, undecodable⟩
  by_cases kind : r.kind ∈ kinds
  · refine ⟨kind, Classical.byContradiction fun unreadable => ?_⟩
    rw [undecodable kind unreadable] at h
    cases h
  · rw [other_kind kind] at h
    cases h

/-- An operation masks a job of another tenant: it checks the channel only once it has read the
job. -/
theorem Masked.of_serves {s : Snapshot} {kinds : List JobKind} {id : Uuid} {r : JobRecord}
    {channel : String} {answer : Except ServiceError α}
    (serves : s.Serves id channel kinds answer) (found : s.job id = .ok r) (given : channel ≠ "")
    (foreign : r.channel ≠ channel) : Masked kinds id r answer := by
  have asked := Snapshot.composeKind_of_job found
  refine .of_cases (fun served readable => ?_) (fun served unreadable => ?_) (serves.refused asked)
  · obtain ⟨ρ, _, _, next, kind, rfl⟩ := serves.reads asked served
    obtain ⟨result, -, read⟩ := JobInfo.ofRecord_of_readable id kind.symm readable
    rw [Snapshot.jobInfo_of_job found, read]
    simp only [bind, Except.bind, JobInfo.ensureChannel, if_pos (And.intro given foreign)]
  · obtain ⟨ρ, _, _, next, kind, rfl⟩ := serves.reads asked served
    rw [Snapshot.jobInfo_of_job found, JobInfo.ofRecord_of_not_readable kind.symm unreadable]
    rfl

/-- A clone of a compose of another tenant ends before it submits anything. -/
theorem masked_cloneCompose {σ : Type} {backend : Backend σ} {st : σ} {id : Uuid} {r : JobRecord}
    {channel : String} (found : (backend.snapshot st).job id = .ok r) (given : channel ≠ "")
    (foreign : r.channel ≠ channel) (request : CloneRequest) (fresh : Fresh) :
    Masked [.osbuild] id r ((cloneCompose id request fresh channel).run backend st).1 ∧
      ((cloneCompose id request fresh channel).run backend st).2 = st := by
  have fails : ∃ e, (cloneCompose id request fresh channel).run backend st = (.error e, st) ∧
      Masked [.osbuild] id r (.error e : Except ServiceError CloneId) := by
    rw [cloneCompose, Action.run_composeKind_bind, Snapshot.composeKind_of_job found,
      Action.run_of_ok_bind]
    by_cases kind : r.kind = .osbuild
    · have served : r.kind ∈ [JobKind.osbuild] := List.mem_singleton.2 kind
      simp only [if_neg (not_not_intro kind), Action.run_jobInfo_bind]
      rw [Snapshot.jobInfo_of_job found]
      by_cases readable : r.Readable
      · obtain ⟨result, -, read⟩ :=
          JobInfo.ofRecord_of_readable (ρ := BuildResult) id kind readable
        rw [read, Action.run_of_ok_bind, JobInfo.ensureChannel, if_pos (And.intro given foreign),
          Action.run_of_error_bind]
        exact ⟨_, rfl, .of_cases (fun _ _ => rfl) (fun _ h => absurd readable h) (absurd served)⟩
      · rw [JobInfo.ofRecord_of_not_readable kind readable, Action.run_of_error_bind]
        exact ⟨_, rfl, .of_cases (fun _ h => absurd h readable) (fun _ _ => rfl) (absurd served)⟩
    · simp only [if_pos kind]
      have other : r.kind ∉ [JobKind.osbuild] := by simpa using kind
      exact ⟨_, rfl, .of_cases (absurd · other) (absurd · other) fun _ => rfl⟩
  obtain ⟨e, fails, masked⟩ := fails
  rw [fails]
  exact ⟨masked, rfl⟩

/-! ## Jobs that are not there -/

/-- Every operation answers about a job that is not there that no compose was found. -/
structure NoJob {σ : Type} (backend : Backend σ) (st : σ) (id : Uuid) (channel : String)
    (request : CloneRequest) (fresh : Fresh) : Prop where
  status : (backend.snapshot st).composeStatus id channel = .error (.composeNotFound id)
  metadata : (backend.snapshot st).composeMetadata id channel = .error (.composeNotFound id)
  logs : (backend.snapshot st).composeLogs id channel = .error (.composeNotFound id)
  manifests : (backend.snapshot st).composeManifests id channel = .error (.composeNotFound id)
  clone : (cloneCompose id request fresh channel).run backend st =
    (.error (.composeNotFound id), st)
  cloneStatus : (backend.snapshot st).cloneStatus id channel = .error (.composeNotFound id)

/-- All operations ask for the kind of the job first, which is not there. -/
theorem noJob {σ : Type} {backend : Backend σ} {st : σ} {id : Uuid}
    (missing : (backend.snapshot st).job id = .error (.notFound id)) (channel : String)
    (request : CloneRequest) (fresh : Fresh) : NoJob backend st id channel request fresh := by
  have asked := Snapshot.composeKind_of_missing missing
  exact
    { status := (Snapshot.serves_composeStatus ..).failed asked
      metadata := (Snapshot.serves_composeMetadata ..).failed asked
      logs := (Snapshot.serves_composeLogs ..).failed asked
      manifests := (Snapshot.serves_composeManifests ..).failed asked
      clone := by rw [cloneCompose, Action.run_composeKind_bind, asked, Action.run_of_error_bind]
      cloneStatus := (Snapshot.serves_cloneStatus ..).failed asked }

/-! ## All operations -/

/-- What the six operations answer about a job of another tenant. -/
structure ForeignAnswers {σ : Type} (backend : Backend σ) (st : σ) (id : Uuid) (r : JobRecord)
    (channel : String) (request : CloneRequest) (fresh : Fresh) : Prop where
  status : Masked [.osbuild, .kojiFinalize] id r ((backend.snapshot st).composeStatus id channel)
  metadata : Masked [.osbuild] id r ((backend.snapshot st).composeMetadata id channel)
  logs : Masked [.osbuild, .kojiFinalize] id r ((backend.snapshot st).composeLogs id channel)
  manifests :
    Masked [.osbuild, .kojiFinalize] id r ((backend.snapshot st).composeManifests id channel)
  clone : Masked [.osbuild] id r ((cloneCompose id request fresh channel).run backend st).1
  nothing_submitted : ((cloneCompose id request fresh channel).run backend st).2 = st
  cloneStatus :
    Masked [.awsEc2Copy, .awsEc2Share] id r ((backend.snapshot st).cloneStatus id channel)

/-- On a tenant channel, every operation answers about a job of another channel as it answers about
one that is not there exactly if it is for the kind of the job and the result of the job decodes;
otherwise it tells the kind, or that the result does not decode. In no case is a job submitted. -/
theorem foreign_answers {σ : Type} (backend : Backend σ) {st : σ} {id : Uuid} {r : JobRecord}
    {channel : String} (found : (backend.snapshot st).job id = .ok r) (given : channel ≠ "")
    (foreign : r.channel ≠ channel) (request : CloneRequest) (fresh : Fresh) :
    ForeignAnswers backend st id r channel request fresh ∧
      ∀ st', (backend.snapshot st').job id = .error (.notFound id) →
        NoJob backend st' id channel request fresh :=
  ⟨{ status := .of_serves (Snapshot.serves_composeStatus ..) found given foreign
     metadata := .of_serves (Snapshot.serves_composeMetadata ..) found given foreign
     logs := .of_serves (Snapshot.serves_composeLogs ..) found given foreign
     manifests := .of_serves (Snapshot.serves_composeManifests ..) found given foreign
     clone := (masked_cloneCompose found given foreign request fresh).1
     nothing_submitted := (masked_cloneCompose found given foreign request fresh).2
     cloneStatus := .of_serves (Snapshot.serves_cloneStatus ..) found given foreign },
   fun _ missing => noJob missing channel request fresh⟩

/-- A store with one job on a tenant channel. -/
def tenantStore (kind : JobKind) : Store := ⟨[⟨.ofNat 0, kind, "tenant", .obj [], none, {}, []⟩]⟩

/-- A build of one tenant is hidden from another. -/
theorem foreign_build_hidden :
    let s := (tenantStore .osbuild).snapshot
    (∃ r, s.job (.ofNat 0) = .ok r ∧ r.channel ≠ "other") ∧ "other" ≠ "" ∧
      s.composeStatus (.ofNat 0) "other" = .error (.composeNotFound (.ofNat 0)) := by
  have answers := foreign_answers (Store.backend Uuid.ofNat (.ofSeconds 0))
    (rfl : (tenantStore .osbuild).snapshot.job (.ofNat 0) = _) (by decide : "other" ≠ "")
    (by decide) ⟨"region", none⟩ (.ofRandom 0 0)
  have hidden := answers.1.status.hidden_iff.2 ⟨by decide, fun _ h => nomatch h⟩
  exact ⟨⟨_, rfl, by decide⟩, by decide, hidden⟩

/-- A job of one tenant that opens a build in Koji is not: its kind is told. -/
theorem foreign_kojiInit_told :
    let s := (tenantStore .kojiInit).snapshot
    (∃ r, s.job (.ofNat 0) = .ok r ∧ r.channel ≠ "other") ∧
      s.composeStatus (.ofNat 0) "other" = .error (.invalidJobType (.ofNat 0) .kojiInit) ∧
      s.composeStatus (.ofNat 0) "other" ≠ .error (.composeNotFound (.ofNat 0)) := by
  have told : (tenantStore .kojiInit).snapshot.composeStatus (.ofNat 0) "other" =
      .error (.invalidJobType (.ofNat 0) .kojiInit) := rfl
  refine ⟨⟨_, rfl, by decide⟩, told, ?_⟩
  rw [told]
  exact fun e => by cases e

end ImageCompose
