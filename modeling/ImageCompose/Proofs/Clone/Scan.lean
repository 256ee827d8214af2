import ImageCompose.Proofs.Clone.Jobs
import ImageCompose.Proofs.Service.Reads
import ImageCompose.Proofs.Store.Submissions

/-!
# The search for a copy

A clone into another region looks through the jobs that wait for the build, in order, and stops at
the first copy into that region that has not failed (`Snapshot.FirstLive`). It submits nothing, so
it is a function of what the store shows (`run_findCopy`), and it fails only at a job that cannot be
read and that has no live copy before it (`Snapshot.findCopy_error`).
-/

namespace ImageCompose

/-! ## Results that are read -/

section
variable {ρ : Type} [ResultOf ρ]

/-- What is stored is read as a result, or it does not decode. -/
theorem ResultOf.reads_or_not (ρ : Type) [ResultOf ρ] (stored : Option Json) :
    (∃ result : ρ, ResultOf.Reads stored result) ∨
      ∃ v, stored = some v ∧ (decode? v : Option ρ) = none := by
  cases stored with
  | none => exact .inl ⟨_, .inl ⟨rfl, rfl⟩⟩
  | some v =>
    cases decoded : (decode? v : Option ρ) with
    | some result => exact .inl ⟨result, .inr ⟨v, rfl, decoded⟩⟩
    | none => exact .inr ⟨v, rfl, decoded⟩

/-- What is stored is read as one result. -/
theorem ResultOf.Reads.unique {stored : Option Json} {result result' : ρ}
    (h : ResultOf.Reads stored result) (h' : ResultOf.Reads stored result') : result = result' := by
  rcases h with ⟨rfl, rfl⟩ | ⟨v, rfl, decoded⟩ <;>
    rcases h' with ⟨none_stored, e⟩ | ⟨v', e, decoded'⟩
  · exact e.symm
  · cases e
  · cases none_stored
  · cases e
    exact Option.some.inj (decoded.symm.trans decoded')

/-- A job of which the result does not decode is not read. -/
theorem JobInfo.ofRecord_of_undecodable (id : Uuid) {r : JobRecord} {v : Json}
    (kind : r.kind = ResultOf.kind ρ) (stored : r.result = some v)
    (undecodable : (decode? v : Option ρ) = none) :
    (ofRecord id r : Except ServiceError (JobInfo ρ)) = .error (.malformedJob id .undecodable) := by
  rw [ofRecord, if_neg (not_not_intro kind), stored]
  simp only [decodeStored, undecodable]
  rfl

end

/-! ## Live copies -/

/-- A job copies an image into a region, and as far as can be told it has not failed and was not
canceled. -/
structure JobRecord.LiveCopy (r : JobRecord) (region : String) : Prop where
  kind : r.kind = .awsEc2Copy
  into : ∃ args : CopyArgs, decode? r.args = some args ∧ args.targetRegion = region
  uncanceled : r.status.canceled = false
  fine : ∃ result : CopyResult, ResultOf.Reads r.result result ∧ result.jobError = none

namespace Snapshot

variable {s : Snapshot} {region : String} {d : Uuid} {e : ServiceError}

/-- A job is shown that is a live copy into a region. -/
def LiveCopy (s : Snapshot) (region : String) (d : Uuid) : Prop :=
  ∃ r, s.job d = .ok r ∧ r.LiveCopy region

/-- A job is the first live copy among some jobs. -/
def FirstLive (s : Snapshot) (region : String) (ids : List Uuid) (k : Uuid) : Prop :=
  ∃ before after, ids = before ++ k :: after ∧ (∀ d ∈ before, ¬s.LiveCopy region d) ∧
    s.LiveCopy region k

/-- Why a job cannot be read that waits for a build: the store does not tell of it, or it is a copy
of which the result or the arguments do not decode. -/
inductive Unreadable (s : Snapshot) (d : Uuid) : ServiceError → Prop
  | untold {cause : StoreError} (failed : s.job d = .error cause) : Unreadable s d (.ofStore cause)
  | result {r : JobRecord} {v : Json} (found : s.job d = .ok r) (copies : r.kind = .awsEc2Copy)
      (stored : r.result = some v) (undecodable : (decode? v : Option CopyResult) = none) :
      Unreadable s d (.malformedJob d .undecodable)
  | args {r : JobRecord} (found : s.job d = .ok r) (copies : r.kind = .awsEc2Copy)
      (undecodable : (decode? r.args : Option CopyArgs) = none) :
      Unreadable s d (.malformedJob d .undecodable)

/-! ## The search in what a store shows -/

/-- Whether a copy can be used. -/
def usable (region : String) (d : Uuid) (copy : JobInfo CopyResult) :
    Except ServiceError (Option Uuid) := do
  let args : CopyArgs ← copy.args
  if args.targetRegion = region ∧ deliveryStatus copy.status copy.result.jobError ≠ .failure then
    return some d
  else return none

/-- Whether a job is a copy that can be used. -/
def usableCopy (s : Snapshot) (region : String) (d : Uuid) : Except ServiceError (Option Uuid) := do
  if (← s.referredKind d) ≠ .awsEc2Copy then return none
  else usable region d (← s.jobInfo d)

/-- A job of a known kind is only looked at further if it is a copy. -/
theorem usableCopy_of_kind {kind : JobKind} (asked : s.referredKind d = .ok kind) :
    s.usableCopy region d =
      if kind ≠ .awsEc2Copy then .ok none else s.jobInfo d >>= usable region d := by
  rw [usableCopy, asked]
  rfl

/-- A copy that can be used among some jobs. -/
def findCopy (s : Snapshot) (region : String) (ids : List Uuid) :
    Except ServiceError (Option Uuid) :=
  ids.findSomeM? (s.usableCopy region)

/-- What a look at a job can tell: that it cannot be read, that it is a live copy, or that it is
not. -/
inductive Look (s : Snapshot) (region : String) (d : Uuid) :
    Except ServiceError (Option Uuid) → Prop
  | unreadable {e : ServiceError} (why : s.Unreadable d e) : Look s region d (.error e)
  | live (live : s.LiveCopy region d) : Look s region d (.ok (some d))
  | other (other : ¬s.LiveCopy region d) : Look s region d (.ok none)

/-- A job that can be read can be used exactly if it is a live copy. -/
theorem look_usableCopy (s : Snapshot) (region : String) (d : Uuid) :
    s.Look region d (s.usableCopy region d) := by
  cases found : s.job d with
  | error cause =>
    have untold : s.usableCopy region d = .error (.ofStore cause) := by
      rw [usableCopy, referredKind, jobKind, found]
      rfl
    exact untold ▸ .unreadable (.untold found)
  | ok r =>
    have live_iff : s.LiveCopy region d ↔ r.LiveCopy region := by
      constructor
      · rintro ⟨r', found', live⟩
        cases found.symm.trans found'
        exact live
      · exact fun live => ⟨r, found, live⟩
    rw [usableCopy_of_kind (referredKind_of_job found)]
    by_cases copies : r.kind = .awsEc2Copy
    swap
    · rw [if_pos copies]
      exact .other fun live => copies (live_iff.1 live).kind
    rw [if_neg (not_not_intro copies), jobInfo_of_job found]
    rcases ResultOf.reads_or_not CopyResult r.result with
      ⟨result, reads⟩ | ⟨v, stored, undecodable⟩
    swap
    · rw [JobInfo.ofRecord_of_undecodable d copies stored undecodable]
      exact .unreadable (.result found copies stored undecodable)
    rw [JobInfo.ofRecord_of_reads d copies reads]
    show s.Look region d (usable region d _)
    rw [usable, JobInfo.args, decodeStored]
    cases decoded : (decode? r.args : Option CopyArgs) with
    | none => exact .unreadable (.args found copies decoded)
    | some args =>
      show s.Look region d (if _ then _ else _)
      split
      · next usable =>
        have fine : ¬(result.jobError.isSome = true ∨ r.status.canceled = true) :=
          fun failed => usable.2 (deliveryStatus_eq_failure.2 failed)
        refine .live (live_iff.2 ⟨copies, ⟨args, decoded, usable.1⟩, ?_, result, reads, ?_⟩)
        · simpa using fun canceled => fine (.inr canceled)
        · simpa using fun failed => fine (.inl failed)
      · next useless =>
        refine .other fun live => useless ?_
        obtain ⟨-, ⟨args', decoded', region'⟩, uncanceled, result', reads', fine⟩ := live_iff.1 live
        cases decoded.symm.trans decoded'
        cases reads.unique reads'
        exact ⟨region', by simp [deliveryStatus_eq_failure, uncanceled, fine]⟩

/-- What was looked at without an answer is no live copy. -/
theorem not_live_of_usableCopy (h : s.usableCopy region d = .ok none) : ¬s.LiveCopy region d := by
  have look := s.look_usableCopy region d
  rw [h] at look
  cases look with
  | other other => exact other

variable {ids : List Uuid}

/-- A search that fails does so at a job that cannot be read, with no live copy before it. -/
theorem findCopy_error (h : s.findCopy region ids = .error e) :
    ∃ before d after, ids = before ++ d :: after ∧ (∀ x ∈ before, ¬s.LiveCopy region x) ∧
      s.Unreadable d e := by
  have ends : (.error e : Except ServiceError (Option Uuid)) ≠ .ok none := by simp
  obtain ⟨before, d, after, split, none_before, failed⟩ := (Except.findSomeM?_eq_iff ends).1 h
  have look := s.look_usableCopy region d
  rw [failed] at look
  cases look with
  | unreadable why =>
    exact ⟨before, d, after, split, fun x hx => not_live_of_usableCopy (none_before x hx), why⟩

/-- A search that finds a job has found the first live copy. -/
theorem findCopy_some {k : Uuid} (h : s.findCopy region ids = .ok (some k)) :
    s.FirstLive region ids k := by
  have ends : (.ok (some k) : Except ServiceError (Option Uuid)) ≠ .ok none := by simp
  obtain ⟨before, d, after, split, none_before, found⟩ := (Except.findSomeM?_eq_iff ends).1 h
  have look := s.look_usableCopy region d
  rw [found] at look
  cases look with
  | live live =>
    exact ⟨before, after, split, fun x hx => not_live_of_usableCopy (none_before x hx), live⟩

/-- A search that finds nothing has looked at every job. -/
theorem findCopy_none (h : s.findCopy region ids = .ok none) :
    ∀ d ∈ ids, ¬s.LiveCopy region d :=
  fun d hd => not_live_of_usableCopy (Except.findSomeM?_eq_none.1 h d hd)

end Snapshot

section
variable {σ : Type} (backend : Backend σ) (t : σ) (region : String)

/-- The kind of a job that another one refers to is answered by what the backend shows. -/
theorem Action.run_referredKind_bind (id : Uuid) (f : JobKind → Action β) :
    (Action.referredKind id >>= f).run backend t =
      (Action.of ((backend.snapshot t).referredKind id) >>= f).run backend t := rfl

/-- What is done after a look at a job: the search goes on if it gave no answer. -/
def afterLook (on : Action (Option Uuid)) : Option Uuid → Action (Option Uuid)
  | some k => pure (some k)
  | none => on

/-- To look whether a copy can be used, and to go on if it cannot, takes no call to the store. -/
theorem run_usable (d : Uuid) (copy : JobInfo CopyResult) (on : Action (Option Uuid)) :
    ((do
      let args : CopyArgs ← Action.of copy.args
      if args.targetRegion = region ∧
          deliveryStatus copy.status copy.result.jobError ≠ .failure then
        return some d
      else on) : Action (Option Uuid)).run backend t =
      (Action.of (Snapshot.usable region d copy) >>= afterLook on).run backend t := by
  rw [Snapshot.usable]
  cases (copy.args : Except ServiceError CopyArgs) with
  | error e => rfl
  | ok args =>
    by_cases fits : args.targetRegion = region ∧
        deliveryStatus copy.status copy.result.jobError ≠ .failure
    · rw [Action.run_of_ok_bind, if_pos fits]
      show _ = (Action.of (if _ then _ else _) >>= _).run backend t
      rw [if_pos fits]
      rfl
    · rw [Action.run_of_ok_bind, if_neg fits]
      show _ = (Action.of (if _ then _ else _) >>= _).run backend t
      rw [if_neg fits]
      rfl

/-- A look at a job decides whether the search goes on. -/
theorem run_findCopy_cons (d : Uuid) (rest : List Uuid) :
    (findCopy region (d :: rest)).run backend t =
      (Action.of ((backend.snapshot t).usableCopy region d) >>=
        afterLook (findCopy region rest)).run backend t := by
  rw [findCopy, Action.run_referredKind_bind]
  cases asked : (backend.snapshot t).referredKind d with
  | error e =>
    rw [Snapshot.usableCopy, asked]
    rfl
  | ok kind =>
    rw [Action.run_of_ok_bind, Snapshot.usableCopy_of_kind asked]
    by_cases copies : kind = .awsEc2Copy
    swap
    · rw [if_pos copies, if_pos copies]
      rfl
    rw [if_neg (not_not_intro copies), if_neg (not_not_intro copies), Action.run_jobInfo_bind]
    cases ((backend.snapshot t).jobInfo d : Except ServiceError (JobInfo CopyResult)) with
    | error e => rfl
    | ok copy => exact run_usable backend t region d copy (findCopy region rest)

/-- The search submits nothing, and ends as it does in what the store shows. -/
theorem run_findCopy (ids : List Uuid) :
    (findCopy region ids).run backend t = ((backend.snapshot t).findCopy region ids, t) := by
  induction ids with
  | nil => rfl
  | cons d rest ih =>
    rw [run_findCopy_cons, Snapshot.findCopy, List.findSomeM?_cons]
    cases (backend.snapshot t).usableCopy region d with
    | error e => rfl
    | ok found =>
      cases found with
      | some k => rfl
      | none => exact ih

end

end ImageCompose
