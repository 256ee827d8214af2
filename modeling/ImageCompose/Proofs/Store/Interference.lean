import ImageCompose.Proofs.Store.Progress

/-!
# Programs among others

The calls of a program to the job store are single steps, and between two of them other requests
submit jobs and workers work. `StoreProgram.Safe` says of a program, a store that it starts in, and
what may happen to the store meanwhile (`Environment`): whatever it submits, it may submit then, and
what it ends with is as it should be. The rules follow the pieces that programs are put together
from.

What is safe among others is used in two ways. A program that runs alone keeps what its submissions
keep (`Safe.runs`), and one that takes turns with others stays safe at each of its calls
(`StoreProgram.Calls`, `Safe.call`) and at each change that others make (`Safe.mono`).

What a program submits may also be known without the store, whatever that answers
(`StoreProgram.SubmitsOnly`). Such a program is safe in any surroundings (`SubmitsOnly.safe`).
-/

namespace ImageCompose

/-- What may happen to a store between two calls of a program. -/
structure Environment where
  changes : Store → Store → Prop
  refl (s : Store) : changes s s
  trans {s s' s'' : Store} : changes s s' → changes s' s'' → changes s s''
  /-- Nobody takes back what happened to a job. -/
  becomes {s s' : Store} : changes s s' → s.Becomes s'

namespace Environment

/-- Nothing else happens. -/
def idle : Environment where
  changes := Eq
  refl _ := rfl
  trans := Eq.trans
  becomes := by
    rintro s _ rfl
    exact .refl s

/-- Others submit jobs and workers work. -/
def busy : Environment where
  changes := Store.Becomes
  refl := .refl
  trans := .trans
  becomes h := h

end Environment

/-! ## Programs -/

namespace StoreProgram

/-- Wherever a program goes on from a store, it submits only what may be submitted then, and ends as
it should. -/
inductive Safe (env : Environment) (may : Store → NewJob → Prop) (post : α → Store → Prop) :
    StoreProgram α → Store → Prop
  | done {a : α} {s : Store} (ends : post a s) : Safe env may post (.done a) s
  /-- Whenever the kind of a job is asked for, the program is safe with the answer. -/
  | jobKind {id : Uuid} {next : Except StoreError JobKind → StoreProgram α} {s : Store}
      (rest : ∀ s', env.changes s s' → Safe env may post (next (s'.snapshot.jobKind id)) s') :
      Safe env may post (.jobKind id next) s
  | job {id : Uuid} {next : Except StoreError JobRecord → StoreProgram α} {s : Store}
      (rest : ∀ s', env.changes s s' → Safe env may post (next (s'.snapshot.job id)) s') :
      Safe env may post (.job id next) s
  /-- Whenever a job is submitted, it may be, and the program is safe if it is accepted and if it is
  refused. -/
  | enqueue {new : NewJob} {next : Except StoreError Uuid → StoreProgram α} {s : Store}
      (allowed : ∀ s', env.changes s s' → may s' new)
      (accepted : ∀ s', env.changes s s' → ∀ id now s'', id ∉ s'.ids →
        s'.enqueue new id now = .ok s'' → Safe env may post (next (.ok id)) s'')
      (refused : ∀ s', env.changes s s' → ∀ cause, Safe env may post (next (.error cause)) s') :
      Safe env may post (.enqueue new next) s

/-- One call of a program: what is left of it, the store afterwards, and what it submitted. -/
inductive Calls : StoreProgram α → Store → StoreProgram α → Store → Option Uuid → Prop
  | jobKind {id : Uuid} {next : Except StoreError JobKind → StoreProgram α} {s : Store} :
      Calls (.jobKind id next) s (next (s.snapshot.jobKind id)) s none
  | job {id : Uuid} {next : Except StoreError JobRecord → StoreProgram α} {s : Store} :
      Calls (.job id next) s (next (s.snapshot.job id)) s none
  /-- A job is submitted under a new identifier. -/
  | accepted {new : NewJob} {next : Except StoreError Uuid → StoreProgram α} {s s' : Store}
      (id : Uuid) (now : Timestamp) (fresh : id ∉ s.ids) (added : s.enqueue new id now = .ok s') :
      Calls (.enqueue new next) s (next (.ok id)) s' (some id)
  | refused {new : NewJob} {next : Except StoreError Uuid → StoreProgram α} {s : Store}
      (cause : StoreError) : Calls (.enqueue new next) s (next (.error cause)) s none

variable {env : Environment} {may : Store → NewJob → Prop} {post : α → Store → Prop}
  {p : StoreProgram α} {s s' : Store}

namespace Safe

/-- A program stays safe while others act, if what it may end with does not depend on them. -/
theorem mono (h : p.Safe env may post s) (later : env.changes s s')
    (stable : ∀ {a s s'}, post a s → env.changes s s' → post a s') : p.Safe env may post s' := by
  cases h with
  | done ends => exact .done (stable ends later)
  | jobKind rest => exact .jobKind fun t change => rest t (env.trans later change)
  | job rest => exact .job fun t change => rest t (env.trans later change)
  | enqueue allowed accepted refused =>
    exact .enqueue (fun t change => allowed t (env.trans later change))
      (fun t change => accepted t (env.trans later change))
      fun t change => refused t (env.trans later change)

/-- A safe program may end with less. -/
theorem weaken (h : p.Safe env may post s) {post' : α → Store → Prop}
    (implies : ∀ a s, post a s → post' a s) : p.Safe env may post' s := by
  induction h with
  | done ends => exact .done (implies _ _ ends)
  | jobKind _ ih => exact .jobKind ih
  | job _ ih => exact .job ih
  | enqueue allowed _ _ accepted refused => exact .enqueue allowed accepted refused

/-- Two programs in turn are safe if the second is wherever the first ends. -/
theorem bind {β : Type} {f : α → StoreProgram β} {post : β → Store → Prop}
    (h : p.Safe env may (fun a s => (f a).Safe env may post s) s) :
    (p >>= f).Safe env may post s := by
  induction h with
  | done ends => exact ends
  | jobKind _ ih => exact .jobKind ih
  | job _ ih => exact .job ih
  | enqueue allowed _ _ accepted refused => exact .enqueue allowed accepted refused

/-- The store that a program ends in is a later one. -/
theorem later (h : p.Safe env may post s) :
    p.Safe env may (fun a s' => s.Becomes s' ∧ post a s') s := by
  have from_before : ∀ {s₀ : Store}, s₀.Becomes s →
      p.Safe env may (fun a s' => s₀.Becomes s' ∧ post a s') s := by
    intro s₀ before
    induction h with
    | done ends => exact .done ⟨before, ends⟩
    | jobKind _ ih => exact .jobKind fun t change => ih t change (before.trans (env.becomes change))
    | job _ ih => exact .job fun t change => ih t change (before.trans (env.becomes change))
    | enqueue allowed _ _ accepted refused =>
      refine .enqueue allowed (fun t change id now t' fresh added => ?_) fun t change cause =>
        refused t change cause (before.trans (env.becomes change))
      exact accepted t change id now t' fresh added
        ((before.trans (env.becomes change)).trans (.enqueue fresh added))
  exact from_before (.refl s)

/-- A safe program that runs alone ends as it should, and keeps what its submissions keep. -/
theorem runs (h : p.Safe env may post s) {a : α} (run : p.Runs s a s') (Inv : Store → Prop)
    (inv : Inv s)
    (kept : ∀ {s s' new id now}, Inv s → may s new → id ∉ s.ids →
      s.enqueue new id now = .ok s' → Inv s') : Inv s' ∧ post a s' := by
  induction run with
  | done =>
    cases h with
    | done ends => exact ⟨inv, ends⟩
  | jobKind _ ih =>
    cases h with
    | jobKind rest => exact ih (rest _ (env.refl _)) inv
  | job _ ih =>
    cases h with
    | job rest => exact ih (rest _ (env.refl _)) inv
  | accepted fresh added _ ih =>
    cases h with
    | enqueue allowed accepted _ =>
      exact ih (accepted _ (env.refl _) _ _ _ fresh added)
        (kept inv (allowed _ (env.refl _)) fresh added)
  | refused _ ih =>
    cases h with
    | enqueue _ _ refused => exact ih (refused _ (env.refl _) _) inv

/-- A safe program stays safe at a call, which changes nothing or submits what may be submitted. -/
theorem call (h : p.Safe env may post s) {p' : StoreProgram α} {submitted : Option Uuid}
    (call : p.Calls s p' s' submitted) :
    p'.Safe env may post s' ∧ (submitted = none ∧ s' = s ∨
      ∃ new id now, submitted = some id ∧ may s new ∧ id ∉ s.ids ∧
        s.enqueue new id now = .ok s') := by
  cases call with
  | jobKind =>
    cases h with
    | jobKind rest => exact ⟨rest _ (env.refl _), .inl ⟨rfl, rfl⟩⟩
  | job =>
    cases h with
    | job rest => exact ⟨rest _ (env.refl _), .inl ⟨rfl, rfl⟩⟩
  | accepted id now fresh added =>
    cases h with
    | enqueue allowed accepted _ =>
      exact ⟨accepted _ (env.refl _) id now _ fresh added,
        .inr ⟨_, _, _, rfl, allowed _ (env.refl _), fresh, added⟩⟩
  | refused cause =>
    cases h with
    | enqueue _ _ refused => exact ⟨refused _ (env.refl _) cause, .inl ⟨rfl, rfl⟩⟩

end Safe

/-- Whatever the store answers, a program submits only jobs of a certain kind. -/
def SubmitsOnly (may : NewJob → Prop) : StoreProgram α → Prop
  | .done _ => True
  | .jobKind _ next => ∀ answer, (next answer).SubmitsOnly may
  | .job _ next => ∀ answer, (next answer).SubmitsOnly may
  | .enqueue new next => may new ∧ ∀ answer, (next answer).SubmitsOnly may

namespace SubmitsOnly

variable {may : NewJob → Prop}

/-- Two programs in turn submit jobs of the kind if each of them does. -/
theorem bind {f : α → StoreProgram β} (h : p.SubmitsOnly may)
    (rest : ∀ a, (f a).SubmitsOnly may) : (p >>= f).SubmitsOnly may := by
  induction p with
  | done a => exact rest a
  | jobKind id next ih => exact fun answer => ih answer (h answer)
  | job id next ih => exact fun answer => ih answer (h answer)
  | enqueue new next ih => exact ⟨h.1, fun answer => ih answer (h.2 answer)⟩

/-- What a program submits may also be said to be of a wider kind. -/
theorem mono (h : p.SubmitsOnly may) {may' : NewJob → Prop} (wider : ∀ new, may new → may' new) :
    p.SubmitsOnly may' := by
  induction p with
  | done a => exact trivial
  | jobKind id next ih => exact fun answer => ih answer (h answer)
  | job id next ih => exact fun answer => ih answer (h answer)
  | enqueue new next ih => exact ⟨wider new h.1, fun answer => ih answer (h.2 answer)⟩

/-- A program that submits jobs of the kind is safe whatever happens in between. -/
theorem safe (h : p.SubmitsOnly may) :
    p.Safe env (fun _ new => may new) (fun _ _ => True) s := by
  induction p generalizing s with
  | done a => exact .done trivial
  | jobKind id next ih => exact .jobKind fun s' _ => ih _ (h _)
  | job id next ih => exact .job fun s' _ => ih _ (h _)
  | enqueue new next ih =>
    exact .enqueue (fun _ _ => h.1) (fun _ _ _ _ _ _ _ => ih _ (h.2 _)) fun _ _ _ => ih _ (h.2 _)

/-- A call changes nothing or submits a job of the kind, and no others are submitted later. -/
theorem call (h : p.SubmitsOnly may) {p' : StoreProgram α} {submitted : Option Uuid}
    (call : p.Calls s p' s' submitted) : p'.SubmitsOnly may ∧
      (s' = s ∨ ∃ new id now, may new ∧ s.enqueue new id now = .ok s') := by
  cases call with
  | jobKind => exact ⟨h _, .inl rfl⟩
  | job => exact ⟨h _, .inl rfl⟩
  | accepted id now _ added => exact ⟨h.2 _, .inr ⟨_, id, now, h.1, added⟩⟩
  | refused cause => exact ⟨h.2 _, .inl rfl⟩

end SubmitsOnly

end StoreProgram

/-! ## Actions -/

namespace Action

/-- An action submits only what may be submitted, and ends as it should if it does not fail. -/
def Safe (env : Environment) (may : Store → NewJob → Prop) (post : α → Store → Prop)
    (action : Action α) (s : Store) : Prop :=
  (ExceptT.run action).Safe env may (fun r s => ∀ a, r = .ok a → post a s) s

variable {env : Environment} {may : Store → NewJob → Prop} {post : α → Store → Prop}
  {action : Action α} {s s' : Store}

namespace Safe

/-- What is known without the store may end an action if it fits. -/
theorem of {result : Except ServiceError α} (ends : ∀ a, result = .ok a → post a s) :
    (Action.of result).Safe env may post s :=
  StoreProgram.Safe.done ends

/-- An action may end with a value that fits. -/
theorem pure {a : α} (ends : post a s) : (Pure.pure a : Action α).Safe env may post s := by
  refine .of fun b h => ?_
  cases h
  exact ends

/-- An action may fail at any time. -/
theorem throw (e : ServiceError) : (MonadExcept.throw e : Action α).Safe env may post s :=
  .of fun _ h => nomatch h

/-- A safe action may end with less. -/
theorem weaken (h : action.Safe env may post s) {post' : α → Store → Prop}
    (implies : ∀ a s, post a s → post' a s) : action.Safe env may post' s :=
  StoreProgram.Safe.weaken h fun _ s ends a ok => implies a s (ends a ok)

/-- Two actions in turn are safe if the second is wherever the first succeeds. -/
theorem bind {β : Type} {f : α → Action β} {post : β → Store → Prop}
    (h : action.Safe env may (fun a s => (f a).Safe env may post s) s) :
    (action >>= f).Safe env may post s := by
  refine StoreProgram.Safe.bind (StoreProgram.Safe.weaken h fun r s next => ?_)
  cases r with
  | error e => exact .done fun _ h => nomatch h
  | ok a => exact next a rfl

/-- The store that an action ends in is a later one. -/
theorem later (h : action.Safe env may post s) :
    action.Safe env may (fun a s' => s.Becomes s' ∧ post a s') s :=
  (StoreProgram.Safe.later h).weaken fun _ _ ends a ok => ⟨ends.1, ends.2 a ok⟩

/-- The kind of a job that a request names is that of some store at the time of the call. -/
theorem composeKind {id : Uuid} {post : JobKind → Store → Prop}
    (ends : ∀ s', env.changes s s' → ∀ kind, s'.snapshot.composeKind id = .ok kind →
      post kind s') : (Action.composeKind id).Safe env may post s :=
  StoreProgram.Safe.jobKind fun s' change => .done (ends s' change)

/-- So is the kind of a job that a stored job lists. -/
theorem referredKind {id : Uuid} {post : JobKind → Store → Prop}
    (ends : ∀ s', env.changes s s' → ∀ kind, s'.snapshot.referredKind id = .ok kind →
      post kind s') : (Action.referredKind id).Safe env may post s :=
  StoreProgram.Safe.jobKind fun s' change => .done (ends s' change)

/-- A job is read as it is in some store at the time of the call. -/
theorem jobInfo {ρ : Type} [ResultOf ρ] {id : Uuid} {post : JobInfo ρ → Store → Prop}
    (ends : ∀ s', env.changes s s' → ∀ job, s'.snapshot.jobInfo id = .ok job → post job s') :
    (Action.jobInfo id : Action (JobInfo ρ)).Safe env may post s :=
  StoreProgram.Safe.job fun s' change => .done (ends s' change)

/-- A submission has to be allowed in whatever store it comes to. -/
theorem enqueue {args : JobArgs} {dependencies : List Uuid} {channel : String}
    {post : Uuid → Store → Prop}
    (allowed : ∀ s', env.changes s s' →
      may s' ⟨args.kind, args.toJson, dependencies, channel⟩)
    (ends : ∀ s', env.changes s s' → ∀ id now s'', id ∉ s'.ids →
      s'.enqueue ⟨args.kind, args.toJson, dependencies, channel⟩ id now = .ok s'' → post id s'') :
    (Action.enqueue args dependencies channel).Safe env may post s := by
  refine StoreProgram.Safe.enqueue allowed (fun s' change id now s'' fresh added => .done ?_)
    fun _ _ _ => .done fun _ h => nomatch h
  intro _ h
  cases h
  exact ends s' change id now s'' fresh added

/-- A safe action that runs alone ends as it should, and keeps what its submissions keep. -/
theorem runs (h : action.Safe env may post s) {r : Except ServiceError α}
    (run : action.Runs s r s') (Inv : Store → Prop) (inv : Inv s)
    (kept : ∀ {s s' new id now}, Inv s → may s new → id ∉ s.ids →
      s.enqueue new id now = .ok s' → Inv s') : Inv s' ∧ ∀ a, r = .ok a → post a s' :=
  StoreProgram.Safe.runs h run Inv inv kept

/-- A safe action that runs alone ends as it should. -/
theorem ends (h : action.Safe env may post s) {a : α} (run : action.Runs s (.ok a) s') :
    post a s' :=
  (h.runs run (fun _ => True) trivial fun _ _ _ _ => trivial).2 a rfl

end Safe

/-- Whatever the store answers, an action submits only jobs of a certain kind. -/
def SubmitsOnly (may : NewJob → Prop) (action : Action α) : Prop :=
  (ExceptT.run action).SubmitsOnly may

namespace SubmitsOnly

variable {may : NewJob → Prop}

/-- What is known without the store submits nothing. -/
theorem of (result : Except ServiceError α) : (Action.of result).SubmitsOnly may := trivial

/-- An action that ends submits nothing. -/
theorem pure (a : α) : (Pure.pure a : Action α).SubmitsOnly may := trivial

/-- An action that fails submits nothing. -/
theorem throw (e : ServiceError) : (MonadExcept.throw e : Action α).SubmitsOnly may := trivial

/-- A question for the kind of a job that a request names submits nothing. -/
theorem composeKind (id : Uuid) : (Action.composeKind id).SubmitsOnly may := fun _ => trivial

/-- Nor does one for the kind of a job that a stored job lists. -/
theorem referredKind (id : Uuid) : (Action.referredKind id).SubmitsOnly may := fun _ => trivial

/-- Reading a job submits nothing. -/
theorem jobInfo [ResultOf ρ] (id : Uuid) :
    (Action.jobInfo id : Action (JobInfo ρ)).SubmitsOnly may := fun _ => trivial

/-- A submission has to be of the kind. -/
theorem enqueue {args : JobArgs} {dependencies : List Uuid} {channel : String}
    (allowed : may ⟨args.kind, args.toJson, dependencies, channel⟩) :
    (Action.enqueue args dependencies channel).SubmitsOnly may :=
  ⟨allowed, fun _ => trivial⟩

/-- Two actions in turn submit jobs of the kind if each of them does. -/
theorem bind {f : α → Action β} (h : action.SubmitsOnly may)
    (rest : ∀ a, (f a).SubmitsOnly may) : (action >>= f).SubmitsOnly may := by
  refine StoreProgram.SubmitsOnly.bind h fun r => ?_
  cases r with
  | error e => exact trivial
  | ok a => exact rest a

/-- What follows a value that is known without the store only matters for that value. -/
theorem of_bind {result : Except ServiceError α} {f : α → Action β}
    (rest : ∀ a, result = .ok a → (f a).SubmitsOnly may) :
    (Action.of result >>= f).SubmitsOnly may := by
  cases result with
  | error e => exact trivial
  | ok a => exact rest a rfl

/-- What follows a failure does not matter. -/
theorem throw_bind (e : ServiceError) (f : α → Action β) :
    ((MonadExcept.throw e : Action α) >>= f).SubmitsOnly may := trivial

/-- What an action submits may also be said to be of a wider kind. -/
theorem mono (h : action.SubmitsOnly may) {may' : NewJob → Prop}
    (wider : ∀ new, may new → may' new) : action.SubmitsOnly may' :=
  StoreProgram.SubmitsOnly.mono h wider

/-- An action that submits jobs of the kind is safe whatever happens in between. -/
theorem safe (h : action.SubmitsOnly may) :
    action.Safe env (fun _ new => may new) (fun _ _ => True) s :=
  (StoreProgram.SubmitsOnly.safe h).weaken fun _ _ _ _ _ => trivial

end SubmitsOnly

end Action

end ImageCompose
