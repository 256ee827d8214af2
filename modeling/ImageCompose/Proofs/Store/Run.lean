import ImageCompose.Proofs.Store.Jobs
import ImageCompose.Service.Action

/-!
# Runs of programs over the store

`StoreProgram.Runs` says how a program over a job store can end, and in what store, if nothing else
happens in between: every question is answered from the store, and every submission is either
carried out under an identifier that no job has yet, or refused. Why it is refused does not matter,
so the relation also covers stores that fail.

Programs are put together from few pieces, and there is a rule that takes a run apart for each of
them. For an `Action` these rules are stated on its run as a whole (`Action.Runs`).
`StoreProgram.runs_run` ties the relation to the store in memory as a backend.
-/

namespace ImageCompose

/-! ## Programs -/

namespace StoreProgram

/-- A program that starts in a store ends with a value and in a store. -/
inductive Runs : StoreProgram α → Store → α → Store → Prop
  | done {a : α} {s : Store} : Runs (.done a) s a s
  /-- The kind of a job is answered. -/
  | jobKind {id : Uuid} {next : Except StoreError JobKind → StoreProgram α} {s s' : Store} {a : α}
      (rest : Runs (next (s.snapshot.jobKind id)) s a s') : Runs (.jobKind id next) s a s'
  | job {id : Uuid} {next : Except StoreError JobRecord → StoreProgram α} {s s' : Store} {a : α}
      (rest : Runs (next (s.snapshot.job id)) s a s') : Runs (.job id next) s a s'
  /-- A job is submitted under a new identifier. -/
  | accepted {new : NewJob} {next : Except StoreError Uuid → StoreProgram α} {s s₁ s' : Store}
      {a : α} {id : Uuid} {now : Timestamp} (fresh : id ∉ s.ids)
      (added : s.enqueue new id now = .ok s₁) (rest : Runs (next (.ok id)) s₁ a s') :
      Runs (.enqueue new next) s a s'
  | refused {new : NewJob} {next : Except StoreError Uuid → StoreProgram α} {s s' : Store} {a : α}
      {cause : StoreError} (rest : Runs (next (.error cause)) s a s') :
      Runs (.enqueue new next) s a s'

/-- A run of a program with a second one after it is a run of each. -/
theorem Runs.bind_inv {p : StoreProgram α} {f : α → StoreProgram β} {s s' : Store} {b : β}
    (h : (p >>= f).Runs s b s') : ∃ a s₁, p.Runs s a s₁ ∧ (f a).Runs s₁ b s' := by
  induction p generalizing s with
  | done a => exact ⟨a, s, .done, h⟩
  | jobKind id next ih =>
    cases h with
    | jobKind rest =>
      obtain ⟨a, s₁, first, second⟩ := ih _ rest
      exact ⟨a, s₁, .jobKind first, second⟩
  | job id next ih =>
    cases h with
    | job rest =>
      obtain ⟨a, s₁, first, second⟩ := ih _ rest
      exact ⟨a, s₁, .job first, second⟩
  | enqueue new next ih =>
    cases h with
    | accepted fresh added rest =>
      obtain ⟨a, s₁, first, second⟩ := ih _ rest
      exact ⟨a, s₁, .accepted fresh added first, second⟩
    | refused rest =>
      obtain ⟨a, s₁, first, second⟩ := ih _ rest
      exact ⟨a, s₁, .refused first, second⟩

/-- A program keeps the jobs of the store in memory and adds others after them. -/
theorem jobs_prefix_run (supply : Nat → Uuid) (now : Timestamp) (p : StoreProgram α) (s : Store) :
    s.jobs <+: (p.run (Store.backend supply now) s).2.jobs := by
  induction p generalizing s with
  | done a => exact List.prefix_refl _
  | jobKind id next ih => exact ih _ s
  | job id next ih => exact ih _ s
  | enqueue new next ih =>
    simp only [run, Store.backend, Store.submit]
    cases added : s.enqueue new (supply s.jobs.length) now with
    | error e => exact ih _ s
    | ok s₁ =>
      have first : s.jobs <+: s₁.jobs := by
        rw [(Store.enqueue_ok added).2]
        exact List.prefix_append _ _
      exact first.trans (ih _ s₁)

/-- If all identifiers are distinct once a program has ended, one that was given before was new. -/
theorem fresh_of_nodup_run {supply : Nat → Uuid} {now : Timestamp} {new : NewJob} {id : Uuid}
    {queued : Timestamp} {s s₁ : Store} (added : s.enqueue new id queued = .ok s₁)
    (p : StoreProgram α)
    (nodup : (p.run (Store.backend supply now) s₁).2.ids.Nodup) : id ∉ s.ids := by
  have later := jobs_prefix_run supply now p s₁
  have known : s₁.ids.Nodup := nodup.sublist (later.map StoredJob.id).sublist
  rw [Store.ids_enqueue added] at known
  exact fun member => (List.nodup_append.1 known).2.2 _ member _ (List.mem_singleton.2 rfl) rfl

/-- Against the store in memory a program runs, as long as the supply gives new identifiers. -/
theorem runs_run (supply : Nat → Uuid) (now : Timestamp) (p : StoreProgram α) (s : Store)
    (nodup : (p.run (Store.backend supply now) s).2.ids.Nodup) :
    p.Runs s (p.run (Store.backend supply now) s).1 (p.run (Store.backend supply now) s).2 := by
  induction p generalizing s with
  | done a => exact .done
  | jobKind id next ih => exact .jobKind (ih _ s nodup)
  | job id next ih => exact .job (ih _ s nodup)
  | enqueue new next ih =>
    simp only [run, Store.backend, Store.submit] at nodup ⊢
    cases added : s.enqueue new (supply s.jobs.length) now with
    | error e =>
      rw [added] at nodup
      exact .refused (ih _ s nodup)
    | ok s₁ =>
      rw [added] at nodup
      exact .accepted (fresh_of_nodup_run added _ nodup) added (ih _ s₁ nodup)

end StoreProgram

/-! ## Actions -/

namespace Action

/-! ### Against any backend -/

section
variable {σ : Type} (backend : Backend σ) (s : σ)

/-- A failure that is known without the store ends an action. -/
theorem run_of_error_bind (e : ServiceError) (f : α → Action β) :
    (Action.of (.error e) >>= f).run backend s = (.error e, s) := rfl

/-- A value that is known without the store is handed on. -/
theorem run_of_ok_bind (a : α) (f : α → Action β) :
    (Action.of (.ok a) >>= f).run backend s = (f a).run backend s := rfl

/-- A question for a kind is answered by what the backend shows. -/
theorem run_composeKind_bind (id : Uuid) (f : JobKind → Action β) :
    (Action.composeKind id >>= f).run backend s =
      (Action.of ((backend.snapshot s).composeKind id) >>= f).run backend s := rfl

/-- A job is read off what the backend shows. -/
theorem run_jobInfo_bind [ResultOf ρ] (id : Uuid) (f : JobInfo ρ → Action β) :
    (Action.jobInfo id >>= f).run backend s =
      (Action.of ((backend.snapshot s).jobInfo id) >>= f).run backend s := rfl

end

/-! ### Over the store in memory -/

/-- An action that starts in a store ends with a value or a failure and in a store. -/
def Runs (action : Action α) (s : Store) (r : Except ServiceError α) (s' : Store) : Prop :=
  (ExceptT.run action).Runs s r s'

namespace Runs

variable {s s' : Store}

/-- An action without calls ends in the store that it starts in. -/
theorem of_inv {result r : Except ServiceError α} (h : (Action.of result).Runs s r s') :
    r = result ∧ s' = s := by
  cases h
  exact ⟨rfl, rfl⟩

/-- An action that ends does so with its value. -/
theorem pure_inv {a : α} {r : Except ServiceError α}
    (h : (pure a : Action α).Runs s r s') : r = .ok a ∧ s' = s :=
  of_inv h

/-- An action that fails does so with its error. -/
theorem throw_inv {e : ServiceError} {r : Except ServiceError α}
    (h : (throw e : Action α).Runs s r s') : r = .error e ∧ s' = s :=
  of_inv h

/-- An action with a second one after it fails in the first, or ends as the second does. -/
theorem bind_inv {x : Action α} {f : α → Action β} {r : Except ServiceError β}
    (h : (x >>= f).Runs s r s') :
    (∃ e, x.Runs s (.error e) s' ∧ r = .error e) ∨
      ∃ a s₁, x.Runs s (.ok a) s₁ ∧ (f a).Runs s₁ r s' := by
  obtain ⟨first, s₁, hx, hf⟩ := StoreProgram.Runs.bind_inv h
  cases first with
  | error e =>
    cases hf
    exact .inl ⟨e, hx, rfl⟩
  | ok a => exact .inr ⟨a, s₁, hx, hf⟩

/-- A job is submitted under a new identifier, or refused, and then nothing changes. -/
theorem enqueue_inv {args : JobArgs} {dependencies : List Uuid} {channel : String}
    {r : Except ServiceError Uuid} (h : (Action.enqueue args dependencies channel).Runs s r s') :
    (∃ id now, r = .ok id ∧ id ∉ s.ids ∧
      s.enqueue ⟨args.kind, args.toJson, dependencies, channel⟩ id now = .ok s') ∨
    (∃ cause, r = .error (.enqueue args.kind cause)) ∧ s' = s := by
  cases h with
  | accepted fresh added rest =>
    cases rest
    exact .inl ⟨_, _, rfl, fresh, added⟩
  | refused rest =>
    cases rest
    exact .inr ⟨⟨_, rfl⟩, rfl⟩

end Runs

/-- An action only asks the store, and ends with what the store answers. -/
def Reads (action : Action α) (answer : Store → Except ServiceError α) : Prop :=
  ∀ s r s', action.Runs s r s' → r = answer s ∧ s' = s

/-- What is known without the store is the answer in every store. -/
theorem reads_of (result : Except ServiceError α) : (Action.of result).Reads fun _ => result :=
  fun _ _ _ h => h.of_inv

/-- The kind of a job that a request names is asked of the store. -/
theorem reads_composeKind (id : Uuid) :
    (Action.composeKind id).Reads fun s => s.snapshot.composeKind id := by
  intro s r s' h
  cases h with
  | jobKind rest =>
    cases rest
    exact ⟨rfl, rfl⟩

/-- So is the kind of a job that a stored job lists. -/
theorem reads_referredKind (id : Uuid) :
    (Action.referredKind id).Reads fun s => s.snapshot.referredKind id := by
  intro s r s' h
  cases h with
  | jobKind rest =>
    cases rest
    exact ⟨rfl, rfl⟩

/-- A job is read off the store. -/
theorem reads_jobInfo (ρ : Type) [ResultOf ρ] (id : Uuid) :
    (Action.jobInfo id : Action (JobInfo ρ)).Reads fun s => s.snapshot.jobInfo id := by
  intro s r s' h
  cases h with
  | job rest =>
    cases rest
    exact ⟨rfl, rfl⟩

/-- After a question, an action fails with the answer or goes on with it, in the same store. -/
theorem Reads.bind_inv {x : Action α} {answer : Store → Except ServiceError α}
    (reads : x.Reads answer) {f : α → Action β} {s s' : Store} {r : Except ServiceError β}
    (h : (x >>= f).Runs s r s') :
    (∃ e, answer s = .error e ∧ r = .error e ∧ s' = s) ∨
      ∃ a, answer s = .ok a ∧ (f a).Runs s r s' := by
  rcases h.bind_inv with ⟨e, first, rfl⟩ | ⟨a, s₁, first, rest⟩
  · obtain ⟨failed, rfl⟩ := reads _ _ _ first
    exact .inl ⟨e, failed.symm, rfl, rfl⟩
  · obtain ⟨answered, rfl⟩ := reads _ _ _ first
    exact .inr ⟨a, answered.symm, rest⟩

end Action

end ImageCompose
