import ImageCompose.Store.Memory

/-!
# Programs over a job store

A `StoreProgram` is what a service does with a job store: a sequence of single calls, each of which
may depend on the answers to those before. As the calls are data, one program can be run against any
`Backend`, stopped between two calls, or interleaved with others.
-/

namespace ImageCompose

/-- A sequence of calls to a job store that ends in a value. -/
inductive StoreProgram (α : Type) where
  | done (value : α)
  /-- Asks for the kind of a job. -/
  | jobKind (id : Uuid) (next : Except StoreError JobKind → StoreProgram α)
  | job (id : Uuid) (next : Except StoreError JobRecord → StoreProgram α)
  | enqueue (new : NewJob) (next : Except StoreError Uuid → StoreProgram α)

/-- A job store that programs are run against. -/
structure Backend (σ : Type) where
  /-- What the store answers in a state. -/
  snapshot : σ → Snapshot
  /-- Submits a job: its identifier or an error, and the state afterwards. -/
  enqueue : NewJob → σ → Except StoreError Uuid × σ

namespace StoreProgram

/-- Goes on with a second program. -/
def bind : StoreProgram α → (α → StoreProgram β) → StoreProgram β
  | .done a, f => f a
  | .jobKind id next, f => .jobKind id fun answer => (next answer).bind f
  | .job id next, f => .job id fun answer => (next answer).bind f
  | .enqueue new next, f => .enqueue new fun answer => (next answer).bind f

instance : Monad StoreProgram where
  pure := .done
  bind := bind

/-- Runs a program from a state to its value and the state afterwards. -/
def run (backend : Backend σ) : StoreProgram α → σ → α × σ
  | .done a, s => (a, s)
  | .jobKind id next, s => (next ((backend.snapshot s).jobKind id)).run backend s
  | .job id next, s => (next ((backend.snapshot s).job id)).run backend s
  | .enqueue new next, s =>
    let (answer, s) := backend.enqueue new s
    (next answer).run backend s

/-- A program with a second one after it runs as the two in turn. -/
@[simp] theorem run_bind (backend : Backend σ) (p : StoreProgram α) (f : α → StoreProgram β)
    (s : σ) :
    (p >>= f).run backend s = (f (p.run backend s).1).run backend (p.run backend s).2 := by
  induction p generalizing s with
  | done a => rfl
  | jobKind id next ih => exact ih _ s
  | job id next ih => exact ih _ s
  | enqueue new next ih => exact ih _ _

end StoreProgram

namespace Store

/-- Submits a job under the next of a supply of identifiers. -/
def submit (supply : Nat → Uuid) (now : Timestamp) (new : NewJob) (s : Store) :
    Except StoreError Uuid × Store :=
  let id := supply s.jobs.length
  match s.enqueue new id now with
  | .ok s' => (.ok id, s')
  | .error e => (.error e, s)

/-- The store in memory as a backend. -/
def backend (supply : Nat → Uuid) (now : Timestamp) : Backend Store :=
  ⟨snapshot, submit supply now⟩

end Store

end ImageCompose
