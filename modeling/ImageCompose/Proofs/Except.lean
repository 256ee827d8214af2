import Mathlib.Data.List.Forall2

/-!
# Steps that can fail

What the result of steps in turn says about each of them, for steps that end in a value or a
failure, and how two runs are compared step by step (`Alike`).
-/

namespace ImageCompose

variable {ε ε' α β : Type}

@[simp] theorem Except.mapError_ok (f : ε → ε') (a : α) :
    (Except.ok a).mapError f = .ok a := rfl

@[simp] theorem Except.mapError_error (f : ε → ε') (e : ε) :
    (Except.error e : Except ε α).mapError f = .error (f e) := rfl

/-- Telling an error in other words makes no failure a success. -/
theorem Except.mapError_eq_ok {f : ε → ε'} {x : Except ε α} {a : α} :
    x.mapError f = .ok a ↔ x = .ok a := by
  cases x <;> simp

/-- Two steps in turn succeed if both do. -/
theorem Except.bind_ok {x : Except ε α} {f : α → Except ε β} {b : β}
    (h : (x >>= f) = .ok b) : ∃ a, x = .ok a ∧ f a = .ok b := by
  cases x with
  | error e => cases h
  | ok a => exact ⟨a, rfl, h⟩

/-- Two steps in turn fail as the first, or as the second after it. -/
theorem Except.bind_error {x : Except ε α} {f : α → Except ε β} {e : ε}
    (h : (x >>= f) = .error e) : x = .error e ∨ ∃ a, x = .ok a ∧ f a = .error e := by
  cases x with
  | error e' =>
    cases h
    exact .inl rfl
  | ok a => exact .inr ⟨a, rfl, h⟩

/-- If a step is taken for each item of a list, each of them succeeds. -/
theorem Except.mapM_ok {f : α → Except ε β} {as : List α} {bs : List β}
    (h : as.mapM f = .ok bs) : List.Forall₂ (fun a b => f a = .ok b) as bs := by
  induction as generalizing bs with
  | nil =>
    cases h
    exact .nil
  | cons a rest ih =>
    rw [List.mapM_cons] at h
    obtain ⟨b, hb, h⟩ := Except.bind_ok h
    obtain ⟨bs, hbs, h⟩ := Except.bind_ok h
    cases h
    exact .cons hb (ih hbs)

/-- Steps that succeed for each item of a list succeed in turn. -/
theorem Except.mapM_eq_ok {f : α → Except ε β} {as : List α} {bs : List β} :
    as.mapM f = .ok bs ↔ List.Forall₂ (fun a b => f a = .ok b) as bs := by
  refine ⟨Except.mapM_ok, fun each => ?_⟩
  induction each with
  | nil => rfl
  | cons first _ ih =>
    rw [List.mapM_cons, first, ih]
    rfl

/-- What steps for the items of a list give is what a step for some item gives. -/
theorem Except.exists_of_mem_mapM {f : α → Except ε β} {as : List α} {bs : List β}
    (h : as.mapM f = .ok bs) {b : β} (member : b ∈ bs) : ∃ a ∈ as, f a = .ok b := by
  have each := Except.mapM_ok h
  clear h
  induction each with
  | nil => cases member
  | cons first _ ih =>
    rcases List.mem_cons.1 member with rfl | member
    · exact ⟨_, List.mem_cons_self .., first⟩
    · obtain ⟨a, ha, told⟩ := ih member
      exact ⟨a, List.mem_cons_of_mem _ ha, told⟩

/-- What a step gives for an item of a list stands at the place of the item. -/
theorem Except.getElem?_of_each {f : α → Except ε β} {as : List α} {bs : List β}
    (each : List.Forall₂ (fun a b => f a = .ok b) as bs) (k : Nat) :
    as[k]?.map f = bs[k]?.map .ok := by
  induction each generalizing k with
  | nil => simp
  | cons first _ ih =>
    cases k with
    | zero => simp [first]
    | succ k => simpa using ih k

/-- Where two lists have the same item, a step gives the same for both. -/
theorem Except.getElem?_eq_of_each {f : α → Except ε β} {as as' : List α}
    {bs bs' : List β} (each : List.Forall₂ (fun a b => f a = .ok b) as bs)
    (each' : List.Forall₂ (fun a b => f a = .ok b) as' bs') {k k' : Nat}
    (same : as'[k']? = as[k]?) : bs'[k']? = bs[k]? := by
  have told : bs'[k']?.map (Except.ok : β → Except ε β) = bs[k]?.map .ok := by
    rw [← getElem?_of_each each, ← getElem?_of_each each', same]
  exact Option.map_injective (fun _ _ => Except.ok.inj) told

/-- A step for each item of a list either succeeds for all, or fails as it does for some item. -/
theorem Except.mapM_cases {f : α → Except ε β} {as : List α} {answer : Except ε (List β)}
    (h : as.mapM f = answer) :
    (∃ bs, answer = .ok bs ∧ List.Forall₂ (fun a b => f a = .ok b) as bs) ∨
      ∃ e, answer = .error e ∧ ∃ a ∈ as, f a = .error e := by
  subst h
  induction as with
  | nil => exact .inl ⟨[], rfl, .nil⟩
  | cons a rest ih =>
    rw [List.mapM_cons]
    cases ha : f a with
    | error e => exact .inr ⟨e, rfl, a, List.mem_cons_self .., ha⟩
    | ok b =>
      rcases ih with ⟨bs, hbs, each⟩ | ⟨e, failed, a', ha', he⟩
      · exact .inl ⟨b :: bs, by rw [hbs]; rfl, .cons ha each⟩
      · exact .inr ⟨e, by rw [failed]; rfl, a', List.mem_cons_of_mem _ ha', he⟩

/-- A step for each item of a list fails as it does for some item. -/
theorem Except.mapM_error {f : α → Except ε β} {as : List α} {e : ε}
    (h : as.mapM f = .error e) : ∃ a ∈ as, f a = .error e := by
  rcases Except.mapM_cases h with ⟨_, impossible, -⟩ | ⟨_, same, failed⟩
  · cases impossible
  · cases same
    exact failed

/-- Steps for the items of a list fail as the first that fails. -/
theorem Except.mapM_eq_error {f : α → Except ε β} {as : List α} {e : ε} :
    as.mapM f = .error e ↔ ∃ before a after, as = before ++ a :: after ∧
      (∀ x ∈ before, ∃ b, f x = .ok b) ∧ f a = .error e := by
  constructor
  · intro h
    induction as with
    | nil => cases h
    | cons a rest ih =>
      rw [List.mapM_cons] at h
      rcases Except.bind_error h with failed | ⟨b, first, h⟩
      · exact ⟨[], a, rest, rfl, nofun, failed⟩
      · rcases Except.bind_error h with failed | ⟨bs, -, h⟩
        · obtain ⟨before, x, after, rfl, succeed, failed⟩ := ih failed
          exact ⟨a :: before, x, after, rfl, List.forall_mem_cons.2 ⟨⟨b, first⟩, succeed⟩, failed⟩
        · cases h
  · rintro ⟨before, a, after, rfl, succeed, failed⟩
    induction before with
    | nil =>
      rw [List.nil_append, List.mapM_cons, failed]
      rfl
    | cons x before ih =>
      obtain ⟨b, first⟩ := succeed x (List.mem_cons_self ..)
      rw [List.cons_append, List.mapM_cons, first, ih fun y hy => succeed y (.tail _ hy)]
      rfl

/-- If a step succeeds for each item of a list, so do all in turn. -/
theorem Except.mapM_ok_of_forall {f : α → Except ε β} {as : List α}
    (h : ∀ a ∈ as, ∃ b, f a = .ok b) : ∃ bs, as.mapM f = .ok bs := by
  rcases Except.mapM_cases (rfl : as.mapM f = _) with ⟨bs, hbs, -⟩ | ⟨e, -, a, ha, failed⟩
  · exact ⟨bs, hbs⟩
  · obtain ⟨b, hb⟩ := h a ha
    rw [hb] at failed
    cases failed

/-- Steps that are the same for each item of a list are the same in turn. -/
theorem Except.mapM_congr {f g : α → Except ε β} {as : List α} (h : ∀ a ∈ as, f a = g a) :
    as.mapM f = as.mapM g := by
  induction as with
  | nil => rfl
  | cons a rest ih =>
    rw [List.mapM_cons, List.mapM_cons, h a (List.mem_cons_self ..),
      ih fun x hx => h x (List.mem_cons_of_mem _ hx)]

/-- What two steps give for the items of a list is related if it is for each item. -/
theorem Except.mapM_both {γ : Type} {f : γ → Except ε α} {g : γ → Except ε' β} {cs : List γ}
    {as : List α} {bs : List β} (h : cs.mapM f = .ok as) (h' : cs.mapM g = .ok bs)
    {R : α → β → Prop} (each : ∀ c a b, f c = .ok a → g c = .ok b → R a b) :
    List.Forall₂ R as bs := by
  have first := Except.mapM_ok h
  have second := Except.mapM_ok h'
  clear h h'
  induction first generalizing bs with
  | nil =>
    cases second
    exact .nil
  | cons ha _ ih =>
    cases second with
    | cons hb rest => exact .cons (each _ _ _ ha hb) (ih rest)

/-- A step for each item of a list, until one of them gives an answer. If the steps for the items
before some item give none, they do not matter. -/
theorem Except.findSomeM?_append_of_none {f : α → Except ε (Option β)} {before : List α}
    (none_before : ∀ a ∈ before, f a = .ok none) (rest : List α) :
    (before ++ rest).findSomeM? f = rest.findSomeM? f := by
  induction before with
  | nil => rfl
  | cons a before ih =>
    rw [List.cons_append, List.findSomeM?_cons, none_before a (List.mem_cons_self ..)]
    exact ih fun x hx => none_before x (List.mem_cons_of_mem _ hx)

/-- A step that fails or gives an answer ends the search. -/
theorem Except.findSomeM?_cons_of_told {f : α → Except ε (Option β)} {a : α}
    {answer : Except ε (Option β)} (told : f a = answer) (ends : answer ≠ .ok none)
    (rest : List α) : (a :: rest).findSomeM? f = answer := by
  rw [List.findSomeM?_cons, told]
  rcases answer with e | ⟨_ | b⟩
  · rfl
  · exact absurd rfl ends
  · rfl

/-- There is no answer if no step gives one. -/
theorem Except.findSomeM?_eq_none {f : α → Except ε (Option β)} {as : List α} :
    as.findSomeM? f = .ok none ↔ ∀ a ∈ as, f a = .ok none := by
  constructor
  · intro h
    induction as with
    | nil => exact nofun
    | cons a rest ih =>
      by_cases first : f a = .ok none
      · rw [List.findSomeM?_cons, first] at h
        exact List.forall_mem_cons.2 ⟨first, ih h⟩
      · rw [Except.findSomeM?_cons_of_told rfl first] at h
        exact absurd h first
  · intro each
    have all := Except.findSomeM?_append_of_none each []
    rwa [List.append_nil] at all

/-- The first step that fails or gives an answer decides. -/
theorem Except.findSomeM?_eq_iff {f : α → Except ε (Option β)} {as : List α}
    {answer : Except ε (Option β)} (ends : answer ≠ .ok none) :
    as.findSomeM? f = answer ↔ ∃ before a after, as = before ++ a :: after ∧
      (∀ x ∈ before, f x = .ok none) ∧ f a = answer := by
  constructor
  · intro h
    induction as with
    | nil => exact absurd h.symm ends
    | cons a rest ih =>
      by_cases first : f a = .ok none
      · rw [List.findSomeM?_cons, first] at h
        obtain ⟨before, x, after, rfl, none_before, told⟩ := ih h
        exact ⟨a :: before, x, after, rfl, List.forall_mem_cons.2 ⟨first, none_before⟩, told⟩
      · rw [Except.findSomeM?_cons_of_told rfl first] at h
        exact ⟨[], a, rest, rfl, nofun, h⟩
  · rintro ⟨before, a, after, rfl, none_before, told⟩
    rw [Except.findSomeM?_append_of_none none_before]
    exact Except.findSomeM?_cons_of_told told ends after

/-- Two steps end alike: they fail with the same error, or succeed with related values. -/
inductive Alike (R : α → β → Prop) : Except ε α → Except ε β → Prop
  | error (e : ε) : Alike R (.error e) (.error e)
  | ok {a : α} {b : β} (related : R a b) : Alike R (.ok a) (.ok b)

namespace Alike

variable {α' β' γ : Type} {R : α → β → Prop} {x : Except ε α} {y : Except ε β}

/-- A step ends like itself. -/
theorem refl (x : Except ε α) : Alike Eq x x := by
  cases x with
  | error e => exact .error e
  | ok a => exact .ok rfl

/-- Equal steps end alike. -/
theorem of_eq {x y : Except ε α} (h : x = y) : Alike Eq x y := h ▸ refl x

/-- Steps that end alike with the same values are equal. -/
theorem eq {x y : Except ε α} (h : Alike Eq x y) : x = y := by
  cases h with
  | error e => rfl
  | ok same => rw [same]

/-- What ends like a step that fails fails. -/
theorem of_error {e : ε} (h : Alike R (.error e) y) : y = .error e := by
  cases h
  rfl

/-- What ends like a step that succeeds succeeds. -/
theorem of_ok {a : α} (h : Alike R (.ok a) y) : ∃ b, y = .ok b ∧ R a b := by
  cases h with
  | ok related => exact ⟨_, rfl, related⟩

/-- Steps that end alike end alike in a wider sense. -/
theorem mono {S : α → β → Prop} (h : Alike R x y) (wider : ∀ a b, R a b → S a b) :
    Alike S x y := by
  cases h with
  | error e => exact .error e
  | ok related => exact .ok (wider _ _ related)

/-- Two steps in turn end alike if the first ones do, and the second ones from related values. -/
theorem bind {S : α' → β' → Prop} {f : α → Except ε α'} {g : β → Except ε β'} (h : Alike R x y)
    (next : ∀ a b, R a b → Alike S (f a) (g b)) : Alike S (x >>= f) (y >>= g) := by
  cases h with
  | error e => exact .error e
  | ok related => exact next _ _ related

/-- Steps for the items of a list end alike if they do for each item. -/
theorem mapM {f : γ → Except ε α} {g : γ → Except ε β} {cs : List γ}
    (each : ∀ c ∈ cs, Alike R (f c) (g c)) : Alike (List.Forall₂ R) (cs.mapM f) (cs.mapM g) := by
  induction cs with
  | nil => exact .ok .nil
  | cons c rest ih =>
    rw [List.mapM_cons, List.mapM_cons]
    refine .bind (each c (List.mem_cons_self ..)) fun a b related => ?_
    refine .bind (ih fun x hx => each x (List.mem_cons_of_mem _ hx)) fun as bs all => ?_
    exact .ok (.cons related all)

end Alike

end ImageCompose
