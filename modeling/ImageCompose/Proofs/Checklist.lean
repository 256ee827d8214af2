import ImageCompose.Proofs.Except

/-!
# Rules that are checked in turn

A `Checklist` lists rules in the order in which they are checked. A rule tells the errors that it is
broken with; a rule that holds is broken with none. Steps that can fail enforce a checklist if they
succeed only where all of its rules hold, and otherwise fail as the first rule that is broken
(`Checklist.Enforces`). Steps in turn enforce their checklists in turn, so what a long check accepts
and how it refuses are put together from its parts.
-/

namespace ImageCompose

/-- Rules in the order in which they are checked, each by the errors that it is broken with. -/
abbrev Checklist (ε : Type) := List (ε → Prop)

namespace Checklist

variable {ε α β : Type} {rules rules' : Checklist ε} {e : ε}

/-- No rule is broken. -/
def Holds (rules : Checklist ε) : Prop := ∀ rule ∈ rules, ∀ e, ¬rule e

/-- An error tells of the first rule that is broken. -/
def Breaks (rules : Checklist ε) (e : ε) : Prop :=
  ∃ before rule after, rules = before ++ rule :: after ∧ Holds before ∧ rule e

@[simp] theorem holds_nil : Holds ([] : Checklist ε) := nofun

@[simp] theorem holds_cons {rule : ε → Prop} :
    Holds (rule :: rules) ↔ (∀ e, ¬rule e) ∧ rules.Holds :=
  List.forall_mem_cons

@[simp] theorem holds_append : Holds (rules ++ rules') ↔ rules.Holds ∧ rules'.Holds :=
  List.forall_mem_append

/-- All rules for the items of a list hold if they do for each item. -/
@[simp] theorem holds_flatMap {f : α → Checklist ε} {as : List α} :
    Holds (as.flatMap f) ↔ ∀ a ∈ as, (f a).Holds := by
  induction as with
  | nil => simp
  | cons a rest ih => simp [ih]

/-- The rule that something must be so, with the errors that tell that it is not. -/
def must (p : Prop) (told : ε → Prop) : ε → Prop := fun e => ¬p ∧ told e

/-- What must be so is so if there is no error that tells otherwise. -/
theorem unbroken_must {p : Prop} {told : ε → Prop} (tells : ∃ e, told e) :
    (∀ e, ¬must p told e) ↔ p := by
  obtain ⟨e, he⟩ := tells
  refine ⟨fun unbroken => ?_, fun hp _ broken => broken.1 hp⟩
  by_contra hp
  exact unbroken e ⟨hp, he⟩

@[simp] theorem unbroken_must_eq {p : Prop} (told : ε) : (∀ e, ¬must p (· = told) e) ↔ p :=
  unbroken_must ⟨told, rfl⟩

/-- Rules of which one is broken do not hold. -/
theorem Breaks.not_holds (h : rules.Breaks e) : ¬rules.Holds := by
  obtain ⟨before, rule, after, rfl, -, broken⟩ := h
  exact fun all => all rule (List.mem_append_right _ (List.mem_cons_self ..)) e broken

/-- A list of one rule is broken where the rule is. -/
theorem breaks_singleton {rule : ε → Prop} (h : rule e) : Breaks [rule] e :=
  ⟨[], rule, [], rfl, holds_nil, h⟩

/-- What is checked later does not matter once a rule is broken. -/
theorem Breaks.append (h : rules.Breaks e) : (rules ++ rules').Breaks e := by
  obtain ⟨before, rule, after, rfl, earlier, broken⟩ := h
  exact ⟨before, rule, after ++ rules', by simp, earlier, broken⟩

/-- A rule is the first that is broken if all that is checked before holds. -/
theorem Breaks.after (first : rules.Holds) (h : rules'.Breaks e) : (rules ++ rules').Breaks e := by
  obtain ⟨before, rule, after, rfl, earlier, broken⟩ := h
  exact ⟨rules ++ before, rule, after, by simp, holds_append.2 ⟨first, earlier⟩, broken⟩

/-- If each rule tells one error, so does a checklist. -/
theorem Breaks.unique {e' : ε} (h : rules.Breaks e) (h' : rules.Breaks e')
    (single : ∀ rule ∈ rules, ∀ e e', rule e → rule e' → e = e') : e = e' := by
  obtain ⟨before, rule, after, rfl, earlier, broken⟩ := h
  obtain ⟨before', rule', after', cut, earlier', broken'⟩ := h'
  rcases List.append_eq_append_iff.1 cut with ⟨between, rfl, rest⟩ | ⟨between, rfl, rest⟩
  · cases between with
    | nil =>
      cases rest
      exact single rule (by simp) _ _ broken broken'
    | cons _ between =>
      cases rest
      exact absurd broken (earlier' rule (by simp) e)
  · cases between with
    | nil =>
      cases rest
      exact single rule (by simp) _ _ broken broken'
    | cons _ between =>
      cases rest
      exact absurd broken' (earlier rule' (by simp) e')

/-! ## Steps that enforce rules -/

/-- A step succeeds only where all rules hold, and fails as the first rule that is broken. -/
structure Enforces (x : Except ε α) (rules : Checklist ε) : Prop where
  holds : ∀ a, x = .ok a → rules.Holds
  /-- An error tells of the first rule that is broken. -/
  breaks : ∀ e, x = .error e → rules.Breaks e

namespace Enforces

variable {x : Except ε α}

/-- A step succeeds exactly where its rules hold. -/
theorem ok_iff (h : Enforces x rules) : (∃ a, x = .ok a) ↔ rules.Holds := by
  refine ⟨fun ⟨a, done⟩ => h.holds a done, fun all => ?_⟩
  cases told : x with
  | ok a => exact ⟨a, rfl⟩
  | error e => exact absurd all (h.breaks e told).not_holds

/-- A step for which a rule is broken fails as that rule tells, if each rule tells one error. -/
theorem of_breaks (h : Enforces x rules) (broken : rules.Breaks e)
    (single : ∀ rule ∈ rules, ∀ e e', rule e → rule e' → e = e') : x = .error e := by
  cases told : x with
  | ok a => exact absurd (h.holds a told) broken.not_holds
  | error e' => rw [(h.breaks e' told).unique broken single]

/-- A step tells only errors that its rules tell. -/
theorem tells (h : Enforces x rules) {p : ε → Prop} (each : ∀ rule ∈ rules, ∀ e, rule e → p e)
    (failed : x = .error e) : p e := by
  obtain ⟨before, rule, after, rfl, -, broken⟩ := h.breaks e failed
  exact each rule (List.mem_append_right _ (List.mem_cons_self ..)) e broken

/-- A step that succeeds enforces rules that hold. -/
theorem ok (a : α) (all : rules.Holds) : Enforces (.ok a : Except ε α) rules :=
  ⟨fun _ _ => all, nofun⟩

/-- A step that fails with what the first broken rule tells enforces the rules. -/
theorem error (broken : rules.Breaks e) : Enforces (.error e : Except ε α) rules where
  holds := nofun
  breaks e' told := by
    cases told
    exact broken

/-- A step that checks one rule. -/
theorem rule {rule : ε → Prop} (holds : ∀ a, x = .ok a → ∀ e, ¬rule e)
    (breaks : ∀ e, x = .error e → rule e) : Enforces x [rule] where
  holds a done := by simpa using holds a done
  breaks e failed := breaks_singleton (breaks e failed)

/-- Rules that hold may be checked before. -/
theorem after (first : rules.Holds) (h : Enforces x rules') : Enforces x (rules ++ rules') where
  holds a done := holds_append.2 ⟨first, h.holds a done⟩
  breaks e failed := (h.breaks e failed).after first

/-- The first rule holds, and the others are checked. -/
theorem next {rule : ε → Prop} (unbroken : ∀ e, ¬rule e) (h : Enforces x rules) :
    Enforces x (rule :: rules) :=
  have first : Holds [rule] := by simpa using unbroken
  h.after first

/-- The first rule is broken. -/
theorem fails {rule : ε → Prop} (broken : rule e) :
    Enforces (.error e : Except ε α) (rule :: rules) :=
  .error (breaks_singleton broken).append

/-- A step that is taken only where a rule holds. -/
theorem guard {p c : Prop} [Decidable c] {told : ε} (test : c ↔ ¬p)
    (rest : p → Enforces x rules) :
    Enforces (if c then .error told else x) (must p (· = told) :: rules) := by
  by_cases hp : p
  · rw [if_neg fun hc => test.1 hc hp]
    exact .next (by simpa using hp) (rest hp)
  · rw [if_pos (test.2 hp)]
    exact .fails ⟨hp, rfl⟩

/-- Two steps in turn check the rules of the first and then those of the second. -/
theorem bind {f : α → Except ε β} (first : Enforces x rules)
    (second : ∀ a, x = .ok a → Enforces (f a) rules') : Enforces (x >>= f) (rules ++ rules') := by
  cases hx : x with
  | error e => exact .error (first.breaks e hx).append
  | ok a => exact (second a hx).after (first.holds a hx)

/-- What is made of a success is not checked. -/
theorem map {f : α → β} (h : Enforces x rules) : Enforces (x >>= fun a => .ok (f a)) rules := by
  have both := h.bind fun a _ => ok (f a) holds_nil
  rwa [List.append_nil] at both

/-- Steps for the items of a list check the rules for each item in turn. -/
theorem mapM {f : α → Except ε β} {rules : α → Checklist ε} {as : List α}
    (each : ∀ a ∈ as, Enforces (f a) (rules a)) : Enforces (as.mapM f) (as.flatMap rules) := by
  induction as with
  | nil => exact ok [] holds_nil
  | cons a rest ih =>
    rw [List.mapM_cons, List.flatMap_cons]
    refine (each a (List.mem_cons_self ..)).bind fun b _ => ?_
    exact (ih fun x hx => each x (List.mem_cons_of_mem _ hx)).map

end Enforces

end Checklist

end ImageCompose
