import ImageCompose.Proofs.Json.RoundTrip

/-!
# Records that are read from their members alone

A description of a record that requires each member reads the record exactly from the values that
hold its members (`Json.Holds`): objects in which each of them stands once, whatever else stands
there, and the array of their values. `Fields.Inverts` says so of a description, with a lemma for
each way in which descriptions are put together, and `Fields.Inverts.decoder` of its decoder.
-/

namespace ImageCompose

namespace Json

/-- A value holds some members: it is an object in which each of them stands once, or the array of
their values. -/
def Holds (v : Json) (members : List (String × Json)) : Prop :=
  (∃ ms, v = .obj ms ∧ ∀ m ∈ members, under m.1 ms = [m.2]) ∨ v = .arr (members.map (·.2))

end Json

variable {α β : Type}

namespace Decoder

/-- A decoder reads each value of its type from one JSON value. -/
def Inverts (decoder : Decoder α) (form : α → Json) : Prop :=
  ∀ v a, decoder v.doc = .ok a ↔ v = form a

/-- A value is read as another one exactly if its document is. -/
theorem ofJson?_eq_some {decoder : Decoder α} {v : Json} {a : α} :
    decoder.ofJson? v = some a ↔ decoder v.doc = .ok a := by
  rw [ofJson?]
  cases decoder v.doc <;> simp [Except.toOption]

/-- A text is read from the string that holds it and from nothing else. -/
theorem string_inverts : string.Inverts .str := by
  intro v s
  cases v <;> simp [Json.doc, string]

/-- A number is read from the whole number that it is and from nothing else. -/
theorem uint64_inverts : uint64.Inverts fun n => Json.nat n.toNat := by
  intro v n
  constructor
  · intro read
    cases v with
    | num number =>
      cases number with
      | int k =>
        simp only [Json.doc, uint64, int] at read
        split at read
        · next bounds =>
          cases read
          have small : k.toNat % 2 ^ 64 = k.toNat := Nat.mod_eq_of_lt (by omega)
          simp only [Json.nat, Json.num.injEq, Number.int.injEq, UInt64.toNat_ofNat', small]
          omega
        · cases read
      | _ => cases read
    | _ => cases read
  · rintro rfl
    exact ofJson?_eq_some.1 (ofJson?_uint64 n)

end Decoder

namespace Fields

/-- A description reads each record from the members that the record has, be it among others in an
object or in their order from an array. -/
structure Inverts (fields : Fields α) (has : α → List (String × Json) → Prop) : Prop where
  whole : fields.keepsRest = false
  /-- From the members of an object. -/
  values : ∀ ms a, fields.values? ms = some a ↔
    ∃ members, has a members ∧ ∀ m ∈ members, Json.under m.1 ms = [m.2]
  /-- From the items of an array. -/
  items : ∀ vs a rest, fields.ofItems (Json.docItems vs) .closed = .ok (a, rest) ↔
    ∃ members more, has a members ∧ vs = members.map (·.2) ++ more ∧ rest = Json.docItems more

namespace Inverts

variable {has : α → List (String × Json) → Prop}

/-- One member. -/
theorem member {decoder : Decoder α} {form : α → Json} (h : decoder.Inverts form) (name : String) :
    (Fields.member name decoder).Inverts fun a members => members = [(name, form a)] where
  whole := rfl
  values ms a := by
    have alone : decoder.alone? none (Json.under name ms) = some a ↔
        Json.under name ms = [form a] := by
      match Json.under name ms with
      | [] => simp
      | [v] => simp [Decoder.ofJson?_eq_some, h v a]
      | _ :: _ :: _ => simp [Decoder.alone?]
    simp [alone]
  items vs a rest := by
    cases vs with
    | nil => simp [Fields.member, single, Json.docItems, Ending.keep, bind, Except.bind]
    | cons v more =>
      have step : (Fields.member name decoder).ofItems (Json.docItems (v :: more)) .closed =
          (·, Json.docItems more) <$> decoder v.doc := rfl
      rw [step]
      constructor
      · intro read
        cases found : decoder v.doc with
        | error e =>
          rw [found] at read
          cases read
        | ok b =>
          rw [found] at read
          cases read
          exact ⟨_, more, rfl, by rw [(h v a).1 found]; rfl, rfl⟩
      · rintro ⟨_, more', rfl, same, rfl⟩
        cases same
        rw [(h _ a).2 rfl]
        rfl

/-- A record that is made from one. -/
theorem map {fields : Fields α} (h : fields.Inverts has) (f : α → β) :
    (f <$> fields).Inverts fun b members => ∃ a, f a = b ∧ has a members where
  whole := h.whole
  values ms b := by
    rw [values?_map, Option.map_eq_some_iff]
    simp only [h.values]
    constructor
    · rintro ⟨a, ⟨members, held, each⟩, rfl⟩
      exact ⟨members, ⟨a, rfl, held⟩, each⟩
    · rintro ⟨members, ⟨a, rfl, held⟩, each⟩
      exact ⟨a, ⟨members, held, each⟩, rfl⟩
  items vs b rest := by
    have step : (f <$> fields).ofItems (Json.docItems vs) .closed =
        (fields.ofItems (Json.docItems vs) .closed >>= fun read => .ok (f read.1, read.2)) := rfl
    rw [step]
    constructor
    · intro read
      obtain ⟨⟨a, left⟩, found, read⟩ := Except.bind_ok read
      cases read
      obtain ⟨members, more, held, split, same⟩ := (h.items _ _ _).1 found
      exact ⟨members, more, ⟨a, rfl, held⟩, split, same⟩
    · rintro ⟨members, more, ⟨a, rfl, held⟩, split, rfl⟩
      rw [(h.items _ a _).2 ⟨members, more, held, split, rfl⟩]
      rfl

/-- Two descriptions side by side. -/
theorem seq {f : Fields (α → β)} {fields : Fields α}
    {has' : (α → β) → List (String × Json) → Prop} (hf : f.Inverts has') (h : fields.Inverts has) :
    (f <*> fields).Inverts fun b members => ∃ g a first second, g a = b ∧ has' g first ∧
      has a second ∧ members = first ++ second where
  whole := by
    show (f.keepsRest || fields.keepsRest) = false
    rw [hf.whole, h.whole]
    rfl
  values ms b := by
    rw [values?_seq, Option.bind_eq_some_iff]
    simp only [Option.map_eq_some_iff, hf.values, h.values]
    constructor
    · rintro ⟨g, ⟨first, held, each⟩, a, ⟨second, held', each'⟩, rfl⟩
      exact ⟨_, ⟨g, a, first, second, rfl, held, held', rfl⟩,
        List.forall_mem_append.2 ⟨each, each'⟩⟩
    · rintro ⟨_, ⟨g, a, first, second, rfl, held, held', rfl⟩, each⟩
      obtain ⟨each, each'⟩ := List.forall_mem_append.1 each
      exact ⟨g, ⟨first, held, each⟩, a, ⟨second, held', each'⟩, rfl⟩
  items vs b rest := by
    constructor
    · intro read
      obtain ⟨⟨g, left⟩, found, read⟩ := Except.bind_ok read
      obtain ⟨⟨a, left'⟩, found', read⟩ := Except.bind_ok read
      cases read
      obtain ⟨first, more, held, rfl, rfl⟩ := (hf.items _ _ _).1 found
      obtain ⟨second, more', held', rfl, same⟩ := (h.items _ _ _).1 found'
      exact ⟨_, more', ⟨g, a, first, second, rfl, held, held', rfl⟩, by simp, same⟩
    · rintro ⟨_, more, ⟨g, a, first, second, rfl, held, held', rfl⟩, rfl, rfl⟩
      have found := (hf.items _ g _).2 ⟨first, second.map (·.2) ++ more, held, rfl, rfl⟩
      have found' := (h.items _ a _).2 ⟨second, more, held', rfl, rfl⟩
      show (f.ofItems _ _ >>= fun read => fields.ofItems read.2 _ >>= fun read' =>
        .ok (read.1 read'.1, read'.2)) = _
      rw [List.map_append, List.append_assoc, found]
      show (fields.ofItems _ _ >>= fun read' => .ok (g read'.1, read'.2)) = _
      rw [found']
      rfl

/-- What is read as a record holds the members of the record. -/
theorem decoder {fields : Fields α} (h : fields.Inverts has) {v : Json} {a : α} :
    fields.decoder.ofJson? v = some a ↔ ∃ members, has a members ∧ v.Holds members := by
  cases v with
  | obj ms => simp [h.values, Json.Holds]
  | arr items =>
    have step : fields.decoder (Json.arr items).doc =
        (fields.ofItems (Json.docItems items) .closed >>= fun read =>
          if read.2.isEmpty then .ok read.1 else .error .malformed) := by
      simp only [Fields.decoder, read, Json.doc, h.whole]
      rcases fields.ofItems (Json.docItems items) .closed with e | ⟨a, _ | ⟨d, rest⟩⟩ <;> rfl
    rw [Decoder.ofJson?_eq_some, step]
    constructor
    · intro read
      obtain ⟨⟨a, rest⟩, found, read⟩ := Except.bind_ok read
      obtain ⟨members, more, held, rfl, rfl⟩ := (h.items _ _ _).1 found
      cases more with
      | nil =>
        cases read
        exact ⟨members, held, .inr (by rw [List.append_nil])⟩
      | cons v more => cases read
    · rintro ⟨members, held, ⟨ms, same, -⟩ | same⟩
      · cases same
      · cases same
        rw [(h.items _ a _).2 ⟨members, [], held, (List.append_nil _).symm, rfl⟩]
        rfl
  | null | bool | num | str =>
    refine iff_of_false (fun read => ?_) ?_
    · cases read
    · rintro ⟨members, -, ⟨ms, same, -⟩ | same⟩ <;> cases same

/-- A record of one member. -/
theorem decoder_one {first : Decoder α} {form : α → Json} (h : first.Inverts form) {f : α → β}
    {name : String} {v : Json} {b : β} :
    (f <$> Fields.member name first).decoder.ofJson? v = some b ↔
      ∃ a, f a = b ∧ v.Holds [(name, form a)] := by
  rw [((member h name).map f).decoder]
  constructor
  · rintro ⟨_, ⟨a, rfl, rfl⟩, held⟩
    exact ⟨a, rfl, held⟩
  · rintro ⟨a, rfl, held⟩
    exact ⟨_, ⟨a, rfl, rfl⟩, held⟩

/-- A record of two members. -/
theorem decoder_two {γ : Type} {first : Decoder α} {second : Decoder β} {form : α → Json}
    {form' : β → Json} (h : first.Inverts form) (h' : second.Inverts form') {f : α → β → γ}
    {name name' : String} {v : Json} {c : γ} :
    (f <$> Fields.member name first <*> Fields.member name' second).decoder.ofJson? v = some c ↔
      ∃ a b, f a b = c ∧ v.Holds [(name, form a), (name', form' b)] := by
  rw [(((member h name).map f).seq (member h' name')).decoder]
  constructor
  · rintro ⟨_, ⟨_, b, _, _, rfl, ⟨a, rfl, rfl⟩, rfl, rfl⟩, held⟩
    exact ⟨a, b, rfl, held⟩
  · rintro ⟨a, b, rfl, held⟩
    exact ⟨_, ⟨_, b, _, _, rfl, ⟨a, rfl, rfl⟩, rfl, rfl⟩, held⟩

end Inverts

end Fields

end ImageCompose
