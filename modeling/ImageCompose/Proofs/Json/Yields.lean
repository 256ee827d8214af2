import ImageCompose.Proofs.Json.RoundTrip

/-!
# What decoders yield

What holds of everything that a decoder reads (`Decoder.Yields`), whatever the document. Arbitrary
JSON is read settled, and a settled value stays as it is (`Json.settle_settle`); an object whose
names are free is read as a dictionary, in which each name occurs once (`Json.IsDictionary`). What
the members of a record yield is handed on to the record (`Fields.Yields`).
-/

namespace ImageCompose

/-! ## Settled values -/

namespace Json

variable {α : Type}

/-- A member under a new name is put at the end. -/
theorem put_of_not_mem {name : String} (value : α) {ms : List (String × α)}
    (h : name ∉ ms.map (·.1)) : put name value ms = ms ++ [(name, value)] := by
  induction ms with
  | nil => rfl
  | cons m rest ih =>
    rw [List.map_cons, List.mem_cons, not_or] at h
    simp [put, Ne.symm h.1, ih h.2]

/-- Putting a member adds its name, unless the name is there. -/
theorem names_put (name : String) (value : α) (ms : List (String × α)) :
    (put name value ms).map (·.1) =
      if name ∈ ms.map (·.1) then ms.map (·.1) else ms.map (·.1) ++ [name] := by
  induction ms with
  | nil => simp [put]
  | cons m rest ih =>
    obtain ⟨k, v⟩ := m
    by_cases same : k = name
    · simp [put, same]
    · by_cases later : name ∈ rest.map (·.1)
      · simp [put, same, ih, later]
      · have here : ¬(name = k ∨ name ∈ rest.map (·.1)) := by simp [later, Ne.symm same]
        rw [if_neg later] at ih
        simp only [put, same, if_false, List.map_cons, ih, List.mem_cons, here, List.cons_append]

/-- A member that is there after one is put is that one or was there before. -/
theorem mem_put {name : String} {value : α} {ms : List (String × α)} {m : String × α}
    (h : m ∈ put name value ms) : m = (name, value) ∨ m ∈ ms := by
  induction ms with
  | nil => exact .inl (List.mem_singleton.1 h)
  | cons first rest ih =>
    obtain ⟨k, v⟩ := first
    unfold put at h
    split at h
    · exact (List.mem_cons.1 h).imp_right (List.mem_cons_of_mem _)
    · rcases List.mem_cons.1 h with rfl | h
      · exact .inr (List.mem_cons_self ..)
      · exact (ih h).imp_right (List.mem_cons_of_mem _)

/-- The members that count are some of all. -/
theorem mem_of_mem_settleMembers {ms : List (String × α)} {m : String × α}
    (h : m ∈ settleMembers ms) : m ∈ ms := by
  refine List.foldlRecOn (motive := fun settled => ∀ m ∈ settled, m ∈ ms) ms _
    (fun _ h => absurd h (by simp)) (fun settled known last member => ?_) m h
  intro m hm
  rcases mem_put hm with rfl | hm
  · exact member
  · exact known m hm

/-- Of the members that count, no two have one name. -/
theorem nodup_settleMembers (ms : List (String × α)) :
    ((settleMembers ms).map (·.1)).Nodup := by
  have from_any : ∀ settled : List (String × α), (settled.map (·.1)).Nodup →
      ((ms.foldl (fun settled (k, v) => put k v settled) settled).map (·.1)).Nodup := by
    induction ms with
    | nil => exact fun _ distinct => distinct
    | cons m rest ih =>
      intro settled distinct
      refine ih _ ?_
      rw [names_put]
      split
      · exact distinct
      · next fresh =>
        refine List.nodup_append.2 ⟨distinct, by simp, fun a ha b hb => ?_⟩
        rw [List.mem_singleton.1 hb]
        exact fun same => fresh (same ▸ ha)
  exact from_any [] List.nodup_nil

/-- If no two members have one name, all of them count. -/
theorem settleMembers_of_nodup {ms : List (String × α)} (h : (ms.map (·.1)).Nodup) :
    settleMembers ms = ms := by
  have from_any : ∀ settled : List (String × α), ((settled ++ ms).map (·.1)).Nodup →
      ms.foldl (fun settled (k, v) => put k v settled) settled = settled ++ ms := by
    clear h
    induction ms with
    | nil => simp
    | cons m rest ih =>
      intro settled distinct
      have fresh : m.1 ∉ settled.map (·.1) := by
        intro member
        rw [List.map_append] at distinct
        exact (List.nodup_append.1 distinct).2.2 _ member _ (List.mem_cons_self ..) rfl
      have rest_distinct : ((settled ++ [m] ++ rest).map (·.1)).Nodup := by simpa using distinct
      simp only [List.foldl_cons, put_of_not_mem m.2 fresh, ih _ rest_distinct, List.append_assoc,
        List.singleton_append]
  exact from_any [] (by simpa using h)

/-- Members with settled values are settled. -/
theorem settlePairs_of_settled {ms : List (String × Json)} (h : ∀ m ∈ ms, m.2.settle = m.2) :
    settlePairs ms = ms := by
  rw [settlePairs_eq_map]
  refine (List.map_congr_left fun m hm => ?_).trans (List.map_id ms)
  exact congrArg (m.1, ·) (h m hm)

mutual

/-- A value that is settled is settled once and for all. -/
theorem settle_settle : ∀ v : Json, v.settle.settle = v.settle
  | .null | .bool _ | .num _ | .str _ => rfl
  | .arr items => by simp only [settle, settleItems_settleItems items]
  | .obj members => by
    have settled : ∀ m ∈ settleMembers (settlePairs members), m.2.settle = m.2 := fun m hm =>
      settle_of_mem_settlePairs members m (mem_of_mem_settleMembers hm)
    simp only [settle]
    rw [settlePairs_of_settled settled, settleMembers_of_nodup (nodup_settleMembers _)]

/-- `settle_settle` for the items of an array. -/
theorem settleItems_settleItems :
    ∀ items : List Json, settleItems (settleItems items) = settleItems items
  | [] => rfl
  | item :: rest => by
    simp only [settleItems, settle_settle item, settleItems_settleItems rest]

/-- `settle_settle` for the values of an object's members. -/
theorem settle_of_mem_settlePairs :
    ∀ (members : List (String × Json)), ∀ m ∈ settlePairs members, m.2.settle = m.2
  | [], _, h => nomatch h
  | (name, value) :: rest, m, h => by
    rcases List.mem_cons.1 h with rfl | h
    · exact settle_settle value
    · exact settle_of_mem_settlePairs rest m h
end

/-- Members of distinct names whose values have a property. -/
structure IsDictionary (p : α → Prop) (ms : List (String × α)) : Prop where
  nodup : (ms.map (·.1)).Nodup
  /-- The values have the property. -/
  values : ∀ m ∈ ms, p m.2

/-- What counts among members whose values have a property is a dictionary. -/
theorem isDictionary_settleMembers {p : α → Prop} {ms : List (String × α)}
    (h : ∀ m ∈ ms, p m.2) : IsDictionary p (settleMembers ms) :=
  ⟨nodup_settleMembers ms, fun m hm => h m (mem_of_mem_settleMembers hm)⟩

end Json

/-! ## What decoders yield -/

namespace Decoder

variable {α : Type} {decoder : Decoder α} {p : α → Prop}

/-- Everything that a decoder reads has a property. -/
def Yields (decoder : Decoder α) (p : α → Prop) : Prop :=
  ∀ d a, decoder d = .ok a → p a

/-- What a decoder reads from a value is what it yields. -/
theorem Yields.of_ofJson? (h : decoder.Yields p) {v : Json} {a : α}
    (read : decoder.ofJson? v = some a) : p a := by
  unfold ofJson? at read
  cases found : decoder v.doc with
  | error e =>
    rw [found] at read
    cases read
  | ok b =>
    rw [found] at read
    cases read
    exact h _ _ found

/-- Arbitrary JSON is read settled. -/
theorem yields_any : any.Yields fun v => v.settle = v := by
  intro d v read
  unfold any at read
  cases kept : d.keep with
  | error e =>
    rw [kept] at read
    cases read
  | ok w =>
    rw [kept] at read
    cases read
    exact w.settle_settle

/-- Only `null` is kept as `null`. -/
theorem keep_ne_null {d : Doc} (h : d ≠ .null) : d.keep ≠ .ok .null := by
  cases d with
  | null => exact absurd rfl h
  | bool | num | str | unfit | cut => exact nofun
  | arr items ending =>
    intro kept
    obtain ⟨_, -, kept⟩ := Except.bind_ok kept
    obtain ⟨_, -, kept⟩ := Except.bind_ok kept
    cases kept
  | obj members ending =>
    intro kept
    obtain ⟨_, -, kept⟩ := Except.bind_ok kept
    obtain ⟨_, -, kept⟩ := Except.bind_ok kept
    cases kept

/-- A value that may be `null` is absent if it is `null`, and otherwise one that is read. -/
theorem optional_ok {d : Doc} {value : Option α} (h : decoder.optional d = .ok value) :
    value = none ∨ d ≠ .null ∧ ∃ a, decoder d = .ok a ∧ value = some a := by
  have of_present : ∀ {d : Doc}, (some <$> decoder d : Except Fault (Option α)) = .ok value →
      ∃ a, decoder d = .ok a ∧ value = some a := by
    intro d read
    cases found : decoder d with
    | error e =>
      rw [found] at read
      cases read
    | ok a =>
      rw [found] at read
      cases read
      exact ⟨a, rfl, rfl⟩
  cases d with
  | null =>
    cases h
    exact .inl rfl
  | bool | num | str | arr | obj | unfit | cut => exact .inr ⟨Doc.noConfusion, of_present h⟩

/-- Optional JSON is read as it is kept. -/
theorem yields_optional_any : any.optional.Yields fun value => Json.kept value = value := by
  intro d value read
  rcases optional_ok read with rfl | ⟨present, v, found, rfl⟩
  · rfl
  · unfold any at found
    cases kept : d.keep with
    | error e =>
      rw [kept] at found
      cases found
    | ok w =>
      rw [kept] at found
      cases found
      have not_null : w.settle.isNull = false := by
        cases w with
        | null => exact absurd kept (keep_ne_null present)
        | bool | num | str | arr | obj => rfl
      simp [Json.kept, not_null, w.settle_settle]

/-- A value that may be `null` is absent, or one that is read. -/
theorem Yields.optional (h : decoder.Yields p) :
    decoder.optional.Yields fun value => ∀ a ∈ value, p a := by
  intro d value read
  rcases optional_ok read with rfl | ⟨-, a, found, rfl⟩
  · exact nofun
  · rintro _ ⟨⟩
    exact h _ _ found

/-- The items of a list that is read are read one by one. -/
theorem mem_list {d : Doc} {as : List α}
    (h : decoder.list d = .ok as) {a : α} (ha : a ∈ as) : ∃ d, decoder d = .ok a := by
  have items : ∀ {ds : List Doc} {as : List α}, Decoder.items decoder ds = .ok as → a ∈ as →
      ∃ d, decoder d = .ok a := by
    intro ds
    induction ds with
    | nil =>
      intro as h ha
      cases h
      cases ha
    | cons d rest ih =>
      intro as h ha
      simp only [Decoder.items, bind, Except.bind] at h
      split at h
      · cases h
      · next b hb =>
        split at h <;> cases h
        next bs hbs =>
        rcases List.mem_cons.1 ha with rfl | ha
        · exact ⟨d, hb⟩
        · exact ih hbs ha
  cases d with
  | arr ds ending =>
    simp only [Decoder.list, bind, Except.bind] at h
    split at h
    · cases h
    · next bs hbs =>
      split at h <;> cases h
      exact items hbs ha
  | null | bool | num | str | obj | unfit | cut => cases h

/-- A list is read with items that the decoder of items yields. -/
theorem Yields.list (h : decoder.Yields p) :
    (Decoder.list decoder).Yields fun as => ∀ a ∈ as, p a :=
  fun _ _ read _ ha =>
    have ⟨_, read⟩ := mem_list read ha
    h _ _ read

/-- The values of an object's members are read one by one. -/
theorem Yields.values (h : decoder.Yields p) {ds : List (String × Doc)} {ms : List (String × α)}
    (read : decoder.values ds = .ok ms) : ∀ m ∈ ms, p m.2 := by
  induction ds generalizing ms with
  | nil =>
    cases read
    exact nofun
  | cons m rest ih =>
    obtain ⟨a, first, read⟩ := Except.bind_ok read
    obtain ⟨others, others_read, read⟩ := Except.bind_ok read
    cases read
    exact List.forall_mem_cons.2 ⟨h _ _ first, ih others_read⟩

/-- The members that are read have names of members that are there. -/
theorem names_of_values {ds : List (String × Doc)} {ms : List (String × α)}
    (read : decoder.values ds = .ok ms) : ms.map (·.1) = ds.map (·.1) := by
  induction ds generalizing ms with
  | nil =>
    cases read
    rfl
  | cons m rest ih =>
    obtain ⟨a, -, read⟩ := Except.bind_ok read
    obtain ⟨others, others_read, read⟩ := Except.bind_ok read
    cases read
    rw [List.map_cons, List.map_cons, ih others_read]

/-- An object whose names are free is read as a dictionary. -/
theorem Yields.dictionary (h : decoder.Yields p) :
    decoder.dictionary.Yields (Json.IsDictionary p) := by
  intro d ms read
  cases d with
  | obj members ending =>
    obtain ⟨all, all_read, read⟩ := Except.bind_ok read
    obtain ⟨_, -, read⟩ := Except.bind_ok read
    cases read
    exact Json.isDictionary_settleMembers (h.values all_read)
  | null | bool | num | str | arr | unfit | cut => cases read

/-- What is left of a decoder's results when its faults are told alike. -/
theorem Yields.settled (h : decoder.Yields p) : decoder.settled.Yields p := by
  intro d a read
  unfold Decoder.settled at read
  cases found : decoder d with
  | error e =>
    rw [found] at read
    cases read
  | ok b =>
    rw [found] at read
    cases read
    exact h _ _ found

end Decoder

/-! ## What descriptions of records yield -/

namespace Fields

variable {α β : Type} {fields : Fields α} {p : α → Prop}

/-- A member yields what its decoder does, or its value for its absence. -/
theorem Yields.single {name : String} {decoder : Decoder α} {noMember noItem : Option α}
    (h : decoder.Yields p) (absent : ∀ a ∈ noMember, p a) (left_out : ∀ a ∈ noItem, p a) :
    (Fields.single name decoder noMember noItem).Yields p where
  ofMembers ms a read := by
    simp only [Fields.single, Located.both] at read
    split at read <;> cases read
    next b _ value _ =>
      split at value
      · next place d _ _ =>
        cases found : decoder d with
        | error e => simp [found, Located.at_, Except.map] at value
        | ok c =>
          simp only [found, Located.at_, Except.mapError_ok, Except.map, Except.ok.injEq] at value
          subst value
          exact h _ _ found
      · split at value <;> cases value
        exact absent _ rfl
  ofItems ds ending a rest read := by
    simp only [Fields.single] at read
    split at read
    · next d _ =>
      cases found : decoder d with
      | error e =>
        rw [found] at read
        cases read
      | ok b =>
        rw [found] at read
        cases read
        exact h _ _ found
    · obtain ⟨_, -, read⟩ := Except.bind_ok read
      split at read <;> cases read
      exact left_out _ rfl

/-- A member that must be there. -/
theorem Yields.member {name : String} {decoder : Decoder α} (h : decoder.Yields p) :
    (Fields.member name decoder).Yields p :=
  .single h nofun nofun

/-- A member with a value for its absence, which must have the property, too. -/
theorem Yields.defaulted {name : String} {decoder : Decoder α} {value : α} (h : decoder.Yields p)
    (absent : p value) : (Fields.defaulted name decoder value).Yields p := by
  have default : ∀ a ∈ some value, p a := by
    rintro _ ⟨⟩
    exact absent
  exact .single h default default

/-- A member that may be absent or `null`. -/
theorem Yields.possible {name : String} {decoder : Decoder α} (h : decoder.Yields p) :
    (Fields.possible name decoder).Yields fun value => ∀ a ∈ value, p a :=
  .defaulted h.optional nofun

/-- A member of arbitrary JSON that may be absent or `null`. -/
theorem Yields.possible_any {name : String} :
    (Fields.possible name .any).Yields fun value => Json.kept value = value :=
  .defaulted Decoder.yields_optional_any rfl

/-- The members that are kept as they are have other names than those left out. -/
theorem yields_others (except : List String) : (Fields.others except).Yields fun ms =>
    Json.IsDictionary (fun v => v.settle = v) ms ∧ ∀ m ∈ ms, m.1 ∉ except where
  ofMembers ms kept read := by
    simp only [Fields.others] at read
    generalize rest_eq : ms.filter (fun m => !except.contains m.1) = rest at read
    cases found : Decoder.settled (Decoder.dictionary .any) (.obj rest .closed) with
    | error e =>
      rw [found] at read
      cases read
    | ok read_as =>
      rw [found] at read
      cases read
      refine ⟨Decoder.yields_any.dictionary.settled _ _ found, fun m hm => ?_⟩
      unfold Decoder.settled at found
      cases dictionary : Decoder.dictionary .any (.obj rest .closed) with
      | error e =>
        rw [dictionary] at found
        cases found
      | ok known =>
        rw [dictionary] at found
        cases found
        obtain ⟨all, all_read, dictionary⟩ := Except.bind_ok dictionary
        cases dictionary
        have name_read := List.mem_map_of_mem (f := (·.1)) (Json.mem_of_mem_settleMembers hm)
        rw [Decoder.names_of_values all_read, ← rest_eq] at name_read
        obtain ⟨d, hd, same⟩ := List.mem_map.1 name_read
        simpa [same] using (List.mem_filter.1 hd).2
  ofItems _ _ _ _ read := nomatch read

/-- Two descriptions side by side yield what the first makes of what the second yields. -/
theorem Yields.seqOf {f : Fields (α → β)} {q : β → Prop}
    (hf : f.Yields fun g => ∀ a, p a → q (g a)) (h : fields.Yields p) :
    (f <*> fields).Yields q where
  ofMembers ms b read := by
    simp only [Seq.seq, Fields.apply, Located.both] at read
    split at read <;> cases read
    next g a hg ha => exact hf.ofMembers _ _ hg a (h.ofMembers _ _ ha)
  ofItems ds ending b rest read := by
    obtain ⟨⟨g, left⟩, hg, read⟩ := Except.bind_ok read
    obtain ⟨⟨a, left'⟩, ha, read⟩ := Except.bind_ok read
    cases read
    exact hf.ofItems _ _ _ _ hg a (h.ofItems _ _ _ _ ha)

/-- A record that is made from one member yields what is made of what the member yields. -/
theorem Yields.mapOf {f : α → β} {q : β → Prop} (h : fields.Yields p) (hf : ∀ a, p a → q (f a)) :
    (f <$> fields).Yields q :=
  Yields.seqOf (f := Fields.of f) ⟨fun _ _ hg => by cases hg; exact hf,
    fun _ _ _ _ hg => by cases hg; exact hf⟩ h

end Fields

end ImageCompose
