import ImageCompose.Json.Decode
import ImageCompose.Proofs.Except

/-!
# Records read from values

A decoder reads documents, and every value is one (`Json.doc`). On the documents of values the
places of faults do not matter, so what a decoder reads is an `Option` (`Decoder.ofJson?`), and what
a description reads from the members of an object is one too (`Fields.values?`). Each combinator has
an equation there: a member is looked up by its name (`Json.under`), two descriptions side by side
read the same members, and the members that nobody describes never matter (`ofJson?_decoder_obj`)
unless they are kept as they are (`Fields.values?_others`).

`Fields.Yields` is for what holds of every record that is read, from an object or from an array.
-/

namespace ImageCompose

/-! ## Documents of values are well formed -/

namespace Json

mutual

/-- The document of a value can be passed over. -/
theorem skip_doc : ∀ v : Json, v.doc.skip = .ok ()
  | .null | .bool _ | .num _ | .str _ => rfl
  | .arr items => by
    simp only [doc, Doc.skip, skipItems_docItems items, Ending.skip, bind, Except.bind]
  | .obj members => by
    simp only [doc, Doc.skip, skipMembers_docMembers members, Ending.skip, bind, Except.bind]

/-- `skip_doc` for the items of an array. -/
theorem skipItems_docItems : ∀ items : List Json, Doc.skipItems (docItems items) = .ok ()
  | [] => rfl
  | item :: rest => by
    simp only [docItems, Doc.skipItems, skip_doc item, skipItems_docItems rest, bind, Except.bind]

/-- `skip_doc` for the members of an object. -/
theorem skipMembers_docMembers :
    ∀ members : List (String × Json), Doc.skipMembers (docMembers members) = .ok ()
  | [] => rfl
  | (name, value) :: rest => by
    simp only [docMembers, Doc.skipMembers, skip_doc value, skipMembers_docMembers rest, bind,
      Except.bind]
end

/-! ## The members of a name -/

/-- The values of the members of a name, in order. -/
def under (name : String) (ms : List (String × Json)) : List Json :=
  ms.filterMap fun (k, v) => if k = name then some v else none

@[simp] theorem under_nil (name : String) : under name [] = [] := rfl

@[simp] theorem under_cons (name k : String) (v : Json) (ms : List (String × Json)) :
    under name ((k, v) :: ms) = if k = name then v :: under name ms else under name ms := by
  unfold under
  by_cases h : k = name <;> simp [h]

@[simp] theorem under_append (name : String) (ms ns : List (String × Json)) :
    under name (ms ++ ns) = under name ms ++ under name ns := by
  simp [under]

@[simp] theorem under_given (name k : String) (encode : α → Json) (value : Option α) :
    under name (given k encode value) = if k = name then (value.map encode).toList else [] := by
  cases value <;> simp [given]

@[simp] theorem under_listed (name k : String) (encode : α → Json) (items : List α) :
    under name (listed k encode items) =
      if k = name ∧ items ≠ [] then [.arr (items.map encode)] else [] := by
  cases items <;> simp [listed]

/-! ## Some of the members that count -/

/-- The values of the members are settled one by one. -/
theorem settlePairs_eq_map (ms : List (String × Json)) :
    settlePairs ms = ms.map fun (name, v) => (name, v.settle) := by
  induction ms with
  | nil => rfl
  | cons m rest ih =>
    obtain ⟨name, v⟩ := m
    rw [settlePairs, ih, List.map_cons]

/-- Setting a member touches no others. -/
theorem filter_put (p : String → Bool) (name : String) (v : Json) (ms : List (String × Json)) :
    (put name v ms).filter (fun m => p m.1) =
      if p name then put name v (ms.filter fun m => p m.1) else ms.filter fun m => p m.1 := by
  induction ms with
  | nil => cases h : p name <;> simp [put, h]
  | cons m rest ih =>
    obtain ⟨k, w⟩ := m
    by_cases same : k = name
    · subst same
      cases h : p k <;> simp [put, h]
    · cases hk : p k <;> cases h : p name <;> simp [put, same, hk, h, ih]

/-- Of the members that pass a test on their names, those count that count among all. -/
theorem settleMembers_filter (p : String → Bool) (ms : List (String × Json)) :
    settleMembers (ms.filter fun m => p m.1) = (settleMembers ms).filter fun m => p m.1 := by
  have from_any : ∀ settled : List (String × Json),
      (ms.filter fun m => p m.1).foldl (fun settled (k, v) => put k v settled)
          (settled.filter fun m => p m.1) =
        (ms.foldl (fun settled (k, v) => put k v settled) settled).filter fun m => p m.1 := by
    induction ms with
    | nil => exact fun _ => rfl
    | cons m rest ih =>
      intro settled
      obtain ⟨k, v⟩ := m
      rw [List.foldl_cons, ← ih, filter_put]
      cases h : p k <;> simp [h]
  exact from_any []

/-- To settle members and to drop some by their names may be done in either order. -/
theorem settlePairs_filter (p : String → Bool) (ms : List (String × Json)) :
    settlePairs (ms.filter fun m => p m.1) = (settlePairs ms).filter fun m => p m.1 := by
  rw [settlePairs_eq_map, settlePairs_eq_map, List.filter_map]
  rfl

end Json

/-- The members of a name in the document of an object are the documents of its members of that
name. -/
theorem Members.named_docMembers (name : String) (ms : List (String × Json)) :
    (Members.named name (Json.docMembers ms)).map (·.2) = (Json.under name ms).map Json.doc := by
  have shifted : ∀ n, (((Json.docMembers ms).zipIdx n).filterMap fun m =>
      if m.1.1 = name then some (m.2, m.1.2) else none).map (·.2) =
        (Json.under name ms).map Json.doc := by
    induction ms with
    | nil => intro n; rfl
    | cons m rest ih =>
      intro n
      obtain ⟨k, v⟩ := m
      simp only [Json.docMembers, List.zipIdx_cons, Json.under_cons]
      by_cases h : k = name
      · simp [h, ih]
      · simp [h, ih]
  exact shifted 0

/-- A check that every member passes finds no fault. -/
theorem Members.each_eq_ok {test : String → Bool} {check : Doc → Except Fault Unit} {ms : Members}
    (h : ∀ m ∈ ms, check m.2 = .ok ()) : ms.each test check = .ok () := by
  unfold Members.each
  refine List.foldlRecOn (motive := fun found => found = Except.ok ()) _ _ rfl
    fun found so_far m hm => ?_
  subst so_far
  have passed : check m.1.2 = .ok () := h m.1 (List.fst_mem_of_mem_zipIdx hm)
  show (if test m.1.1 then Located.at_ m.2 (check m.1.2) else .ok ()) = .ok ()
  rw [passed]
  split <;> rfl

/-! ## What a decoder reads from a value -/

namespace Decoder

@[simp] theorem ofJson?_any (v : Json) : any.ofJson? v = some v.settle := by
  simp [ofJson?, any, Functor.map, Except.map, Except.toOption]

/-- A whole number within its bounds is read as what it stands for. -/
theorem ofJson?_int (f : Int → α) {least most n : Int} (h : least ≤ n ∧ n ≤ most) :
    Decoder.ofJson? (fun d => f <$> int least most d) (.num (.int n)) = some (f n) := by
  simp [ofJson?, Json.doc, int, h, Functor.map, Except.map, Except.toOption]

@[simp] theorem ofJson?_text (parse? : String → Option α) (s : String) :
    (text parse?).ofJson? (.str s) = parse? s := by
  simp only [ofJson?, Json.doc, text, string, bind, Except.bind]
  cases parse? s <;> rfl

/-- A value that is not null is read as it is. -/
theorem ofJson?_optional {decoder : Decoder α} {v : Json} (h : v.isNull = false) :
    decoder.optional.ofJson? v = (decoder.ofJson? v).map some := by
  have read : decoder.optional v.doc = some <$> decoder v.doc := by
    cases v <;> first | rfl | exact absurd h (by decide)
  simp only [ofJson?, read, Functor.map, Except.map]
  cases decoder v.doc <;> rfl

@[simp] theorem ofJson?_list (decoder : Decoder α) (vs : List Json) :
    (Decoder.list decoder).ofJson? (.arr vs) = vs.mapM decoder.ofJson? := by
  have items : (Decoder.items decoder (Json.docItems vs)).toOption = vs.mapM decoder.ofJson? := by
    induction vs with
    | nil => rfl
    | cons v rest ih =>
      simp only [Json.docItems, Decoder.items, List.mapM_cons, ← ih, ofJson?]
      cases decoder v.doc with
      | error e => rfl
      | ok a => cases Decoder.items decoder (Json.docItems rest) <;> rfl
  rw [← items]
  simp only [ofJson?, Json.doc, Decoder.list]
  cases Decoder.items decoder (Json.docItems vs) <;> rfl

end Decoder

/-! ## What a description reads from members -/

/-- What is read of the values under one name: there may be one at most, and there is a value for
the absence of any, unless the member must be there. -/
def Decoder.alone? (decoder : Decoder α) (absent : Option α) : List Json → Option α
  | [] => absent
  | [v] => decoder.ofJson? v
  | _ => none

@[simp] theorem Decoder.alone?_nil (decoder : Decoder α) (absent : Option α) :
    decoder.alone? absent [] = absent := rfl

@[simp] theorem Decoder.alone?_singleton (decoder : Decoder α) (absent : Option α) (v : Json) :
    decoder.alone? absent [v] = decoder.ofJson? v := rfl

/-- Two steps side by side succeed if both do, wherever they might have failed. -/
theorem Located.toOption_both (f : Located (α → β)) (a : Located α) :
    (Located.both f a).toOption = f.toOption.bind fun g => a.toOption.map g := by
  cases f <;> cases a <;> rfl

namespace Fields

/-- The record that a description reads from the members of an object. -/
def values? (fields : Fields α) (ms : List (String × Json)) : Option α :=
  (fields.ofMembers (Json.docMembers ms)).toOption

@[simp] theorem values?_map (f : α → β) (fields : Fields α) (ms : List (String × Json)) :
    (f <$> fields).values? ms = (fields.values? ms).map f := by
  show (Located.both (.ok f) (fields.ofMembers (Json.docMembers ms))).toOption = _
  rw [Located.toOption_both]
  rfl

@[simp] theorem values?_seq (f : Fields (α → β)) (fields : Fields α) (ms : List (String × Json)) :
    (f <*> fields).values? ms = (f.values? ms).bind fun g => (fields.values? ms).map g :=
  Located.toOption_both ..

/-- A member is read if it occurs once. -/
theorem values?_single (name : String) (decoder : Decoder α) (noMember noItem : Option α)
    (ms : List (String × Json)) :
    (single name decoder noMember noItem).values? ms =
      decoder.alone? noMember (Json.under name ms) := by
  have found := Members.named_docMembers name ms
  simp only [values?, single, Located.toOption_both, Members.once]
  generalize Members.named name (Json.docMembers ms) = named at found ⊢
  generalize Json.under name ms = vs at found ⊢
  match named, vs, found with
  | [], [], _ => cases noMember <;> rfl
  | [(place, d)], [v], found =>
    obtain rfl : d = v.doc := by simpa using found
    cases h : decoder v.doc <;> simp [Decoder.ofJson?, Located.at_, h, Except.map,
      Except.toOption]
  | (place, d) :: (place', d') :: rest, v :: v' :: vs, _ =>
    cases h : decoder d <;> simp [Decoder.alone?, Located.at_, h, Except.map, Except.toOption]

@[simp] theorem values?_member (name : String) (decoder : Decoder α) (ms : List (String × Json)) :
    (member name decoder).values? ms = decoder.alone? none (Json.under name ms) :=
  values?_single ..

@[simp] theorem values?_defaulted (name : String) (decoder : Decoder α) (value : α)
    (ms : List (String × Json)) :
    (defaulted name decoder value).values? ms =
      decoder.alone? (some value) (Json.under name ms) :=
  values?_single ..

@[simp] theorem values?_possible (name : String) (decoder : Decoder α)
    (ms : List (String × Json)) :
    (possible name decoder).values? ms =
      decoder.optional.alone? (some none) (Json.under name ms) :=
  values?_defaulted ..

/-- What is left of an object when members of some names are taken out, is read settled. -/
@[simp] theorem values?_others (except : List String) (ms : List (String × Json)) :
    (others except).values? ms = some ((Json.settleMembers (Json.settlePairs ms)).filter fun m =>
      !except.contains m.1) := by
  have rest : (Json.docMembers ms).filter (fun m => !except.contains m.1) =
      Json.docMembers (ms.filter fun m => !except.contains m.1) := by
    rw [Json.docMembers_eq_map, Json.docMembers_eq_map, List.filter_map]
    rfl
  have read : ∀ ns : List (String × Json), Decoder.values .any (Json.docMembers ns) =
      .ok (Json.settlePairs ns) := by
    intro ns
    induction ns with
    | nil => rfl
    | cons n more ih =>
      obtain ⟨name, v⟩ := n
      simp [Json.docMembers, Decoder.values, Decoder.any, ih, Json.settlePairs, bind, Except.bind,
        pure, Except.pure, Functor.map, Except.map]
  show (Located.at_ _ (Decoder.settled (Decoder.dictionary .any)
    (.obj ((Json.docMembers ms).filter fun m => !except.contains m.1) .closed))).toOption = _
  rw [rest, ← Json.settleMembers_filter fun name => !except.contains name,
    ← Json.settlePairs_filter fun name => !except.contains name]
  simp [Decoder.settled, Decoder.dictionary, read, Ending.keep, Located.at_, bind, Except.bind,
    pure, Except.pure, Except.mapError, Except.toOption]

/-- The members that a description does not name make no fault in the document of a value. -/
theorem strangers_docMembers (fields : Fields α) (ms : List (String × Json)) :
    fields.strangers false (Json.docMembers ms) = .ok () := by
  refine Members.each_eq_ok fun m hm => ?_
  rw [Json.docMembers_eq_map] at hm
  obtain ⟨⟨name, v⟩, -, rfl⟩ := List.mem_map.1 hm
  by_cases h : fields.keepsRest
  · simp [h, discard, Functor.discard, Functor.mapConst, Except.map]
  · simp [h, Json.skip_doc]

/-- From an object a record is read by its description alone. -/
@[simp] theorem ofJson?_decoder_obj (fields : Fields α) (ms : List (String × Json)) :
    fields.decoder.ofJson? (.obj ms) = fields.values? ms := by
  simp only [Decoder.ofJson?, Json.doc, decoder, read, strangers_docMembers, values?,
    Located.also, Located.at_, Ending.keep, Except.map, Located.both]
  cases fields.ofMembers (Json.docMembers ms) <;> rfl

/-! ## What holds of every record that is read -/

/-- Every record that a description reads, from an object or from an array, has a property. -/
structure Yields (fields : Fields α) (p : α → Prop) : Prop where
  /-- From the members of an object. -/
  ofMembers : ∀ ms a, fields.ofMembers ms = .ok a → p a
  /-- From the items of an array. -/
  ofItems : ∀ ds ending a rest, fields.ofItems ds ending = .ok (a, rest) → p a

/-- Two descriptions side by side yield what the first makes of what the second yields. -/
theorem Yields.apply {f : Fields (α → β)} {fields : Fields α} {p : (α → β) → Prop}
    {q : β → Prop} (hf : f.Yields p) (hq : ∀ g a, p g → q (g a)) : (f.apply fields).Yields q where
  ofMembers ms b h := by
    simp only [Fields.apply, Located.both] at h
    split at h <;> cases h
    next hg _ => exact hq _ _ (hf.ofMembers _ _ hg)
  ofItems ds ending b rest h := by
    simp only [Fields.apply, bind, Except.bind, pure, Except.pure] at h
    split at h
    · cases h
    · next gds hg =>
      split at h <;> cases h
      exact hq _ _ (hf.ofItems _ _ _ _ hg)

/-- A record that is made by a function has what the function makes sure of. -/
theorem Yields.map {f : α → β} {fields : Fields α} {q : β → Prop} (h : ∀ a, q (f a)) :
    (f <$> fields).Yields q :=
  Yields.apply (p := fun g => ∀ a, q (g a))
    ⟨fun _ _ hg => by cases hg; exact h, fun _ _ _ _ hg => by cases hg; exact h⟩
    fun _ a hg => hg a

/-- One more member may have any value if what is made of it has the property with each. -/
theorem Yields.seq {f : Fields (α → β)} {fields : Fields α} {q : β → Prop}
    (hf : f.Yields fun g => ∀ a, q (g a)) : (f <*> fields).Yields q :=
  Yields.apply hf fun _ a hg => hg a

/-- What holds of every record that is read holds of what is read from the members of a value. -/
theorem Yields.of_values? {fields : Fields α} {p : α → Prop} (hp : fields.Yields p)
    {ms : List (String × Json)} {a : α} (h : fields.values? ms = some a) : p a := by
  unfold values? at h
  cases hm : fields.ofMembers (Json.docMembers ms) with
  | ok b =>
    rw [hm] at h
    cases h
    exact hp.ofMembers _ _ hm
  | error e =>
    rw [hm] at h
    cases h

/-- What holds of every record that is read holds of what a decoder reads from any document. -/
theorem Yields.of_decoder {fields : Fields α} {p : α → Prop} (hp : fields.Yields p) {d : Doc}
    {a : α} (h : fields.decoder d = .ok a) : p a := by
  cases d with
  | obj ms ending =>
    simp only [decoder, read] at h
    cases hm : fields.ofMembers ms with
    | ok b =>
      rw [hm] at h
      generalize Located.also _ _ = checks at h
      cases checks <;> cases h
      exact hp.ofMembers _ _ hm
    | error e =>
      rw [hm] at h
      generalize Located.also _ _ = checks at h
      cases checks <;> cases h
  | arr ds ending =>
    simp only [decoder, read, bind, Except.bind, pure, Except.pure] at h
    split at h
    · cases h
    · split at h
      · cases h
      · next ar har =>
        split at h
        · split at h <;> cases h
          exact hp.ofItems _ _ _ _ har
        · cases h
  | null | bool | num | str | unfit | cut => cases h

end Fields

end ImageCompose
