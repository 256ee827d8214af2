import ImageCompose.Proofs.Json.Yields

/-!
# What was read is read back

Not every value of a type with arbitrary JSON in it is read back as it is written (`ReadBack`): an
object may have several members of a name, and `null` is not told from an absent value. But no
decoder yields such a value, so what was read is written and read again as the same value. A type
of which this holds is `Reread`; a type with the stronger law `RoundTrip` is.
-/

namespace ImageCompose

/-- A value is read back as it is written. -/
def ReadBack {α : Type} [Wire α] (a : α) : Prop := Wire.decoder.ofJson? (encode a) = some a

/-- A type whose values, once they were read, are read back as they are written. -/
class Reread (α : Type) [Wire α] : Prop where
  /-- What is read is read back as it is written. -/
  yields : (Wire.decoder : Decoder α).Yields ReadBack

section
variable {α : Type} [Wire α]

/-- Every value of a type that is read back as it is written is read back. -/
theorem ReadBack.of_roundTrip [RoundTrip α] (a : α) : ReadBack a := RoundTrip.ofJson?_encode a

instance [RoundTrip α] : Reread α := ⟨fun _ a _ => .of_roundTrip a⟩

/-- What a value was read as is read back from what is written of it. -/
theorem decode?_encode_of_decode? [Reread α] {v : Json} {a : α} (h : decode? v = some a) :
    decode? (encode a) = some a :=
  Reread.yields.of_ofJson? h

/-- A list is read back if its items are. -/
theorem ReadBack.list {as : List α} (h : ∀ a ∈ as, ReadBack a) : ReadBack as :=
  ofJson?_encode_list h

instance [Reread α] : Reread (List α) where
  yields _ _ read := .list (Reread.yields.list _ _ read)

end

/-- A settled value is read back. -/
theorem ReadBack.json {v : Json} (h : v.settle = v) : ReadBack v :=
  (Decoder.ofJson?_any v).trans (congrArg some h)

/-- So is a list of settled values. -/
theorem ReadBack.json_list {vs : List Json} (h : ∀ v ∈ vs, v.settle = v) :
    Wire.decoder.ofJson? (.arr vs) = some vs := by
  have written : encode vs = .arr vs := congrArg Json.arr (List.map_id vs)
  rw [← written]
  exact ReadBack.list fun v hv => .json (h v hv)

/-! ## Members of records -/

/-- A dictionary is read back if its values are. -/
theorem Decoder.ofJson?_dictionary {α : Type} {decoder : Decoder α} {encode : α → Json}
    {ms : List (String × α)}
    (h : Json.IsDictionary (fun a => decoder.ofJson? (encode a) = some a) ms) :
    decoder.dictionary.ofJson? (.obj (ms.map fun m => (m.1, encode m.2))) = some ms := by
  have values : decoder.values (Json.docMembers (ms.map fun m => (m.1, encode m.2))) = .ok ms := by
    have all := h.values
    clear h
    induction ms with
    | nil => rfl
    | cons m rest ih =>
      have first := all m (List.mem_cons_self ..)
      simp only [List.map_cons, Json.docMembers, Decoder.values]
      unfold Decoder.ofJson? at first
      cases found : decoder (encode m.2).doc with
      | error e =>
        rw [found] at first
        cases first
      | ok a =>
        rw [found] at first
        cases first
        rw [ih fun m hm => all m (List.mem_cons_of_mem _ hm)]
        rfl
  have read : decoder.dictionary
      (.obj (Json.docMembers (ms.map fun m => (m.1, encode m.2))) .closed) =
        .ok (Json.settleMembers ms) := by
    simp only [Decoder.dictionary, values]
    rfl
  simp only [Decoder.ofJson?, Json.doc, read, Json.settleMembers_of_nodup h.nodup]
  rfl

/-- What is decoded after the text was read is what is decoded. -/
theorem Decoder.ofJson?_settled {α : Type} (decoder : Decoder α) (v : Json) :
    decoder.settled.ofJson? v = decoder.ofJson? v := by
  simp only [ofJson?, settled]
  cases decoder v.doc <;> rfl

@[simp] theorem Decoder.ofJson?_variant {α : Type} (names : List (String × α)) (s : String) :
    (Decoder.variant names).ofJson? (.str s) = names.lookup s := by
  simp only [Decoder.ofJson?, Json.doc, Decoder.variant]
  cases names.lookup s <;> rfl

@[simp] theorem Decoder.ofJson?_uint32 (n : UInt32) :
    Decoder.uint32.ofJson? (Json.nat n.toNat) = some n := by
  have bounds : (0 : Int) ≤ n.toNat ∧ (n.toNat : Int) ≤ 4294967295 := by
    have := n.toNat_lt
    omega
  exact (Decoder.ofJson?_int _ bounds).trans (by simp)

namespace Fields

variable {α : Type}

/-- Members that stand among those of another record are read as if they stood alone. -/
@[simp] theorem values?_flattened (fields : Fields α) (ms : List (String × Json)) :
    fields.flattened.values? ms = fields.values? ms := by
  simp only [values?, Fields.flattened]
  cases fields.ofMembers (Json.docMembers ms) <;> rfl

/-- A choice is read by its tag and its content, whichever stands first. -/
theorem values?_adjacent {tag content s : String} {choices : List (String × Decoder α)}
    {chosen : Decoder α} {v : Json} {ms : List (String × Json)}
    (tagged : Json.under tag ms = [.str s]) (found : choices.lookup s = some chosen)
    (held : Json.under content ms = [v]) :
    (adjacent tag content choices).values? ms = chosen.ofJson? v := by
  have tags := Members.named_docMembers tag ms
  have contents := Members.named_docMembers content ms
  rw [tagged] at tags
  rw [held] at contents
  simp only [values?, adjacent, Located.toOption_both, Members.once, Located.also]
  generalize Members.named tag (Json.docMembers ms) = named_tag at tags ⊢
  generalize Members.named content (Json.docMembers ms) = named_content at contents ⊢
  obtain ⟨⟨place, _⟩, rfl, rfl⟩ := List.map_eq_singleton_iff.1 tags
  obtain ⟨⟨place', _⟩, rfl, rfl⟩ := List.map_eq_singleton_iff.1 contents
  have choice : Located.at_ place ((place, ·) <$> Decoder.variant choices (Json.str s).doc) =
      .ok (place, chosen) := by
    simp only [Json.doc, Decoder.variant, found]
    rfl
  simp only [choice, Json.keep_doc, Decoder.settled, Decoder.ofJson?]
  by_cases before : place < place'
  · simp only [before, if_true]
    cases chosen v.doc <;> rfl
  · simp only [before, if_false]
    cases chosen v.doc <;> rfl

end Fields

end ImageCompose
