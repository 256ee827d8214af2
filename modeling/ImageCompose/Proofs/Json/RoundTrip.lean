import ImageCompose.Timestamp
import ImageCompose.Uuid
import ImageCompose.Proofs.Json.Record
import ImageCompose.Proofs.Uuid

/-!
# Values are read back as they are written

`RoundTrip` is the law that ties the writer and the reader of a type: what is written of a value is
read as that value. It holds of the scalars and is handed on by lists. A value of arbitrary JSON is
the exception: it is read back settled, and an absent one is not told from `null` (`Json.kept`).
-/

namespace ImageCompose

/-- A type whose values are read back as they are written. -/
class RoundTrip (α : Type) [Wire α] : Prop where
  /-- What is written of a value is read as that value. -/
  ofJson?_encode : ∀ a : α, Wire.decoder.ofJson? (encode a) = some a

attribute [simp] RoundTrip.ofJson?_encode

/-- What is written of a value is read as that value. -/
theorem decode?_encode [Wire α] [RoundTrip α] (a : α) : decode? (encode a) = some a :=
  RoundTrip.ofJson?_encode a

/-- A type whose values are never written as `null`. -/
class Present (α : Type) [Wire α] : Prop where
  /-- A value is not written as `null`. -/
  isNull_encode : ∀ a : α, (encode a).isNull = false

/-! ## Scalars and lists -/

@[simp] theorem decoder_string : Decoder.string = (Wire.decoder : Decoder String) := rfl

@[simp] theorem decoder_bool : Decoder.bool = (Wire.decoder : Decoder Bool) := rfl

@[simp] theorem decoder_list [Wire α] :
    Decoder.list Wire.decoder = (Wire.decoder : Decoder (List α)) := rfl

instance : RoundTrip String := ⟨fun _ => rfl⟩

instance : Present String := ⟨fun _ => rfl⟩

instance : RoundTrip Bool := ⟨fun _ => rfl⟩

instance : Present Bool := ⟨fun _ => rfl⟩

instance : RoundTrip Uuid where
  ofJson?_encode u := by
    show (Decoder.text Uuid.parse?).ofJson? (.str u.render) = some u
    simp

/-- A list is read back item by item if its items are. -/
theorem ofJson?_encode_list [Wire α] {as : List α}
    (back : ∀ a ∈ as, Wire.decoder.ofJson? (encode a) = some a) :
    Wire.decoder.ofJson? (encode as) = some as := by
  have items : (as.map encode).mapM (Wire.decoder : Decoder α).ofJson? = some as := by
    induction as with
    | nil => rfl
    | cons a rest ih =>
      have first := back a (List.mem_cons_self ..)
      have others := ih fun b hb => back b (List.mem_cons_of_mem _ hb)
      simp [List.mapM_cons, first, others]
  exact (Decoder.ofJson?_list _ _).trans items

instance [Wire α] [RoundTrip α] : RoundTrip (List α) where
  ofJson?_encode _ := ofJson?_encode_list fun a _ => RoundTrip.ofJson?_encode a

instance [Wire α] : Present (List α) := ⟨fun _ => rfl⟩

/-! ## Numbers -/

@[simp] theorem Decoder.ofJson?_uint64 (n : UInt64) :
    Decoder.uint64.ofJson? (Json.nat n.toNat) = some n := by
  have bounds : (0 : Int) ≤ n.toNat ∧ (n.toNat : Int) ≤ 18446744073709551615 := by
    have := n.toNat_lt
    omega
  exact (Decoder.ofJson?_int _ bounds).trans (by simp)

@[simp] theorem Decoder.ofJson?_int64 (n : Int64) :
    Decoder.int64.ofJson? (.num (.int n.toInt)) = some n := by
  have bounds : (-9223372036854775808 : Int) ≤ n.toInt ∧ n.toInt ≤ 9223372036854775807 := by
    have least := n.le_toInt
    have most := n.toInt_lt
    omega
  exact (Decoder.ofJson?_int _ bounds).trans (by simp)

/-! ## Members that may be absent -/

/-- What is left of optional JSON that is written and read back. -/
def Json.kept (value : Option Json) : Option Json :=
  value.bind fun v => if v.isNull then none else some v.settle

/-- JSON that may be `null` is read back as what is kept of it. -/
theorem Decoder.ofJson?_optional_any (v : Json) :
    Decoder.any.optional.ofJson? v = some (Json.kept (some v)) := by
  cases v with
  | null => rfl
  | bool | num | str | arr | obj =>
    rw [Decoder.ofJson?_optional rfl, Decoder.ofJson?_any]
    rfl

/-- Optional JSON is read back as what is kept of it. -/
@[simp] theorem Decoder.alone?_toList_any (value : Option Json) :
    Decoder.any.optional.alone? (some none) (value.map encode).toList =
      some (Json.kept value) := by
  cases value with
  | none => rfl
  | some v => exact Decoder.ofJson?_optional_any v

section
variable [Wire α]

/-- A value that is there is read back where it might be absent. -/
@[simp] theorem Decoder.ofJson?_optional_encode [Present α] {a : α}
    (back : Wire.decoder.ofJson? (encode a) = some a) :
    Wire.decoder.optional.ofJson? (encode a) = some (some a) := by
  rw [Decoder.ofJson?_optional (Present.isNull_encode a), back]
  rfl

/-- A value that may be absent is read back from a member that is only there if the value is. -/
@[simp] theorem Decoder.alone?_toList_encode [Present α] {value : Option α}
    (back : ∀ a ∈ value, Wire.decoder.ofJson? (encode a) = some a) :
    Wire.decoder.optional.alone? (some none) (value.map encode).toList = some value := by
  cases value with
  | none => rfl
  | some a => exact Decoder.ofJson?_optional_encode (back a rfl)

/-- A list is read back from a member that is only there if the list is not empty. -/
@[simp] theorem Decoder.alone?_listed [RoundTrip α] (as : List α) :
    Wire.decoder.alone? (some []) (if as = [] then [] else [.arr (as.map encode)]) = some as := by
  cases as with
  | nil => rfl
  | cons a rest => exact RoundTrip.ofJson?_encode (a :: rest)

end

end ImageCompose
