import ImageCompose.Json.Reader

/-!
# Decoding documents

A `Decoder` turns a document into a value of a type, or says why it cannot. Decoders read a text
from its start, and of several faults the one that stands first in the text is the one reported.

Records are described by their members (`Fields`): `member` reads a required member, `nullable` one
that may be absent or `null`, `defaulted` one with a value of its own for its absence, `flattened`
the members of a record that are written among the members of another. `Fields.decoder` reads such a
record from an object in any order, or from an array in the order of the description.

A choice between records is `tagged` (the tag is one of the members) or `adjacent` (one member for
the tag and one for the rest), and a choice between names is a `variant`.
-/

namespace ImageCompose

/-- A way to read documents as values of a type. -/
abbrev Decoder (α : Type) := Doc → Except Fault α

/-! ## Scalars and containers -/

namespace Decoder

/-- Any value; the last of several members of one name counts. -/
def any : Decoder Json := fun d => Json.settle <$> d.keep

/-- A string. -/
def string : Decoder String
  | .str s => .ok s
  | d => .error d.mismatch

/-- A truth value. -/
def bool : Decoder Bool
  | .bool b => .ok b
  | d => .error d.mismatch

/-- A whole number between two bounds. -/
def int (least most : Int) : Decoder Int
  | .num (.int n) => if least ≤ n ∧ n ≤ most then .ok n else .error .wrongShape
  | d => .error d.mismatch

/-- An unsigned number of 32 bits. -/
def uint32 : Decoder UInt32 := fun d =>
  (fun n => UInt32.ofNat n.toNat) <$> int 0 4294967295 d

/-- An unsigned number of 64 bits. -/
def uint64 : Decoder UInt64 := fun d =>
  (fun n => UInt64.ofNat n.toNat) <$> int 0 18446744073709551615 d

/-- A signed number of 64 bits. -/
def int64 : Decoder Int64 := fun d =>
  Int64.ofInt <$> int (-9223372036854775808) 9223372036854775807 d

/-- A string that another notation gives a meaning. -/
def text (parse? : String → Option α) : Decoder α := fun d => do
  let s ← string d
  match parse? s with
  | some a => return a
  | none => throw .wrongShape

/-- A value or `null`. -/
def optional (decoder : Decoder α) : Decoder (Option α)
  | .null => .ok none
  | d => some <$> decoder d

/-- The items of an array, in order. -/
def items (decoder : Decoder α) : List Doc → Except Fault (List α)
  | [] => .ok []
  | d :: rest => do
    let a ← decoder d
    let rest ← items decoder rest
    return a :: rest

/-- An array. -/
def list (decoder : Decoder α) : Decoder (List α)
  | .arr ds ending => do
    let as ← items decoder ds
    ending.keep
    return as
  | d => .error d.mismatch

/-- The values of an object's members, in order. -/
def values (decoder : Decoder α) : List (String × Doc) → Except Fault (List (String × α))
  | [] => .ok []
  | (name, d) :: rest => do
    let a ← decoder d
    let rest ← values decoder rest
    return (name, a) :: rest

/-- An object whose names are free; the last of several members of one name counts. -/
def dictionary (decoder : Decoder α) : Decoder (List (String × α))
  | .obj ms ending => do
    let ms ← values decoder ms
    ending.keep
    return Json.settleMembers ms
  | d => .error d.mismatch

/-- Any fault as one of shape: for what is decoded after the text was read. -/
def settled (decoder : Decoder α) : Decoder α := fun d =>
  (decoder d).mapError fun _ => .wrongShape

/-- One of a list of names, as a string or as an object with that name and `null`. Nothing else can
start such a value, so anything else is malformed. -/
def variant (names : List (String × α)) : Decoder α
  | .str s =>
    match names.lookup s with
    | some a => .ok a
    | none => .error .wrongShape
  | .obj ((name, d) :: rest) ending =>
    match names.lookup name with
    | none => .error .wrongShape
    | some a => do
      match d with
      | .null => pure ()
      | d => throw d.mismatch
      if rest.isEmpty then ending.keep else throw .malformed
      return a
  | _ => .error .malformed

/-- The values that a decoder reads from a value, if any. -/
def ofJson? (decoder : Decoder α) (v : Json) : Option α :=
  (decoder v.doc).toOption

/-- Reads a text that is one value of the type and nothing else. -/
def ofText (decoder : Decoder α) (s : String) : Except Fault α :=
  let (d, alone) := Json.readDoc s
  do
    let a ← decoder d
    if alone then return a else throw .malformed

end Decoder

/-! ## Records -/

/-- A result whose fault has a place: the number of the member it stands in. Past the members come
the object's end, then what is missing. -/
abbrev Located (α : Type) := Except (Nat × Fault) α

namespace Located

/-- Combines two results; of two faults the one with the smaller place counts. -/
def both (f : Located (α → β)) (a : Located α) : Located β :=
  match f, a with
  | .ok f, .ok a => .ok (f a)
  | .error e, .ok _ => .error e
  | .ok _, .error e => .error e
  | .error e, .error e' => .error (if e'.1 < e.1 then e' else e)

/-- Puts the fault of a result at a place. -/
def at_ (place : Nat) (result : Except Fault α) : Located α :=
  result.mapError fun fault => (place, fault)

/-- The first fault of two checks. -/
def also (a b : Located Unit) : Located Unit :=
  both (a.map fun _ _ => ()) b

end Located

/-- The members of an object. -/
abbrev Members := List (String × Doc)

namespace Members

/-- The members of a name, with their places. -/
def named (name : String) (ms : Members) : List (Nat × Doc) :=
  ms.zipIdx.filterMap fun ((k, d), i) => if k = name then some (i, d) else none

/-- A name may occur once. -/
def once (name : String) (ms : Members) : Located Unit :=
  match ms.named name with
  | _ :: (place, _) :: _ => .error (place, .wrongShape)
  | _ => .ok ()

/-- The place of what is missing: past the end of the object. -/
def past (ms : Members) : Nat := ms.length + 1

/-- A check of every member that passes a test on its name. -/
def each (test : String → Bool) (check : Doc → Except Fault Unit) (ms : Members) : Located Unit :=
  ms.zipIdx.foldl
    (fun found ((name, d), place) =>
      match found with
      | .ok () => if test name then Located.at_ place (check d) else .ok ()
      | .error e => .error e)
    (.ok ())

end Members

/-- The description of a record by its members. -/
structure Fields (α : Type) where
  /-- The names that are read as they are met. -/
  names : List String
  /-- Whether the other members are kept, because part of the record is read from them later. -/
  keepsRest : Bool
  /-- Reads the record from the members of an object. -/
  ofMembers : Members → Located α
  /-- Reads the record from the first items of an array, and gives the items after them. -/
  ofItems : List Doc → Ending → Except Fault (α × List Doc)

namespace Fields

/-- A record without members. -/
def of (a : α) : Fields α :=
  ⟨[], false, fun _ => .ok a, fun ds _ => .ok (a, ds)⟩

/-- The members of two records side by side. -/
def apply (f : Fields (α → β)) (a : Fields α) : Fields β where
  names := f.names ++ a.names
  keepsRest := f.keepsRest || a.keepsRest
  ofMembers ms := Located.both (f.ofMembers ms) (a.ofMembers ms)
  ofItems ds ending := do
    let (f, ds) ← f.ofItems ds ending
    let (a, ds) ← a.ofItems ds ending
    return (f a, ds)

instance : Functor Fields where
  map f a := (of f).apply a

instance : Seq Fields where
  seq f a := f.apply (a ())

/-- One member: its name, its decoder, and its value if an object or an array does not have it. -/
def single (name : String) (decoder : Decoder α) (noMember noItem : Option α) : Fields α where
  names := [name]
  keepsRest := false
  ofMembers ms :=
    let value : Located α := match ms.named name with
      | (place, d) :: _ => Located.at_ place (decoder d)
      | [] => match noMember with
        | some a => .ok a
        | none => .error (ms.past, .wrongShape)
    Located.both (value.map fun a _ => a) (ms.once name)
  ofItems ds ending :=
    match ds with
    | d :: rest => (·, rest) <$> decoder d
    | [] => do
      ending.keep
      match noItem with
      | some a => return (a, [])
      | none => throw .wrongShape

/-- A member that must be there. -/
def member (name : String) (decoder : Decoder α) : Fields α :=
  single name decoder none none

/-- A member that an object may lack; it is then absent, as if it were `null`. -/
def nullable (name : String) (decoder : Decoder α) : Fields (Option α) :=
  single name decoder.optional (some none) none

/-- A member with a value of its own for its absence. -/
def defaulted (name : String) (decoder : Decoder α) (value : α) : Fields α :=
  single name decoder (some value) (some value)

/-- A member that may be absent or `null`. -/
def possible (name : String) (decoder : Decoder α) : Fields (Option α) :=
  defaulted name decoder.optional none

/-- The members of a record that stand among the members of another. They are decoded once the
whole object was read. -/
def flattened (fields : Fields α) : Fields α where
  names := []
  keepsRest := true
  ofMembers ms := (fields.ofMembers ms).mapError fun _ => (ms.past, .wrongShape)
  ofItems _ _ := .error .wrongShape

/-- All members but those of some names. -/
def others (except : List String) : Fields (List (String × Json)) where
  names := []
  keepsRest := true
  ofMembers ms :=
    let rest := ms.filter fun (name, _) => !except.contains name
    Located.at_ ms.past (Decoder.settled (Decoder.dictionary Decoder.any) (.obj rest .closed))
  ofItems _ _ := .error .wrongShape

/-- The members that a record does not describe are refused if it is strict, kept if part of it is
read from them, and skipped otherwise. -/
def strangers (fields : Fields α) (strict : Bool) (ms : Members) : Located Unit :=
  ms.each (fun name => !fields.names.contains name) fun d =>
    if strict then .error .wrongShape
    else if fields.keepsRest then discard d.keep
    else d.skip

/-- Reads a record from an object, or from an array unless part of it is read from other members. -/
def read (strict : Bool) (fields : Fields α) : Decoder α
  | .obj ms ending =>
    let checks := (fields.strangers strict ms).also (Located.at_ ms.length ending.keep)
    (Located.both ((fields.ofMembers ms).map fun a _ => a) checks).mapError (·.2)
  | .arr ds ending =>
    if fields.keepsRest then .error .wrongShape
    else do
      let (a, rest) ← fields.ofItems ds ending
      if rest.isEmpty then ending.keep else throw .malformed
      return a
  | d => .error d.mismatch

/-- Reads a record; members that it does not describe are passed over. -/
def decoder (fields : Fields α) : Decoder α := read false fields

/-- Reads a record that has no other members than it describes. -/
def strictDecoder (fields : Fields α) : Decoder α := read true fields

end Fields

/-! ## Choices between records -/

namespace Decoder

/-- A tag: one of a list of names, each with what it stands for. -/
def tag (names : List (String × α)) : Decoder α :=
  text fun s => names.lookup s

/-- A choice between records by a member that stands among theirs. The record is decoded once the
whole object was read. In an array the tag is the first item. -/
def tagged (name : String) (choices : List (String × Decoder α)) : Decoder α
  | .obj ms ending => do
    let choice := (Fields.member name (tag choices)).ofMembers ms
    let rest := Members.each (fun k => k != name) (fun d => discard d.keep) ms
    let checks := Located.also rest (Located.at_ ms.length ending.keep)
    let chosen ← (Located.both (choice.map fun a _ => a) checks).mapError (·.2)
    settled chosen (.obj (ms.filter fun (k, _) => k != name) .closed)
  | .arr ds ending => do
    match ds with
    | [] =>
      ending.keep
      throw .wrongShape
    | d :: rest =>
      let chosen ← tag choices d
      let _ ← Doc.keepItems rest
      ending.keep
      settled chosen (.arr rest .closed)
  | d => .error d.mismatch

end Decoder

/-- A choice between records by one member, with the record in another. Content that stands before
its tag is kept until the tag is read. In an object the tag is a `variant`, in an array, where it is
the first item, a plain string. -/
def Fields.adjacent (tag content : String) (choices : List (String × Decoder α)) : Fields α where
  names := [tag, content]
  keepsRest := false
  ofMembers ms :=
    let choice : Located (Nat × Decoder α) := match ms.named tag with
      | (place, d) :: _ => Located.at_ place ((place, ·) <$> Decoder.variant choices d)
      | [] => .error (ms.past, .wrongShape)
    let value : Located α := match choice, ms.named content with
      | .ok (tagPlace, chosen), (place, d) :: _ =>
        if tagPlace < place then Located.at_ place (chosen d)
        else do
          let _ ← Located.at_ place d.keep
          Located.at_ tagPlace (Decoder.settled chosen d)
      | .ok _, [] => .error (ms.past, .wrongShape)
      | .error e, (place, d) :: _ =>
        Located.both (.error e) (if place < e.1 then Located.at_ place d.keep else .ok .null)
      | .error e, [] => .error e
    Located.both (value.map fun a _ => a) ((ms.once tag).also (ms.once content))
  ofItems ds ending :=
    match ds with
    | d :: content :: rest => do
      let chosen ← Decoder.tag choices d
      let a ← chosen content
      return (a, rest)
    | [d] => do
      let _ ← Decoder.tag choices d
      ending.keep
      throw .wrongShape
    | [] => do
      ending.keep
      throw .wrongShape

/-! ## Types with a JSON form -/

/-- A type that is written as JSON and read back. -/
class Wire (α : Type) where
  encode : α → Json
  decoder : Decoder α

export Wire (encode)

/-- The value that a JSON value is read as. -/
def decode? [Wire α] (v : Json) : Option α :=
  Wire.decoder.ofJson? v

instance : Wire String := ⟨.str, Decoder.string⟩

instance [Wire α] : Wire (List α) := ⟨fun as => .arr (as.map encode), Decoder.list Wire.decoder⟩

instance : Wire Json := ⟨id, Decoder.any⟩

instance : Wire Bool := ⟨.bool, Decoder.bool⟩

end ImageCompose
