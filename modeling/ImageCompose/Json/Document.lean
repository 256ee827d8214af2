import ImageCompose.Json.Basic

/-!
# Documents

A `Doc` is what a reader finds in a JSON text, up to the place where the text stops being JSON. It
differs from a `Json` value in what a text can hold and a value cannot: a container may be cut short
(`Ending.cut`), and a part may be well formed and still have no value (`Doc.unfit`, `Ending.unfit`):
a lone surrogate, a number out of range, a container nested too deeply. Such a part does no harm
where the reader skips it (`Doc.skip`), and is refused where it is kept (`Doc.keep`). Every value is
a document (`Json.doc`), and keeping that document gives the value back (`Json.keep_doc`).

Faults come in two kinds: a part of the `wrongShape`, or a text that is `malformed`.
-/

namespace ImageCompose

/-- Why a document is no value of an expected type. -/
inductive Fault
  | wrongShape
  /-- No JSON, or a kept part of it that has no value. -/
  | malformed
  deriving DecidableEq

/-- A fault in words. -/
def Fault.message : Fault → String
  | .wrongShape => "the value does not have the expected shape"
  | .malformed => "the text is not valid JSON"

/-- How a container goes on after the parts that were read. -/
inductive Ending
  | closed
  /-- It goes on with parts that are well formed and have no value, and is closed. -/
  | unfit
  /-- It goes on with something that is no JSON. -/
  | cut
  deriving DecidableEq

/-- What a reader finds in a JSON text. -/
inductive Doc
  | null
  | bool (value : Bool)
  | num (value : Number)
  | str (value : String)
  | arr (items : List Doc) (ending : Ending)
  /-- An object, its members in order; a name may occur several times. -/
  | obj (members : List (String × Doc)) (ending : Ending)
  | unfit
  | cut

/-- A container whose parts are all kept must be closed after them. -/
def Ending.keep : Ending → Except Fault Unit
  | .closed => .ok ()
  | .unfit | .cut => .error .malformed

/-- A container that is skipped must only be well formed. -/
def Ending.skip : Ending → Except Fault Unit
  | .closed | .unfit => .ok ()
  | .cut => .error .malformed

/-- How a container ends whose parts have no value. -/
def Ending.voided : Ending → Ending
  | .closed | .unfit => .unfit
  | .cut => .cut

namespace Doc

/-- The fault of a document that stands where a scalar of another kind, or a container, is
expected: a scalar is read before it is refused, a container is refused at its start. -/
def mismatch : Doc → Fault
  | .unfit | .cut => .malformed
  | _ => .wrongShape

mutual

/-- The value of a document, with several members of one name kept. -/
def keep : Doc → Except Fault Json
  | .null => .ok .null
  | .bool b => .ok (.bool b)
  | .num n => .ok (.num n)
  | .str s => .ok (.str s)
  | .arr items ending => do
    let items ← keepItems items
    ending.keep
    return .arr items
  | .obj members ending => do
    let members ← keepMembers members
    ending.keep
    return .obj members
  | .unfit | .cut => .error .malformed

/-- `keep` for the items of an array. -/
def keepItems : List Doc → Except Fault (List Json)
  | [] => .ok []
  | item :: rest => do
    let item ← keep item
    let rest ← keepItems rest
    return item :: rest

/-- `keep` for the members of an object. -/
def keepMembers : List (String × Doc) → Except Fault (List (String × Json))
  | [] => .ok []
  | (name, value) :: rest => do
    let value ← keep value
    let rest ← keepMembers rest
    return (name, value) :: rest
end

mutual

/-- Passes over a document, which must be well formed. -/
def skip : Doc → Except Fault Unit
  | .arr items ending => do
    skipItems items
    ending.skip
  | .obj members ending => do
    skipMembers members
    ending.skip
  | .cut => .error .malformed
  | .null | .bool _ | .num _ | .str _ | .unfit => .ok ()

/-- `skip` for the items of an array. -/
def skipItems : List Doc → Except Fault Unit
  | [] => .ok ()
  | item :: rest => do
    skip item
    skipItems rest

/-- `skip` for the members of an object. -/
def skipMembers : List (String × Doc) → Except Fault Unit
  | [] => .ok ()
  | (_, value) :: rest => do
    skip value
    skipMembers rest
end

end Doc

namespace Json

mutual

/-- A value as a document. -/
def doc : Json → Doc
  | .null => .null
  | .bool b => .bool b
  | .num n => .num n
  | .str s => .str s
  | .arr items => .arr (docItems items) .closed
  | .obj members => .obj (docMembers members) .closed

/-- `doc` for the items of an array. -/
def docItems : List Json → List Doc
  | [] => []
  | item :: rest => doc item :: docItems rest

/-- `doc` for the members of an object. -/
def docMembers : List (String × Json) → List (String × Doc)
  | [] => []
  | (name, value) :: rest => (name, doc value) :: docMembers rest
end

mutual

/-- The document of a value is kept as that value. -/
@[simp] theorem keep_doc : ∀ v : Json, v.doc.keep = .ok v
  | .null | .bool _ | .num _ | .str _ => rfl
  | .arr items => by
    simp [doc, Doc.keep, keepItems_docItems items, Ending.keep, bind, Except.bind, pure,
      Except.pure]
  | .obj members => by
    simp [doc, Doc.keep, keepMembers_docMembers members, Ending.keep, bind, Except.bind, pure,
      Except.pure]

/-- `keep_doc` for the items of an array. -/
theorem keepItems_docItems : ∀ items : List Json, Doc.keepItems (docItems items) = .ok items
  | [] => rfl
  | item :: rest => by
    simp [docItems, Doc.keepItems, keep_doc item, keepItems_docItems rest, bind, Except.bind, pure,
      Except.pure]

/-- `keep_doc` for the members of an object. -/
theorem keepMembers_docMembers :
    ∀ members : List (String × Json), Doc.keepMembers (docMembers members) = .ok members
  | [] => rfl
  | (name, value) :: rest => by
    simp [docMembers, Doc.keepMembers, keep_doc value, keepMembers_docMembers rest, bind,
      Except.bind, pure, Except.pure]
end

/-- The members of an object as documents, each under its own name. -/
theorem docMembers_eq_map (members : List (String × Json)) :
    docMembers members = members.map fun (name, value) => (name, value.doc) := by
  induction members with
  | nil => rfl
  | cons member rest ih => simp [docMembers, ih]

end Json

end ImageCompose
