import ImageCompose.Json.Document
import ImageCompose.Json.Token

/-!
# Reading JSON text

`readDoc` reads a text as a document: a machine over its tokens (`Reader.step`) that holds the
containers that are still open, innermost first. Where the text stops being JSON, the open
containers are cut short (`Reader.abandon`), so that the document holds all that stands before.
Containers may nest 127 deep; what stands in a deeper one has no value.

`Json.parse?` reads a text that is one JSON value, in whose objects the last member of a name
counts.
-/

namespace ImageCompose.Json

/-- The number of containers that may enclose each other. -/
def depthLimit : Nat := 127

/-- An open container. -/
inductive Frame
  /-- An array: whether it is too deep, and its items, last first. -/
  | arr (deep : Bool) (items : List Doc)
  /-- An object: whether it is too deep, whether all its names were strings with a value, its
  members, last first, and the name of the member whose value comes next. -/
  | obj (deep fit : Bool) (members : List (String × Doc)) (name : Option String)

namespace Frame

/-- The document of a container that ends. What a container that is too deep holds is dropped, and
an object's members end at the first name without a value. -/
def close (ending : Ending) : Frame → Doc
  | .arr deep items =>
    if deep then .arr [] ending.voided else .arr items.reverse ending
  | .obj deep fit members _ =>
    if deep then .obj [] ending.voided
    else .obj members.reverse (if fit then ending else ending.voided)

/-- Adds a value to a container. -/
def add (d : Doc) : Frame → Frame
  | .arr deep items => .arr deep (d :: items)
  | .obj deep fit members name =>
    match name with
    | some name => .obj deep fit (if fit then (name, d) :: members else members) none
    | none => .obj deep fit members none

/-- Whether an object waits for the value of a member. -/
def isPending : Frame → Bool
  | .obj _ _ _ (some _) => true
  | _ => false

end Frame

/-- What may come next. -/
inductive Expect
  | value
  /-- The first item of an array, or its end. -/
  | firstItem
  /-- The first name of an object, or its end. -/
  | firstName
  | name
  /-- The colon between a name and its value. -/
  | colon
  /-- A comma, or the end of the container. -/
  | comma
  | nothing

/-- A document that is being read. -/
structure Reader where
  frames : List Frame
  expect : Expect
  result : Option Doc
  trailing : Bool

namespace Reader

/-- Nothing was read yet. -/
def empty : Reader := ⟨[], .value, none, false⟩

/-- Puts a complete value where it belongs. -/
def put (r : Reader) (d : Doc) : Reader :=
  match r.frames with
  | [] => { r with expect := .nothing, result := some d }
  | frame :: rest => { r with frames := frame.add d :: rest, expect := .comma }

/-- Opens a container. -/
def opened (r : Reader) (frame : Bool → Frame) (expect : Expect) : Reader :=
  let deep := (r.frames[depthLimit - 1]?).isSome
  { r with frames := frame deep :: r.frames, expect := expect }

/-- Closes the innermost container. -/
def closed (r : Reader) (frame : Frame) (rest : List Frame) : Reader :=
  { r with frames := rest }.put (frame.close .closed)

/-- The document of open containers whose text goes on with something that is no JSON. -/
def abandoned (inner : Option Doc) : List Frame → Doc
  | [] => inner.getD .cut
  | frame :: rest =>
    let frame := match inner with
      | some d => frame.add d
      | none => if frame.isPending then frame.add .cut else frame
    abandoned (some (frame.close .cut)) rest

/-- The text stops being JSON. -/
def abandon (r : Reader) : Reader :=
  match r.result with
  | some _ => { r with trailing := true }
  | none =>
    { r with frames := [], expect := .nothing, result := some (abandoned none r.frames) }

/-- Reads a token where a value may stand. -/
def value (r : Reader) : Token → Reader
  | .null => r.put .null
  | .bool b => r.put (.bool b)
  | .num n => r.put (.num n)
  | .str s => r.put (.str s)
  | .unfitNumber | .unfitString => r.put .unfit
  | .arrayStart => r.opened (.arr · []) .firstItem
  | .objectStart => r.opened (.obj · true [] none) .firstName
  | _ => r.abandon

/-- Reads a token where the name of a member may stand. -/
def name (r : Reader) (token : Token) : Reader :=
  match r.frames, token with
  | .obj deep fit members _ :: rest, .str s =>
    { r with frames := .obj deep fit members (some s) :: rest, expect := .colon }
  | .obj deep _ members _ :: rest, .unfitString =>
    { r with frames := .obj deep false members (some "") :: rest, expect := .colon }
  | _, _ => r.abandon

/-- Reads one token. -/
def step (r : Reader) (token : Token) : Reader :=
  match r.expect, r.frames, token with
  | .value, _, token => r.value token
  | .firstItem, frame :: rest, .arrayEnd => r.closed frame rest
  | .firstItem, _, token => r.value token
  | .firstName, frame :: rest, .objectEnd => r.closed frame rest
  | .firstName, _, token => r.name token
  | .name, _, token => r.name token
  | .colon, _, .colon => { r with expect := .value }
  | .comma, .arr _ _ :: _, .comma => { r with expect := .value }
  | .comma, .obj _ _ _ _ :: _, .comma => { r with expect := .name }
  | .comma, frame@(.arr _ _) :: rest, .arrayEnd => r.closed frame rest
  | .comma, frame@(.obj _ _ _ _) :: rest, .objectEnd => r.closed frame rest
  | _, _, _ => r.abandon

end Reader

/-- The document at the start of a text, and whether nothing follows it. -/
def readDoc (s : String) : Doc × Bool :=
  let r := (tokens s).foldl Reader.step Reader.empty
  match r.result with
  | some d => (d, !r.trailing)
  | none => (Reader.abandoned none r.frames, true)

/-- The value that a text is. -/
def parse? (s : String) : Option Json :=
  let (d, alone) := readDoc s
  if alone then d.keep.toOption.map settle else none

end ImageCompose.Json
