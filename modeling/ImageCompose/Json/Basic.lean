import ImageCompose.Binary64.Basic

/-!
# JSON values

`Json` is a JSON value whose numbers keep their kind: a whole number stays whole, and a number
written with a point or an exponent is a floating-point number. The members of an object are a list
in order; `Json.settle` gives the value in which the last of several members of one name counts,
and `Json.put` is the step it repeats.
-/

namespace ImageCompose

/-- A JSON number. -/
inductive Number
  /-- A whole number of 64 bits, signed or unsigned. -/
  | int (value : Int)
  | float (value : Binary64)
  deriving DecidableEq

/-- A JSON value. -/
inductive Json
  | null
  | bool (value : Bool)
  | num (value : Number)
  | str (value : String)
  | arr (items : List Json)
  | obj (members : List (String × Json))
  deriving Inhabited

namespace Json

/-- A natural number as a JSON value. -/
def nat (n : Nat) : Json := .num (.int n)

/-- Whether a value is the literal `null`. -/
def isNull : Json → Bool
  | .null => true
  | _ => false

/-- Sets a member of an object: in place if it has one of that name, at the end otherwise. -/
def put (name : String) (value : α) : List (String × α) → List (String × α)
  | [] => [(name, value)]
  | (k, v) :: rest => if k = name then (name, value) :: rest else (k, v) :: put name value rest

/-- The members that count: of several with one name the last. -/
def settleMembers (members : List (String × α)) : List (String × α) :=
  members.foldl (fun settled (k, v) => put k v settled) []

mutual

/-- A value in whose objects, at any depth, each name occurs once: the last member of a name
counts. -/
def settle : Json → Json
  | .arr items => .arr (settleItems items)
  | .obj members => .obj (settleMembers (settlePairs members))
  | .null => .null
  | .bool b => .bool b
  | .num n => .num n
  | .str s => .str s

/-- `settle` for the items of an array. -/
def settleItems : List Json → List Json
  | [] => []
  | item :: rest => settle item :: settleItems rest

/-- `settle` for the values of an object's members. -/
def settlePairs : List (String × Json) → List (String × Json)
  | [] => []
  | (name, value) :: rest => (name, settle value) :: settlePairs rest
end

/-- A member that is written only if its value is present. -/
def given (name : String) (encode : α → Json) : Option α → List (String × Json)
  | some value => [(name, encode value)]
  | none => []

/-- A member that is written only if its list is not empty. -/
def listed (name : String) (encode : α → Json) : List α → List (String × Json)
  | [] => []
  | items => [(name, .arr (items.map encode))]

/-- An optional value; `null` if it is absent. -/
def nullable (encode : α → Json) : Option α → Json
  | some value => encode value
  | none => .null

end Json

end ImageCompose
