import ImageCompose.Binary64.Decimal
import ImageCompose.Json.Basic
import ImageCompose.Text.Basic

/-!
# Compact JSON text

`Json.render` writes a value without blanks. A floating-point number has its shortest digits and
always a point or an exponent, so that it is not read as a whole number. Strings escape the quote,
the backslash and the control characters and leave every other character as it is.
-/

namespace ImageCompose

/-- The text of digits times a power of ten: positional where the point stands at most sixteen
places after the first digit and at most four zeros before it, and with an exponent otherwise. -/
def decimalText (digits : Nat) (exponent : Int) : String :=
  let ds := Nat.toDigits 10 digits
  let zeros (n : Int) := List.replicate n.toNat '0'
  let point : Int := ds.length + exponent
  if 0 ≤ exponent ∧ point ≤ 16 then String.ofList (ds ++ zeros exponent) ++ ".0"
  else if 0 < point ∧ point ≤ 16 then
    String.ofList (ds.take point.toNat ++ '.' :: ds.drop point.toNat)
  else if -5 < point ∧ point ≤ 0 then "0." ++ String.ofList (zeros (-point) ++ ds)
  else
    let fraction := if ds.length ≤ 1 then [] else '.' :: ds.drop 1
    String.ofList (ds.take 1 ++ fraction) ++ "e" ++ toString (point - 1)

/-- The text of a floating-point number. -/
def Binary64.render (x : Binary64) : String :=
  let (digits, exponent) := x.shortest
  (if x.negative then "-" else "") ++ decimalText digits exponent

/-- The text of a number. -/
def Number.render : Number → String
  | .int n => toString n
  | .float x => x.render

namespace Json

/-- How a character stands in a string: the quote, the backslash and control characters are
escaped. -/
def escape (c : Char) : List Char :=
  match c with
  | '"' => ['\\', '"']
  | '\\' => ['\\', '\\']
  | '\n' => ['\\', 'n']
  | '\r' => ['\\', 'r']
  | '\t' => ['\\', 't']
  | '\x08' => ['\\', 'b']
  | '\x0c' => ['\\', 'f']
  | c => if c.toNat < 0x20 then '\\' :: 'u' :: Text.hexDigits 4 c.toNat else [c]

/-- A string in quotes. -/
def quote (s : String) : String :=
  "\"" ++ String.ofList (s.toList.flatMap escape) ++ "\""

mutual

/-- The compact text of a value. -/
def render : Json → String
  | .null => "null"
  | .bool b => if b then "true" else "false"
  | .num n => n.render
  | .str s => quote s
  | .arr items => "[" ++ String.intercalate "," (renderItems items) ++ "]"
  | .obj members => "\x7b" ++ String.intercalate "," (renderMembers members) ++ "\x7d"

/-- The texts of the items of an array. -/
def renderItems : List Json → List String
  | [] => []
  | item :: rest => render item :: renderItems rest

/-- The texts of the members of an object. -/
def renderMembers : List (String × Json) → List String
  | [] => []
  | (name, value) :: rest => (quote name ++ ":" ++ render value) :: renderMembers rest
end

end Json

end ImageCompose
