import ImageCompose.Text.Basic

/-!
# Socket addresses

The text of an internet address with a port: `a.b.c.d:port`, or `[address]:port` for version 6,
where the bracketed address may shorten one run of zero groups to `::`, end in a version 4 address,
and name a scope after `%`. `SocketAddress.parse?` accepts a text that is one address and nothing
else.
-/

namespace ImageCompose.Config

/-- An internet address with a port. -/
inductive SocketAddress
  | v4 (octets : List Nat) (port : Nat)
  /-- Eight groups of 16 bits, a scope and a port. -/
  | v6 (groups : List Nat) (scope : Nat) (port : Nat)
  deriving DecidableEq

namespace SocketAddress

/-- The rest of a text after one given character. -/
def mark? (c : Char) : List Char → Option (List Char)
  | d :: rest => if d = c then some rest else none
  | [] => none

/-- The number at the start of a text: all the digits there, one at least and `most` at most. -/
def number? (base most : Nat) (cs : List Char) : Option (Nat × List Char) :=
  let ds := cs.takeWhile fun c => (Text.digit? base c).isSome
  if ds.length ≤ most then (Text.natural? base ds).map (·, cs.drop ds.length) else none

/-- An octet: up to three digits below 256, without a zero in front. -/
def octet? (cs : List Char) : Option (Nat × List Char) := do
  let (n, rest) ← number? 10 3 cs
  guard (n < 256 ∧ (cs.head? = some '0' → rest.length + 1 = cs.length))
  return (n, rest)

/-- Four octets with points between them. -/
def v4Octets? (cs : List Char) : Option (List Nat × List Char) := do
  let (a, cs) ← octet? cs
  let (b, cs) ← octet? (← mark? '.' cs)
  let (c, cs) ← octet? (← mark? '.' cs)
  let (d, cs) ← octet? (← mark? '.' cs)
  return ([a, b, c, d], cs)

/-- The two groups that four octets fill. -/
def groupsOfOctets : List Nat → List Nat
  | [a, b, c, d] => [a * 256 + b, c * 256 + d]
  | _ => []

/-- A run of at most `room` groups with colons between them, whether it ended in octets, and the
rest of the text. A run that starts with a group has no colon in front. -/
def groups (leading : Bool) : (room : Nat) → List Char → List Nat × Bool × List Char
  | 0, cs => ([], false, cs)
  | room + 1, cs =>
    match if leading then some cs else mark? ':' cs with
    | none => ([], false, cs)
    | some start =>
      match if room = 0 then none else v4Octets? start with
      | some (octets, rest) => (groupsOfOctets octets, true, rest)
      | none =>
        match number? 16 4 start with
        | none => ([], false, cs)
        | some (group, rest) =>
          let (more, octets, rest) := groups false room rest
          (group :: more, octets, rest)

/-- The eight groups of a version 6 address. -/
def v6Groups? (cs : List Char) : Option (List Nat × List Char) :=
  let (head, octets, rest) := groups true 8 cs
  if head.length = 8 then some (head, rest)
  else if octets then none
  else do
    let rest ← mark? ':' (← mark? ':' rest)
    let (tail, _, rest) := groups true (7 - head.length) rest
    return (head ++ List.replicate (8 - head.length - tail.length) 0 ++ tail, rest)

/-- The port after a colon, at the end of the text. -/
def port? (cs : List Char) : Option Nat := do
  let rest ← mark? ':' cs
  let (port, rest) ← number? 10 rest.length rest
  guard (rest = [] ∧ port < 65536)
  return port

/-- The scope after a percent sign; without one it is zero. -/
def scope? : List Char → Option (Nat × List Char)
  | '%' :: rest => do
    let (scope, rest) ← number? 10 rest.length rest
    guard (scope < 4294967296)
    return (scope, rest)
  | cs => some (0, cs)

/-- Reads a text that is one socket address. -/
def parse? (s : String) : Option SocketAddress :=
  match s.toList with
  | '[' :: rest => do
    let (groups, rest) ← v6Groups? rest
    let (scope, rest) ← scope? rest
    let port ← port? (← mark? ']' rest)
    return .v6 groups scope port
  | cs => do
    let (octets, rest) ← v4Octets? cs
    let port ← port? rest
    return .v4 octets port

end SocketAddress

end ImageCompose.Config
