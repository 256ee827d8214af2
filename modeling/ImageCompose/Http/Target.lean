import ImageCompose.Http.Message

/-!
# Request targets

What a request asks for: a path with an optional query, the same after a scheme and an authority, an
authority alone, or an asterisk. `path?` gives the path that is routed, and nothing for a text that
is no target. `percentDecode?` reads a part of a path.
-/

namespace ImageCompose.Http

/-- The characters of a path. Some that should be encoded are let through. -/
def isPathChar (c : Char) : Bool :=
  let n := c.toNat
  n == 0x21 || n == 0x22 || (0x24 ≤ n && n ≤ 0x3B) || n == 0x3D || (0x40 ≤ n && n ≤ 0x5F) ||
    (0x61 ≤ n && n ≤ 0x7E) || 0x80 ≤ n

/-- The characters of a query. -/
def isQueryChar (c : Char) : Bool :=
  let n := c.toNat
  n == 0x21 || (0x24 ≤ n && n ≤ 0x3B) || n == 0x3D || (0x3F ≤ n && n ≤ 0x7E) || 0x80 ≤ n

/-- The path of a path with an optional query and an optional fragment; an empty path is a slash. -/
def pathOnly? (cs : List Char) : Option String :=
  let path := cs.takeWhile fun c => c ≠ '?' && c ≠ '#'
  let query := match cs.drop path.length with
    | '?' :: rest => rest.takeWhile (· ≠ '#')
    | _ => []
  if path.all isPathChar && query.all isQueryChar then
    some (if path.isEmpty then "/" else String.ofList path)
  else none

/-- The characters of a scheme. -/
def isSchemeChar (c : Char) : Bool :=
  c.isAlphanum || c == '+' || c == '-' || c == '.'

/-- The characters of an authority without a meaning of their own. -/
def isAuthorityChar (c : Char) : Bool :=
  c.isAlphanum || "!$&'()*+,-.;=_~".toList.contains c

/-- What matters of the part of an authority that was read. -/
structure AuthorityScan where
  /-- The colons of the part that is being read: the user, the brackets, or the rest. -/
  colons : Nat := 0
  opened : Bool := false
  closed : Bool := false
  /-- Whether the part that is being read has a percent sign. -/
  percent : Bool := false
  /-- Whether the last character ended the user. -/
  atSign : Bool := false

namespace AuthorityScan

/-- The number of colons that a part may have. -/
def colonLimit : Nat := 8

/-- Reads one character. An `@` ends a user and a closing bracket an address, and what stood in
them counts no more. -/
def step (a : AuthorityScan) (c : Char) : Option AuthorityScan :=
  let a' := { a with atSign := false }
  if c = ':' then if a.colons < colonLimit then some { a' with colons := a.colons + 1 } else none
  else if c = '[' then if a.percent || a.opened then none else some { a' with opened := true }
  else if c = ']' then
    if a.opened && !a.closed then some { a' with closed := true, colons := 0, percent := false }
    else none
  else if c = '@' then some { a with colons := 0, percent := false, atSign := true }
  else if c = '%' then some { a' with percent := true }
  else if isAuthorityChar c then some a'
  else none

/-- Whether an authority may end here: brackets are paired, a host without percent signs stands
after the user, and at most one colon after the brackets. -/
def isEnd (a : AuthorityScan) : Bool :=
  a.opened == a.closed && a.colons ≤ 1 && !a.atSign && !a.percent

end AuthorityScan

/-- Whether a text is an authority: perhaps a user before an `@`, and a host with at most one colon
outside of brackets and no percent sign. -/
def isAuthority (cs : List Char) : Bool :=
  !cs.isEmpty && (cs.foldlM AuthorityScan.step {}).any (·.isEnd)

/-- The length that a scheme may have. -/
def schemeLimit : Nat := 64

/-- The part of a text after a scheme, which may be empty. -/
def afterScheme? (cs : List Char) : Option (List Char) :=
  let scheme := cs.takeWhile isSchemeChar
  match cs.drop scheme.length with
  | ':' :: '/' :: '/' :: rest => if scheme.length ≤ schemeLimit then some rest else none
  | _ => none

/-- The part of a text after an authority. -/
def afterAuthority? (cs : List Char) : Option (List Char) :=
  let authority := cs.takeWhile fun c => c ≠ '/' && c ≠ '?' && c ≠ '#'
  if isAuthority authority then some (cs.drop authority.length) else none

/-- The path of a target. -/
def path? (target : String) : Option String :=
  match target.toList with
  | [] => none
  | ['*'] => some "*"
  | '/' :: cs => pathOnly? ('/' :: cs)
  | cs =>
    match afterScheme? cs with
    | some rest => (afterAuthority? rest).bind pathOnly?
    | none => if isAuthority cs then some "" else none

/-- The target of a request for an address, without scheme and authority. -/
def originForm? (url : String) : Option String :=
  (afterScheme? url.toList).bind fun rest => (afterAuthority? rest).map String.ofList

/-- The length that a target may have. -/
def targetLimit : Nat := 65534

namespace Request

/-- Whether a request can be sent at all. -/
def isValid (r : Request) : Bool :=
  isToken r.method && (path? r.target).isSome && r.target.utf8ByteSize ≤ targetLimit &&
    r.headers.all fun (name, value) => isToken name && isHeaderValue value

end Request

/-- The bytes that a text with percent signs stands for. A percent sign without two hexadecimal
digits after it stands for itself. -/
def percentBytes : List Char → List UInt8
  | '%' :: a :: b :: rest =>
    match hex? a, hex? b with
    | some h, some l => UInt8.ofNat (h * 16 + l) :: percentBytes rest
    | _, _ => '%'.toNat.toUInt8 :: percentBytes (a :: b :: rest)
  | c :: rest => (String.singleton c).toUTF8.toList ++ percentBytes rest
  | [] => []
where
  hex? (c : Char) : Option Nat :=
    if '0' ≤ c ∧ c ≤ '9' then some (c.toNat - 48)
    else if 'a' ≤ c ∧ c ≤ 'f' then some (c.toNat - 87)
    else if 'A' ≤ c ∧ c ≤ 'F' then some (c.toNat - 55)
    else none

/-- The text that a part of a path stands for, unless its bytes are none. Without a percent sign it
stands for itself. -/
def percentDecode? (s : String) : Option String :=
  if s.toList.contains '%' then String.fromUTF8? ⟨(percentBytes s.toList).toArray⟩ else some s

end ImageCompose.Http
