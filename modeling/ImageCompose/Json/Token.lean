import ImageCompose.Binary64.Decimal
import ImageCompose.Json.Basic
import ImageCompose.Text.Basic

/-!
# Tokens of JSON text

`tokens` splits a text into the tokens of JSON. It runs a machine over the characters (`Scan.step`)
that is always between two tokens, in a literal, in a number or in a string. A token that is well
formed and has no value (a lone surrogate, a number beyond the 64-bit floating-point range) is an
`unfitString` or an `unfitNumber`; where the text is no token, the list ends in `bad`.
-/

namespace ImageCompose.Json

/-- A token of JSON text. -/
inductive Token
  | arrayStart
  | arrayEnd
  | objectStart
  | objectEnd
  | comma
  | colon
  | null
  | bool (value : Bool)
  | num (value : Number)
  | str (value : String)
  | unfitNumber
  | unfitString
  /-- Text that is no token; the last one of a list. -/
  | bad

/-- The blanks of JSON. -/
def isBlank (c : Char) : Bool :=
  c == ' ' || c == '\n' || c == '\t' || c == '\r'

/-! ## Numbers -/

/-- The part of a number that was read last. -/
inductive NumberPart
  | minus
  | zero
  | whole
  | point
  | fraction
  | mark
  | sign
  | exponent
  deriving DecidableEq

/-- A number that is being read. -/
structure NumberScan where
  part : NumberPart
  /-- Whether a minus sign stands in front. -/
  negative : Bool
  /-- The digits that count, without the point. -/
  digits : Nat
  /-- The power of ten that scales the digits, without the exponent. -/
  shift : Int
  /-- Whether no more digits of the whole part or of the fraction count. -/
  full : Bool
  /-- Whether the exponent has a minus sign. -/
  exponentNegative : Bool
  exponent : Nat

/-- What a character does to a number. -/
inductive NumberStep
  | more (scan : NumberScan)
  | stop
  | bad

namespace NumberScan

/-- A number of which nothing was read yet. -/
def empty : NumberScan := ⟨.minus, false, 0, 0, false, false, 0⟩

/-- The bound of 64 bits, below which the digits that count must stay. -/
def bound : Nat := 18446744073709551616

/-- Adds a digit to the whole part or the fraction. From the first digit on with which 64 bits no
longer hold the digits, those of the same part do not count; in the whole part each of them still
makes the number ten times as large. -/
def digit (n : NumberScan) (part : NumberPart) (c : Char) : NumberScan :=
  let digits := n.digits * 10 + (c.toNat - 48)
  let counts := !n.full && decide (digits < bound)
  { n with
    part := part
    digits := if counts then digits else n.digits
    shift :=
      if part = .fraction then if counts then n.shift - 1 else n.shift
      else if counts then n.shift else n.shift + 1
    full := !counts }

/-- Adds the point, after which digits count again if they still fit. -/
def point (n : NumberScan) : NumberScan := { n with part := .point, full := false }

/-- Adds a digit to the exponent. -/
def exponentDigit (n : NumberScan) (c : Char) : NumberScan :=
  { n with part := .exponent, exponent := n.exponent * 10 + (c.toNat - 48) }

/-- Reads one more character. A zero in front is the whole of the whole part, and a digit follows
the point, the exponent's letter and each sign. -/
def step (n : NumberScan) (c : Char) : NumberStep :=
  let isMark := c == 'e' || c == 'E'
  match n.part with
  | .minus =>
    if c == '0' then .more (n.digit .zero c)
    else if c.isDigit then .more (n.digit .whole c) else .bad
  | .zero =>
    if c.isDigit then .bad
    else if c == '.' then .more n.point
    else if isMark then .more { n with part := .mark } else .stop
  | .whole =>
    if c.isDigit then .more (n.digit .whole c)
    else if c == '.' then .more n.point
    else if isMark then .more { n with part := .mark } else .stop
  | .point => if c.isDigit then .more (n.digit .fraction c) else .bad
  | .fraction =>
    if c.isDigit then .more (n.digit .fraction c)
    else if isMark then .more { n with part := .mark } else .stop
  | .mark =>
    if c == '+' then .more { n with part := .sign }
    else if c == '-' then .more { n with part := .sign, exponentNegative := true }
    else if c.isDigit then .more (n.exponentDigit c) else .bad
  | .sign => if c.isDigit then .more (n.exponentDigit c) else .bad
  | .exponent => if c.isDigit then .more (n.exponentDigit c) else .stop

/-- The number as a floating-point number, if it is in range. -/
def float? (n : NumberScan) : Option Binary64 :=
  let exponent : Int := if n.exponentNegative then -n.exponent else n.exponent
  Binary64.ofDecimal? n.negative n.digits (n.shift + exponent)

/-- The token of a number that ended. A number without point and exponent is whole if 64 bits hold
it; minus zero is no whole number. -/
def token (n : NumberScan) : Token :=
  let float : Token := match n.float? with
    | some x => .num (.float x)
    | none => .unfitNumber
  match n.part with
  | .zero | .whole =>
    if n.full then float
    else if n.negative then
      if 0 < n.digits ∧ n.digits ≤ 9223372036854775808 then .num (.int (-n.digits)) else float
    else .num (.int n.digits)
  | .fraction | .exponent => float
  | .minus | .point | .mark | .sign => .bad

end NumberScan

/-! ## Strings -/

/-- Where in a string the scan is. -/
inductive StringPart
  | plain
  | escape
  /-- In a hexadecimal escape of which `count` digits were read. -/
  | hex (count value : Nat)

/-- A string that is being read. -/
structure StringScan where
  read : List Char
  /-- Whether every escape stands for a character. -/
  fit : Bool
  /-- A leading surrogate that waits for its partner. -/
  lead : Option Nat
  part : StringPart

namespace StringScan

/-- A string of which nothing was read yet. -/
def empty : StringScan := ⟨[], true, none, .plain⟩

/-- Adds a character. -/
def push (s : StringScan) (c : Char) : StringScan :=
  { s with read := c :: s.read, part := .plain }

/-- A leading surrogate that is still waiting has no partner. -/
def unpair (s : StringScan) : StringScan :=
  { s with fit := s.fit && s.lead.isNone, lead := none }

/-- Adds what a hexadecimal escape stands for: a character, or half of one. -/
def unit (s : StringScan) (value : Nat) : StringScan :=
  let isLead := 0xD800 ≤ value && value ≤ 0xDBFF
  let isTrail := 0xDC00 ≤ value && value ≤ 0xDFFF
  match s.lead with
  | some lead =>
    if isTrail then
      { s with lead := none }.push
        (Char.ofNat (0x10000 + (lead - 0xD800) * 0x400 + (value - 0xDC00)))
    else { s with fit := false, lead := none, part := .plain }
  | none =>
    if isLead then { s with lead := some value, part := .plain }
    else if isTrail then { s with fit := false, part := .plain }
    else s.push (Char.ofNat value)

/-- The character that a one-letter escape stands for. -/
def escaped? : Char → Option Char
  | '"' => some '"'
  | '\\' => some '\\'
  | '/' => some '/'
  | 'b' => some '\x08'
  | 'f' => some '\x0c'
  | 'n' => some '\n'
  | 'r' => some '\r'
  | 't' => some '\t'
  | _ => none

/-- The token of a string that ended. -/
def token (s : StringScan) : Token :=
  if s.fit && s.lead.isNone then .str (String.ofList s.read.reverse) else .unfitString

end StringScan

/-! ## The scan -/

/-- What the scan is in the middle of. -/
inductive Scan
  | between
  /-- In a literal of which some characters are still to come. -/
  | literal (rest : List Char) (token : Token)
  | number (scan : NumberScan)
  | string (scan : StringScan)
  | failed

namespace Scan

/-- Reads a character that stands between two tokens. -/
def start (c : Char) : List Token × Scan :=
  match c with
  | '[' => ([.arrayStart], .between)
  | ']' => ([.arrayEnd], .between)
  | '\x7b' => ([.objectStart], .between)
  | '\x7d' => ([.objectEnd], .between)
  | ',' => ([.comma], .between)
  | ':' => ([.colon], .between)
  | '"' => ([], .string .empty)
  | 'n' => ([], .literal ['u', 'l', 'l'] .null)
  | 't' => ([], .literal ['r', 'u', 'e'] (.bool true))
  | 'f' => ([], .literal ['a', 'l', 's', 'e'] (.bool false))
  | '-' => ([], .number { NumberScan.empty with negative := true })
  | c =>
    if isBlank c then ([], .between)
    else match NumberScan.empty.step c with
      | .more n => ([], .number n)
      | _ => ([.bad], .failed)

/-- Reads a character of a string. -/
def stringStep (s : StringScan) (c : Char) : List Token × Scan :=
  match s.part with
  | .plain =>
    if c == '\\' then ([], .string { s with part := .escape })
    else if c == '"' then ([s.token], .between)
    else if c.toNat < 0x20 then ([.bad], .failed)
    else ([], .string (s.unpair.push c))
  | .escape =>
    if c == 'u' then ([], .string { s with part := .hex 0 0 })
    else match StringScan.escaped? c with
      | some d => ([], .string (s.unpair.push d))
      | none => ([.bad], .failed)
  | .hex count value =>
    match Text.digit? 16 c with
    | none => ([.bad], .failed)
    | some d =>
      if count = 3 then ([], .string (s.unit (value * 16 + d)))
      else ([], .string { s with part := .hex (count + 1) (value * 16 + d) })

/-- Reads one character: the tokens that end with it or before it, and the scan after it. -/
def step (scan : Scan) (c : Char) : List Token × Scan :=
  match scan with
  | .between => start c
  | .literal [] token =>
    let (tokens, scan) := start c
    (token :: tokens, scan)
  | .literal (d :: rest) token =>
    if c = d then
      if rest.isEmpty then ([token], .between) else ([], .literal rest token)
    else ([.bad], .failed)
  | .number n =>
    match n.step c with
    | .more n => ([], .number n)
    | .stop =>
      let (tokens, scan) := start c
      (n.token :: tokens, scan)
    | .bad => ([.bad], .failed)
  | .string s => stringStep s c
  | .failed => ([], .failed)

/-- The tokens that end with the text. -/
def finish : Scan → List Token
  | .between | .failed => []
  | .number n => [n.token]
  | .literal _ _ | .string _ => [.bad]

end Scan

/-- The tokens of a text. -/
def tokens (s : String) : List Token :=
  let (reversed, scan) := s.toList.foldl
    (fun (reversed, scan) c =>
      let (new, scan) := Scan.step scan c
      (new.reverse ++ reversed, scan))
    (([] : List Token), Scan.between)
  reversed.reverse ++ scan.finish

end ImageCompose.Json
