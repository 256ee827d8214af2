/-!
# White space and numerals

The characters with the Unicode property `White_Space` (`isBlank`), and texts without them at
their ends (`trim`): names of distributions and the tenant channel are compared trimmed.

Reading of digits in a base (`digit?`, `natural?`), of whole numbers as settings and error ids write
them (`unsigned?`, `signed?`), and the writing of hexadecimal digits (`hexDigits`).
-/

namespace ImageCompose.Text

/-! ## White space -/

/-- The characters with the Unicode property `White_Space`. -/
def isBlank (c : Char) : Bool :=
  let n := c.toNat
  (0x09 ≤ n && n ≤ 0x0D) || n == 0x20 || n == 0x85 || n == 0xA0 || n == 0x1680 ||
    (0x2000 ≤ n && n ≤ 0x200A) || n == 0x2028 || n == 0x2029 || n == 0x202F || n == 0x205F ||
    n == 0x3000

/-- A list of characters without the white space at its start. -/
def dropBlanks (cs : List Char) : List Char :=
  cs.dropWhile isBlank

/-- A text without the white space at both ends. -/
def trim (s : String) : String :=
  String.ofList (dropBlanks (dropBlanks s.toList).reverse).reverse

/-! ## Numerals -/

/-- The value of a digit of a base up to 36; letters of either case stand for ten and above. -/
def digit? (base : Nat) (c : Char) : Option Nat :=
  let value? :=
    if '0' ≤ c ∧ c ≤ '9' then some (c.toNat - 48)
    else if 'a' ≤ c ∧ c ≤ 'z' then some (c.toNat - 87)
    else if 'A' ≤ c ∧ c ≤ 'Z' then some (c.toNat - 55)
    else none
  value?.filter (· < base)

/-- The number that one or more digits of a base stand for. -/
def natural? (base : Nat) : List Char → Option Nat
  | [] => none
  | cs => cs.foldlM (fun n c => (digit? base c).map (n * base + ·)) 0

/-- A decimal number below a limit; one plus sign and leading zeros are allowed. -/
def unsigned? (limit : Nat) (s : String) : Option Nat :=
  let digits := match s.toList with
    | '+' :: rest => rest
    | cs => cs
  (natural? 10 digits).filter (· < limit)

/-- A decimal number with an optional sign. -/
def signed? (s : String) : Option Int :=
  match s.toList with
  | '+' :: rest => (natural? 10 rest).map Int.ofNat
  | '-' :: rest => (natural? 10 rest).map (fun n => -Int.ofNat n)
  | cs => (natural? 10 cs).map Int.ofNat

/-- The lower-case hexadecimal digit for a value below sixteen. -/
def hexDigit (n : Nat) : Char :=
  if n < 10 then Char.ofNat (48 + n) else Char.ofNat (87 + n)

/-- The values of the last digits of a number in base sixteen, from the last one on. -/
def nibbles : (count n : Nat) → List Nat
  | 0, _ => []
  | count + 1, n => n % 16 :: nibbles count (n / 16)

/-- A number in so many hexadecimal digits; what does not fit is dropped in front. -/
def hexDigits (count n : Nat) : List Char :=
  ((nibbles count n).map hexDigit).reverse

/-- A number in decimal digits with zeros in front of it up to a width. -/
def padded (width n : Nat) : String :=
  let digits := toString n
  String.ofList (List.replicate (width - digits.length) '0') ++ digits

@[simp] theorem length_nibbles (count n : Nat) : (nibbles count n).length = count := by
  induction count generalizing n with
  | zero => rfl
  | succ count ih => simp [nibbles, ih]

@[simp] theorem length_hexDigits (count n : Nat) : (hexDigits count n).length = count := by
  simp [hexDigits]

end ImageCompose.Text
