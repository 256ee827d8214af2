import ImageCompose.Json.Printer
import ImageCompose.Json.Token
import ImageCompose.Proofs.Text.Numeral
import ImageCompose.Proofs.Uuid

/-!
# Scanning printed text

What the printer writes for a literal, a whole number or a string is scanned as the one token that
stands for it, whatever text comes after it (`Scan.lex_quote`, `Scan.lex_int`). After a number that
has to be a text that ends it (`Scan.EndsNumber`). All is said of `Scan.lex`, the tokens from a
state of the scan on, which `tokens` is an instance of.
-/

namespace ImageCompose.Json

namespace Scan

/-- The tokens of a text from a state of the scan on. -/
def lex (scan : Scan) : List Char → List Token
  | [] => scan.finish
  | c :: cs => (scan.step c).1 ++ lex (scan.step c).2 cs

/-- The tokens of a text are those of a scan that starts between tokens. -/
theorem tokens_eq_lex (s : String) : tokens s = lex .between s.toList := by
  have from_any : ∀ (cs : List Char) (reversed : List Token) (scan : Scan),
      let last := cs.foldl (fun read c =>
        ((read.2.step c).1.reverse ++ read.1, (read.2.step c).2)) (reversed, scan)
      last.1.reverse ++ last.2.finish = reversed.reverse ++ lex scan cs := by
    intro cs
    induction cs with
    | nil => exact fun _ _ => rfl
    | cons c cs ih =>
      intro reversed scan
      simpa [lex] using ih ((scan.step c).1.reverse ++ reversed) (scan.step c).2
  exact from_any s.toList [] .between

/-! ## Strings -/

/-- A string of which some characters were read, last first. -/
def inString (read : List Char) : Scan := .string ⟨read, true, none, .plain⟩

/-- A string of which a hexadecimal escape is being read. -/
def inEscape (read : List Char) (count value : Nat) : Scan :=
  .string ⟨read, true, none, .hex count value⟩

/-- A hexadecimal digit is added to an escape that takes more. -/
theorem step_inEscape (read : List Char) (count value : Nat) {d : Nat} (more : count ≠ 3)
    (digit : d < 16) : (inEscape read count value).step (Text.hexDigit d) =
      ([], inEscape read (count + 1) (value * 16 + d)) := by
  simp [inEscape, Scan.step, stringStep, Text.digit?_hexDigit d digit, more]

/-- The last digit ends the escape of a control character. -/
theorem step_inEscape_last (read : List Char) {d : Nat} (value : Nat) (digit : d < 16)
    (plain : value * 16 + d < 0x20) : (inEscape read 3 value).step (Text.hexDigit d) =
      ([], inString (Char.ofNat (value * 16 + d) :: read)) := by
  have no_lead : ¬(0xD800 ≤ value * 16 + d) := by omega
  have no_trail : ¬(0xDC00 ≤ value * 16 + d) := by omega
  simp [inEscape, inString, Scan.step, stringStep, Text.digit?_hexDigit d digit, StringScan.unit,
    StringScan.push, no_lead, no_trail]

/-- A control character is read back from its four hexadecimal digits. -/
theorem lex_hexDigits (read : List Char) {c : Char} (control : c.toNat < 0x20) (cs : List Char) :
    lex (inEscape read 0 0) (Text.hexDigits 4 c.toNat ++ cs) = lex (inString (c :: read)) cs := by
  obtain ⟨n, hn⟩ : ∃ n, c.toNat = n := ⟨_, rfl⟩
  rw [hn] at control ⊢
  have spelled : Text.hexDigits 4 n = [Text.hexDigit 0, Text.hexDigit 0, Text.hexDigit (n / 16),
      Text.hexDigit (n % 16)] := by
    have third : n / 16 % 16 = n / 16 := by omega
    have high : n / 16 / 16 = 0 := by omega
    simp [Text.hexDigits, Text.nibbles, third, high]
  have first : (inEscape read 0 0).step (Text.hexDigit 0) = ([], inEscape read 1 0) :=
    step_inEscape read 0 0 (by decide) (by decide)
  have second : (inEscape read 1 0).step (Text.hexDigit 0) = ([], inEscape read 2 0) :=
    step_inEscape read 1 0 (by decide) (by decide)
  have third := step_inEscape read 2 0 (by decide) (by omega : n / 16 < 16)
  have fourth := step_inEscape_last read (0 * 16 + n / 16) (by omega : n % 16 < 16) (by omega)
  have value : (0 * 16 + n / 16) * 16 + n % 16 = n := by omega
  rw [value] at fourth
  rw [spelled]
  simp only [List.cons_append, List.nil_append, lex, first, second, third, fourth]
  rw [← hn, Char.ofNat_toNat]

/-- A character is read back from its escape. -/
theorem lex_escape (read : List Char) (c : Char) (cs : List Char) :
    lex (inString read) (escape c ++ cs) = lex (inString (c :: read)) cs := by
  unfold escape
  split
  case h_8 _ quote backslash _ _ _ _ _ =>
    split
    · next control => exact lex_hexDigits read control cs
    · next plain =>
      have no_quote : c ≠ '"' := quote
      have no_backslash : c ≠ '\\' := backslash
      have step : (inString read).step c = ([], inString (c :: read)) := by
        simp [inString, Scan.step, stringStep, no_quote, no_backslash, plain, StringScan.unpair,
          StringScan.push]
      simp [lex, step]
  all_goals rfl

/-- A string is scanned as itself. -/
theorem lex_quote (s : String) (rest : List Char) :
    lex .between ((quote s).toList ++ rest) = .str s :: lex .between rest := by
  have body : ∀ (cs read : List Char), lex (inString read) (cs.flatMap escape ++ '"' :: rest) =
      .str (String.ofList (read.reverse ++ cs)) :: lex .between rest := by
    intro cs
    induction cs with
    | nil =>
      intro read
      simp [lex, inString, Scan.step, stringStep, StringScan.token]
    | cons c cs ih =>
      intro read
      rw [List.flatMap_cons, List.append_assoc, lex_escape, ih]
      simp
  have text : (quote s).toList ++ rest = '"' :: (s.toList.flatMap escape ++ '"' :: rest) := by
    simp [quote]
  rw [text]
  exact (body s.toList []).trans (by simp)

/-! ## Whole numbers -/

/-- A number of which digits without point and exponent were read. -/
def inNumber (negative : Bool) (part : NumberPart) (digits : Nat) : Scan :=
  .number ⟨part, negative, digits, 0, false, false, 0⟩

/-- A digit that 64 bits still hold is added to a number. -/
theorem step_inNumber (negative : Bool) (digits : Nat) {d : Nat} (digit : d < 10)
    (fits : digits * 10 + d < NumberScan.bound) :
    (inNumber negative .whole digits).step (Nat.digitChar d) =
      ([], inNumber negative .whole (digits * 10 + d)) := by
  have is_digit : (Nat.digitChar d).isDigit := by simp [Nat.isDigit_digitChar, digit]
  simp [inNumber, Scan.step, NumberScan.step, is_digit, NumberScan.digit,
    Nat.toNat_digitChar_sub_48_of_lt_ten digit, fits]

/-- A scan that the first digit of a number other than zero puts into that number. -/
def Begins (negative : Bool) (scan : Scan) : Prop :=
  ∀ d, 0 < d → d < 10 → scan.step (Nat.digitChar d) = ([], inNumber negative .whole d)

/-- A digit that is not zero begins a number. -/
theorem begins_between : Begins false .between := by
  intro d positive digit
  interval_cases d <;> rfl

/-- So it does after a minus. -/
theorem begins_minus : Begins true (inNumber true .minus 0) := by
  intro d positive digit
  interval_cases d <;> rfl

/-- The digits of a number that is not zero and that 64 bits hold are read as that number. -/
theorem lex_toDigits {negative : Bool} {scan : Scan} (begins : Begins negative scan) {n : Nat}
    (positive : 0 < n) (fits : n < NumberScan.bound) (cs : List Char) :
    lex scan (Nat.toDigits 10 n ++ cs) = lex (inNumber negative .whole n) cs := by
  induction n using Nat.strongRecOn generalizing cs with
  | ind n ih =>
    rw [Nat.toDigits_eq_if (by decide)]
    split
    · next small => simp [lex, begins n positive small]
    · next large =>
      have parts : n / 10 * 10 + n % 10 = n := Nat.div_add_mod' n 10
      have last := step_inNumber negative (n / 10) (Nat.mod_lt n (by decide))
        (by rwa [parts])
      rw [List.append_assoc, ih (n / 10) (by omega) (by omega) (by omega), List.singleton_append,
        lex, last, parts]
      rfl

/-- A text that ends a number before it. -/
def EndsNumber (rest : List Char) : Prop :=
  ∀ c ∈ rest.head?, c = ',' ∨ c = ']' ∨ c = '\x7d'

/-- A number is over where a text ends it. -/
theorem lex_inNumber (negative : Bool) {part : NumberPart} (whole : part = .zero ∨ part = .whole)
    (digits : Nat) {rest : List Char} (ends : EndsNumber rest) :
    lex (inNumber negative part digits) rest =
      (NumberScan.mk part negative digits 0 false false 0).token :: lex .between rest := by
  cases rest with
  | nil => rfl
  | cons c cs =>
    rcases ends c rfl with rfl | rfl | rfl <;> rcases whole with rfl | rfl <;> rfl

/-- A whole number that 64 bits hold, signed or unsigned. -/
def Holds64 (n : Int) : Prop := -9223372036854775808 ≤ n ∧ n < 18446744073709551616

/-- A whole number is scanned as itself. -/
theorem lex_int {n : Int} (fits : Holds64 n) {rest : List Char} (ends : EndsNumber rest) :
    lex .between ((toString n).toList ++ rest) = .num (.int n) :: lex .between rest := by
  obtain ⟨least, most⟩ := fits
  rw [Int.toString_eq_repr, Int.repr_eq_if]
  split
  · next natural =>
    obtain ⟨m, rfl⟩ := Int.eq_ofNat_of_zero_le natural
    rw [Int.toNat_natCast, Nat.toList_repr]
    obtain rfl | positive := Nat.eq_zero_or_pos m
    · exact lex_inNumber false (.inl rfl) 0 ends
    · rw [lex_toDigits begins_between positive (by simp [NumberScan.bound]; omega),
        lex_inNumber false (.inr rfl) m ends]
      rfl
  · next negative =>
    obtain ⟨m, hm⟩ : ∃ m : Nat, m = (-n).toNat := ⟨_, rfl⟩
    have text : ("-" ++ (-n).toNat.repr).toList ++ rest =
        '-' :: (Nat.toDigits 10 m ++ rest) := by
      simp [hm, Nat.toList_repr]
    have minus : lex .between ('-' :: (Nat.toDigits 10 m ++ rest)) =
        lex (inNumber true .minus 0) (Nat.toDigits 10 m ++ rest) := rfl
    rw [text, minus, lex_toDigits begins_minus (by omega) (by simp [NumberScan.bound]; omega),
      lex_inNumber true (.inr rfl) m ends]
    have value : -(m : Int) = n := by omega
    have in_range : 0 < m ∧ m ≤ 9223372036854775808 := by omega
    simp [NumberScan.token, in_range, value]

end Scan

end ImageCompose.Json
