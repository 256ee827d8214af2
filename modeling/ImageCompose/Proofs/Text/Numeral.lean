import ImageCompose.Text.Basic
import Mathlib.Data.Nat.Digits.Lemmas

/-!
# Decimal numerals are read back

The decimal digits of a number stand for the number (`Text.natural?_toDigits`), so a number that is
written is read as itself wherever the limit of the reader admits it.
-/

namespace ImageCompose.Text

/-- A decimal digit is read as its value. -/
theorem digit?_digitChar : ∀ d < 10, digit? 10 (Nat.digitChar d) = some d := by
  decide

/-- The digits of a number are read one by one as the number. -/
theorem foldlM_toDigits (n : Nat) :
    (Nat.toDigits 10 n).foldlM (fun n c => (digit? 10 c).map (n * 10 + ·)) 0 = some n := by
  induction n using Nat.strongRecOn with
  | ind n ih =>
    rw [Nat.toDigits_eq_if (by decide)]
    split
    · next small => simp [digit?_digitChar n small]
    · next large =>
      have last := digit?_digitChar (n % 10) (Nat.mod_lt _ (by decide))
      have parts : n / 10 * 10 + n % 10 = n := Nat.div_add_mod' n 10
      rw [List.foldlM_append, ih (n / 10) (by omega)]
      simp [last, parts]

/-- The digits of a number are read as the number. -/
theorem natural?_toDigits (n : Nat) : natural? 10 (Nat.toDigits 10 n) = some n := by
  unfold natural?
  split
  · next empty => exact absurd empty Nat.toDigits_ne_nil
  · exact foldlM_toDigits n

/-- A number below the limit is read as it is written. -/
theorem unsigned?_toString {limit n : Nat} (h : n < limit) :
    unsigned? limit (toString n) = some n := by
  have digits : (toString n).toList = Nat.toDigits 10 n := Nat.toList_repr
  have no_sign : ∀ rest, Nat.toDigits 10 n ≠ '+' :: rest := by
    intro rest signed
    have member : '+' ∈ Nat.toDigits 10 n := signed ▸ List.mem_cons_self ..
    exact absurd (Nat.isDigit_of_mem_toDigits (by decide) (by decide) member) (by decide)
  unfold unsigned?
  rw [digits]
  split
  · next rest signed => exact absurd signed (no_sign rest)
  · simp [natural?_toDigits, h]

end ImageCompose.Text
