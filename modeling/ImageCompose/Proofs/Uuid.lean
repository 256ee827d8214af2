import ImageCompose.Uuid
import Mathlib.Tactic.Ring

/-!
# Identifiers are read back as they are written

The digits of a number stand for the number (`Text.natural?_hexDigits`), and hyphens are taken out
where they were put in (`Uuid.ofHyphenated?_hyphenate`), so an identifier as it is written is read
as that identifier (`Uuid.parse?_render`).
-/

namespace ImageCompose

namespace Text

/-- A hexadecimal digit is read as its value. -/
theorem digit?_hexDigit : ∀ d < 16, digit? 16 (hexDigit d) = some d := by
  decide

/-- The digits of a number are read, after others, as the number they make with those. -/
theorem foldlM_hexDigits (count n before : Nat) :
    (hexDigits count n).foldlM (fun n c => (digit? 16 c).map (n * 16 + ·)) before =
      some (before * 16 ^ count + n % 16 ^ count) := by
  induction count generalizing n with
  | zero => simp [hexDigits, nibbles, Nat.mod_one]
  | succ count ih =>
    have split : hexDigits (count + 1) n = hexDigits count (n / 16) ++ [hexDigit (n % 16)] := by
      simp [hexDigits, nibbles]
    have last : digit? 16 (hexDigit (n % 16)) = some (n % 16) :=
      digit?_hexDigit _ (Nat.mod_lt _ (by decide))
    have parts : n % 16 ^ (count + 1) = n % 16 + 16 * (n / 16 % 16 ^ count) := by
      rw [pow_succ', Nat.mod_mul]
    rw [split, List.foldlM_append, ih]
    simp only [Option.bind_eq_bind, Option.bind_some, List.foldlM_cons, List.foldlM_nil, last,
      Option.map_some, Option.pure_def, Option.some.injEq]
    rw [parts, pow_succ']
    ring

/-- The hexadecimal digits of a number that they suffice for are read as the number. -/
theorem natural?_hexDigits {count n : Nat} (pos : 0 < count) (h : n < 16 ^ count) :
    natural? 16 (hexDigits count n) = some n := by
  have fold := foldlM_hexDigits count n 0
  rw [Nat.mod_eq_of_lt h, zero_mul, zero_add] at fold
  unfold natural?
  split
  · next empty =>
    have := congrArg List.length empty
    simp at this
    omega
  · exact fold

end Text

namespace Uuid

@[simp] theorem length_digits (u : Uuid) : u.digits.length = 32 :=
  Text.length_hexDigits ..

/-- The 32 digits of an identifier are read as the identifier. -/
theorem ofDigits?_digits (u : Uuid) : ofDigits? u.digits = some u := by
  have bound : u.bits.toNat < 16 ^ 32 := u.bits.isLt
  have read : Text.natural? 16 u.digits = some u.bits.toNat :=
    Text.natural?_hexDigits (by decide) bound
  simp [ofDigits?, read, ofNat]

/-- Groups of digits are taken out from between their hyphens. -/
theorem ofHyphenated?_groups {a b c d e : List Char} (ha : a.length = 8) (hb : b.length = 4)
    (hc : c.length = 4) (hd : d.length = 4) (he : e.length = 12) :
    ofHyphenated? (a ++ '-' :: b ++ '-' :: c ++ '-' :: d ++ '-' :: e) =
      ofDigits? (a ++ b ++ c ++ d ++ e) := by
  have marks : (a ++ '-' :: b ++ '-' :: c ++ '-' :: d ++ '-' :: e).length = 36 ∧
      (a ++ '-' :: b ++ '-' :: c ++ '-' :: d ++ '-' :: e)[8]? = some '-' ∧
      (a ++ '-' :: b ++ '-' :: c ++ '-' :: d ++ '-' :: e)[13]? = some '-' ∧
      (a ++ '-' :: b ++ '-' :: c ++ '-' :: d ++ '-' :: e)[18]? = some '-' ∧
      (a ++ '-' :: b ++ '-' :: c ++ '-' :: d ++ '-' :: e)[23]? = some '-' := by
    simp only [List.append_assoc, List.cons_append]
    refine ⟨by simp [ha, hb, hc, hd, he], ?_, ?_, ?_, ?_⟩ <;>
      simp (disch := omega) only [List.getElem?_append_right, List.getElem?_cons_succ, ha, hb, hc,
        hd] <;>
      rfl
  rw [ofHyphenated?, if_pos marks]
  simp (disch := omega) [List.drop_append, List.drop_of_length_le, ha, hb, hc, hd]

/-- Hyphens are taken out where they were put in. -/
theorem ofHyphenated?_hyphenate {ds : List Char} (h : ds.length = 32) :
    ofHyphenated? (hyphenate ds) = ofDigits? ds := by
  have joined : ds.take 8 ++ (ds.drop 8).take 4 ++ (ds.drop 12).take 4 ++ (ds.drop 16).take 4 ++
      ds.drop 20 = ds := by
    rw [← List.take_add, ← List.take_add, ← List.take_add, List.take_append_drop]
  rw [hyphenate, ofHyphenated?_groups (by simp [h]) (by simp [h]) (by simp [h]) (by simp [h])
    (by simp [h]), joined]

/-- Every digit of an identifier is a hexadecimal one. -/
theorem mem_digits {u : Uuid} {c : Char} (h : c ∈ u.digits) : ∃ d < 16, Text.hexDigit d = c := by
  simp only [digits, Text.hexDigits, List.mem_reverse, List.mem_map] at h
  obtain ⟨d, hd, same⟩ := h
  have small : ∀ count n, ∀ d ∈ Text.nibbles count n, d < 16 := by
    intro count
    induction count with
    | zero => simp [Text.nibbles]
    | succ count ih =>
      intro n d hd
      rcases List.mem_cons.1 hd with rfl | hd
      · exact Nat.mod_lt _ (by decide)
      · exact ih _ _ hd
  exact ⟨d, small _ _ d hd, same⟩

/-- An identifier is written with hyphens and digits. -/
theorem mem_render {u : Uuid} {c : Char} (h : c ∈ u.render.toList) :
    c = '-' ∨ ∃ d < 16, Text.hexDigit d = c := by
  have text : u.render.toList = hyphenate u.digits := by simp [render]
  rw [text] at h
  simp only [hyphenate, List.mem_append, List.mem_cons] at h
  have of_take : ∀ {m n : Nat}, c ∈ (u.digits.drop m).take n → ∃ d < 16, Text.hexDigit d = c :=
    fun h => mem_digits (List.mem_of_mem_drop (List.mem_of_mem_take h))
  rcases h with (((h | h | h) | h | h) | h | h) | h | h
  · exact .inr (mem_digits (List.mem_of_mem_take h))
  · exact .inl h
  · exact .inr (of_take h)
  · exact .inl h
  · exact .inr (of_take h)
  · exact .inl h
  · exact .inr (of_take h)
  · exact .inl h
  · exact .inr (mem_digits (List.mem_of_mem_drop h))

/-- A property of hyphens and digits is one of the written form of an identifier. -/
theorem forall_mem_render {P : Char → Prop} (hyphen : P '-') (digit : ∀ d < 16, P (Text.hexDigit d))
    (u : Uuid) : ∀ c ∈ u.render.toList, P c := by
  intro c h
  rcases mem_render h with rfl | ⟨d, hd, rfl⟩
  · exact hyphen
  · exact digit d hd

/-- No digit is a brace, so the digits alone are not taken for the form in braces. -/
theorem brace_not_mem_digits (u : Uuid) : '{' ∉ u.digits := by
  intro h
  obtain ⟨d, hd, brace⟩ := mem_digits h
  exact (by decide : ∀ d < 16, Text.hexDigit d ≠ '{') d hd brace

/-- The written form of an identifier has 36 characters, so it is never empty. -/
theorem render_ne_empty (u : Uuid) : u.render ≠ "" := by
  intro empty
  have length : u.render.toList.length = 36 := by simp [render, hyphenate]
  rw [empty] at length
  cases length

/-- The written form of an identifier is read as the identifier. -/
@[simp] theorem parse?_render (u : Uuid) : parse? u.render = some u := by
  have text : u.render.toList = hyphenate u.digits := by simp [render]
  have length : (hyphenate u.digits).length = 36 := by simp [hyphenate]
  have head : ∀ rest, hyphenate u.digits ≠ '{' :: rest := by
    intro rest h
    have first : (hyphenate u.digits).head? = u.digits.head? := by
      cases digits : u.digits with
      | nil => simpa [digits] using u.length_digits
      | cons c cs => simp [hyphenate]
    rw [h] at first
    exact u.brace_not_mem_digits (List.mem_of_mem_head? first.symm)
  unfold parse?
  rw [text]
  split
  · next rest h => exact absurd h (head rest)
  · rw [length, if_neg (by decide), if_neg (by decide), ofHyphenated?_hyphenate u.length_digits,
      ofDigits?_digits]

end Uuid

end ImageCompose
