import ImageCompose.Http.Message

/-!
# Tenant channels in headers

More texts can be sent as the value of a header than can be read back from it: what is read back is
what is in ASCII (`visible?_of_isHeaderValue`). A tenant channel in visible ASCII, without blanks
around it (`IsChannel`), can be sent, and is read back as it is.
-/

namespace ImageCompose

/-- White space that is visible ASCII is a space. -/
theorem Text.eq_space_of_isBlank {c : Char} (h : isBlank c = true) (visible : 0x20 ≤ c.toNat)
    (ascii : c.toNat < 0x7F) : c = ' ' := by
  have space : c.toNat = 0x20 := by
    simp only [isBlank, Bool.or_eq_true, Bool.and_eq_true, decide_eq_true_eq, beq_iff_eq] at h
    omega
  exact Char.ext (UInt32.toNat_inj.1 space)

namespace Http

/-- A text in ASCII. -/
def IsAscii (s : String) : Prop := ∀ c ∈ s.toList, c.toNat < 0x80

instance (s : String) : Decidable (IsAscii s) :=
  List.decidableBAll (fun c : Char => c.toNat < 0x80) s.toList

/-- Of the texts that can be sent in a header, those in ASCII can be read back. -/
theorem visible?_of_isHeaderValue {s : String} (sent : isHeaderValue s = true) :
    visible? s = if IsAscii s then some s else none := by
  have each : ∀ c ∈ s.toList, c = '\t' ∨ (0x20 ≤ c.toNat ∧ c.toNat ≠ 0x7F) := fun c hc => by
    simpa using List.all_eq_true.1 sent c hc
  have readable : (s.toList.all fun c => c = '\t' || (0x20 ≤ c.toNat && c.toNat < 0x7F)) = true ↔
      IsAscii s := by
    rw [List.all_eq_true]
    refine forall₂_congr fun c hc => ?_
    simp only [Bool.or_eq_true, Bool.and_eq_true, decide_eq_true_eq]
    rcases each c hc with rfl | ⟨least, no_control⟩
    · decide
    · constructor
      · rintro (rfl | ⟨-, most⟩)
        · decide
        · omega
      · intro ascii
        exact .inr ⟨least, by omega⟩
  simp only [visible?, readable]

/-- A tenant channel in visible ASCII, without blanks around it. -/
structure IsChannel (s : String) : Prop where
  visible : ∀ c ∈ s.toList, 0x20 ≤ c.toNat ∧ c.toNat < 0x7F
  /-- No space stands before it. -/
  first : s.toList.head? ≠ some ' '
  last : s.toList.getLast? ≠ some ' '

namespace IsChannel

variable {s : String} (h : IsChannel s)
include h

/-- Such a channel can stand in a header. -/
theorem isHeaderValue : Http.isHeaderValue s = true := by
  refine List.all_eq_true.2 fun c hc => ?_
  have ⟨least, most⟩ := h.visible c hc
  simp only [Bool.or_eq_true, Bool.and_eq_true, decide_eq_true_eq]
  omega

/-- It can be read from there. -/
theorem visible?_eq : visible? s = some s := by
  refine if_pos (List.all_eq_true.2 fun c hc => ?_)
  have ⟨least, most⟩ := h.visible c hc
  simp only [Bool.or_eq_true, Bool.and_eq_true, decide_eq_true_eq]
  omega

/-- No white space is dropped from a tenant channel. -/
theorem trim_eq : Text.trim s = s := by
  have kept : ∀ cs : List Char, (∀ c ∈ cs, c ∈ s.toList) → cs.head? ≠ some ' ' →
      Text.dropBlanks cs = cs := by
    intro cs among first
    cases cs with
    | nil => rfl
    | cons c cs =>
      refine List.dropWhile_cons_of_neg fun blank => first ?_
      have ⟨least, most⟩ := h.visible c (among c (List.mem_cons_self ..))
      rw [List.head?_cons, Text.eq_space_of_isBlank blank least most]
  rw [Text.trim, kept s.toList (fun _ hc => hc) h.first]
  rw [kept s.toList.reverse (fun _ hc => List.mem_reverse.1 hc) (by simpa using h.last)]
  simp

end IsChannel

end Http

end ImageCompose
