import Mathlib.Data.List.TakeWhile
import ImageCompose.Submission.UploadTarget

/-!
# Where extensions start

An extension is empty or starts with a dot (`IsExtension`). So a name without dots can be told from
the extension that follows it (`append_extension_inj`).

A file name is cut in two before the first dot that is not at its very start (`Cut`). There is one
such cut of every name, and what follows it are the extensions (`extension_eq_iff_cut`). They are
also what is left of the parts of the name between its dots without the first, joined by dots again
(`extension_eq_laterParts`).
-/

namespace ImageCompose

/-- Nothing, or a dot and what follows it. -/
def IsExtension (cs : List Char) : Prop := ∀ c, cs.head? = some c → c = '.'

/-- What stands from the first dot on is an extension. -/
theorem isExtension_fromFirstDot (cs : List Char) : IsExtension (fromFirstDot cs) := by
  intro c first
  have stops := List.head?_dropWhile_not (fun c => decide (c ≠ '.')) cs
  rw [fromFirstDot] at first
  rw [first] at stops
  simpa using stops

/-- A list of characters without the dot at its very start, if there is one. -/
def dropLeadingDot : List Char → List Char
  | '.' :: cs => cs
  | cs => cs

/-- The extensions of a name are found behind the dot at its very start. -/
theorem toList_extension (filename : String) :
    (extension filename).toList = fromFirstDot (dropLeadingDot filename.toList) := by
  rw [extension, String.toList_ofList]
  split
  · next cs chars => rw [chars, dropLeadingDot]
  · next other => rw [dropLeadingDot]; exact other

/-- The extensions of a name are empty or start with a dot. -/
theorem isExtension_extension (filename : String) : IsExtension (extension filename).toList := by
  rw [toList_extension]
  exact isExtension_fromFirstDot _

/-- What follows a name without dots starts at the first dot. -/
theorem fromFirstDot_append {stem cs : List Char} (plain : '.' ∉ stem) (h : IsExtension cs) :
    fromFirstDot (stem ++ cs) = cs := by
  have passed : ∀ c ∈ stem, decide (c ≠ '.') = true := fun c member =>
    decide_eq_true fun dot => plain (dot ▸ member)
  rw [fromFirstDot, List.dropWhile_append_of_pos passed]
  cases cs with
  | nil => rfl
  | cons c cs =>
    obtain rfl : c = '.' := h c rfl
    rfl

/-- Names without dots with their extensions are the same only if both parts are. -/
theorem append_extension_inj {stem stem' cs cs' : List Char} (plain : '.' ∉ stem)
    (plain' : '.' ∉ stem') (h : IsExtension cs) (h' : IsExtension cs') :
    stem ++ cs = stem' ++ cs' ↔ stem = stem' ∧ cs = cs' := by
  constructor
  · intro same
    have ends : cs = cs' := by
      rw [← fromFirstDot_append plain h, same, fromFirstDot_append plain' h']
    exact ⟨List.append_cancel_right (ends ▸ same), ends⟩
  · rintro ⟨rfl, rfl⟩
    rfl

/-- The first dot is found where a list can be cut into one without dots and an extension. -/
theorem fromFirstDot_eq_iff {cs ext : List Char} :
    fromFirstDot cs = ext ↔ ∃ stem, stem ++ ext = cs ∧ '.' ∉ stem ∧ IsExtension ext := by
  constructor
  · rintro rfl
    refine ⟨cs.takeWhile (· ≠ '.'), List.takeWhile_append_dropWhile, fun member => ?_,
      isExtension_fromFirstDot cs⟩
    simpa using List.mem_takeWhile_imp member
  · rintro ⟨stem, rfl, plain, starts⟩
    exact fromFirstDot_append plain starts

/-! ## The cut of a file name -/

/-- A file name that is cut into a stem and the extensions that follow it. -/
structure Cut (filename stem ext : String) : Prop where
  whole : stem ++ ext = filename
  starts : IsExtension ext.toList
  /-- The stem has no dot but perhaps one at its very start. -/
  plain : '.' ∉ dropLeadingDot stem.toList
  /-- A dot at the very start of the name belongs to the stem. -/
  leading : stem = "" → ext = ""

/-- Only a first character that is a dot is dropped. -/
theorem dropLeadingDot_cons (c : Char) (cs : List Char) :
    dropLeadingDot (c :: cs) = if c = '.' then cs else c :: cs := by
  by_cases dot : c = '.'
  · subst dot
    rfl
  · rw [if_neg dot, dropLeadingDot]
    exact fun _ same => dot (List.cons.inj same).1

/-- The first character of a name is no extension's, whether it is a dot or not. -/
theorem fromFirstDot_dropLeadingDot_cons (c : Char) (cs : List Char) :
    fromFirstDot (dropLeadingDot (c :: cs)) = fromFirstDot cs := by
  rw [dropLeadingDot_cons]
  split
  · rfl
  · next other => exact List.dropWhile_cons_of_pos (decide_eq_true other)

/-- A dot in the first place does not count. -/
theorem mem_dropLeadingDot_cons (c : Char) (cs : List Char) :
    '.' ∈ dropLeadingDot (c :: cs) ↔ '.' ∈ cs := by
  rw [dropLeadingDot_cons]
  split
  · rfl
  · next other => simp [Ne.symm other]

/-- A cut of a name that is not empty is a cut of all but its first character, which is the
stem's. -/
theorem exists_cut_cons {filename ext : String} {c : Char} {cs : List Char}
    (chars : filename.toList = c :: cs) :
    (∃ stem, Cut filename stem ext) ↔
      ∃ stem, stem ++ ext.toList = cs ∧ '.' ∉ stem ∧ IsExtension ext.toList := by
  constructor
  · rintro ⟨stem, cut⟩
    have whole : stem.toList ++ ext.toList = c :: cs := by
      rw [← String.toList_append, cut.whole, chars]
    cases first : stem.toList with
    | nil =>
      have nothing : ext = "" := cut.leading (String.toList_eq_nil_iff.1 first)
      simp [first, nothing] at whole
    | cons d stem' =>
      have plain := cut.plain
      rw [first, mem_dropLeadingDot_cons] at plain
      rw [first] at whole
      exact ⟨stem', (List.cons.inj whole).2, plain, cut.starts⟩
  · rintro ⟨stem, whole, plain, starts⟩
    refine ⟨String.ofList (c :: stem), ?_, starts, ?_, fun empty => ?_⟩
    · rw [← String.toList_inj, String.toList_append, String.toList_ofList, chars, ← whole]
      rfl
    · rwa [String.toList_ofList, mem_dropLeadingDot_cons]
    · simp at empty

/-- There is nothing to cut off an empty name. -/
theorem exists_cut_empty {ext : String} : (∃ stem, Cut "" stem ext) ↔ ext = "" := by
  constructor
  · rintro ⟨stem, cut⟩
    exact (String.append_eq_empty_iff.1 cut.whole).2
  · rintro rfl
    exact ⟨"", rfl, nofun, nofun, id⟩

/-- A name is cut in front of its extensions and nowhere else. -/
theorem extension_eq_iff_cut {filename ext : String} :
    extension filename = ext ↔ ∃ stem, Cut filename stem ext := by
  cases chars : filename.toList with
  | nil =>
    obtain rfl : filename = "" := String.toList_eq_nil_iff.1 chars
    exact eq_comm.trans exists_cut_empty.symm
  | cons c cs =>
    rw [exists_cut_cons chars, ← fromFirstDot_eq_iff, ← String.toList_inj, toList_extension, chars,
      fromFirstDot_dropLeadingDot_cons]

/-- A name has no extensions if it has no dot but perhaps one at its very start. -/
theorem extension_eq_empty_iff {filename : String} :
    extension filename = "" ↔ '.' ∉ dropLeadingDot filename.toList := by
  rw [extension_eq_iff_cut]
  constructor
  · rintro ⟨stem, cut⟩
    rw [← cut.whole, String.append_empty]
    exact cut.plain
  · intro plain
    exact ⟨filename, String.append_empty, nofun, plain, fun _ => rfl⟩

/-! ## The parts of a file name -/

/-- The parts of a file name between its dots. Nothing is in front of a dot at the very start, and
that is no part. -/
def nameParts (filename : String) : List String :=
  let parts := (filename.split '.').toList.map (·.copy)
  if parts.head? = some "" then parts.tail else parts

/-- All parts but the first, joined by dots and with one in front. -/
def laterParts : List String → String
  | _ :: part :: parts => "." ++ ".".intercalate (part :: parts)
  | _ => ""

/-- The characters of later parts are joined by dots as the parts are. -/
theorem toList_laterParts {parts : List String} (some_part : parts ≠ []) (first : String) :
    (laterParts (first :: parts)).toList = '.' :: ['.'].intercalate (parts.map String.toList) := by
  obtain ⟨part, parts, rfl⟩ := List.exists_cons_of_ne_nil some_part
  rw [laterParts, String.toList_append, String.toList_intercalate]
  rfl

/-- Whatever is in front of the first dot, the parts behind it are the rest from there on. -/
theorem laterParts_of_splitOn (first : String) {cs part : List Char} {parts : List (List Char)}
    (split : cs.splitOn '.' = part :: parts) :
    (laterParts (first :: parts.map String.ofList)).toList = fromFirstDot cs := by
  obtain ⟨stem, whole, plain, starts⟩ := fromFirstDot_eq_iff.1 (Eq.refl (fromFirstDot cs))
  cases rest : fromFirstDot cs with
  | nil =>
    rw [rest, List.append_nil] at whole
    rw [← whole, List.splitOn_eq_singleton plain] at split
    obtain ⟨-, rfl⟩ := List.cons.inj split
    rfl
  | cons c cs' =>
    obtain rfl : c = '.' := starts c (by rw [rest]; rfl)
    rw [← whole, rest, List.splitOn_append_cons_self_of_not_mem plain] at split
    obtain ⟨-, rfl⟩ := List.cons.inj split
    rw [toList_laterParts (by simp), List.map_map]
    simp [Function.comp_def]

/-- The extensions are the parts of the name without the first. -/
theorem extension_eq_laterParts (filename : String) :
    extension filename = laterParts (nameParts filename) := by
  rw [nameParts, String.toList_split_char, ← String.toList_inj, toList_extension]
  cases chars : filename.toList with
  | nil => rfl
  | cons c cs =>
    obtain ⟨part, parts, split⟩ := List.exists_cons_of_ne_nil (List.splitOn_ne_nil '.' cs)
    rw [fromFirstDot_dropLeadingDot_cons, List.splitOn_cons_eq_if_modifyHead, split]
    by_cases dot : c = '.'
    · subst dot
      simpa using (laterParts_of_splitOn (String.ofList part) split).symm
    · simpa [dot] using (laterParts_of_splitOn (String.ofList (c :: part)) split).symm

/-- Every file name is cut in one way into a stem, which has no dot but perhaps one at its very
start, and what follows it, which is nothing or starts with a dot; and that is its extensions. So
they are all that follows the stem, with however many parts, and there are none exactly if the name
has no dot but perhaps one at its very start. They are the parts of the name between its dots
without the first, joined again. -/
theorem extension_cut (filename : String) :
    (∀ ext, extension filename = ext ↔ ∃ stem, Cut filename stem ext) ∧
    (extension filename = "" ↔ '.' ∉ dropLeadingDot filename.toList) ∧
    extension filename = laterParts (nameParts filename) :=
  ⟨fun _ => extension_eq_iff_cut, extension_eq_empty_iff, extension_eq_laterParts filename⟩

example : extension "image.tar.gz" = ".tar.gz" ∧ extension ".hidden.tar" = ".tar" ∧
    extension ".bashrc" = "" ∧ extension ".." = "." := by
  decide

end ImageCompose
