import ImageCompose.Proofs.Json.Record
import ImageCompose.Proofs.Json.Scan

/-!
# Printed text is read back

A value without floating-point numbers, whose whole numbers 64 bits hold and whose containers do not
nest too deeply (`Json.isPlain`), is read from its text as the document of the value, and nothing
follows it (`Json.readDoc_render`). The reader is followed through the tokens of the text:
`Json.read_render` says that reading the text of a value, wherever one may stand, comes to putting
its document there.

A floating-point number need not be read back: the reader rounds twice.
-/

namespace ImageCompose.Json

open Scan (lex EndsNumber Holds64)

instance (n : Int) : Decidable (Holds64 n) := inferInstanceAs (Decidable (_ ∧ _))

mutual

/-- Whether a value has only whole numbers that 64 bits hold, and no more than so many containers
enclose each other. -/
def isPlain (depth : Nat) : Json → Bool
  | .null | .bool _ | .str _ => true
  | .num (.int n) => decide (Holds64 n)
  | .num (.float _) => false
  | .arr items => 0 < depth && arePlain (depth - 1) items
  | .obj members => 0 < depth && arePlainMembers (depth - 1) members

/-- `isPlain` for the items of an array. -/
def arePlain (depth : Nat) : List Json → Bool
  | [] => true
  | item :: rest => isPlain depth item && arePlain depth rest

/-- `isPlain` for the values of an object's members. -/
def arePlainMembers (depth : Nat) : List (String × Json) → Bool
  | [] => true
  | (_, value) :: rest => isPlain depth value && arePlainMembers depth rest
end

/-- The reader in the midst of a text, of which no value is complete. -/
def reading (frames : List Frame) (expect : Expect) : Reader := ⟨frames, expect, none, false⟩

/-- The reader after a value. -/
def after (frames : List Frame) (d : Doc) : Reader := (reading frames .value).put d

/-- The reader after a text. -/
def run (r : Reader) (cs : List Char) : Reader := (lex .between cs).foldl Reader.step r

/-- Where a value may stand. -/
def Expect.IsValue (expect : Expect) : Prop := expect = .value ∨ expect = .firstItem

/-- A token other than the end of an array is read as a value where one may stand. -/
theorem step_value {expect : Expect} (h : expect.IsValue) (frames : List Frame) (token : Token)
    (ht : token ≠ .arrayEnd) :
    (reading frames expect).step token = (reading frames expect).value token := by
  rcases h with rfl | rfl
  · rfl
  · cases frames <;> cases token <;> first | rfl | exact absurd rfl ht

/-- A token that is a value is put where a value may stand. -/
theorem run_scalar {expect : Expect} (h : expect.IsValue) (frames : List Frame)
    {text rest : List Char} {token : Token} {d : Doc}
    (scanned : lex .between (text ++ rest) = token :: lex .between rest)
    (value : (reading frames expect).value token = after frames d) (ht : token ≠ .arrayEnd) :
    run (reading frames expect) (text ++ rest) = run (after frames d) rest := by
  rw [run, scanned, List.foldl_cons, step_value h frames token ht, value]
  rfl

/-- A container may be opened below the limit of nesting. -/
theorem opened_reading {frames : List Frame} (room : frames.length < depthLimit) (expect : Expect)
    (frame : Bool → Frame) (next : Expect) :
    (reading frames expect).opened frame next = reading (frame false :: frames) next := by
  have shallow : frames[depthLimit - 1]? = none :=
    List.getElem?_eq_none (by simp only [depthLimit] at *; omega)
  simp [Reader.opened, reading, shallow]

/-- The texts of a list are its first text and, after a comma, the others. -/
theorem toList_intercalate_cons (text : String) (texts : List String) :
    (",".intercalate (text :: texts)).toList =
      text.toList ++ if texts = [] then [] else ',' :: (",".intercalate texts).toList := by
  cases texts with
  | nil => simp
  | cons next others => simp [String.toList_intercalate, List.intercalate]

/-- The literal `null` is one token. -/
theorem lex_render_null (rest : List Char) :
    lex .between ((render .null).toList ++ rest) = .null :: lex .between rest := rfl

/-- A truth value is one token. -/
theorem lex_render_bool (b : Bool) (rest : List Char) :
    lex .between ((render (.bool b)).toList ++ rest) = .bool b :: lex .between rest := by
  cases b <;> rfl

/-! ## Steps of the reader in a container -/

/-- After a comma in an array a value may stand. -/
theorem run_comma_item (frames : List Frame) (done : List Doc) (cs : List Char) :
    run (reading (.arr false done :: frames) .comma) (',' :: cs) =
      run (reading (.arr false done :: frames) .value) cs := rfl

/-- A bracket ends an array with the items that were read. -/
theorem run_arrayEnd (frames : List Frame) (done : List Doc) (cs : List Char) :
    run (reading (.arr false done :: frames) .comma) (']' :: cs) =
      run (after frames (.arr done.reverse .closed)) cs := rfl

/-- After a comma in an object a name stands. -/
theorem run_comma_member (frames : List Frame) (done : List (String × Doc)) (cs : List Char) :
    run (reading (.obj false true done none :: frames) .comma) (',' :: cs) =
      run (reading (.obj false true done none :: frames) .name) cs := rfl

/-- A brace ends an object with the members that were read. -/
theorem run_objectEnd (frames : List Frame) (done : List (String × Doc)) (cs : List Char) :
    run (reading (.obj false true done none :: frames) .comma) ('\x7d' :: cs) =
      run (after frames (.obj done.reverse .closed)) cs := rfl

/-- The name of a member and the colon after it are read where a name may stand. -/
theorem run_name {expect : Expect} (h : expect = .firstName ∨ expect = .name)
    (frames : List Frame) (done : List (String × Doc)) (name : String) (cs : List Char) :
    run (reading (.obj false true done none :: frames) expect)
        ((quote name).toList ++ ':' :: cs) =
      run (reading (.obj false true done (some name) :: frames) .value) cs := by
  have named : (reading (.obj false true done none :: frames) expect).step (.str name) =
      reading (.obj false true done (some name) :: frames) .colon := by
    rcases h with rfl | rfl <;> rfl
  have colon : lex .between (':' :: cs) = .colon :: lex .between cs := rfl
  rw [run, Scan.lex_quote, colon, List.foldl_cons, List.foldl_cons, named]
  rfl

/-- An array is opened where a value may stand. -/
theorem run_arrayStart {expect : Expect} (value : expect.IsValue) {frames : List Frame}
    (room : frames.length < depthLimit) (cs : List Char) :
    run (reading frames expect) ('[' :: cs) =
      run (reading (.arr false [] :: frames) .firstItem) cs := by
  have opened : (reading frames expect).step .arrayStart =
      reading (.arr false [] :: frames) .firstItem := by
    rw [step_value value frames .arrayStart nofun]
    exact opened_reading room expect (.arr · []) .firstItem
  have start : lex .between ('[' :: cs) = .arrayStart :: lex .between cs := rfl
  rw [run, start, List.foldl_cons, opened]
  rfl

/-- An object is opened where a value may stand. -/
theorem run_objectStart {expect : Expect} (value : expect.IsValue) {frames : List Frame}
    (room : frames.length < depthLimit) (cs : List Char) :
    run (reading frames expect) ('\x7b' :: cs) =
      run (reading (.obj false true [] none :: frames) .firstName) cs := by
  have opened : (reading frames expect).step .objectStart =
      reading (.obj false true [] none :: frames) .firstName := by
    rw [step_value value frames .objectStart nofun]
    exact opened_reading room expect (.obj · true [] none) .firstName
  have start : lex .between ('\x7b' :: cs) = .objectStart :: lex .between cs := rfl
  rw [run, start, List.foldl_cons, opened]
  rfl

/-- A number may stand before a comma. -/
theorem endsNumber_comma (cs : List Char) : EndsNumber (',' :: cs) := by
  rintro _ ⟨⟩
  exact .inl rfl

/-- It may stand before the end of an array. -/
theorem endsNumber_arrayEnd (cs : List Char) : EndsNumber (']' :: cs) := by
  rintro _ ⟨⟩
  exact .inr (.inl rfl)

/-- It may stand before the end of an object. -/
theorem endsNumber_objectEnd (cs : List Char) : EndsNumber ('\x7d' :: cs) := by
  rintro _ ⟨⟩
  exact .inr (.inr rfl)

/-- An array is written as its items between brackets. -/
theorem toList_render_arr (items : List Json) (rest : List Char) :
    (Json.arr items).render.toList ++ rest =
      '[' :: ((",".intercalate (renderItems items)).toList ++ ']' :: rest) := by
  simp [render]

/-- An object is written as its members between braces. -/
theorem toList_render_obj (members : List (String × Json)) (rest : List Char) :
    (Json.obj members).render.toList ++ rest =
      '\x7b' :: ((",".intercalate (renderMembers members)).toList ++ '\x7d' :: rest) := by
  simp [render]

mutual

/-- The text of a value is read as its document, wherever a value may stand. -/
theorem read_render (v : Json) {depth : Nat} (plain : v.isPlain depth) {frames : List Frame}
    {expect : Expect} (value : expect.IsValue) (room : frames.length + depth ≤ depthLimit)
    {rest : List Char} (ends : EndsNumber rest) :
    run (reading frames expect) (v.render.toList ++ rest) = run (after frames v.doc) rest := by
  match v with
  | .null => exact run_scalar value frames (lex_render_null rest) rfl nofun
  | .bool b => exact run_scalar value frames (lex_render_bool b rest) rfl nofun
  | .str s => exact run_scalar value frames (Scan.lex_quote s rest) rfl nofun
  | .num (.int n) =>
    exact run_scalar value frames (Scan.lex_int (of_decide_eq_true plain) ends) rfl nofun
  | .num (.float x) => cases plain
  | .arr items =>
    obtain ⟨deep, plain⟩ : 0 < depth ∧ arePlain (depth - 1) items := by
      simpa [isPlain] using plain
    rw [toList_render_arr, run_arrayStart value (by omega)]
    match items with
    | [] => rfl
    | item :: others =>
      exact read_items (item :: others) nofun plain (by omega) (.inr rfl) [] rest
  | .obj members =>
    obtain ⟨deep, plain⟩ : 0 < depth ∧ arePlainMembers (depth - 1) members := by
      simpa [isPlain] using plain
    rw [toList_render_obj, run_objectStart value (by omega)]
    match members with
    | [] => rfl
    | member :: others =>
      exact read_members (member :: others) nofun plain (by omega) (.inl rfl) [] rest
termination_by structural v

/-- The texts of items are read as the next items of an array that is open. -/
theorem read_items (items : List Json) (nonempty : items ≠ []) {depth : Nat}
    (plain : arePlain depth items) {frames : List Frame}
    (room : frames.length + 1 + depth ≤ depthLimit) {expect : Expect} (value : expect.IsValue)
    (done : List Doc) (rest : List Char) :
    run (reading (.arr false done :: frames) expect)
        ((",".intercalate (renderItems items)).toList ++ ']' :: rest) =
      run (after frames (.arr (done.reverse ++ docItems items) .closed)) rest := by
  match items with
  | [] => exact absurd rfl nonempty
  | item :: others =>
    obtain ⟨first, plain⟩ : item.isPlain depth ∧ arePlain depth others := by
      simpa [arePlain] using plain
    rw [renderItems, toList_intercalate_cons]
    match others with
    | [] =>
      rw [if_pos (by rfl), List.append_nil,
        read_render item first value (by simpa using room) (endsNumber_arrayEnd rest)]
      exact (run_arrayEnd frames (item.doc :: done) rest).trans (by simp [docItems])
    | next :: others =>
      rw [if_neg (by simp [renderItems]), List.append_assoc, List.cons_append,
        read_render item first value (by simpa using room) (endsNumber_comma _)]
      refine (run_comma_item frames (item.doc :: done) _).trans ?_
      rw [read_items (next :: others) nofun plain room (.inl rfl) (item.doc :: done) rest]
      simp [docItems]
termination_by structural items

/-- The texts of members are read as the next members of an object that is open. -/
theorem read_members (members : List (String × Json)) (nonempty : members ≠ []) {depth : Nat}
    (plain : arePlainMembers depth members) {frames : List Frame}
    (room : frames.length + 1 + depth ≤ depthLimit) {expect : Expect}
    (name : expect = .firstName ∨ expect = .name) (done : List (String × Doc))
    (rest : List Char) :
    run (reading (.obj false true done none :: frames) expect)
        ((",".intercalate (renderMembers members)).toList ++ '\x7d' :: rest) =
      run (after frames (.obj (done.reverse ++ docMembers members) .closed)) rest := by
  match members with
  | [] => exact absurd rfl nonempty
  | (key, v) :: others =>
    obtain ⟨first, plain⟩ : v.isPlain depth ∧ arePlainMembers depth others := by
      simpa [arePlainMembers] using plain
    have text : (quote key ++ ":" ++ v.render).toList =
        (quote key).toList ++ ':' :: v.render.toList := by
      simp
    rw [renderMembers, toList_intercalate_cons, text]
    match others with
    | [] =>
      rw [if_pos (by rfl), List.append_nil, List.append_assoc, List.cons_append, run_name name,
        read_render v first (.inl rfl) (by simpa using room) (endsNumber_objectEnd rest)]
      exact (run_objectEnd frames ((key, v.doc) :: done) rest).trans (by simp [docMembers])
    | next :: others =>
      rw [if_neg (by simp [renderMembers]), List.append_assoc, List.append_assoc,
        List.cons_append, List.cons_append, run_name name,
        read_render v first (.inl rfl) (by simpa using room) (endsNumber_comma _)]
      refine (run_comma_member frames ((key, v.doc) :: done) _).trans ?_
      rw [read_members (next :: others) nofun plain room (.inr rfl) ((key, v.doc) :: done) rest]
      simp [docMembers]
termination_by structural members

end

/-- The text of a value is read as the value and nothing else. -/
def Faithful (v : Json) : Prop := readDoc v.render = (v.doc, true)

/-- **Printed text is read back.** The text of a plain value is its document and nothing else. -/
theorem readDoc_render {v : Json} (plain : v.isPlain depthLimit) : v.Faithful := by
  have read : (tokens v.render).foldl Reader.step Reader.empty = after [] v.doc := by
    have whole : run (reading [] .value) (v.render.toList ++ []) = run (after [] v.doc) [] :=
      read_render v plain (.inl rfl) (by simp) nofun
    rw [List.append_nil] at whole
    rw [Scan.tokens_eq_lex]
    exact whole
  rw [Faithful, readDoc, read]
  rfl

end ImageCompose.Json

namespace ImageCompose

/-- What a decoder reads from a value it reads from the text of the value, if that is read as the
value and nothing else. -/
theorem Decoder.ofText_render {α : Type} {decoder : Decoder α} {v : Json} {a : α}
    (faithful : v.Faithful) (h : decoder.ofJson? v = some a) : decoder.ofText v.render = .ok a := by
  unfold Decoder.ofJson? at h
  unfold Decoder.ofText
  rw [faithful]
  cases read : decoder v.doc with
  | error e =>
    rw [read] at h
    cases h
  | ok b =>
    rw [read] at h
    cases h
    simp only [read]
    rfl

end ImageCompose
