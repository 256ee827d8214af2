import ImageCompose.Http.Route
import ImageCompose.Http.Target

/-!
# Routes and paths

A route is recognized by the parts of a path between its slashes (`Route.parts`). Different routes
have different parts (`Route.parts_injective`), and the route of a path is the one that has the
parts of the path (`Route.ofPath?_eq_some_iff`), so a path has at most one. The path that is written
for a route has the parts of the route, unless what stands for an identifier needs encoding
(`Route.segments_path`).
-/

namespace ImageCompose.Http

/-! ## Parts of a path -/

/-- A path is cut as lists are split at slashes. -/
theorem split_eq_splitOn (cs : List Char) : segments.split cs = cs.splitOn '/' := by
  induction cs with
  | nil => rfl
  | cons c cs ih =>
    rw [List.splitOn, List.splitOnP_cons_eq_if_modifyHead, ← List.splitOn, ← ih]
    rw [segments.split.eq_def]
    by_cases slash : c = '/'
    · subst slash
      simp
    · obtain ⟨part, parts, shape⟩ : ∃ part parts, segments.split cs = part :: parts :=
        List.exists_cons_of_ne_nil (ih ▸ List.splitOn_ne_nil '/' cs)
      simp [slash, shape]

/-- Parts with a slash in front of each are the parts joined by slashes, after a slash. -/
theorem flatMap_slash {parts : List String} (some_part : parts ≠ []) :
    (parts.flatMap fun p => '/' :: p.toList) =
      '/' :: ['/'].intercalate (parts.map String.toList) := by
  induction parts with
  | nil => exact absurd rfl some_part
  | cons p rest ih =>
    cases rest with
    | nil => simp [List.intercalate]
    | cons q rest =>
      rw [List.flatMap_cons, ih (List.cons_ne_nil q rest)]
      simp [List.intercalate]

/-- A path of parts without slashes has those parts. -/
theorem segments_eq {path : String} {parts : List String} (some_part : parts ≠ [])
    (plain : ∀ p ∈ parts, '/' ∉ p.toList)
    (written : path.toList = parts.flatMap fun p => '/' :: p.toList) : segments path = parts := by
  rw [segments, written, flatMap_slash some_part]
  simp only [split_eq_splitOn]
  rw [List.splitOn_intercalate '/' (by simpa using plain) (by simpa using some_part)]
  simp

/-- Whether a part of a path needs no encoding and has no slash in it. -/
def isPlainPart (p : String) : Bool := p.toList.all fun c => c ≠ '/' && isPathChar c

/-- A part is plain if each of its characters is no slash and needs no encoding. -/
theorem isPlainPart_iff {p : String} :
    isPlainPart p = true ↔ ∀ c ∈ p.toList, c ≠ '/' ∧ isPathChar c = true := by
  simp [isPlainPart]

namespace Route

/-- The parts of the path under which the API is served. -/
def base : List String := segments basePath

/-- The parts of the path of a route. -/
def parts : Route → List String
  | .health => ["health"]
  | .compose => base ++ ["compose"]
  | .composeStatus id => base ++ ["composes", id]
  | .composeMetadata id => base ++ ["composes", id, "metadata"]
  | .composeLogs id => base ++ ["composes", id, "logs"]
  | .composeManifests id => base ++ ["composes", id, "manifests"]
  | .cloneCompose id => base ++ ["composes", id, "clone"]
  | .cloneStatus id => base ++ ["clones", id]

/-- The parts that all routes begin with. -/
theorem base_eq : base = ["api", "image-builder-composer", "v2"] := by decide

/-- No two routes have the same parts. -/
theorem parts_injective : Function.Injective parts := by
  intro r r' same
  cases r <;> cases r' <;> simp [parts, base_eq] at same ⊢ <;> exact same

/-- An identifier at the end of a path is not empty. -/
def EndsNamed : Route → Prop
  | .composeStatus id | .cloneStatus id => id ≠ ""
  | _ => True

/-- A route that is found has the parts it was found by. -/
theorem parts_of_ofSegments? {rest : List String} {r : Route} (h : ofSegments? rest = some r) :
    r.parts = base ++ rest ∧ r.EndsNamed := by
  unfold ofSegments? at h
  split at h
  case h_2 | h_7 =>
    split at h
    · cases h
    · next named =>
      cases h
      exact ⟨rfl, named⟩
  case h_8 => cases h
  all_goals
    cases h
    exact ⟨rfl, trivial⟩

/-- The route of a path has the parts of the path, and the route that has them is found. -/
theorem ofPath?_eq_some_iff {path : String} {r : Route} :
    ofPath? path = some r ↔ segments path = r.parts ∧ r.EndsNamed := by
  have unfolded : ofPath? path = if segments path = ["health"] then some .health
      else if base.isPrefixOf (segments path) then ofSegments? ((segments path).drop base.length)
      else none := rfl
  constructor
  · intro h
    rw [unfolded] at h
    split at h
    · next health =>
      cases h
      exact ⟨health, trivial⟩
    · split at h
      · next under =>
        have ⟨parts, named⟩ := parts_of_ofSegments? h
        rw [List.isPrefixOf_iff_prefix] at under
        obtain ⟨rest, whole⟩ := under
        rw [← whole, List.drop_left] at parts
        exact ⟨whole ▸ parts.symm, named⟩
      · cases h
  · rintro ⟨parts, named⟩
    rw [unfolded, parts]
    cases r with
    | health => rfl
    | composeStatus | cloneStatus =>
      simpa [Route.parts, base_eq, ofSegments?, EndsNamed] using named
    | compose | composeMetadata | composeLogs | composeManifests | cloneCompose =>
      simp [Route.parts, base_eq, ofSegments?]

/-- What stands for an identifier in a route. -/
def id? : Route → Option String
  | .health | .compose => none
  | .composeStatus id | .composeMetadata id | .composeLogs id | .composeManifests id
  | .cloneCompose id | .cloneStatus id => some id

/-- The parts of a route need no encoding, apart from what stands for an identifier. -/
theorem isPlainPart_parts {r : Route} (h : ∀ id ∈ r.id?, isPlainPart id = true) :
    ∀ p ∈ r.parts, isPlainPart p = true := by
  have base_plain : ∀ p ∈ base, isPlainPart p = true := by decide
  cases r <;>
    simp only [id?, Option.mem_def, Option.some.injEq, forall_eq'] at h <;>
    simp only [parts, List.forall_mem_append, List.forall_mem_cons] <;>
    and_intros <;>
    first
      | exact base_plain
      | exact h
      | decide

/-- Every route has a part. -/
theorem parts_ne_nil (r : Route) : r.parts ≠ [] := by
  cases r <;> simp [parts]

/-- The path of a route is written as its parts, each after a slash. -/
theorem toList_path (r : Route) : r.path.toList = r.parts.flatMap fun p => '/' :: p.toList := by
  cases r <;> simp [parts, base_eq, path, basePath]

/-- The path of a route begins with a slash. -/
theorem toList_path_eq_cons (r : Route) : ∃ cs, r.path.toList = '/' :: cs := by
  obtain ⟨p, rest, shape⟩ := List.exists_cons_of_ne_nil r.parts_ne_nil
  rw [toList_path, shape]
  exact ⟨_, rfl⟩

/-- The path of a route has the parts of the route, if they need no encoding. -/
theorem segments_path {r : Route} (plain : ∀ p ∈ r.parts, isPlainPart p = true) :
    segments r.path = r.parts :=
  segments_eq r.parts_ne_nil
    (fun p member slash => (isPlainPart_iff.1 (plain p member) '/' slash).1 rfl) r.toList_path

end Route

end ImageCompose.Http
