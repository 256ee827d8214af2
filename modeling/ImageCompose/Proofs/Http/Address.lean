import ImageCompose.Client.Basic
import ImageCompose.Proofs.Http.Route
import Mathlib.Data.List.TakeWhile

/-!
# Addresses

A client is told where a server is by an `Origin`: a scheme and an authority. Of the address of a
route, a request keeps the path alone (`originForm?_origin`), and the server routes what it is asked
for as it stands (`path?_eq_self`). Slashes after the origin make no difference
(`Client.new_origin`).
-/

namespace ImageCompose

namespace Http

/-! ## Origins -/

/-- Where a server is. -/
structure Origin where
  scheme : String
  authority : String
  /-- The server is asked over HTTP. -/
  web : scheme = "http" ∨ scheme = "https"
  isAuthority : Http.isAuthority authority.toList = true

/-- The origin as an address begins with it. -/
def Origin.render (o : Origin) : String := o.scheme ++ "://" ++ o.authority

/-- No character of an authority ends it. -/
theorem AuthorityScan.ne_of_step {a a' : AuthorityScan} {c : Char} (h : a.step c = some a') :
    c ≠ '/' ∧ c ≠ '?' ∧ c ≠ '#' := by
  refine ⟨?_, ?_, ?_⟩ <;> rintro rfl <;> exact absurd h (by simp [step, isAuthorityChar])

/-- An authority holds none of the characters that end it. -/
theorem ne_of_isAuthority {cs : List Char} (h : isAuthority cs = true) :
    ∀ c ∈ cs, c ≠ '/' ∧ c ≠ '?' ∧ c ≠ '#' := by
  have scanned : ∀ (a : AuthorityScan), (cs.foldlM AuthorityScan.step a).isSome →
      ∀ c ∈ cs, c ≠ '/' ∧ c ≠ '?' ∧ c ≠ '#' := by
    clear h
    induction cs with
    | nil => exact fun _ _ => nofun
    | cons c cs ih =>
      intro a read
      rw [List.foldlM_cons] at read
      cases first : a.step c with
      | none => simp [first] at read
      | some a' =>
        rw [first] at read
        exact List.forall_mem_cons.2 ⟨AuthorityScan.ne_of_step first, ih a' read⟩
  refine scanned {} ?_
  simp only [isAuthority, Bool.and_eq_true, Option.any_eq_true] at h
  obtain ⟨-, a, read, -⟩ := h
  rw [read]
  rfl

/-- An authority is not empty. -/
theorem ne_nil_of_isAuthority {cs : List Char} (h : isAuthority cs = true) : cs ≠ [] := by
  rintro rfl
  cases h

/-- A text is taken up to the first character that does not belong to it. -/
theorem takeWhile_of_ends {p : Char → Bool} {cs : List Char} (all : ∀ c ∈ cs, p c = true) {c : Char}
    (ends : p c = false) (rest : List Char) : (cs ++ c :: rest).takeWhile p = cs := by
  rw [List.takeWhile_append_of_pos all]
  simp [ends]

/-- The address of a path at an origin asks for that path. -/
theorem originForm?_origin (o : Origin) {path : String} {cs : List Char}
    (h : path.toList = '/' :: cs) : originForm? (o.render ++ path) = some path := by
  have scheme : o.scheme.toList.all isSchemeChar = true ∧ o.scheme.toList.length ≤ schemeLimit := by
    rcases o.web with http | https
    · rw [http]
      decide
    · rw [https]
      decide
  have after : afterScheme? (o.render ++ path).toList =
      some (o.authority.toList ++ '/' :: cs) := by
    have text : (o.render ++ path).toList =
        o.scheme.toList ++ ':' :: '/' :: '/' :: (o.authority.toList ++ '/' :: cs) := by
      simp [Origin.render, h]
    have taken := takeWhile_of_ends (List.all_eq_true.1 scheme.1) (c := ':') (by decide)
      ('/' :: '/' :: (o.authority.toList ++ '/' :: cs))
    rw [afterScheme?, text, taken, List.drop_left]
    exact if_pos scheme.2
  have authority : afterAuthority? (o.authority.toList ++ '/' :: cs) = some ('/' :: cs) := by
    have plain := ne_of_isAuthority o.isAuthority
    have taken : (o.authority.toList ++ '/' :: cs).takeWhile
        (fun c => c ≠ '/' && c ≠ '?' && c ≠ '#') = o.authority.toList :=
      takeWhile_of_ends (fun c hc => by simpa [and_assoc] using plain c hc) (by decide) cs
    rw [afterAuthority?, taken, List.drop_left]
    exact if_pos o.isAuthority
  rw [originForm?, after, Option.bind_some, authority, Option.map_some, ← h, String.ofList_toList]

/-! ## Paths -/

/-- A path that needs no encoding is routed as it stands. -/
theorem path?_eq_self {target : String} {cs : List Char} (h : target.toList = '/' :: cs)
    (plain : ∀ c ∈ target.toList, isPathChar c = true) : path? target = some target := by
  rw [h] at plain
  have whole : ('/' :: cs).takeWhile (fun c => c ≠ '?' && c ≠ '#') = '/' :: cs := by
    refine List.takeWhile_eq_self_iff.2 fun c hc => ?_
    have allowed := plain c hc
    have mark : c ≠ '?' ∧ c ≠ '#' := by
      refine ⟨?_, ?_⟩ <;> rintro rfl <;> exact absurd allowed (by decide)
    simpa using mark
  have routed : pathOnly? ('/' :: cs) = some target := by
    have text : String.ofList ('/' :: cs) = target := h ▸ String.ofList_toList
    rw [pathOnly?, whole, List.drop_length]
    simp [List.all_eq_true.2 plain, text]
  rw [path?, h]
  exact routed

end Http

/-! ## Clients -/

namespace Client

open Http (Origin)

/-- Slashes after an origin make no difference to a client. -/
theorem new_origin (o : Origin) (slashes : Nat) :
    new (o.render ++ String.ofList (List.replicate slashes '/')) = { baseUrl := o.render } := by
  obtain ⟨c, cs, shape⟩ : ∃ c cs, o.authority.toList.reverse = c :: cs :=
    List.exists_cons_of_ne_nil (by simpa using Http.ne_nil_of_isAuthority o.isAuthority)
  have last : c ≠ '/' :=
    (Http.ne_of_isAuthority o.isAuthority c (List.mem_reverse.1 (shape ▸ List.mem_cons_self))).1
  have text : (o.render ++ String.ofList (List.replicate slashes '/')).toList.reverse =
      List.replicate slashes '/' ++ o.render.toList.reverse := by
    simp
  have origin : o.render.toList.reverse = c :: (cs ++ (o.scheme ++ "://").toList.reverse) := by
    rw [Origin.render, String.toList_append, List.reverse_append, shape, List.cons_append]
  rw [new, withoutSlashes, text, List.dropWhile_append_of_pos (by simp), origin]
  rw [List.dropWhile_cons_of_neg (by simpa using last), ← origin]
  simp

end Client

end ImageCompose
