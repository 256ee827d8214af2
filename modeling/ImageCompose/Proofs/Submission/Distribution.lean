import Mathlib.Data.List.TakeWhile
import ImageCompose.Config.CommandLine
import ImageCompose.Proofs.Submission.Accepted

/-!
# Distributions that composes are accepted for

A configuration is usable only if one of its distributions is not blank
(`Config.enforces_validate`). The others may be, and a request is compared with each of them: if one
is blank, every compose is also accepted without a distribution (`Config.Admission`).
-/

namespace ImageCompose

open Checklist (must Enforces)

/-! ## Blank texts -/

namespace Text

/-- A text of nothing but white space. -/
def Blank (s : String) : Prop := ∀ c ∈ s.toList, isBlank c = true

/-- A list is blank if what is left of it without the blanks in front is. -/
theorem forall_mem_dropBlanks {cs : List Char} :
    (∀ c ∈ dropBlanks cs, isBlank c = true) ↔ ∀ c ∈ cs, isBlank c = true := by
  constructor
  · intro rest
    rw [← List.takeWhile_append_dropWhile (p := isBlank) (l := cs)]
    exact List.forall_mem_append.2 ⟨fun c hc => List.mem_takeWhile_imp hc, rest⟩
  · exact fun all c hc => all c ((List.dropWhile_sublist _).subset hc)

/-- A text is blank if nothing is left of it without the white space around it. -/
theorem trim_eq_empty {s : String} : trim s = "" ↔ Blank s := by
  have left : trim s = "" ↔ dropBlanks (dropBlanks s.toList).reverse = [] := by
    rw [trim, ← String.toList_inj]
    simp
  rw [left, dropBlanks, List.dropWhile_eq_nil_iff]
  simp only [List.mem_reverse]
  exact forall_mem_dropBlanks

/-- A text is blank if it is blank without the white space around it. -/
theorem blank_trim {s : String} : Blank (trim s) ↔ Blank s := by
  rw [Blank, trim, String.toList_ofList]
  simp only [List.mem_reverse]
  rw [forall_mem_dropBlanks]
  simp only [List.mem_reverse]
  exact forall_mem_dropBlanks

end Text

/-! ## Usable configurations -/

namespace Config

/-- What is checked of a configuration. -/
def rules (c : Config) : Checklist Invalid :=
  [must ((SocketAddress.parse? c.bindAddr).isSome = true) (· = .bindAddr c.bindAddr),
    must (∃ d ∈ c.distributions, ¬Text.Blank d) (· = .noDistribution),
    must (c.dbMaxConnections ≠ 0) (· = .noConnections),
    must (∀ url, c.databaseUrl = some url → isDatabaseUrl url = true) (· = .databaseUrl)]

/-- A configuration is validated by its rules. -/
theorem enforces_validate (c : Config) : Enforces c.validate c.rules := by
  have address : (SocketAddress.parse? c.bindAddr).isNone = true ↔
      ¬(SocketAddress.parse? c.bindAddr).isSome = true := by simp
  have named : (c.distributions.all fun d => Text.trim d == "") = true ↔
      ¬∃ d ∈ c.distributions, ¬Text.Blank d := by
    simp [Text.trim_eq_empty]
  have database : (c.databaseUrl.any fun url => !isDatabaseUrl url) = true ↔
      ¬∀ url, c.databaseUrl = some url → isDatabaseUrl url = true := by
    cases c.databaseUrl <;> simp
  refine .guard address fun _ => .guard named fun _ => .guard (by simp) fun _ => ?_
  exact .guard database fun _ => .ok () Checklist.holds_nil

end Config

/-! ## Requests -/

/-- The distributions that composes are accepted for under a configuration. -/
structure Config.Admission (config : Config) : Prop where
  /-- A distribution with a name is configured. -/
  named : ∃ d ∈ config.distributions, ¬Text.Blank d
  /-- Whatever the store does, a compose is accepted only for a configured distribution, without
  the white space around it. -/
  configured : ∀ {σ : Type} (backend : Backend σ) (request : ComposeRequest) (fresh : Fresh)
    (channel : String) (s : σ) (answer : ComposeId),
    ((submitCompose config request fresh channel).run backend s).1 = .ok answer →
      ∃ d ∈ config.distributions, Text.trim d = request.distribution ∧
        (Text.Blank request.distribution ↔ Text.Blank d)
  /-- If a blank one is configured, a store that accepts whatever waits for its jobs accepts all
  that is otherwise acceptable without a distribution, too. -/
  hole : (∃ d ∈ config.distributions, Text.Blank d) → ∀ {σ : Type} {backend : Backend σ}
    {holds : σ → Uuid → Prop}, backend.Accepts holds → ∀ (request : ComposeRequest) (fresh : Fresh)
    (channel : String) (s : σ), request.Acceptable config →
      ∃ answer, ((submitCompose config { request with distribution := "" } fresh channel).run
        backend s).1 = .ok answer

/-- What else is checked of a request does not depend on its distribution. -/
theorem ComposeRequest.Acceptable.for_distribution {config : Config} {request : ComposeRequest}
    (h : request.Acceptable config) {name : String}
    (known : ∃ d ∈ config.distributions, Text.trim d = name) :
    { request with distribution := name }.Acceptable config := by
  obtain ⟨-, images, asks, each⟩ := h
  have told : request.images = .ok images := asks_iff.1 asks
  refine ⟨known, images, asks_iff.2 told, fun image member => ?_⟩
  have rules : (image.rules config request).Holds := ImageRequest.holds_rules.2 (each image member)
  exact ImageRequest.holds_rules.1 rules

/-- Under a usable configuration, composes are accepted for the configured distributions, and one
that is blank counts as the distribution without a name. -/
theorem Config.admission_of_validate {config : Config} (usable : config.validate = .ok ()) :
    config.Admission where
  named := by
    have fine := config.enforces_validate.holds () usable
    simp only [rules, Checklist.holds_cons, Checklist.unbroken_must_eq] at fine
    exact fine.2.1
  configured backend request fresh channel s answer accepted := by
    obtain ⟨d, member, same⟩ := (ComposeRequest.acceptable_of_accepted accepted).distribution
    exact ⟨d, member, same, same ▸ Text.blank_trim⟩
  hole := by
    rintro ⟨d, member, blank⟩ σ backend holds accepts request fresh channel s fine
    have fine' := fine.for_distribution ⟨d, member, Text.trim_eq_empty.2 blank⟩
    have checked := ComposeRequest.enforces_ofRequest config
      { request with distribution := "" } fresh
    obtain ⟨p, planned⟩ := checked.ok_iff.2 (ComposeRequest.holds_rules.2 fine')
    exact submitCompose_of_plan accepts planned channel s

/-- The default configuration is usable, and what it accepts is not for a blank distribution. -/
theorem Config.admission_default :
    validate {} = .ok () ∧
    (∃ answer, ((submitCompose {} Store.kojiRequest (.ofRandom 0 0) "tenant").run
      (Store.backend (Fresh.jobIds 0) (.ofSeconds 0)) {}).1 = .ok answer) ∧
    ∃ d ∈ ["rhel-9", "fedora-40"], Text.trim d = Store.kojiRequest.distribution ∧
      ¬Text.Blank Store.kojiRequest.distribution := by
  have usable : validate {} = .ok () := rfl
  obtain ⟨answer, accepts⟩ := Store.kojiRequest_accepted
  obtain ⟨d, member, same, blank⟩ :=
    (admission_of_validate usable).configured _ _ _ _ _ _ accepts
  have named : ∀ d ∈ ["rhel-9", "fedora-40"], Text.trim d ≠ "" := by decide +kernel
  refine ⟨usable, ⟨answer, accepts⟩, d, member, same, fun blank_request => ?_⟩
  exact named d member (Text.trim_eq_empty.2 (blank.1 blank_request))

/-- A comma after the last distribution configures a blank one. Such a configuration is usable, and
a request without a distribution is accepted under it. -/
theorem blank_distribution_accepted :
    ∃ config, Config.ofCommandLine ["--distributions", "rhel-9,"] (fun _ => none) = .ok config ∧
      config.validate = .ok () ∧
      (∃ answer, ((submitCompose config { Store.kojiRequest with distribution := "" }
        (.ofRandom 0 0) "tenant").run
          (Store.backend (Fresh.jobIds 0) (.ofSeconds 0)) {}).1 = .ok answer) ∧
      Text.Blank "" := by
  have split : "rhel-9,".splitOn "," = ["rhel-9", ""] := by
    rw [String.splitOn, if_neg (by decide)]
    repeat (rw [String.splitOnAux]; simp +decide only [↓reduceIte])
  refine ⟨{ distributions := ["rhel-9", ""] }, ?_, rfl, ⟨_, rfl⟩, nofun⟩
  show Except.ok (Config.Given.config { distributions := some ([] ++ "rhel-9,".splitOn ",") }) = _
  rw [split]
  rfl

end ImageCompose
