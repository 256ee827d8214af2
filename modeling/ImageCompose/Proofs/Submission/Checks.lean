import ImageCompose.Proofs.Submission.Acceptable

/-!
# Why a request is not planned

A request is planned without the store, so there can only be something wrong with the request
itself: it is malformed, or it asks for something that is not supported. That is what each of the
rules tells by which it is planned (`Blames`), and so what planning fails with
(`Plan.checks_ofRequest`).
-/

namespace ImageCompose

/-- If a step fails, the request is to blame. -/
def Checks (x : Except ServiceError α) : Prop :=
  ∀ e, x = .error e → e.kind = .malformedInput ∨ e.kind = .unsupported

/-- If a rule is broken, the request is to blame. -/
def Blames (rules : Checklist ServiceError) : Prop :=
  ∀ rule ∈ rules, ∀ e, rule e → e.kind = .malformedInput ∨ e.kind = .unsupported

namespace Blames

/-- Two lists of rules in turn blame the request if both do. -/
theorem append {rules rules' : Checklist ServiceError} (h : Blames rules) (h' : Blames rules') :
    Blames (rules ++ rules') :=
  List.forall_mem_append.2 ⟨h, h'⟩

/-- So do the rules of many things if the rules of each do. -/
theorem flatMap {rules : α → Checklist ServiceError} {as : List α} (h : ∀ a, Blames (rules a)) :
    Blames (as.flatMap rules) := by
  intro rule member
  obtain ⟨a, -, member⟩ := List.mem_flatMap.1 member
  exact h a rule member

/-- What must be so, with one error that tells that it is not. -/
theorem must {p : Prop} {told : ServiceError} {rules : Checklist ServiceError}
    (blame : told.kind = .malformedInput ∨ told.kind = .unsupported) (h : Blames rules) :
    Blames (Checklist.must p (· = told) :: rules) := by
  refine List.forall_mem_cons.2 ⟨?_, h⟩
  rintro _ ⟨-, rfl⟩
  exact blame

/-- Without rules, nothing is told. -/
theorem nil : Blames [] := nofun

/-- A repository that is not acceptable is malformed. -/
theorem repository (r : Repository) : Blames r.rules :=
  .must (.inl rfl) (.must (.inl rfl) nil)

/-- Upload options that are not allowed, or not of their type, are malformed. -/
theorem upload (localSave : Bool) (t : UploadType) (options : Json) :
    Blames (uploadRules localSave t options) := by
  refine .must (.inl rfl) (List.forall_mem_singleton.2 ?_)
  rintro _ ⟨-, _, rfl⟩
  exact .inl rfl

/-- An image without a delivery is malformed. -/
theorem delivery (config : Config) (request : ComposeRequest) (image : ImageRequest) :
    Blames (image.deliveryRules config request) := by
  unfold ImageRequest.deliveryRules
  split
  · exact .must (.inl rfl) nil
  · exact upload _ _ _

/-- An image may ask for an architecture that is not supported. -/
theorem image (config : Config) (request : ComposeRequest) (image : ImageRequest) :
    Blames (image.rules config request) :=
  .must (.inr rfl) (.append (.append (.flatMap repository) (.flatMap repository))
    (delivery config request image))

/-- A request may ask for a distribution that is not supported. -/
theorem request (config : Config) (request : ComposeRequest) : Blames (request.rules config) :=
  .must (.inr rfl) (.must (.inl rfl) (.flatMap (Blames.image config request)))

end Blames

/-- If a request is not planned, the request is to blame. -/
theorem Plan.checks_ofRequest (config : Config) (request : ComposeRequest) (fresh : Fresh) :
    Checks (ofRequest config request fresh) := fun _ failed =>
  (request.enforces_ofRequest config fresh).tells (Blames.request config request) failed

end ImageCompose
