import ImageCompose.Service.Error

/-!
# The jobs of a compose in Koji

A compose that is imported into Koji is one job that opens the build there, one build job for each
image, and one job that imports the images. The last one depends on the first and then on the
builds, in the order of the images, and the whole chain is read off those dependencies.
-/

namespace ImageCompose

/-- The jobs of a compose in Koji. -/
structure KojiChain where
  finalize : Uuid
  init : Uuid
  /-- The builds, in the order of the images. -/
  builds : List Uuid
  builds_ne_nil : builds ≠ []

namespace KojiChain

/-- Reads the chain off the dependencies of its last job. -/
def ofFinalize (finalize : Uuid) (dependencies : List Uuid) : Except ServiceError KojiChain :=
  match dependencies with
  | init :: build :: builds => .ok ⟨finalize, init, build :: builds, by simp⟩
  | _ => .error (.malformedChain finalize dependencies.length)

/-- The dependencies of the last job of a chain. -/
def finalizeDependencies (init : Uuid) (builds : List Uuid) : List Uuid :=
  init :: builds

/-- A chain is read off the dependencies that its last job is given. -/
theorem ofFinalize_cons {finalize init : Uuid} {builds : List Uuid} (h : builds ≠ []) :
    ofFinalize finalize (init :: builds) = .ok ⟨finalize, init, builds, h⟩ := by
  cases builds with
  | nil => exact absurd rfl h
  | cons => rfl

/-- The dependencies that a chain is read off are those of its last job. -/
theorem finalizeDependencies_of_ofFinalize {finalize : Uuid} {dependencies : List Uuid}
    {chain : KojiChain} (h : ofFinalize finalize dependencies = .ok chain) :
    finalizeDependencies chain.init chain.builds = dependencies := by
  unfold ofFinalize at h
  split at h
  · cases h; rfl
  · simp at h

end KojiChain

end ImageCompose
