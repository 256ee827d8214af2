import ImageCompose.Proofs.Submission.Compiled
import ImageCompose.Proofs.Submission.Extension

/-!
# The files of a compose in Koji

All images of a compose for Koji are uploaded to one directory. Each is named for the build, its
architecture and the extension of its file (`KojiRequest.fileFor`), but not for its type. So no two
images get the same name exactly if no two of one architecture have files with the same extension
(`koji_files_nodup_iff`). Images of different types may have the same.
-/

namespace ImageCompose

/-- The name of the file as which an image is uploaded to Koji. -/
def KojiRequest.fileFor (koji : KojiRequest) (image : ImageRequest) : String :=
  koji.name ++ "-" ++ koji.version ++ "-" ++ koji.release ++ "." ++ image.architecture ++
    image.imageType.extension

/-- No two images of one architecture have files with the same extension. -/
def DistinctExtensions (images : List ImageRequest) : Prop :=
  images.Pairwise fun a b =>
    ¬(a.architecture = b.architecture ∧ a.imageType.extension = b.imageType.extension)

/-- No architecture that images are built for has a dot in its name. -/
theorem plain_of_architecture : ∀ name ∈ architectures, '.' ∉ name.toList := by
  decide +kernel

/-- Images have the same file only if they are of one architecture and their extensions are the
same, whatever the build is called. -/
theorem KojiRequest.fileFor_inj (koji : KojiRequest) {a b : ImageRequest}
    (ha : a.architecture ∈ architectures) (hb : b.architecture ∈ architectures) :
    koji.fileFor a = koji.fileFor b ↔
      a.architecture = b.architecture ∧ a.imageType.extension = b.imageType.extension := by
  simp only [fileFor, ← String.toList_inj, String.toList_append, List.append_assoc,
    List.append_cancel_left_eq]
  exact append_extension_inj (plain_of_architecture _ ha) (plain_of_architecture _ hb)
    (isExtension_extension _) (isExtension_extension _)

/-- The files of images are distinct if their architectures and extensions are. -/
theorem KojiRequest.nodup_fileFor (koji : KojiRequest) {images : List ImageRequest}
    (built : ∀ image ∈ images, image.architecture ∈ architectures) :
    (images.map koji.fileFor).Nodup ↔ DistinctExtensions images := by
  rw [List.Nodup, List.pairwise_map, DistinctExtensions]
  exact List.Pairwise.iff_of_mem fun ha hb => not_congr (koji.fileFor_inj (built _ ha) (built _ hb))

section
variable {config : Config} {request : ComposeRequest} {koji : KojiRequest} {fresh : Fresh}
  {channel : String} {images : List ImageRequest} {init finalize : StoredJob} {files : List String}
  {directory : String} {chain : KojiChain} {added : List StoredJob}

/-- The files of a compose are those of its images, in order. -/
theorem CompiledForKoji.files_eq (h : CompiledForKoji config request koji fresh channel images init
    finalize files directory chain added) : files = images.map koji.fileFor := by
  refine List.ext_getElem (by rw [h.sizes.1, List.length_map]) fun k bound bound' => ?_
  rw [List.length_map] at bound'
  obtain ⟨_, _, file, -, -, found, -, image⟩ := h.image k _ (List.getElem?_eq_getElem bound')
  rw [List.getElem?_eq_getElem bound] at found
  rw [List.getElem_map, Option.some.inj found, image.named]
  rfl

/-- The arguments of the import are read back, and list the files. -/
theorem CompiledForKoji.decode?_finalize (h : CompiledForKoji config request koji fresh channel
    images init finalize files directory chain added) :
    ∃ args : KojiFinalizeArgs, decode? finalize.args = some args ∧ args.kojiFilenames = files ∧
      args.kojiDirectory = directory := by
  rw [h.imports.args]
  exact ⟨_, decode?_encode _, rfl, rfl⟩

end

variable {σ : Type} {backend : Backend σ} {jobs : σ → List StoredJob}

/-- A compose for Koji that is accepted is followed by the job that imports its images. All are
uploaded to the directory that is imported, each as one of the files that the import lists. These
are distinct exactly if no two images of one architecture have files with the same extension. -/
theorem koji_files_nodup_iff (appends : backend.Appends jobs) {config : Config}
    {request : ComposeRequest} {koji : KojiRequest} (into_koji : request.koji = some koji)
    {fresh : Fresh} {channel : String} {s : σ} {answer : ComposeId}
    (accepted : ((submitCompose config request fresh channel).run backend s).1 = .ok answer) :
    ∃ images added init finalize files directory chain, request.images = .ok images ∧
      jobs ((submitCompose config request fresh channel).run backend s).2 = jobs s ++ added ∧
      CompiledForKoji config request koji fresh channel images init finalize files directory chain
        added ∧
      finalize.id = answer.reference.id ∧
      (∃ args : KojiFinalizeArgs, decode? finalize.args = some args ∧
        args.kojiFilenames = files ∧ args.kojiDirectory = directory) ∧
      (files.Nodup ↔ DistinctExtensions images) := by
  obtain ⟨p, planned⟩ := Plan.exists_of_accepted accepted
  obtain ⟨images, asks, each⟩ := (ComposeRequest.acceptable_of_accepted accepted).images
  obtain ⟨added, r, s', run, stored, begins, ends⟩ :=
    submitCompose_stores appends planned channel s
  rw [run] at accepted ⊢
  cases accepted
  rcases ends with ⟨whole, answer', j, told, followed, answered⟩ | ⟨_, _, -, refused⟩
  case inr => cases refused
  cases told
  obtain ⟨_, checks, checked, ⟨alone, -⟩ | ⟨_, for_koji, rfl⟩⟩ := Plan.ofRequest_ok planned
  case inl => cases alone.symm.trans into_koji
  cases for_koji.symm.trans into_koji
  cases (ComposeRequest.asks_iff.1 asks).symm.trans checked.asked
  obtain ⟨init, finalize, files, directory, chain, compiled⟩ :=
    compiledForKoji_of_begins checked begins whole
  have last : added[2 * checks.length + 1]? = some finalize := checked.count ▸ compiled.last
  obtain rfl : j = finalize := Option.some.inj (followed.symm.trans last)
  refine ⟨images, added, init, j, files, directory, chain, checked.asked, stored, compiled,
    answered.symm, compiled.decode?_finalize, ?_⟩
  rw [compiled.files_eq]
  exact koji.nodup_fileFor fun image member => (each image member).architecture

/-- The images of a request for two architectures are uploaded as two files. -/
theorem koji_files_nodup_kojiRequest :
    (∃ answer, ((submitCompose {} Store.kojiRequest (.ofRandom 0 0) "tenant").run
      (Store.backend (Fresh.jobIds 0) (.ofSeconds 0)) {}).1 = .ok answer) ∧
    ∃ finalize ∈ Store.kojiStore.jobs, ∃ args : KojiFinalizeArgs,
      decode? finalize.args = some args ∧ args.kojiFilenames.length = 2 ∧
      args.kojiFilenames.Nodup := by
  obtain ⟨answer, accepts⟩ := Store.kojiRequest_accepted
  obtain ⟨images, added, init, finalize, files, directory, chain, asked, stored, compiled, -,
    ⟨args, read, listed, -⟩, distinct⟩ := koji_files_nodup_iff
      (Store.appends_backend (Fresh.jobIds 0) (.ofSeconds 0)) rfl accepts
  obtain rfl : Store.kojiStore.jobs = added := stored
  cases asked
  refine ⟨⟨answer, accepts⟩, finalize, List.mem_of_getElem? compiled.last, args, read, ?_, ?_⟩
  · rw [listed, compiled.sizes.1]
    rfl
  · rw [listed, distinct]
    simp [DistinctExtensions]

/-- A request for an EC2 image with update infrastructure and one without, for one architecture. -/
def rhuiPair : ComposeRequest where
  distribution := "rhel-9"
  imageRequests := some [
    { architecture := "x86_64", imageType := .aws },
    { architecture := "x86_64", imageType := .awsRhui }]
  koji := some ⟨"https://koji.example.com", 1, "image", "9.4", "1"⟩

/-- The two images are of different types and are uploaded as the same file. -/
theorem koji_files_collide :
    let outcome := (submitCompose {} rhuiPair (.ofRandom 0 0) "tenant").run
      (Store.backend (Fresh.jobIds 0) (.ofSeconds 0)) {}
    ∃ images answer, rhuiPair.images = .ok images ∧ outcome.1 = .ok answer ∧
      (images.Pairwise fun a b =>
        ¬(a.architecture = b.architecture ∧ a.imageType = b.imageType)) ∧
      ∃ finalize ∈ outcome.2.jobs, finalize.id = answer.reference.id ∧
        ∃ args : KojiFinalizeArgs, decode? finalize.args = some args ∧
          ¬args.kojiFilenames.Nodup := by
  intro outcome
  refine ⟨_, _, rfl, rfl, by decide, _, List.mem_of_getElem? (i := 5) rfl, rfl, _,
    decode?_encode _, ?_⟩
  decide

end ImageCompose
