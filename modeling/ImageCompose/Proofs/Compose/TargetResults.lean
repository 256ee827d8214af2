import ImageCompose.Proofs.Compose.Uploads
import ImageCompose.Proofs.Json.Inverts
import ImageCompose.Proofs.Json.Reread

/-!
# Target results, from the report to the upload

What a worker reports of a target is an object with a name and options. It is decoded as the result
of the target that has the name, from options that hold each field of the result, or kept as it is
if no target has the name (`TargetResult.decode?_obj_iff`). What is decoded is shown to clients as
an upload with the same fields, unless it is of Koji or of the worker server. The first result that
is unknown makes this fail (`uploadStatuses_eq_error_iff`, `uploadStatuses_of_known`). The two fit
together: nothing of a report is lost on its way (`TargetResult.lossless`).
-/

namespace ImageCompose

/-- A kind of target is found exactly by its name. -/
theorem TargetName.ofName?_eq_some_iff {name : String} {target : TargetName} :
    ofName? name = some target ↔ target.name = name := by
  constructor
  · intro found
    simpa using List.find?_some found
  · rintro rfl
    exact ofName?_name target

/-- No target is found exactly if none has the name. -/
theorem TargetName.ofName?_eq_none_iff {name : String} :
    ofName? name = none ↔ ∀ target : TargetName, target.name ≠ name := by
  simp [Option.eq_none_iff_forall_ne_some, ofName?_eq_some_iff]

namespace TargetResult

variable {name : String} {target : TargetName} {options : Json} {r : TargetResult}
  {ms : List (String × Json)}

/-! ## Decoding -/

/-- Options are those of a result of a target: they hold each of its fields. -/
def StructOf (target : TargetName) (options : Json) (r : TargetResult) : Prop :=
  r.target? = some target ∧ ∃ fields, r.options = .obj fields ∧ options.Holds fields

/-- The options of a target are decoded exactly from values that hold the fields of its results. -/
theorem optionsDecoder_eq_some (has_options : target ≠ .workerServer) :
    (optionsDecoder target).ofJson? options = some r ↔ StructOf target options r := by
  have strings := Decoder.string_inverts
  cases target with
  | aws | gcp | container =>
    refine (Fields.Inverts.decoder_two strings strings).trans ⟨?_, ?_⟩
    · rintro ⟨_, _, rfl, held⟩
      exact ⟨rfl, _, rfl, held⟩
    · rintro ⟨known, _, same, held⟩
      cases r <;> cases known
      cases same
      exact ⟨_, _, rfl, held⟩
  | koji =>
    refine (Fields.Inverts.decoder_two strings Decoder.uint64_inverts).trans ⟨?_, ?_⟩
    · rintro ⟨_, _, rfl, held⟩
      exact ⟨rfl, _, rfl, held⟩
    · rintro ⟨known, _, same, held⟩
      cases r <;> cases known
      cases same
      exact ⟨_, _, rfl, held⟩
  | awsS3 | azureImage | ociObjectStorage | pulpOstree =>
    refine (Fields.Inverts.decoder_one strings).trans ⟨?_, ?_⟩
    · rintro ⟨_, rfl, held⟩
      exact ⟨rfl, _, rfl, held⟩
    · rintro ⟨known, _, same, held⟩
      cases r <;> cases known
      cases same
      exact ⟨_, rfl, held⟩
  | workerServer => exact absurd rfl has_options

/-- What a name and options are the report of. -/
inductive Reports (name : String) (options : Json) : TargetResult → Prop
  /-- No target has the name. -/
  | unknown (unnamed : ∀ target : TargetName, target.name ≠ name) :
      Reports name options (.unknown name options)
  /-- The worker server has the name, whatever the options are. -/
  | workerServer (named : TargetName.workerServer.name = name) : Reports name options .workerServer
  /-- Another target has the name, and the options are those of a result of it. -/
  | known {target : TargetName} {r : TargetResult} (named : target.name = name)
      (has_options : target ≠ .workerServer) (fields : StructOf target options r) :
      Reports name options r

/-- A name and options are read as a result exactly if they are its report. -/
theorem ofOptions_eq_ok : ofOptions name options = .ok r ↔ Reports name options r := by
  rw [ofOptions]
  cases found : TargetName.ofName? name with
  | none =>
    have unnamed := TargetName.ofName?_eq_none_iff.1 found
    constructor
    · rintro ⟨⟩
      exact .unknown unnamed
    · rintro (_ | named | ⟨named, -, -⟩)
      · rfl
      · exact absurd named (unnamed _)
      · exact absurd named (unnamed _)
  | some target =>
    obtain rfl := TargetName.ofName?_eq_some_iff.1 found
    have unique : ∀ {other : TargetName}, other.name = target.name → other = target := by
      intro other same
      have found' := TargetName.ofName?_eq_some_iff.2 same
      exact (Option.some.inj (found.symm.trans found')).symm
    show Decoder.settled (optionsDecoder target) options.doc = .ok r ↔ _
    rw [← Decoder.ofJson?_eq_some, Decoder.ofJson?_settled]
    constructor
    · intro read
      by_cases server : target = .workerServer
      · subst server
        cases read
        exact .workerServer rfl
      · exact .known rfl server ((optionsDecoder_eq_some server).1 read)
    · rintro (unnamed | named | ⟨named, has_options, fields⟩)
      · exact absurd rfl (unnamed target)
      · cases unique named
        rfl
      · cases unique named
        exact (optionsDecoder_eq_some has_options).2 fields

/-- The options that an object tells: those that it gives once, of which the last member of a name
counts, or `null` if it gives none. -/
inductive OptionsIn (ms : List (String × Json)) : Json → Prop
  | absent (none_given : Json.under "options" ms = []) : OptionsIn ms .null
  | given {v : Json} (once : Json.under "options" ms = [v]) : OptionsIn ms v.settle

/-- The options of an object are read as what it tells. -/
theorem optionsIn_iff : (Decoder.any.alone? (some .null) (Json.under "options" ms)) = some options ↔
    OptionsIn ms options := by
  cases given : Json.under "options" ms with
  | nil =>
    constructor
    · rintro ⟨⟩
      exact .absent given
    · rintro (_ | once)
      · rfl
      · cases given.symm.trans once
  | cons v rest =>
    cases rest with
    | nil =>
      rw [Decoder.alone?_singleton, Decoder.ofJson?_any]
      constructor
      · rintro ⟨⟩
        exact .given given
      · rintro (none_given | once)
        · cases given.symm.trans none_given
        · cases given.symm.trans once
          rfl
    | cons v' more =>
      refine iff_of_false nofun ?_
      rintro (none_given | once)
      · cases given.symm.trans none_given
      · cases given.symm.trans once

/-- An object is decoded exactly as what its name and its options are the report of. -/
theorem decode?_obj_iff : decode? (.obj ms) = some r ↔ ∃ name options,
    Json.under "name" ms = [.str name] ∧ OptionsIn ms options ∧ Reports name options r := by
  have read_fields : ∀ name options, fields.decoder (Json.obj ms).doc = .ok (name, options) ↔
      Json.under "name" ms = [.str name] ∧ OptionsIn ms options := by
    intro name options
    have named : (Fields.member "name" .string).values? ms = some name ↔
        Json.under "name" ms = [.str name] := by
      refine ((Fields.Inverts.member Decoder.string_inverts "name").values ms name).trans ?_
      simp
    rw [← Decoder.ofJson?_eq_some, Fields.ofJson?_decoder_obj, ← named, ← optionsIn_iff, fields,
      Fields.values?_seq, Fields.values?_map, Fields.values?_defaulted]
    simp only [Option.bind_eq_some_iff, Option.map_eq_some_iff]
    constructor
    · rintro ⟨_, ⟨_, first, rfl⟩, _, second, ⟨⟩⟩
      exact ⟨first, second⟩
    · rintro ⟨first, second⟩
      exact ⟨_, ⟨_, first, rfl⟩, _, second, rfl⟩
  rw [decode?, Decoder.ofJson?_eq_some]
  constructor
  · intro read
    obtain ⟨⟨name, options⟩, found, read⟩ := Except.bind_ok read
    obtain ⟨named, given⟩ := (read_fields _ _).1 found
    exact ⟨name, options, named, given, ofOptions_eq_ok.1 read⟩
  · rintro ⟨name, options, named, given, reports⟩
    show (fields.decoder _ >>= fun read => ofOptions read.1 read.2) = _
    rw [(read_fields _ _).2 ⟨named, given⟩]
    exact ofOptions_eq_ok.2 reports

/-- What is reported is reported under its name. -/
theorem Reports.name_eq (h : Reports name options r) : r.name = name := by
  cases h with
  | unknown => rfl
  | workerServer named => exact named
  | known named _ fields => rw [name_of_target? fields.1, named]

/-- A target result is decoded from an object without loss. -/
structure DecodesWhole (ms : List (String × Json)) : Prop where
  /-- It is decoded exactly if the object tells a name, and the options fit the name. -/
  succeeds_iff : (∃ r : TargetResult, decode? (.obj ms) = some r) ↔ ∃ name options,
    Json.under "name" ms = [.str name] ∧ OptionsIn ms options ∧
      ((∀ target : TargetName, target.name ≠ name) ∨ TargetName.workerServer.name = name ∨
        ∃ target r, target.name = name ∧ target ≠ .workerServer ∧ StructOf target options r)
  /-- The name is kept. -/
  name : ∀ r : TargetResult, decode? (.obj ms) = some r → Json.under "name" ms = [.str r.name]
  /-- What is decoded is unknown exactly if no target has the name. -/
  unknown_iff : ∀ r : TargetResult, decode? (.obj ms) = some r →
    ((∃ name options, r = .unknown name options) ↔ ∀ target : TargetName, target.name ≠ r.name)
  /-- Then the options are kept as they are. -/
  options : ∀ name options, decode? (.obj ms) = some (unknown name options) → OptionsIn ms options
  /-- Otherwise each of their fields is kept. -/
  fields : ∀ (r : TargetResult) (target : TargetName), decode? (.obj ms) = some r →
    r.target? = some target → target ≠ .workerServer →
    ∃ options, OptionsIn ms options ∧ StructOf target options r

/-- Every object is decoded so. -/
theorem decodesWhole (ms : List (String × Json)) : DecodesWhole ms where
  succeeds_iff := by
    simp only [decode?_obj_iff]
    constructor
    · rintro ⟨r, name, options, named, given, reports⟩
      refine ⟨name, options, named, given, ?_⟩
      cases reports with
      | unknown unnamed => exact .inl unnamed
      | workerServer server => exact .inr (.inl server)
      | known has_name has_options fields => exact .inr (.inr ⟨_, _, has_name, has_options, fields⟩)
    · rintro ⟨name, options, named, given,
        unnamed | server | ⟨target, r, has_name, has_options, fields⟩⟩
      · exact ⟨_, name, options, named, given, .unknown unnamed⟩
      · exact ⟨_, name, options, named, given, .workerServer server⟩
      · exact ⟨r, name, options, named, given, .known has_name has_options fields⟩
  name r read := by
    obtain ⟨name, options, named, -, reports⟩ := decode?_obj_iff.1 read
    rw [named, reports.name_eq]
  unknown_iff r read := by
    obtain ⟨name, options, -, -, reports⟩ := decode?_obj_iff.1 read
    rw [reports.name_eq]
    cases reports with
    | unknown unnamed => exact ⟨fun _ => unnamed, fun _ => ⟨_, _, rfl⟩⟩
    | workerServer named => exact ⟨nofun, fun unnamed => absurd named (unnamed _)⟩
    | known named _ fields =>
      refine ⟨?_, fun unnamed => absurd named (unnamed _)⟩
      rintro ⟨_, _, rfl⟩
      cases fields.1
  options name options read := by
    obtain ⟨_, _, -, given, reports⟩ := decode?_obj_iff.1 read
    cases reports with
    | unknown => exact given
    | known _ _ fields => cases fields.1
  fields r target read known has_options := by
    obtain ⟨_, options, -, given, reports⟩ := decode?_obj_iff.1 read
    refine ⟨options, given, ?_⟩
    cases reports with
    | unknown => cases known
    | workerServer => exact absurd (Option.some.inj known).symm has_options
    | known _ _ fields =>
      cases known.symm.trans fields.1
      exact fields

/-! ## Translation -/

/-- Clients are not shown results of Koji and of the worker server. -/
def isAsked (r : TargetResult) : Bool :=
  r.target? ≠ some .koji ∧ r.target? ≠ some .workerServer

/-- What clients are shown of a result: an upload with a status, of the upload type that means its
target, and with the fields of the result. -/
structure ShownAs (status : UploadStatusValue) (r : TargetResult) (u : UploadStatus) : Prop where
  status : u.status = some status
  target : r.target? = some u.uploadType.target
  fields : u.details.options = r.options

/-- The first unknown result has a name. -/
def FirstUnknown (results : List TargetResult) (name : String) : Prop :=
  ∃ before options after, results = before ++ .unknown name options :: after ∧
    ∀ r ∈ before, r.target? ≠ none

/-- Among no results none is unknown. -/
theorem firstUnknown_nil : ¬FirstUnknown [] name := by
  rintro ⟨before, options, after, split, -⟩
  simp at split

/-- An unknown result at the head is the first one. -/
theorem firstUnknown_unknown {name' : String} {results : List TargetResult} :
    FirstUnknown (.unknown name' options :: results) name ↔ name' = name := by
  constructor
  · rintro ⟨before, options, after, split, known⟩
    cases before with
    | nil =>
      cases split
      rfl
    | cons r before =>
      cases split
      exact absurd rfl (known _ (List.mem_cons_self ..))
  · rintro rfl
    exact ⟨[], options, results, rfl, nofun⟩

/-- A known result at the head does not change which one is the first. -/
theorem firstUnknown_known {results : List TargetResult} (known : r.target? ≠ none) :
    FirstUnknown (r :: results) name ↔ FirstUnknown results name := by
  constructor
  · rintro ⟨before, options, after, split, each⟩
    cases before with
    | nil =>
      cases split
      exact absurd rfl known
    | cons r' before =>
      cases split
      exact ⟨before, options, after, rfl, fun x hx => each x (List.mem_cons_of_mem _ hx)⟩
  · rintro ⟨before, options, after, rfl, each⟩
    exact ⟨r :: before, options, after, rfl, List.forall_mem_cons.2 ⟨known, each⟩⟩

/-- Each result is unknown, hidden, or shown as an upload. -/
theorem unknown_or_hidden_or_shown (r : TargetResult) :
    (∃ name options, r = .unknown name options) ∨ (r.target? ≠ none ∧ r.isAsked = false) ∨
      ∃ details, r.target? ≠ none ∧ r.isAsked = true ∧
        UploadStatus.ofResult r = .ok ⟨none, details⟩ ∧
        ∀ status, r.ShownAs status ⟨some status, details⟩ := by
  cases r with
  | unknown name options => exact .inl ⟨name, options, rfl⟩
  | koji | workerServer => exact .inr (.inl ⟨nofun, rfl⟩)
  | aws | awsS3 | gcp | azureImage | container | ociObjectStorage | pulpOstree =>
    exact .inr (.inr ⟨_, nofun, rfl, rfl, fun _ => ⟨rfl, rfl, rfl⟩⟩)

end TargetResult

variable {results : List TargetResult} {status : UploadStatusValue}

/-- An unknown result at the head is what the translation fails at. -/
theorem uploadStatuses_cons_unknown (name : String) (options : Json) (results : List TargetResult)
    (status : UploadStatusValue) : uploadStatuses (.unknown name options :: results) status =
      .error (.unknownUploadTarget name) := by
  rw [uploadStatuses, List.filter_cons_of_pos rfl, List.mapM_cons]
  rfl

/-- A result that is not shown makes no difference. -/
theorem uploadStatuses_cons_hidden {r : TargetResult} (hidden : r.isAsked = false)
    (results : List TargetResult) (status : UploadStatusValue) :
    uploadStatuses (r :: results) status = uploadStatuses results status := by
  cases r with
  | koji | workerServer => rfl
  | _ => cases hidden

/-- The deliveries are told exactly if no result is unknown, and else the first unknown one is. -/
theorem uploadStatuses_eq_error_iff {e : ServiceError} : uploadStatuses results status = .error e ↔
    ∃ name, e = .unknownUploadTarget name ∧ TargetResult.FirstUnknown results name := by
  induction results with
  | nil => simp [uploadStatuses, TargetResult.firstUnknown_nil, pure, Except.pure]
  | cons r rest ih =>
    rcases r.unknown_or_hidden_or_shown with
      ⟨name, options, rfl⟩ | ⟨known, hidden⟩ | ⟨details, known, -, told, -⟩
    · simp [uploadStatuses_cons_unknown, TargetResult.firstUnknown_unknown, eq_comm]
    · simp [uploadStatuses_cons_hidden hidden, TargetResult.firstUnknown_known known, ih]
    · simp only [TargetResult.firstUnknown_known known, ← ih, uploadStatuses_cons told]
      cases uploadStatuses rest status <;> simp [Except.map]

/-- If all results are known, each one that is not of Koji or of the worker server is shown, in
their order. -/
theorem uploadStatuses_of_known (known : ∀ r ∈ results, r.target? ≠ none)
    (status : UploadStatusValue) : ∃ uploads, uploadStatuses results status = .ok uploads ∧
      List.Forall₂ (TargetResult.ShownAs status) (results.filter (·.isAsked)) uploads := by
  induction results with
  | nil => exact ⟨[], rfl, .nil⟩
  | cons r rest ih =>
    obtain ⟨r_known, rest_known⟩ := List.forall_mem_cons.1 known
    obtain ⟨uploads, rest_told, shown⟩ := ih rest_known
    rcases r.unknown_or_hidden_or_shown with
      ⟨name, options, rfl⟩ | ⟨-, hidden⟩ | ⟨details, -, asked, told, shown_as⟩
    · exact absurd rfl r_known
    · refine ⟨uploads, (uploadStatuses_cons_hidden hidden rest status).trans rest_told, ?_⟩
      rwa [List.filter_cons_of_neg (by simp [hidden])]
    · refine ⟨⟨some status, details⟩ :: uploads, ?_, ?_⟩
      · rw [uploadStatuses_cons told, rest_told]
        rfl
      · rw [List.filter_cons_of_pos asked]
        exact .cons (shown_as status) shown

namespace TargetResult

/-- Target results are translated into uploads without loss. -/
structure TranslatesWhole (results : List TargetResult) (status : UploadStatusValue) : Prop where
  /-- This fails exactly because of the first unknown result. -/
  fails_iff : ∀ e, uploadStatuses results status = .error e ↔
    ∃ name, e = .unknownUploadTarget name ∧ FirstUnknown results name
  /-- If there is none, each result that is asked for is shown with the status, in their order. -/
  shown : (∀ r ∈ results, r.target? ≠ none) → ∃ uploads,
    uploadStatuses results status = .ok uploads ∧
      List.Forall₂ (ShownAs status) (results.filter (·.isAsked)) uploads

/-- **Target results are decoded and translated without loss.** An object is decoded as a target
result exactly if it has a name, and its options, `null` if there are none, are those of the target
that has the name; unless the worker server has it, or no target has. The result has that name and
the fields of the options, or the options as they are under a name that no target has. In a list of
results, the first of an unknown target fails the translation. Otherwise the results that are not of
Koji or of the worker server are translated in their order, each to an upload of its own type with
the same fields. -/
theorem lossless : (∀ ms, DecodesWhole ms) ∧ ∀ results status, TranslatesWhole results status :=
  ⟨decodesWhole, fun _ status =>
    ⟨fun _ => uploadStatuses_eq_error_iff, fun known => uploadStatuses_of_known known status⟩⟩

end TargetResult

end ImageCompose
