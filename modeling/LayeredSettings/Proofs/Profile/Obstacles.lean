import LayeredSettings.Proofs.Profile.Layering
import LayeredSettings.Proofs.Text.Validity

/-
  What can keep profiles from being loaded, and which of it
  is reported.

  Key definitions include:
    * `Source.Garbles`, `Source.Gives`
    * `Obstacle`, `Obstacle.order`
    * `Config.Meets`, `Config.MeetsFirst`
    * `Config.failure`
    * `Config.IsEmptiedBy`

  Key theorems include:
    * `Source.gives_or_garbles`
    * `Config.text_read_eq_empty`
    * `Config.meets_iff_failure`
    * `Config.failure_decides`
    * `Config.IsEmptiedBy.outcome_loadFrom_eq`,
      `Config.IsEmptiedBy.mayLoadFrom_iff`
    * `Config.loadProfiles_obstacles`

  There are five obstacles, in a fixed order.  Each of them
  is described by what the config shows, without the load;
  what is no obstacle has no influence on the error, nor has
  the order in which a load goes through the sections.
-/

------------------------------------------------------------
-- Settings That Are Text
------------------------------------------------------------

namespace LayeredSettings

namespace Source

/-
  A setting that is not text: its property is absent and its
  variable is set to bytes that are not those of any text.
-/
def Garbles
    (source : Source)
    (property name : String)
    (cause : InvalidValue) : Prop :=
  source.propertyOf property = none ∧
    ∃ bytes,
      source.variableOf name = some bytes ∧
        (∀ text, bytes ≠ Utf8.encode text) ∧
          cause =
            ⟨name, Utf8.lossy bytes, .environmentVariable,
              .notUnicode (Utf8.lossy bytes)⟩

/-
  The text of a setting: its property or, without it, its
  variable or, without both, what is usual.
-/
def Gives
    (source : Source)
    (property name usual text : String) : Prop :=
  source.propertyOf property = some text ∨
    source.propertyOf property = none ∧
      (source.variableOf name = some (Utf8.encode text) ∨
        source.variableOf name = none ∧ text = usual)

/- A setting is text or it is not, and nothing else. -/
theorem gives_or_garbles
    (source : Source)
    (property name usual : String) :
    (∃ text, source.Gives property name usual text) ∨
      ∃ cause, source.Garbles property name cause := by
  cases hProperty : source.propertyOf property with
  | some text => exact Or.inl ⟨text, Or.inl hProperty⟩
  | none =>
      cases hVariable : source.variableOf name with
      | none =>
          exact Or.inl
            ⟨usual, Or.inr
              ⟨hProperty, Or.inr ⟨hVariable, rfl⟩⟩⟩
      | some bytes =>
          by_cases hText : ∃ text, bytes = Utf8.encode text
          · rcases hText with ⟨text, rfl⟩
            exact Or.inl
              ⟨text, Or.inr ⟨hProperty, Or.inl hVariable⟩⟩
          · exact Or.inr
              ⟨_, hProperty, bytes, hVariable,
                not_exists.mp hText, rfl⟩

end Source

/- A setting whose values are texts, and what is usual. -/
structure Setting.IsTextUnder
    (setting : Setting String)
    (property name usual : String) : Prop where
  property_eq : setting.keys.systemProperty = some property
  name_eq : setting.keys.environmentVariable = some name
  fallback_eq : setting.fallback = some usual
  coerce_eq : setting.coerce = Coercion.text

namespace Config

variable {config : Config}
variable {host : Host}
variable {setting : Setting String}
variable {property name usual : String}

/- What the standard lookups make of a setting. -/
theorem outcome_resolveAlone
    (config : Config)
    (host : Host)
    (setting : Setting String) :
    (config.resolveAlone host setting).outcome =
      Chain.conclude setting
        (Chain.standard.find setting.keys
          (config.source host)) :=
  Chain.value_run_resolve Chain.standard setting
    (config.source host)

theorem outcome_resolveAlone_of_gives
    (hSetting : setting.IsTextUnder property name usual)
    {text : String}
    (hGives :
      (config.source host).Gives property name usual text) :
    (config.resolveAlone host setting).outcome =
      .ok (some text) := by
  rw [outcome_resolveAlone]
  unfold Chain.find Chain.standard Lookup.systemProperty
    Lookup.environmentVariable
  rcases hGives with hProperty | ⟨hProperty, hGives⟩
  · simp [hSetting.property_eq, hProperty, Chain.conclude,
      RawValue.ofText, RawValue.coerce, hSetting.coerce_eq,
      Coercion.text]
  rcases hGives with hVariable | ⟨hVariable, rfl⟩
  · simp [hSetting.property_eq, hProperty,
      hSetting.name_eq, hVariable, Chain.conclude,
      RawValue.ofBytes, RawValue.ofText, RawValue.coerce,
      Utf8.decode?, Utf8.decode_encode, Except.toOption,
      hSetting.coerce_eq, Coercion.text]
  · simp [hSetting.property_eq, hProperty,
      hSetting.name_eq, hVariable, Chain.conclude,
      hSetting.fallback_eq]

theorem outcome_resolveAlone_of_garbles
    (hSetting : setting.IsTextUnder property name usual)
    {cause : InvalidValue}
    (hGarbles :
      (config.source host).Garbles property name cause) :
    (config.resolveAlone host setting).outcome =
      .error cause := by
  rcases hGarbles with
    ⟨hProperty, bytes, hVariable, hBytes, rfl⟩
  have hNone := Utf8.decode?_eq_none_iff.mpr hBytes
  rw [outcome_resolveAlone]
  unfold Chain.find Chain.standard Lookup.systemProperty
    Lookup.environmentVariable
  simp [hSetting.property_eq, hProperty, hSetting.name_eq,
    hVariable, Chain.conclude, RawValue.ofBytes, hNone,
    RawValue.coerce, InvalidValue.ofRaw]

/- The standard lookups find the text of a setting. -/
theorem resolveAlone_eq_ok_iff
    (hSetting : setting.IsTextUnder property name usual)
    {text : String} :
    (config.resolveAlone host setting).outcome =
        .ok (some text) ↔
      (config.source host).Gives property name usual
        text := by
  constructor
  · intro hOk
    rcases (config.source host).gives_or_garbles property
        name usual with
      ⟨other, hGives⟩ | ⟨cause, hGarbles⟩
    · rw [outcome_resolveAlone_of_gives hSetting hGives]
        at hOk
      cases hOk
      exact hGives
    · rw [outcome_resolveAlone_of_garbles hSetting hGarbles]
        at hOk
      cases hOk
  · exact outcome_resolveAlone_of_gives hSetting

/- They fail only for a setting that is not text. -/
theorem resolveAlone_eq_error_iff
    (hSetting : setting.IsTextUnder property name usual)
    {cause : InvalidValue} :
    (config.resolveAlone host setting).outcome =
        .error cause ↔
      (config.source host).Garbles property name cause := by
  constructor
  · intro hError
    rcases (config.source host).gives_or_garbles property
        name usual with
      ⟨text, hGives⟩ | ⟨other, hGarbles⟩
    · rw [outcome_resolveAlone_of_gives hSetting hGives]
        at hError
      cases hError
    · rw [outcome_resolveAlone_of_garbles hSetting hGarbles]
        at hError
      cases hError
      exact hGarbles
  · exact outcome_resolveAlone_of_garbles hSetting

end Config

end LayeredSettings

------------------------------------------------------------
-- Paths and Names
------------------------------------------------------------

namespace LayeredSettings

namespace FileKind

/- The property that says where a file is. -/
def property : FileKind → String
| .config => "aws.configFile"
| .credentials => "aws.sharedCredentialsFile"

/- The variable that says where a file is. -/
def name : FileKind → String
| .config => "AWS_CONFIG_FILE"
| .credentials => "AWS_SHARED_CREDENTIALS_FILE"

/- Where a file is if nothing says so. -/
def usual : FileKind → String
| .config => "~/.aws/config"
| .credentials => "~/.aws/credentials"

end FileKind

namespace ProfileFile

theorem isTextUnder_location
    (kind : FileKind) :
    (location kind).IsTextUnder kind.property kind.name
      kind.usual := by
  cases kind with
  | config => exact ⟨rfl, rfl, rfl, rfl⟩
  | credentials => exact ⟨rfl, rfl, rfl, rfl⟩

end ProfileFile

theorem Catalog.isTextUnder_profile :
    profile.IsTextUnder "aws.profile" "AWS_PROFILE"
      "default" :=
  ⟨rfl, rfl, rfl, rfl⟩

namespace Config

variable {config : Config}
variable {host : Host}
variable {kind : FileKind}

theorem outcome_filePath
    (config : Config)
    (host : Host)
    (kind : FileKind) :
    (config.filePath host kind).outcome =
      (config.resolveAlone host
        (ProfileFile.location kind)).outcome.map
          (·.getD "") := by
  unfold filePath
  rw [Attempt.outcome_bind]
  cases (config.resolveAlone host
      (ProfileFile.location kind)).outcome with
  | ok path => rfl
  | error cause => rfl

theorem filePath_eq_ok_iff
    {path : String} :
    (config.filePath host kind).outcome = .ok path ↔
      (config.source host).Gives kind.property kind.name
        kind.usual path := by
  have hSetting := ProfileFile.isTextUnder_location kind
  rw [← resolveAlone_eq_ok_iff hSetting, outcome_filePath]
  rcases (config.source host).gives_or_garbles
      kind.property kind.name kind.usual with
    ⟨text, hGives⟩ | ⟨cause, hGarbles⟩
  · rw [outcome_resolveAlone_of_gives hSetting hGives]
    simp [Except.map]
  · rw [outcome_resolveAlone_of_garbles hSetting hGarbles]
    simp [Except.map]

theorem filePath_eq_error_iff
    {cause : InvalidValue} :
    (config.filePath host kind).outcome = .error cause ↔
      (config.source host).Garbles kind.property kind.name
        cause := by
  rw [← resolveAlone_eq_error_iff
    (ProfileFile.isTextUnder_location kind), outcome_filePath]
  cases (config.resolveAlone host
      (ProfileFile.location kind)).outcome with
  | ok path => simp [Except.map]
  | error other => simp [Except.map]

/- A name that is given is never read from a setting. -/
theorem selectedProfile_eq_error_iff
    {cause : InvalidValue} :
    (config.selectedProfile host).outcome = .error cause ↔
      config.profileName = none ∧
        (config.source host).Garbles "aws.profile"
          "AWS_PROFILE" cause := by
  unfold selectedProfile
  cases config.profileName with
  | some name => simp
  | none =>
      rw [← resolveAlone_eq_error_iff
        Catalog.isTextUnder_profile]
      simp only [Attempt.outcome_bind, true_and]
      cases (config.resolveAlone host
          Catalog.profile).outcome with
      | ok found => simp
      | error other => simp

end Config

end LayeredSettings

------------------------------------------------------------
-- Texts of Files
------------------------------------------------------------

namespace LayeredSettings

namespace Config

variable {config : Config}
variable {host : Host}
variable {kind : FileKind}

/- What is not a file of text is read as an empty text. -/
theorem text_read_eq_empty
    {path : String}
    (hFile :
      ∀ text,
        config.fileAt host
            (Utf8.encode (config.placeOf host path)) ≠
          .ok (Utf8.encode text)) :
    (ProfileFile.read config host kind path).value.text =
      "" := by
  have hText :
      (ProfileFile.read config host kind path).value.text =
        (ProfileFile.decoded path
          (ProfileFile.bytes config host kind path
            (config.placeOf host path)).value).value := rfl
  rw [hText]
  unfold ProfileFile.bytes
  cases hBytes :
      config.fileAt host
        (Utf8.encode (config.placeOf host path)) with
  | error error => rfl
  | ok bytes =>
      unfold ProfileFile.decoded
      cases hDecode : Utf8.decode bytes with
      | error fault => rfl
      | ok text =>
          rw [Utf8.decode_eq_ok_iff.mp hDecode] at hBytes
          exact absurd hBytes (hFile text)

end Config

end LayeredSettings

------------------------------------------------------------
-- Obstacles
------------------------------------------------------------

namespace LayeredSettings

/- What can keep profiles from being loaded. -/
inductive Obstacle where
  | path (kind : FileKind)
  | name
  | text (kind : FileKind)
  deriving DecidableEq, Repr

/- The obstacles in the order in which they are met. -/
def Obstacle.order : List Obstacle :=
  [ .path .config,
    .path .credentials,
    .name,
    .text .config,
    .text .credentials ]

/- The error of a result that is one. -/
def causeOf
    {ε α : Type} : Except ε α → Option ε
| .ok _ => none
| .error e => some e

theorem map_causeOf_eq_some_iff
    {ε δ α : Type}
    {result : Except ε α}
    {f : ε → δ}
    {d : δ} :
    (causeOf result).map f = some d ↔
      ∃ e, result = .error e ∧ d = f e := by
  cases result with
  | ok a => simp [causeOf]
  | error e => simp [causeOf, eq_comm]

/- The error of a file has the path of the file. -/
theorem Sections.path_of_parse_eq_error
    {path text : String}
    {error : ProfileParseError}
    (hError : parse path text = .error error) :
    error.path = path :=
  (readLines_of_parse_eq_error hError).2

namespace Config

variable {config : Config}
variable {host : Host}

/-
  An obstacle and its error: a path or a name that is not
  text, or a file that is text and cannot be parsed.  The
  error of the latter has the place of the file.
-/
def Meets
    (config : Config)
    (host : Host) : Obstacle → LoadError → Prop
| .path kind, error =>
    ∃ cause,
      (config.source host).Garbles kind.property kind.name
          cause ∧
        error = .invalidSetting cause
| .name, error =>
    config.profileName = none ∧
      ∃ cause,
        (config.source host).Garbles "aws.profile"
            "AWS_PROFILE" cause ∧
          error = .invalidSetting cause
| .text kind, error =>
    ∃ path text line fault,
      (config.source host).Gives kind.property kind.name
          kind.usual path ∧
        config.fileAt host
            (Utf8.encode (config.placeOf host path)) =
          .ok (Utf8.encode text) ∧
        Sections.parse (config.placeOf host path) text =
          .error ⟨config.placeOf host path, line, fault⟩ ∧
        error =
          .faultyFile
            ⟨config.placeOf host path, line, fault⟩

/- An obstacle, and none of those that come before it. -/
structure MeetsFirst
    (config : Config)
    (host : Host)
    (obstacle : Obstacle)
    (error : LoadError) : Prop where
  meets : config.Meets host obstacle error
  none_before :
    ∃ before after,
      Obstacle.order = before ++ obstacle :: after ∧
        ∀ earlier ∈ before,
          ∀ other, ¬ config.Meets host earlier other

/- The error of an obstacle, as the load comes to it. -/
def failure
    (config : Config)
    (host : Host) : Obstacle → Option LoadError
| .path kind =>
    (causeOf (config.filePath host kind).outcome).map
      .invalidSetting
| .name =>
    (causeOf (config.selectedProfile host).outcome).map
      .invalidSetting
| .text kind =>
    match (config.filePath host kind).outcome with
    | .error _ => none
    | .ok path =>
        let file :=
          (ProfileFile.read config host kind path).value
        (causeOf (Sections.parse file.path file.text)).map
          .faultyFile

/- A faulty file is a file of text with a fault. -/
theorem parse_read_eq_error_iff
    {kind : FileKind}
    {path : String}
    {error : ProfileParseError} :
    Sections.parse
        (ProfileFile.read config host kind path).value.path
        (ProfileFile.read config host kind
          path).value.text = .error error ↔
      ∃ text,
        config.fileAt host
            (Utf8.encode (config.placeOf host path)) =
          .ok (Utf8.encode text) ∧
        Sections.parse (config.placeOf host path) text =
          .error error := by
  have hPlace :
      (ProfileFile.read config host kind path).value.path =
        config.placeOf host path := rfl
  rw [hPlace]
  by_cases hText :
      ∃ text,
        config.fileAt host
            (Utf8.encode (config.placeOf host path)) =
          .ok (Utf8.encode text)
  · rcases hText with ⟨text, hFile⟩
    rw [text_read_eq hFile]
    constructor
    · intro hError
      exact ⟨text, hFile, hError⟩
    · rintro ⟨other, hOther, hError⟩
      rw [hFile] at hOther
      rw [Utf8.encode_injective (Except.ok.inj hOther)]
      exact hError
  · rw [text_read_eq_empty (not_exists.mp hText)]
    constructor
    · intro hError
      rcases Sections.parse_empty
          (config.placeOf host path) with
        ⟨sections, hOk, _⟩
      rw [hOk] at hError
      cases hError
    · rintro ⟨text, hFile, _⟩
      exact absurd ⟨text, hFile⟩ hText

/- What the load comes to is what the config shows. -/
theorem meets_iff_failure
    {obstacle : Obstacle}
    {error : LoadError} :
    config.Meets host obstacle error ↔
      config.failure host obstacle = some error := by
  cases obstacle with
  | path kind =>
      simp only [Meets, failure, map_causeOf_eq_some_iff,
        filePath_eq_error_iff]
  | name =>
      simp only [Meets, failure, map_causeOf_eq_some_iff,
        selectedProfile_eq_error_iff, and_assoc,
        exists_and_left]
  | text kind =>
      simp only [Meets, failure, ← filePath_eq_ok_iff]
      cases (config.filePath host kind).outcome with
      | error cause => simp
      | ok path =>
          simp only [map_causeOf_eq_some_iff,
            parse_read_eq_error_iff]
          constructor
          · rintro ⟨found, text, line, fault, hFound,
              hFile, hParse, rfl⟩
            cases hFound
            exact ⟨_, ⟨text, hFile, hParse⟩, rfl⟩
          · rintro ⟨⟨place, line, fault⟩,
              ⟨text, hFile, hParse⟩, rfl⟩
            have hPlace :=
              Sections.path_of_parse_eq_error hParse
            dsimp only at hPlace
            rw [hPlace] at hParse ⊢
            exact
              ⟨path, text, line, fault, rfl, hFile, hParse,
                rfl⟩

end Config

end LayeredSettings

------------------------------------------------------------
-- The First Obstacle
------------------------------------------------------------

namespace LayeredSettings

namespace Config

variable {config : Config}
variable {host : Host}

/-
  The load stops at its first failure, if it has one, and in
  whichever order it goes through the sections.
-/
theorem failure_decides
    (config : Config)
    (order : Enumeration)
    (host : Host) :
    match Obstacle.order.findSome?
        (config.failure host) with
    | some error =>
        (config.loadProfilesIn order host).outcome =
          .error error
    | none =>
        ∃ loaded,
          (config.loadProfilesIn order host).outcome =
            .ok loaded := by
  rw [outcome_loadProfilesIn]
  unfold profileFiles Obstacle.order
  simp only [Attempt.outcome_bind, List.findSome?_cons,
    List.findSome?_nil, failure]
  cases hConfig : (config.filePath host .config).outcome with
  | error cause => simp [causeOf]
  | ok configPath =>
    cases hCredentials :
        (config.filePath host .credentials).outcome with
    | error cause => simp [causeOf]
    | ok credentialsPath =>
      cases hName : (config.selectedProfile host).outcome with
      | error cause => simp [causeOf]
      | ok selected =>
        simp only [causeOf, Option.map_none,
          Attempt.outcome_lift, Attempt.outcome_pure]
        unfold ProfileSet.ofFiles
        rw [ProfileSet.outcome_addFiles_cons,
          ProfileSet.outcome_addFile]
        cases Sections.parse
            (ProfileFile.read config host .config
              configPath).value.path
            (ProfileFile.read config host .config
              configPath).value.text with
        | error error => simp
        | ok first =>
          simp only [Option.map_none]
          rw [ProfileSet.outcome_addFiles_cons,
            ProfileSet.outcome_addFile]
          cases Sections.parse
              (ProfileFile.read config host .credentials
                credentialsPath).value.path
              (ProfileFile.read config host .credentials
                credentialsPath).value.text with
          | error error => simp
          | ok second => simp

/- The first obstacle is what the first failure is about. -/
theorem exists_meetsFirst_iff
    {error : LoadError} :
    (∃ obstacle, config.MeetsFirst host obstacle error) ↔
      Obstacle.order.findSome? (config.failure host) =
        some error := by
  rw [List.findSome?_eq_some_iff]
  constructor
  · rintro ⟨obstacle, hMeets, before, after, hOrder, hNone⟩
    refine
      ⟨before, obstacle, after, hOrder,
        meets_iff_failure.mp hMeets, ?_⟩
    intro earlier hMem
    rw [Option.eq_none_iff_forall_ne_some]
    intro other hFailure
    exact hNone earlier hMem other
      (meets_iff_failure.mpr hFailure)
  · rintro ⟨before, obstacle, after, hOrder, hFailure, hNone⟩
    refine
      ⟨obstacle, meets_iff_failure.mpr hFailure, before,
        after, hOrder, ?_⟩
    intro earlier hMem other hMeets
    have hSome := meets_iff_failure.mp hMeets
    rw [hNone earlier hMem] at hSome
    cases hSome

/- No failure is no obstacle. -/
theorem forall_not_meets_iff :
    (∀ obstacle error,
      ¬ config.Meets host obstacle error) ↔
      Obstacle.order.findSome? (config.failure host) =
        none := by
  have hComplete :
      ∀ obstacle, obstacle ∈ Obstacle.order := by
    rintro (⟨_ | _⟩ | _ | ⟨_ | _⟩) <;> decide
  rw [List.findSome?_eq_none_iff]
  constructor
  · intro hNone obstacle _
    rw [Option.eq_none_iff_forall_ne_some]
    intro error hFailure
    exact hNone obstacle error
      (meets_iff_failure.mpr hFailure)
  · intro hNone obstacle error hMeets
    have hSome := meets_iff_failure.mp hMeets
    rw [hNone obstacle (hComplete obstacle)] at hSome
    cases hSome

/-
  A storage that has the files of a config, but for an empty
  file in some places where there is no file of text.
-/
def IsEmptiedBy
    (config : Config)
    (host : Host)
    (storage : Storage) : Prop :=
  ∀ path,
    storage.files.read storage.disk path =
        config.fileAt host path ∨
      (∀ text,
        config.fileAt host path ≠ .ok (Utf8.encode text)) ∧
        storage.files.read storage.disk path = .ok []

/- An empty file is read as what is not a file of text. -/
theorem IsEmptiedBy.readFrom_eq
    {storage : Storage}
    (hEmptied : config.IsEmptiedBy host storage)
    (kind : FileKind)
    (path : String) :
    config.readFrom host storage kind path =
      (ProfileFile.read config host kind path).value := by
  have hText :
      (config.readFrom host storage kind path).text =
        (ProfileFile.read config host kind
          path).value.text := by
    by_cases hFile :
        ∃ text,
          config.fileAt host
              (Utf8.encode (config.placeOf host path)) =
            .ok (Utf8.encode text)
    · rcases hFile with ⟨text, hFile⟩
      rcases hEmptied
          (Utf8.encode (config.placeOf host path)) with
        hSame | ⟨hNot, _⟩
      · rw [text_read_eq hFile]
        exact text_read_eq (hSame.trans hFile)
      · exact absurd hFile (hNot text)
    · have hNot := not_exists.mp hFile
      rw [text_read_eq_empty hNot]
      rcases hEmptied
          (Utf8.encode (config.placeOf host path)) with
        hSame | ⟨_, hEmpty⟩
      · apply text_read_eq_empty
        intro text hRead
        exact hNot text (hSame.symm.trans hRead)
      · exact text_read_eq hEmpty
  rw [config.readFrom_eq, hText]
  rfl

/- So it makes no difference to the load, in any order. -/
theorem IsEmptiedBy.outcome_loadFrom_eq
    {storage : Storage}
    (hEmptied : config.IsEmptiedBy host storage)
    (order : Enumeration) :
    (config.loadFrom order host storage).outcome =
      (config.loadProfilesIn order host).outcome := by
  have hFiles :
      (profileFiles { config with files := storage.files }
          { host with disk := storage.disk }).outcome =
        (config.profileFiles host).outcome := by
    have hRead := hEmptied.readFrom_eq
    unfold readFrom at hRead
    unfold profileFiles
    simp only [Attempt.outcome_bind, Attempt.outcome_lift,
      hRead]
    rfl
  unfold loadFrom
  rw [outcome_loadProfilesIn, outcome_loadProfilesIn, hFiles]

/- The same sets may be loaded. -/
theorem IsEmptiedBy.mayLoadFrom_iff
    {storage : Storage}
    (hEmptied : config.IsEmptiedBy host storage)
    (set : ProfileSet) :
    config.MayLoadFrom host storage set ↔
      config.MayLoad host set := by
  apply exists_congr
  intro order
  rw [← hEmptied.outcome_loadFrom_eq order]
  rfl

/-
  Loading fails exactly if there is an obstacle, and with
  the error of the first one, in every order.  What is not a
  file of text is none: an empty file in its place makes no
  difference to a load, nor to what may be loaded.
-/
theorem loadProfiles_obstacles
    (config : Config)
    (host : Host) :
    (∀ order error,
      (config.loadProfilesIn order host).outcome =
          .error error ↔
        ∃ obstacle,
          config.MeetsFirst host obstacle error) ∧
    (∀ order,
      (∃ loaded,
        (config.loadProfilesIn order host).outcome =
          .ok loaded) ↔
        ∀ obstacle error,
          ¬ config.Meets host obstacle error) ∧
    ∀ storage,
      config.IsEmptiedBy host storage →
        (∀ order,
          (config.loadFrom order host storage).outcome =
            (config.loadProfilesIn order host).outcome) ∧
        ∀ set,
          config.MayLoadFrom host storage set ↔
            config.MayLoad host set := by
  refine ⟨?_, ?_, ?_⟩
  · intro order error
    have hDecides := config.failure_decides order host
    rw [exists_meetsFirst_iff]
    cases hFailure : Obstacle.order.findSome?
        (config.failure host) with
    | none =>
        rw [hFailure] at hDecides
        rcases hDecides with ⟨loaded, hLoaded⟩
        simp [hLoaded]
    | some found =>
        rw [hFailure] at hDecides
        simp [hDecides]
  · intro order
    have hDecides := config.failure_decides order host
    rw [forall_not_meets_iff]
    cases hFailure : Obstacle.order.findSome?
        (config.failure host) with
    | none =>
        rw [hFailure] at hDecides
        simp [hDecides]
    | some found =>
        rw [hFailure] at hDecides
        simp [hDecides]
  · intro storage hEmptied
    exact
      ⟨hEmptied.outcome_loadFrom_eq, hEmptied.mayLoadFrom_iff⟩

/-
  The path of the config file is given by a variable that is
  no text, unless a property says where it is.  The file of
  that property is no text, and the credentials are faulty.
-/
def troubled
    (properties : List (String × String)) : Config :=
  { empty with
    environment := .fixed
      (Table.ofList [("AWS_CONFIG_FILE", [0xFF])])
    properties := .fixed (Table.ofList properties)
    files := .memory
      (Table.ofList
        [ (Utf8.encode "/c", [0xFF]),
          (Utf8.encode ".aws/credentials",
            Utf8.encode "[") ]) }

/- The same files, and an empty one for that of no text. -/
def untroubled : Storage where
  files := .memory
    (Table.ofList
      [ (Utf8.encode "/c", []),
        (Utf8.encode ".aws/credentials",
          Utf8.encode "[") ])
  disk := Disk.bare

/-
  The path is reported before the file.  Without the path the
  file is, and the one before it counts as empty.
-/
theorem loadProfiles_troubled :
    (∃ obstacle,
      (troubled []).MeetsFirst Host.initial obstacle
        (.invalidSetting
          ⟨"AWS_CONFIG_FILE", "\uFFFD",
            .environmentVariable, .notUnicode "\uFFFD"⟩)) ∧
    (∃ obstacle,
      (troubled [("aws.configFile", "/c")]).MeetsFirst
        Host.initial obstacle
        (.faultyFile
          ⟨".aws/credentials", 1, .unclosedHeading⟩)) ∧
    ∀ order,
      ((troubled [("aws.configFile", "/c")]).loadFrom order
          Host.initial untroubled).outcome =
        ((troubled
          [("aws.configFile", "/c")]).loadProfilesIn order
            Host.initial).outcome := by
  refine ⟨?_, ?_, ?_⟩
  · apply ((loadProfiles_obstacles _ _).1 .written _).mp
    cbv
  · apply ((loadProfiles_obstacles _ _).1 .written _).mp
    cbv
  · apply ((loadProfiles_obstacles _ _).2.2 untroubled ?_).1
    intro path
    by_cases hPath : Utf8.encode "/c" = path
    · right
      subst hPath
      refine ⟨?_, by cbv⟩
      have hFile :
          (troubled [("aws.configFile", "/c")]).fileAt
              Host.initial (Utf8.encode "/c") =
            .ok [0xFF] := by
        cbv
      rw [hFile]
      intro text hText
      exact
        Utf8.decode?_eq_none_iff.mp (by cbv) text
          (Except.ok.inj hText)
    · left
      have hSkip (contents : Bytes) :
          (Table.ofList
            [ (Utf8.encode "/c", contents),
              (Utf8.encode ".aws/credentials",
                Utf8.encode "[") ]).get? path =
            if Utf8.encode ".aws/credentials" = path then
              some (Utf8.encode "[")
            else none := by
        simp [Table.ofList, hPath]
      simp only [untroubled, troubled, fileAt, Files.read,
        hSkip]

end Config

end LayeredSettings
