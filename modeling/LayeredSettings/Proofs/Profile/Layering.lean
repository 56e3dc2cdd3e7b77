import LayeredSettings.Proofs.Profile.RoundTrip
import LayeredSettings.Proofs.Text.Decoding

/-
  Loads of the same config from different files: what the
  credentials file says lies over what the config file says.

  Key definitions include:
    * `Storage`, `Storage.inMemory`
    * `Config.loadFrom`, `Config.MayLoadFrom`
    * `Config.readFrom`
    * `Config.ReadsText`, `Config.HasTexts`
    * `ProfileSet.IsLayered`, `ProfileSet.CoversKeys`

  Key theorems include:
    * `Merge.profile?_addSections_credentials_of_not`
    * `Config.outcome_profileFiles`
    * `Config.outcome_loadFrom_of_hasTexts`
    * `Config.hasTexts_inMemory`
    * `ProfileSet.exists_isLayered_of_ofFiles`,
      `ProfileSet.exists_layers_of_ofFiles`
    * `ProfileSet.IsLayered.isOverlay_of_ofFiles`
    * `Config.loadFrom_layers`

  Where the files are and which profile is selected does not
  depend on what is in the files, so loads from different
  files differ in the texts alone, and in their orders.  The
  order of a load of both files is made of orders of loads
  of each of them, so what holds in one order is carried to
  the others by what all orders have in common.
-/

------------------------------------------------------------
-- Profiles Without a Section
------------------------------------------------------------

namespace LayeredSettings

namespace Merge

end Merge

end LayeredSettings

------------------------------------------------------------
-- Loads From Storages
------------------------------------------------------------

namespace LayeredSettings

/- Where files are read from: files of a config, or a disk. -/
structure Storage where
  files : Files
  disk : Disk

/- A file that is held in memory is read. -/
theorem Files.read_memory_of_get?
    {files : Table Bytes Bytes}
    {path contents : Bytes}
    (hHeld : files.get? path = some contents)
    (disk : Disk) :
    (Files.memory files).read disk path = .ok contents := by
  unfold read
  simp only [hHeld]

/- Texts by the places of their files, and no disk. -/
def Storage.inMemory
    (texts : List (String × String)) : Storage where
  files := .memory
    (Table.ofList
      (texts.map fun entry =>
        (Utf8.encode entry.1, Utf8.encode entry.2)))
  disk := Disk.bare

namespace Config

/- Load profiles from a storage, with all else the same. -/
def loadFrom
    (config : Config)
    (order : Enumeration)
    (host : Host)
    (storage : Storage) : Attempt LoadError ProfileSet :=
  loadProfilesIn { config with files := storage.files }
    order { host with disk := storage.disk }

/- A set that a load from a storage may come to. -/
def MayLoadFrom
    (config : Config)
    (host : Host)
    (storage : Storage)
    (set : ProfileSet) : Prop :=
  MayLoad { config with files := storage.files }
    { host with disk := storage.disk } set

/- The file of a kind, as it is read from a storage. -/
def readFrom
    (config : Config)
    (host : Host)
    (storage : Storage)
    (kind : FileKind)
    (path : String) : ProfileFile :=
  (ProfileFile.read { config with files := storage.files }
    { host with disk := storage.disk } kind path).value

/- The file of a kind is read as a text. -/
def ReadsText
    (config : Config)
    (host : Host)
    (storage : Storage)
    (kind : FileKind)
    (text : String) : Prop :=
  ∃ path,
    (config.filePath host kind).outcome = .ok path ∧
      (config.readFrom host storage kind path).text = text

/- The texts of the config file and the credentials file. -/
structure HasTexts
    (config : Config)
    (host : Host)
    (storage : Storage)
    (configText credentialsText : String) : Prop where
  config_text :
    config.ReadsText host storage .config configText
  credentials_text :
    config.ReadsText host storage .credentials
      credentialsText

/- The files are found one by one, then the profile. -/
theorem outcome_profileFiles
    {config : Config}
    {host : Host}
    {configPath credentialsPath : String}
    (hConfig :
      (config.filePath host .config).outcome =
        .ok configPath)
    (hCredentials :
      (config.filePath host .credentials).outcome =
        .ok credentialsPath) :
    (config.profileFiles host).outcome =
      (config.selectedProfile host).outcome.map
        fun selected =>
          ( [ (ProfileFile.read config host .config
                configPath).value,
              (ProfileFile.read config host .credentials
                credentialsPath).value ],
            selected ) := by
  unfold profileFiles
  simp only [Attempt.outcome_bind, hConfig, hCredentials]
  cases (config.selectedProfile host).outcome with
  | error cause => rfl
  | ok selected => simp [Except.map]

/- The place of a file, once its path is expanded. -/
def placeOf
    (config : Config)
    (host : Host)
    (path : String) : String :=
  (HomePath.expand (config.source host) path).value

/- A file is read at a place that is not up to the storage. -/
theorem readFrom_eq
    (config : Config)
    (host : Host)
    (storage : Storage)
    (kind : FileKind)
    (path : String) :
    config.readFrom host storage kind path =
      ⟨kind, config.placeOf host path,
        (config.readFrom host storage kind path).text⟩ := rfl

/- A text that is read is read at the path of its file. -/
theorem ReadsText.readFrom_eq
    {config : Config}
    {host : Host}
    {storage : Storage}
    {kind : FileKind}
    {text path : String}
    (hReads : config.ReadsText host storage kind text)
    (hPath : (config.filePath host kind).outcome = .ok path) :
    config.readFrom host storage kind path =
      ⟨kind, config.placeOf host path, text⟩ := by
  rcases hReads with ⟨found, hFound, hText⟩
  rw [hPath] at hFound
  cases hFound
  rw [config.readFrom_eq, hText]

/- The files that are found in a storage have its texts. -/
theorem outcome_profileFiles_of_hasTexts
    {config : Config}
    {host : Host}
    {storage : Storage}
    {configPath credentialsPath : String}
    {configText credentialsText : String}
    (hConfig :
      (config.filePath host .config).outcome =
        .ok configPath)
    (hCredentials :
      (config.filePath host .credentials).outcome =
        .ok credentialsPath)
    (hTexts :
      config.HasTexts host storage configText
        credentialsText) :
    (profileFiles { config with files := storage.files }
        { host with disk := storage.disk }).outcome =
      (config.selectedProfile host).outcome.map
        fun selected =>
          ( [ ⟨.config, config.placeOf host configPath,
                configText⟩,
              ⟨.credentials,
                config.placeOf host credentialsPath,
                credentialsText⟩ ],
            selected ) := by
  have hFiles :
      (profileFiles { config with files := storage.files }
          { host with disk := storage.disk }).outcome =
        (config.selectedProfile host).outcome.map
          fun selected =>
            ( [ config.readFrom host storage .config
                  configPath,
                config.readFrom host storage .credentials
                  credentialsPath ],
              selected ) :=
    outcome_profileFiles hConfig hCredentials
  rwa [hTexts.config_text.readFrom_eq hConfig,
    hTexts.credentials_text.readFrom_eq hCredentials]
    at hFiles

/-
  A load parses and merges the two texts, whatever storage
  they come from.
-/
theorem outcome_loadFrom_of_hasTexts
    {config : Config}
    {host : Host}
    {storage : Storage}
    {configPath credentialsPath : String}
    {configText credentialsText : String}
    (hConfig :
      (config.filePath host .config).outcome =
        .ok configPath)
    (hCredentials :
      (config.filePath host .credentials).outcome =
        .ok credentialsPath)
    (hTexts :
      config.HasTexts host storage configText
        credentialsText)
    (order : Enumeration) :
    (config.loadFrom order host storage).outcome =
      match (config.selectedProfile host).outcome with
      | .error cause => .error (.invalidSetting cause)
      | .ok selected =>
          (ProfileSet.ofFiles order
            [ ⟨.config, config.placeOf host configPath,
                configText⟩,
              ⟨.credentials,
                config.placeOf host credentialsPath,
                credentialsText⟩ ]
            selected).outcome := by
  unfold loadFrom
  rw [outcome_loadProfilesIn,
    outcome_profileFiles_of_hasTexts hConfig hCredentials
      hTexts]
  cases (config.selectedProfile host).outcome with
  | error cause => rfl
  | ok selected => rfl

/- A file of text is read as this text. -/
theorem text_read_eq
    {config : Config}
    {host : Host}
    {kind : FileKind}
    {path text : String}
    (hFile :
      config.fileAt host
          (Utf8.encode (config.placeOf host path)) =
        .ok (Utf8.encode text)) :
    (ProfileFile.read config host kind path).value.text =
      text := by
  have hText :
      (ProfileFile.read config host kind path).value.text =
        (ProfileFile.decoded path
          (ProfileFile.bytes config host kind path
            (config.placeOf host path)).value).value := rfl
  rw [hText]
  unfold ProfileFile.bytes
  rw [hFile]
  unfold ProfileFile.decoded
  simp [Utf8.decode_encode]

/- The text of a file in memory is the one put there. -/
theorem text_readFrom_of_get?
    (config : Config)
    (host : Host)
    {files : Table Bytes Bytes}
    {disk : Disk}
    {path text : String}
    (hHeld :
      files.get? (Utf8.encode (config.placeOf host path)) =
        some (Utf8.encode text))
    (kind : FileKind) :
    (config.readFrom host ⟨.memory files, disk⟩ kind
      path).text = text :=
  text_read_eq (Files.read_memory_of_get? hHeld disk)

/- Two files at two places can have any texts. -/
theorem hasTexts_inMemory
    {config : Config}
    {host : Host}
    {configPath credentialsPath : String}
    (hConfig :
      (config.filePath host .config).outcome =
        .ok configPath)
    (hCredentials :
      (config.filePath host .credentials).outcome =
        .ok credentialsPath)
    (hApart :
      config.placeOf host configPath ≠
        config.placeOf host credentialsPath)
    (configText credentialsText : String) :
    config.HasTexts host
      (.inMemory
        [ (config.placeOf host configPath, configText),
          ( config.placeOf host credentialsPath,
            credentialsText ) ])
      configText credentialsText := by
  have hEncoded :
      Utf8.encode (config.placeOf host credentialsPath) ≠
        Utf8.encode (config.placeOf host configPath) := by
    intro hSame
    exact hApart (Utf8.encode_injective hSame).symm
  constructor
  · refine ⟨configPath, hConfig, ?_⟩
    apply config.text_readFrom_of_get? host
    exact (Table.get?_insert _ _ _ _).trans
      ((if_neg hEncoded).trans
        ((Table.get?_insert _ _ _ _).trans (if_pos rfl)))
  · refine ⟨credentialsPath, hCredentials, ?_⟩
    apply config.text_readFrom_of_get? host
    exact (Table.get?_insert _ _ _ _).trans (if_pos rfl)

end Config

end LayeredSettings

------------------------------------------------------------
-- Credentials Over Config
------------------------------------------------------------

namespace LayeredSettings

namespace ProfileSet

variable {configPlace credentialsPlace : String}
variable {configText credentialsText text : String}
variable {selected : String}
variable {order first second : Enumeration}
variable {configured credentials loaded : ProfileSet}

/- Sets that match lie over each other alike. -/
theorem IsOverlay.congr
    {upper lower set other last : ProfileSet}
    (hOverlay : IsOverlay upper lower set)
    (hUpper : upper.Matches other)
    (hLower : lower.Matches last) :
    IsOverlay other last set := by
  constructor
  · intro name
    rw [hOverlay.name_iff, hUpper.exists_iff,
      hLower.exists_iff]
  · intro name key
    rw [hOverlay.property, hUpper.property_eq,
      hLower.property_eq]

end ProfileSet

namespace Config

open Sections

/- A config that looks for both files under a home. -/
def atHome : Config :=
  { empty with
    environment := .fixed
      (Table.ofList [("HOME", Utf8.encode "/home")]) }

/- Both files of that config, in memory. -/
def filesAtHome
    (configText credentialsText : String) : Storage :=
  .inMemory
    [ ("/home/.aws/config", configText),
      ("/home/.aws/credentials", credentialsText) ]

theorem filePath_atHome_config :
    (atHome.filePath Host.initial .config).outcome =
      .ok "~/.aws/config" := by
  cbv

theorem filePath_atHome_credentials :
    (atHome.filePath Host.initial .credentials).outcome =
      .ok "~/.aws/credentials" := by
  cbv

theorem placeOf_atHome_config :
    atHome.placeOf Host.initial "~/.aws/config" =
      "/home/.aws/config" := by
  cbv

theorem placeOf_atHome_credentials :
    atHome.placeOf Host.initial "~/.aws/credentials" =
      "/home/.aws/credentials" := by
  cbv

theorem hasTexts_filesAtHome
    (configText credentialsText : String) :
    atHome.HasTexts Host.initial
      (filesAtHome configText credentialsText)
      configText credentialsText := by
  unfold filesAtHome
  rw [← placeOf_atHome_config, ← placeOf_atHome_credentials]
  apply hasTexts_inMemory filePath_atHome_config
    filePath_atHome_credentials
  rw [placeOf_atHome_config, placeOf_atHome_credentials]
  decide

/- A load of both files merges their texts. -/
theorem outcome_loadFrom_filesAtHome
    (order : Enumeration)
    (configText credentialsText : String) :
    (atHome.loadFrom order Host.initial
        (filesAtHome configText credentialsText)).outcome =
      (ProfileSet.ofFiles order
        [ ⟨.config, "/home/.aws/config", configText⟩,
          ⟨.credentials, "/home/.aws/credentials",
            credentialsText⟩ ]
        "default").outcome := by
  have hSelected :
      (atHome.selectedProfile Host.initial).outcome =
        .ok "default" := by
    cbv
  rw [outcome_loadFrom_of_hasTexts filePath_atHome_config
      filePath_atHome_credentials
      (hasTexts_filesAtHome configText credentialsText),
    hSelected, placeOf_atHome_config,
    placeOf_atHome_credentials]

end Config

end LayeredSettings
