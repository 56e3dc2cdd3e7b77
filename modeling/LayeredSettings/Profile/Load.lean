import LayeredSettings.Config
import LayeredSettings.Files.Home
import LayeredSettings.Profile.Merge
import LayeredSettings.Profile.Sections
import LayeredSettings.Setting.Catalog

/-
  This file loads profiles: it finds the two profile files,
  reads them, and merges what they say.

  Key definitions include:
    * `LoadError`
    * `ProfileFile`
    * `ProfileFile.read`
    * `Config.profileFiles`
    * `Enumeration`, `Enumeration.written`
    * `ProfileSet.ofFiles`
    * `Config.loadProfilesIn`, `Config.loadProfiles`
    * `Config.withLoadedProfilesIn`,
      `Config.withLoadedProfiles`

  Where the files are and which profile is selected never
  comes from a profile.  A file that cannot be read, or is
  not text, counts as empty.  A file that is text and has a
  faulty line is an error.  Both files are read before one
  of them is parsed, and what the credentials file says wins.

  The sections of a file are kept in tables, which leave it
  open in which order they are gone through.  A load takes
  any order, and each load one of its own, so the order is
  an argument.  What is run takes the order of the files.
-/

namespace LayeredSettings

------------------------------------------------------------
-- Errors
------------------------------------------------------------

/- Why profiles cannot be loaded. -/
inductive LoadError where
  | invalidSetting (cause : InvalidValue)
  | faultyFile (error : ProfileParseError)
  deriving DecidableEq, Repr

namespace LoadError

/- The wording of a load error. -/
def message : LoadError → String
| .invalidSetting _ =>
    "failed to determine which profile files to load"
| .faultyFile error => error.message

/- The wordings of what caused a load error. -/
def sources : LoadError → List String
| .invalidSetting cause => cause.message :: cause.sources
| .faultyFile _ => []

end LoadError

------------------------------------------------------------
-- Files
------------------------------------------------------------

/- The text of a profile file and the path it has. -/
structure ProfileFile where
  kind : FileKind
  path : String
  text : String
  deriving DecidableEq, Repr

namespace ProfileFile

/- The setting that says where a file is. -/
def location : FileKind → Setting String
| .config => Catalog.configFile
| .credentials => Catalog.sharedCredentialsFile

/- The event of a file that cannot be read. -/
def unreadable
    (kind : FileKind)
    (path : String) : ReadError → Event
| .notFound =>
    if (location kind).fallback = some path then
      .usualFileMissing path
    else .chosenFileMissing path (location kind).name
| error => .fileUnreadable path error

/- The bytes of a file, none if it cannot be read. -/
def bytes
    (config : Config)
    (host : Host)
    (kind : FileKind)
    (path expanded : String) : Logged Bytes := do
  match config.fileAt host (Utf8.encode expanded) with
  | .ok bytes => return bytes
  | .error error =>
      Logged.emit (unreadable kind path error)
      return []

/- The text of bytes, empty if they are not text. -/
def decoded
    (path : String)
    (bytes : Bytes) : Logged String := do
  match Utf8.decode bytes with
  | .ok text => return text
  | .error fault =>
      Logged.emit (.fileNotText path fault)
      return ""

/- Read the file at a path, which is expanded first. -/
def read
    (config : Config)
    (host : Host)
    (kind : FileKind)
    (path : String) : Logged ProfileFile := do
  Logged.emit (.loadingFile kind)
  let expanded ← HomePath.expand (config.source host) path
  Logged.emit (.homeExpanded path expanded)
  let text ← decoded path
    (← bytes config host kind path expanded)
  Logged.emit (.fileLoaded path text.utf8ByteSize)
  return ⟨kind, expanded, text⟩

end ProfileFile

------------------------------------------------------------
-- Settings of the Load
------------------------------------------------------------

namespace Config

/- A setting that profiles have no say in. -/
def resolveAlone
    (config : Config)
    (host : Host)
    (setting : Setting String) :
    Attempt InvalidValue (Option String) :=
  Chain.standard.resolve setting (config.source host)

/- The path of a file. -/
def filePath
    (config : Config)
    (host : Host)
    (kind : FileKind) : Attempt InvalidValue String := do
  return (← config.resolveAlone host
    (ProfileFile.location kind)).getD ""

/- The name of the selected profile. -/
def selectedProfile
    (config : Config)
    (host : Host) : Attempt InvalidValue String := do
  match config.profileName with
  | some name => return name
  | none =>
      return (← config.resolveAlone host
        Catalog.profile).getD "default"

/- The files in the order of their merge, and a name. -/
def profileFiles
    (config : Config)
    (host : Host) :
    Attempt InvalidValue (List ProfileFile × String) := do
  let configPath ← config.filePath host .config
  let credentialsPath ← config.filePath host .credentials
  let selected ← config.selectedProfile host
  let configFile ←
    ProfileFile.read config host .config configPath
  let credentialsFile ←
    ProfileFile.read config host .credentials credentialsPath
  return ([configFile, credentialsFile], selected)

end Config

------------------------------------------------------------
-- Orders
------------------------------------------------------------

/-
  The order in which the sections of files are gone through,
  and the properties of a section.  Every heading is listed
  once and, under it, every key of its section once.
-/
structure Enumeration where
  list :
    FileKind → Sections →
      List (String × List (String × String))
  headings_perm :
    ∀ kind sections,
      ((list kind sections).map Prod.fst).Perm sections.keys
  properties_perm :
    ∀ kind sections,
      ∀ entry ∈ list kind sections,
        ∃ properties,
          sections.get? entry.1 = some properties ∧
            entry.2.Perm properties.entries

/- The order in which headings and keys are first written. -/
def Enumeration.written : Enumeration where
  list _ sections := sections.toLists
  headings_perm _ sections := by
    rw [Sections.toLists, List.map_map]
    exact .refl _
  properties_perm _ sections := by
    intro entry hMem
    rcases List.mem_map.mp hMem with
      ⟨⟨heading, properties⟩, hStored, rfl⟩
    exact
      ⟨properties,
        (sections.get?_eq_some_iff_mem _ _).mpr hStored,
        .refl _⟩

------------------------------------------------------------
-- Loading
------------------------------------------------------------

namespace ProfileSet

/- Parse a file and merge it. -/
def addFile
    (set : ProfileSet)
    (order : Enumeration)
    (file : ProfileFile) : Attempt LoadError ProfileSet := do
  Logged.emit (.parsingFile file.path)
  match Sections.parse file.path file.text with
  | .error error => throw (.faultyFile error)
  | .ok sections =>
      set.mergeFile file.kind (order.list file.kind sections)

/- Parse and merge files from left to right. -/
def addFiles
    (set : ProfileSet)
    (order : Enumeration) :
    List ProfileFile → Attempt LoadError ProfileSet
| [] => return set
| file :: rest => do
    (← set.addFile order file).addFiles order rest

/- The profiles of files. -/
def ofFiles
    (order : Enumeration)
    (files : List ProfileFile)
    (selected : String) : Attempt LoadError ProfileSet :=
  (empty selected).addFiles order files

end ProfileSet

namespace Config

/- Load the profiles that a config leads to, in an order. -/
def loadProfilesIn
    (config : Config)
    (order : Enumeration)
    (host : Host) : Attempt LoadError ProfileSet := do
  let (files, selected) ←
    (config.profileFiles host).adapt LoadError.invalidSetting
  let profiles ← ProfileSet.ofFiles order files selected
  if (profiles.profile? selected).isNone then
    Logged.emit (.selectedProfileMissing selected)
  return profiles

/- Load the profiles that a config leads to. -/
def loadProfiles
    (config : Config)
    (host : Host) : Attempt LoadError ProfileSet :=
  config.loadProfilesIn .written host

/- Load profiles in an order and use them. -/
def withLoadedProfilesIn
    (config : Config)
    (order : Enumeration)
    (host : Host) : Attempt LoadError Config := do
  return config.withProfiles
    (← config.loadProfilesIn order host)

/- Load profiles and use them. -/
def withLoadedProfiles
    (config : Config)
    (host : Host) : Attempt LoadError Config :=
  config.withLoadedProfilesIn .written host

end Config

end LayeredSettings
