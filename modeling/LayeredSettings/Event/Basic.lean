import LayeredSettings.Files.Basic
import LayeredSettings.Origin
import LayeredSettings.Retry.Config

/-
  This file defines the events that the library reports.

  Key definitions include:
    * `Event`
    * `Record`
    * `Event.record`

  An event says what happened.  Its record says so in words:
  a level, a message and named fields.
-/

namespace LayeredSettings

------------------------------------------------------------
-- Levels
------------------------------------------------------------

/- How much an event matters. -/
inductive Level where
  | error
  | warn
  | info
  | debug
  | trace
  deriving DecidableEq, Repr

namespace Level

/- The place of a level; what matters most is first. -/
def rank : Level → Nat
| .error => 0
| .warn => 1
| .info => 2
| .debug => 3
| .trace => 4

/- The name of a level. -/
def name : Level → String
| .error => "ERROR"
| .warn => "WARN"
| .info => "INFO"
| .debug => "DEBUG"
| .trace => "TRACE"

end Level

------------------------------------------------------------
-- Events
------------------------------------------------------------

/- What the library reports. -/
inductive Event where
  -- resolution
  | propertySet (key : String)
  | sourceChecked (setting lookup : String) (found : Bool)
  | settingResolved
      (setting : String) (origin : Origin) (key : String)
  | settingInvalid
      (setting : String) (origin : Origin) (key : String)
      (error : CoercionError)
  | settingAbsent (setting : String) (hasFallback : Bool)
  -- files
  | loadingFile (kind : FileKind)
  | homeFound
  | homeSubstituted (home : String)
  | homeMissing
  | homeExpanded (before after : String)
  | usualFileMissing (path : String)
  | chosenFileMissing (path setting : String)
  | fileUnreadable (path : String) (error : ReadError)
  | fileNotText (path : String) (fault : Utf8.Fault)
  | fileLoaded (path : String) (size : Nat)
  -- profiles
  | parsingFile (path : String)
  | defaultSuperseded
  | sectionIgnored (heading : String)
  | profileNameInvalid (name : String)
  | keyInvalid (profile key : String)
  | propertyOverwritten (profile key : String)
  | selectedProfileMissing (profile : String)
  -- consumers
  | regionResolved (region : Region)
  | regionAbsent
  | retryResolved (config : RetryConfig)
  | metadataResolved (disabled : Bool) (endpoint : String)
  deriving DecidableEq, Repr

------------------------------------------------------------
-- Records
------------------------------------------------------------

/-
  An event in words.  A span is the start of an activity and
  has a name for its message.
-/
structure Record where
  level : Level
  isSpan : Bool := false
  message : String
  fields : List (String × String) := []
  deriving DecidableEq, Repr

/- The name of the activity of loading a file. -/
def FileKind.activity : FileKind → String
| .config => "load_config_file"
| .credentials => "load_credentials_file"

namespace Event

/- The wording of an event. -/
def record : Event → Record
| .propertySet key =>
    { level := .debug
      message := "setting system property"
      fields := [("key", key)] }
| .sourceChecked setting lookup found =>
    { level := .trace
      message := "checked source"
      fields :=
        [ ("setting", setting),
          ("lookup", lookup),
          ("found", toString found) ] }
| .settingResolved setting origin key =>
    { level := .debug
      message := "resolved setting"
      fields :=
        [ ("setting", setting),
          ("origin", origin.text),
          ("key", key) ] }
| .settingInvalid setting origin key error =>
    { level := .debug
      message := "invalid setting value"
      fields :=
        [ ("setting", setting),
          ("origin", origin.text),
          ("key", key),
          ("error", error.message) ] }
| .settingAbsent setting hasFallback =>
    { level := .debug
      message := "setting not configured"
      fields :=
        [ ("setting", setting),
          ("has_default", toString hasFallback) ] }
| .loadingFile kind =>
    { level := .info
      isSpan := true
      message := kind.activity }
| .homeFound =>
    { level := .debug
      message := "loaded home directory"
      fields := [("src", "HOME")] }
| .homeSubstituted home =>
    { level := .debug
      message := "performing home directory substitution"
      fields := [("home", home)] }
| .homeMissing =>
    { level := .warn
      message :=
        "could not determine home directory " ++
          "but home expansion was requested" }
| .homeExpanded before after =>
    { level := .debug
      message := "home directory expanded"
      fields := [("before", before), ("after", after)] }
| .usualFileMissing path =>
    { level := .info
      message := "config file not found"
      fields := [("path", path)] }
| .chosenFileMissing path setting =>
    { level := .warn
      message :=
        "config file overridden via environment variable " ++
          "or system property not found"
      fields := [("path", path), ("setting", setting)] }
| .fileUnreadable path error =>
    { level := .warn
      message := "failed to read config file"
      fields :=
        [("path", path), ("error", error.message)] }
| .fileNotText path fault =>
    { level := .warn
      message :=
        "config file did not contain utf-8 encoded data"
      fields :=
        [("path", path), ("error", fault.message)] }
| .fileLoaded path size =>
    { level := .info
      message := "config file loaded"
      fields :=
        [("path", path), ("size", toString size)] }
| .parsingFile path =>
    { level := .info
      isSpan := true
      message := "parse_profile_file"
      fields := [("path", path)] }
| .defaultSuperseded =>
    { level := .warn
      message :=
        "profile `default` ignored because " ++
          "`[profile default]` was found which " ++
          "takes priority" }
| .sectionIgnored heading =>
    { level := .warn
      message :=
        "profile ignored: in config files, " ++
          "profiles MUST start with `profile `"
      fields := [("profile", heading)] }
| .profileNameInvalid name =>
    { level := .warn
      message :=
        "profile ignored because `" ++ name ++
          "` was not a valid identifier"
      fields := [("name", name)] }
| .keyInvalid profile key =>
    { level := .warn
      message :=
        "key ignored because `" ++ key ++
          "` was not a valid identifier"
      fields := [("profile", profile), ("key", key)] }
| .propertyOverwritten profile key =>
    { level := .trace
      message := "overwriting property"
      fields := [("profile", profile), ("key", key)] }
| .selectedProfileMissing profile =>
    { level := .debug
      message := "selected profile is not defined"
      fields := [("profile", profile)] }
| .regionResolved region =>
    { level := .debug
      message := "resolved region"
      fields := [("region", region.name)] }
| .regionAbsent =>
    { level := .debug
      message := "no region configured" }
| .retryResolved config =>
    { level := .debug
      message := "resolved retry config"
      fields :=
        [ ("mode", config.mode.name),
          ("max_attempts",
            toString config.maxAttempts.toNat) ] }
| .metadataResolved disabled endpoint =>
    { level := .debug
      message := "resolved IMDS config"
      fields :=
        [ ("disabled", toString disabled),
          ("endpoint", endpoint) ] }

/-
  Whether an event arises while profiles are merged.  The
  order of such events within a merge means nothing.
-/
def ofMerge : Event → Bool
| .defaultSuperseded => true
| .sectionIgnored _ => true
| .profileNameInvalid _ => true
| .keyInvalid _ _ => true
| .propertyOverwritten _ _ => true
| _ => false

end Event

end LayeredSettings
