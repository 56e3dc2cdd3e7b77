import LayeredSettings.Chain

/-
  This file defines configs: what settings are read from.

  Key definitions include:
    * `Config`
    * `Config.empty`, `Config.live`
    * `Config.source`
    * `Config.freeze`
    * `Config.chain`
    * `Config.resolve`

  A config that is live in some part shows what the host
  has there at the moment of asking.  Profiles are loaded
  once and stay as they are.
-/

namespace LayeredSettings

/-
  The environment variables, the system properties and the
  files of a config, the name that overrides which profile
  is selected, and the profiles, if they are loaded.
-/
structure Config where
  environment : Variables
  properties : Properties
  files : Files
  profileName : Option String := none
  profiles : Option ProfileSet := none

namespace Config

/- A config in which nothing is set and no file exists. -/
def empty : Config where
  environment := .fixed Table.empty
  properties := .fixed Table.empty
  files := .memory Table.empty

/- A config that shows the host and its disk. -/
def live : Config where
  environment := .live
  properties := .live
  files := .disk

/- What the config shows to lookups at a moment. -/
def source
    (config : Config)
    (host : Host) : Source where
  variableOf := config.environment.lookup host
  propertyOf := (config.properties.current host).get?
  texts := config.environment.texts host
  properties := config.properties.current host

/- Keep the variables and properties shown now. -/
def freeze
    (config : Config)
    (host : Host) : Config :=
  { config with
    environment := config.environment.freeze host
    properties := config.properties.freeze host }

/- Use profiles. -/
def withProfiles
    (config : Config)
    (profiles : ProfileSet) : Config :=
  { config with profiles := some profiles }

/- The chain of a config: profiles come last. -/
def chain
    (config : Config) : Chain :=
  match config.profiles with
  | some profiles => Chain.withProfile profiles
  | none => Chain.standard

/- Resolve a setting. -/
def resolve
    {α : Type}
    (config : Config)
    (host : Host)
    (setting : Setting α) :
    Attempt InvalidValue (Option α) :=
  config.chain.resolve setting (config.source host)

/- Read the file at a path. -/
def fileAt
    (config : Config)
    (host : Host)
    (path : Bytes) : Except ReadError Bytes :=
  config.files.read host.disk path

end Config

end LayeredSettings
