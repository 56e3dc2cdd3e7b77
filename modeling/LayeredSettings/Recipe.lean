import LayeredSettings.Environment.Flags
import LayeredSettings.Profile.Load

/-
  This file builds configs step by step.

  Key definitions include:
    * `Amendment`
    * `Config.amend`
    * `Config.amendAll`

  The amendments of a config are made one after the other.
  Only loading profiles can fail, and what is amended later
  is then of no account.
-/

namespace LayeredSettings

/- A change of a config. -/
inductive Amendment where
  | environment (environment : Variables)
  | properties (properties : Properties)
  | files (files : Files)
  | profileName (name : String)
  | profiles
      (profiles : List (String × List (String × String)))
      (selected : String)
  | freeze
  | load

namespace Config

/- Change a config. -/
def amend
    (config : Config)
    (host : Host) :
    Amendment → Attempt LoadError Config
| .environment environment =>
    return { config with environment }
| .properties properties =>
    return { config with properties }
| .files files =>
    return { config with files }
| .profileName name =>
    return { config with profileName := some name }
| .profiles profiles selected => do
    let set ← ProfileSet.ofLists profiles selected
    return config.withProfiles set
| .freeze =>
    return config.freeze host
| .load =>
    config.withLoadedProfiles host

/- Change a config from left to right. -/
def amendAll
    (config : Config)
    (host : Host) :
    List Amendment → Attempt LoadError Config
| [] => return config
| change :: rest => do
    (← config.amend host change).amendAll host rest

end Config

end LayeredSettings
