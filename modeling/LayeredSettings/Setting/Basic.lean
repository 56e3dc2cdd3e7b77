import LayeredSettings.Setting.Coercion

/-
  This file defines settings.

  Key definitions include:
    * `SettingKeys`
    * `Setting`

  A setting says where to look for its text, how to coerce
  the text, and which value holds if there is no text.
-/

namespace LayeredSettings

/-
  The names under which a setting is found.  A setting
  without keys is found nowhere.  `name` is what errors and
  events call the setting.
-/
structure SettingKeys where
  name : String
  systemProperty : Option String := none
  environmentVariable : Option String := none
  profileKey : Option String := none
  deriving DecidableEq, Repr

/- A named setting with values of one type. -/
structure Setting
    (α : Type) where
  keys : SettingKeys
  fallback : Option α := none
  coerce : Coercion α

/- The name of a setting. -/
def Setting.name
    {α : Type}
    (setting : Setting α) : String :=
  setting.keys.name

end LayeredSettings
