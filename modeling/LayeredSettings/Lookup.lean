import LayeredSettings.Environment.Basic
import LayeredSettings.Profile.Basic

/-
  This file defines lookups, the levels of precedence at
  which the text of a setting can be found.

  Key definitions include:
    * `Lookup`
    * `Lookup.systemProperty`
    * `Lookup.environmentVariable`
    * `Lookup.profile`
    * `Lookup.fixed`

  A lookup finds text and never coerces it, so a text that
  is invalid is found like any other.
-/

namespace LayeredSettings

/-
  A way to find the raw value of a setting.  The label is the
  name of the lookup, which stands for it in reports.
-/
structure Lookup where
  label : String
  find : SettingKeys → Source → Option RawValue

namespace Lookup

/- Find a system property. -/
def systemProperty : Lookup where
  label := "SystemPropertyLookup"
  find keys source := do
    let key ← keys.systemProperty
    let value ← source.propertyOf key
    return RawValue.ofText value key .systemProperty

/- Find an environment variable, be it text or not. -/
def environmentVariable : Lookup where
  label := "EnvironmentVariableLookup"
  find keys source := do
    let key ← keys.environmentVariable
    let bytes ← source.variableOf key
    return RawValue.ofBytes bytes key .environmentVariable

/-
  Find a property of the selected profile.  The label leaves
  out the profiles that the lookup has: a report at the level
  of traces shows them too, with the values of all their
  properties, and nothing here is claimed of that field.
-/
def profile
    (profiles : ProfileSet) : Lookup where
  label := "ProfileFileLookup"
  find keys _ := do
    let key ← keys.profileKey
    let value ← profiles.get key
    return RawValue.ofText value key
      (.profile profiles.selected)

/- Find the same text for every setting, or nothing. -/
def fixed
    (text : Option String) : Lookup where
  label := "Fixed"
  find keys _ :=
    text.map fun value =>
      RawValue.ofText value keys.name .systemProperty

end Lookup

end LayeredSettings
