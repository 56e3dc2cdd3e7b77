import LayeredSettings.Setting.Basic
import LayeredSettings.Text.Quoted

/-
  This file collects the types of values that settings have.

  Key definitions include:
    * `ValueType`
    * `ValueType.Carrier`
    * `ValueType.coerce`
    * `ValueType.shown`
    * `TypedSetting`
    * `TypedSetting.shown`
-/

namespace LayeredSettings

/- The types of values. -/
inductive ValueType where
  | text
  | region
  | boolean
  | integer
  | retryMode
  | endpointMode
  deriving DecidableEq, Repr

namespace ValueType

/- The values of a type. -/
def Carrier : ValueType → Type
| .text => String
| .region => Region
| .boolean => Bool
| .integer => Int
| .retryMode => RetryMode
| .endpointMode => EndpointMode

/- How texts are read as values of a type. -/
def coerce : (t : ValueType) → Coercion t.Carrier
| .text => Coercion.text
| .region => Coercion.region
| .boolean => Coercion.boolean
| .integer => Coercion.integer
| .retryMode => Coercion.retryMode
| .endpointMode => Coercion.endpointMode

/- The form of a value in the summary of its setting. -/
def shown : (t : ValueType) → t.Carrier → String
| .text, s => Text.quoted s
| .region, r => "Region(" ++ Text.quoted r.name ++ ")"
| .boolean, true => "true"
| .boolean, false => "false"
| .integer, n => toString (show Int from n)
| .retryMode, .legacy => "Legacy"
| .retryMode, .standard => "Standard"
| .retryMode, .adaptive => "Adaptive"
| .endpointMode, .ipv4 => "IpV4"
| .endpointMode, .ipv6 => "IpV6"

end ValueType

/- A setting together with the type of its values. -/
structure TypedSetting where
  type : ValueType
  setting : Setting type.Carrier

namespace TypedSetting

/- The keys of a setting. -/
def keys
    (s : TypedSetting) : SettingKeys :=
  s.setting.keys

/- A setting that reads its type in the usual way. -/
def ofType
    (type : ValueType)
    (keys : SettingKeys)
    (fallback : Option type.Carrier) : TypedSetting :=
  ⟨type, ⟨keys, fallback, type.coerce⟩⟩

end TypedSetting

/- The summary of keys. -/
def SettingKeys.shown
    (keys : SettingKeys) : String :=
  Text.record "SettingKeys"
    [ ("name", Text.quoted keys.name),
      ("system_property", Text.optional
        (keys.systemProperty.map Text.quoted)),
      ("environment_variable", Text.optional
        (keys.environmentVariable.map Text.quoted)),
      ("profile_key", Text.optional
        (keys.profileKey.map Text.quoted)) ]

/- The summary of a setting. -/
def TypedSetting.shown
    (s : TypedSetting) : String :=
  Text.record "Setting"
    [ ("keys", s.keys.shown),
      ("default", Text.optional
        (s.setting.fallback.map s.type.shown)) ]

end LayeredSettings
