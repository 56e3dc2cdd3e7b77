import LayeredSettings.Setting.Basic
import LayeredSettings.Text.Utf8

/-
  This file defines what a lookup finds, and the error of a
  setting whose text is found and cannot be coerced.

  Key definitions include:
    * `Origin`
    * `RawValue`
    * `RawValue.ofText`
    * `RawValue.ofBytes`
    * `RawValue.coerce`
    * `InvalidValue`

  A value that is not Unicode is found like any other.  It
  is shown with replacements and coerces to nothing.
-/

namespace LayeredSettings

------------------------------------------------------------
-- Origins
------------------------------------------------------------

/- Where the text of a setting is found. -/
inductive Origin where
  | systemProperty
  | environmentVariable
  | profile (name : String)
  deriving DecidableEq, Repr

/- The wording of an origin, before a key. -/
def Origin.text : Origin → String
| .systemProperty => "system property"
| .environmentVariable => "environment variable"
| .profile name => "profile `" ++ name ++ "` key"

------------------------------------------------------------
-- Raw Values
------------------------------------------------------------

/-
  The text of a setting before coercion, with the key and
  the origin.  If the value found is not Unicode, `value` is
  its lossy form.
-/
structure RawValue where
  value : String
  key : String
  origin : Origin
  unicode : Bool
  deriving DecidableEq, Repr

namespace RawValue

/- A value that is found as text. -/
def ofText
    (value key : String)
    (origin : Origin) : RawValue :=
  ⟨value, key, origin, true⟩

/- A value that is found as bytes. -/
def ofBytes
    (bytes : Bytes)
    (key : String)
    (origin : Origin) : RawValue :=
  match Utf8.decode? bytes with
  | some value => ofText value key origin
  | none => ⟨Utf8.lossy bytes, key, origin, false⟩

/- Coerce a value, which has to be Unicode. -/
def coerce
    {α : Type}
    (raw : RawValue)
    (read : Coercion α) : Except CoercionError α :=
  if raw.unicode then read raw.value
  else .error (.notUnicode raw.value)

end RawValue

------------------------------------------------------------
-- Invalid Values
------------------------------------------------------------

/- A value that is found and cannot be coerced. -/
structure InvalidValue where
  key : String
  value : String
  origin : Origin
  cause : CoercionError
  deriving DecidableEq, Repr

namespace InvalidValue

/- The error of a raw value. -/
def ofRaw
    (raw : RawValue)
    (cause : CoercionError) : InvalidValue :=
  ⟨raw.key, raw.value, raw.origin, cause⟩

/- The wording of an invalid value. -/
def message
    (e : InvalidValue) : String :=
  "invalid value for " ++ e.origin.text ++
    " `" ++ e.key ++ "`: " ++ e.cause.message

/- The wordings of what caused an invalid value. -/
def sources
    (e : InvalidValue) : List String :=
  e.cause.message :: e.cause.sources

end InvalidValue

end LayeredSettings
