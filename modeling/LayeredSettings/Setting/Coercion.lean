import LayeredSettings.Decimal
import LayeredSettings.Metadata.EndpointMode
import LayeredSettings.Region.Basic
import LayeredSettings.Retry.Mode

/-
  This file defines coercion: from the text of a setting to
  its value.

  Key definitions include:
    * `CoercionError`
    * `CoercionError.message`
    * `CoercionError.sources`
    * `Coercion`
    * `Coercion.text`, `Coercion.boolean`,
      `Coercion.integer`, `Coercion.region`,
      `Coercion.retryMode`, `Coercion.endpointMode`

  A text is coerced as it is: nothing is trimmed before.
-/

namespace LayeredSettings

------------------------------------------------------------
-- Errors
------------------------------------------------------------

/- What keeps a raw value from being a setting's value. -/
inductive CoercionError where
  | notBoolean (value : String)
  | notInteger (value : String) (fault : Decimal.Fault)
  | notRetryMode (cause : UnknownRetryMode)
  | notEndpointMode (cause : UnknownEndpointMode)
  | notUnicode (value : String)
  deriving DecidableEq, Repr

namespace CoercionError

/- The wording of an error. -/
def message : CoercionError → String
| .notBoolean v =>
    "`" ++ v ++ "` is not a valid boolean. " ++
      "Expected `true` or `false`"
| .notInteger v _ =>
    "`" ++ v ++ "` is not a valid base-10 integer"
| .notRetryMode cause => cause.message
| .notEndpointMode cause => cause.message
| .notUnicode v => "`" ++ v ++ "` is not valid unicode"

/-
  The wordings of what caused an error.  The causes of an
  unknown mode are those of the error itself, so none.
-/
def sources : CoercionError → List String
| .notInteger _ fault => [fault.message]
| .notBoolean _ => []
| .notRetryMode _ => []
| .notEndpointMode _ => []
| .notUnicode _ => []

end CoercionError

------------------------------------------------------------
-- Coercions
------------------------------------------------------------

/- A reading of texts as values. -/
abbrev Coercion
    (α : Type) :=
  String → Except CoercionError α

namespace Coercion

/- Every text is its own value. -/
def text : Coercion String :=
  .ok

/- `true` or `false`, in any ASCII letter case. -/
def boolean : Coercion Bool := fun s =>
  if Text.equalIgnoringCase s "true" then .ok true
  else if Text.equalIgnoringCase s "false" then .ok false
  else .error (.notBoolean s)

/- An integer of 64 bits; narrower ranges are for users. -/
def integer : Coercion Int := fun s =>
  (Decimal.read .signed64 s.toList).mapError
    (CoercionError.notInteger s)

/- Every text names a region. -/
def region : Coercion Region := fun s =>
  .ok ⟨s⟩

/- The name of a retry mode. -/
def retryMode : Coercion RetryMode := fun s =>
  (RetryMode.ofName s).mapError .notRetryMode

/- The name of an endpoint mode. -/
def endpointMode : Coercion EndpointMode := fun s =>
  (EndpointMode.ofName s).mapError .notEndpointMode

end Coercion

end LayeredSettings
