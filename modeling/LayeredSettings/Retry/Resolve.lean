import LayeredSettings.Config
import LayeredSettings.Setting.Catalog

/-
  This file resolves retry configurations.

  Key definitions include:
    * `RetryError`
    * `RetryConfig.attempts`
    * `Config.resolveRetry`

  The mode and the limit are resolved one by one, so they
  may come from different sources.
-/

namespace LayeredSettings

/- Why there is no retry configuration. -/
inductive RetryError where
  | invalidValue (cause : InvalidValue)
  | invalidMaxAttempts (value : Int)
  deriving DecidableEq, Repr

namespace RetryError

/- The wording of a retry error. -/
def message : RetryError → String
| .invalidValue cause => cause.message
| .invalidMaxAttempts value =>
    "it is invalid to set max attempts to " ++
      toString value ++
      ". Unset it or set it to an integer greater than " ++
      "or equal to one."

/-
  The wordings of what caused a retry error.  An invalid
  value speaks for itself, so its causes are listed here.
-/
def sources : RetryError → List String
| .invalidValue cause => cause.sources
| .invalidMaxAttempts _ => []

end RetryError

/- A limit of one attempt at least, of 32 bits at most. -/
def RetryConfig.attempts
    (n : Int) : Except RetryError UInt32 :=
  if 1 ≤ n ∧ n < 0x100000000 then .ok (UInt32.ofNat n.toNat)
  else .error (.invalidMaxAttempts n)

/- The configuration from a mode and a limit, if any. -/
def RetryConfig.ofSettings
    (mode : Option RetryMode)
    (attempts : Option UInt32) : RetryConfig where
  mode := mode.getD RetryConfig.standard.mode
  maxAttempts :=
    attempts.getD RetryConfig.standard.maxAttempts

/- Resolve the retry configuration. -/
def Config.resolveRetry
    (config : Config)
    (host : Host) : Attempt RetryError RetryConfig := do
  let mode ← (config.resolve host Catalog.retryMode).adapt
    RetryError.invalidValue
  let limit ← (config.resolve host Catalog.maxAttempts).adapt
    RetryError.invalidValue
  let attempts ← ExceptT.mk
    (pure (limit.mapM RetryConfig.attempts))
  let retry := RetryConfig.ofSettings mode attempts
  Logged.emit (.retryResolved retry)
  return retry

end LayeredSettings
