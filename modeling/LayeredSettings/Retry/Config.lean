import LayeredSettings.Retry.Mode

/-
  This file defines retry configurations.

  Key definitions include:
    * `RetryConfig`
    * `RetryConfig.standard`
    * `RetryConfig.withMode`
    * `RetryConfig.withMaxAttempts`

  The attempts are counted with the first one, so a limit
  of one means that nothing is tried again.
-/

namespace LayeredSettings

/- A retry mode and the most attempts of a request. -/
structure RetryConfig where
  mode : RetryMode
  maxAttempts : UInt32
  deriving DecidableEq, Repr

namespace RetryConfig

/- What holds if nothing is configured. -/
def standard : RetryConfig where
  mode := .standard
  maxAttempts := 3

/- Change the mode. -/
def withMode
    (config : RetryConfig)
    (mode : RetryMode) : RetryConfig :=
  { config with mode }

/- Change the limit; the caller answers for its sense. -/
def withMaxAttempts
    (config : RetryConfig)
    (maxAttempts : UInt32) : RetryConfig :=
  { config with maxAttempts }

end RetryConfig

end LayeredSettings
