import LayeredSettings.Text.Letter

/-
  This file defines the retry modes and their names.

  Key definitions include:
    * `RetryMode`
    * `RetryMode.name`
    * `RetryMode.ofName`
    * `UnknownRetryMode`

  A mode is read by its name, in any ASCII letter case.
-/

namespace LayeredSettings

/- How a client that fails tries again. -/
inductive RetryMode where
  | legacy
  | standard
  | adaptive
  deriving DecidableEq, Repr

namespace RetryMode

/- Every mode, in the order in which messages name them. -/
def all : List RetryMode :=
  [.legacy, .standard, .adaptive]

/- The name of a mode in files and variables. -/
def name : RetryMode → String
| .legacy => "legacy"
| .standard => "standard"
| .adaptive => "adaptive"

end RetryMode

/- A text that names no retry mode. -/
structure UnknownRetryMode where
  token : String
  deriving DecidableEq, Repr

/- The wording of an unknown retry mode. -/
def UnknownRetryMode.message
    (e : UnknownRetryMode) : String :=
  "`" ++ e.token ++
    "` is not a valid retry mode. Valid options are: " ++
    ", ".intercalate (RetryMode.all.map RetryMode.name)

/- The mode with a name, up to letter case. -/
def RetryMode.ofName
    (s : String) : Except UnknownRetryMode RetryMode :=
  match RetryMode.all.find? fun mode =>
      Text.equalIgnoringCase mode.name s with
  | some mode => .ok mode
  | none => .error ⟨s⟩

end LayeredSettings
