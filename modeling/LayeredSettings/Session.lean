import LayeredSettings.Recipe

/-
  This file defines sessions: a host that changes, and
  configs that are kept by name while it does.

  Key definitions include:
    * `Session`
    * `Base`, `Recipe`
    * `Session.build`
    * `Action`, `Outcome`
    * `Session.perform`
    * `Session.after`

  A config that is copied goes its own way afterwards.  Both
  copies see the host in the parts in which they are live.
-/

namespace LayeredSettings

------------------------------------------------------------
-- Building Configs
------------------------------------------------------------

/- A host and configs by name. -/
structure Session where
  host : Host
  configs : Table String Config

/- What a config is built from. -/
inductive Base where
  | empty
  | live
  | copy (name : String)
  deriving DecidableEq, Repr

/- How a config is built. -/
structure Recipe where
  base : Base
  amendments : List Amendment

/- Why a config cannot be built. -/
inductive BuildError where
  | noSuchConfig
  | loadFailed (error : LoadError)
  deriving DecidableEq, Repr

namespace Session

/- The session before the first action. -/
def initial : Session where
  host := Host.initial
  configs := Table.empty

/- The config that a build starts from. -/
def base?
    (session : Session) : Base → Option Config
| .empty => some Config.empty
| .live => some Config.live
| .copy name => session.configs.get? name

/- Build a config. -/
def build
    (session : Session)
    (recipe : Recipe) : Attempt BuildError Config :=
  match session.base? recipe.base with
  | none => throw .noSuchConfig
  | some config =>
      (config.amendAll session.host
        recipe.amendments).adapt BuildError.loadFailed

end Session

------------------------------------------------------------
-- Actions
------------------------------------------------------------

/- What changes a session. -/
inductive Action where
  | setProperty (key value : String)
  | clearProperty (key : String)
  | setVariable (name : String) (value : Bytes)
  | unsetVariable (name : String)
  | store (name : String) (recipe : Recipe)

/- What an action comes to. -/
inductive Outcome where
  | done
  | cleared (previous : Option String)
  | stored (config : Config)
  | refused (error : BuildError)

namespace Session

/- The session with another host. -/
def withHost
    (session : Session)
    (host : Host) : Session :=
  { session with host }

/- Keep a config under a name. -/
def keep
    (session : Session)
    (name : String)
    (config : Config) : Session :=
  { session with
    configs := session.configs.insert name config }

/- Perform an action.  A refused one changes nothing. -/
def perform
    (session : Session) :
    Action → Logged (Outcome × Session)
| .setProperty key value => do
    Logged.emit (.propertySet key)
    return (.done, session.withHost
      (session.host.setProperty key value))
| .clearProperty key =>
    let (previous, host) := session.host.clearProperty key
    return (.cleared previous, session.withHost host)
| .setVariable name value =>
    return (.done, session.withHost
      (session.host.setVariable name value))
| .unsetVariable name =>
    return (.done, session.withHost
      (session.host.unsetVariable name))
| .store name recipe => do
    match ← (session.build recipe).run with
    | .error error => return (.refused error, session)
    | .ok config =>
        return (.stored config, session.keep name config)

/- The session after actions from left to right. -/
def after
    (session : Session) : List Action → Session
| [] => session
| action :: rest =>
    (session.perform action).value.2.after rest

end Session

end LayeredSettings
