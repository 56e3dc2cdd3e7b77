import LayeredSettings.Files.Basic

/-
  This file defines what a host offers to settings, and
  live and frozen views of it.

  Key definitions include:
    * `Host`
    * `Host.lookup`
    * `Variables`, `Properties`
    * `Variables.current`, `Properties.current`
    * `Variables.lookup`
    * `Variables.freeze`, `Properties.freeze`
    * `Source`

  Key theorems include:
    * `Host.lookup_eq_get?`

  A live view reads the host when it is asked.  A fixed
  view has its own table and never sees the host.
-/

namespace LayeredSettings

------------------------------------------------------------
-- Hosts
------------------------------------------------------------

/-
  The state that settings can be read from: environment
  variables, which are bytes, system properties, which are
  text, and the disk.
-/
structure Host where
  environment : Table String Bytes
  properties : Table String String
  disk : Disk

namespace Host

/- A host in which nothing is set. -/
def initial : Host where
  environment := Table.empty
  properties := Table.empty
  disk := Disk.bare

/- Set an environment variable. -/
def setVariable
    (host : Host)
    (name : String)
    (value : Bytes) : Host :=
  { host with environment := host.environment.insert name value }

/- Remove an environment variable. -/
def unsetVariable
    (host : Host)
    (name : String) : Host :=
  { host with environment := host.environment.erase name }

/-
  What a host answers for a name.  A host keeps a variable
  as one entry, its name, `=` and its value, and answers
  with what follows the asked name and `=` in an entry.  So
  a name may take in the start of a value: if A is x=y,
  then A=x is y.
-/
def lookup
    (host : Host)
    (name : String) : Option Bytes :=
  match Text.splitFirst '=' name.toList with
  | none => host.environment.get? name
  | some (before, after) => do
      let value ←
        host.environment.get? (String.ofList before)
      Text.after?
        (Utf8.encode (String.ofList after ++ "=")) value

/- A name without `=` is answered by its own variable. -/
theorem lookup_eq_get?
    {host : Host}
    {name : String}
    (h : '=' ∉ name.toList) :
    host.lookup name = host.environment.get? name := by
  simp [lookup, Text.splitFirst_eq_none_iff.2 h]

/- Set a system property. -/
def setProperty
    (host : Host)
    (key value : String) : Host :=
  { host with properties := host.properties.insert key value }

/- Remove a system property and return its last value. -/
def clearProperty
    (host : Host)
    (key : String) : Option String × Host :=
  ( host.properties.get? key,
    { host with properties := host.properties.erase key } )

end Host

------------------------------------------------------------
-- Views of Environment Variables
------------------------------------------------------------

/- The variables of the host, or variables of its own. -/
inductive Variables where
  | live
  | fixed (table : Table String Bytes)

namespace Variables

/- The variables that a view shows at a moment. -/
def current
    (vars : Variables)
    (host : Host) : Table String Bytes :=
  match vars with
  | .live => host.environment
  | .fixed table => table

/-
  The value that a view shows under a name at a moment.  A
  table of its own is asked for exactly that name.
-/
def lookup
    (vars : Variables)
    (host : Host)
    (name : String) : Option Bytes :=
  match vars with
  | .live => host.lookup name
  | .fixed table => table.get? name

/- The view that keeps showing what is shown now. -/
def freeze
    (vars : Variables)
    (host : Host) : Variables :=
  .fixed (vars.current host)

/- The variables whose values are text. -/
def texts
    (vars : Variables)
    (host : Host) : Table String String :=
  (vars.current host).filterMapValues Utf8.decode?

/- A summary, which shows names and no values. -/
def shown : Variables → String
| .live => "Env::Real"
| .fixed table =>
    Text.record "Env::Fake"
      [ ("vars", Text.bracketed
          (table.keys.map Text.quoted)) ]

end Variables

------------------------------------------------------------
-- Views of System Properties
------------------------------------------------------------

/- The properties of the host, or ones of its own. -/
inductive Properties where
  | live
  | fixed (table : Table String String)

namespace Properties

/- The properties that a view shows at a moment. -/
def current
    (props : Properties)
    (host : Host) : Table String String :=
  match props with
  | .live => host.properties
  | .fixed table => table

/- The view that keeps showing what is shown now. -/
def freeze
    (props : Properties)
    (host : Host) : Properties :=
  .fixed (props.current host)

/- A summary, which shows keys and no values. -/
def shown : Properties → String
| .live => "SystemProperties::Process"
| .fixed table =>
    Text.record "SystemProperties::Fake"
      [ ("keys", Text.bracketed
          (table.keys.map Text.quoted)) ]

end Properties

------------------------------------------------------------
-- Sources
------------------------------------------------------------

/-
  What lookups read: the value of each environment variable
  and of each system property, the variables whose values
  are text, and the system properties.
-/
structure Source where
  variableOf : String → Option Bytes
  propertyOf : String → Option String
  texts : Table String String
  properties : Table String String

namespace Source

/- The text of a variable, if it is set to text. -/
def textOf
    (source : Source)
    (name : String) : Option String :=
  (source.variableOf name).bind Utf8.decode?

end Source

end LayeredSettings
