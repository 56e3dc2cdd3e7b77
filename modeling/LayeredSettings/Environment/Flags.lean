import LayeredSettings.Table
import LayeredSettings.Text.Line

/-
  This file reads system properties from the arguments of a
  command line.

  Key definitions include:
    * `Flags.property?`
    * `Flags.properties`

  An argument `-Dkey=value` sets a property, and `-Dkey`
  sets it to the empty text.  Other arguments are passed by.
-/

namespace LayeredSettings

namespace Flags

/- The property that an argument sets. -/
def property?
    (argument : String) : Option (String × String) :=
  match argument.toList with
  | '-' :: 'D' :: flag =>
      let (key, value) :=
        (Text.splitFirst '=' flag).getD (flag, [])
      if key = [] then none
      else some (String.ofList key, String.ofList value)
  | _ => none

/- The properties that arguments set; later ones win. -/
def properties
    (arguments : List String) : Table String String :=
  Table.ofList (arguments.filterMap property?)

end Flags

end LayeredSettings
