import LayeredSettings.Environment.Basic
import LayeredSettings.Event.Logged

/-
  This file expands paths that start in the home directory.

  Key definitions include:
    * `HomePath.tail?`
    * `HomePath.push`
    * `HomePath.expand`

  A path starts in the home directory if its first part is
  exactly `~`.  The other parts are pushed onto the text of
  the variable HOME, which is not cleaned.  Any other path
  is used as it is written.
-/

namespace LayeredSettings

namespace HomePath

/-
  The parts of a path after `~`, if it starts with that.
  Empty parts and `.` are left out; `..` stays.
-/
def tail?
    (path : List Char) : Option (List (List Char)) :=
  match Text.splitAll '/' path with
  | ['~'] :: parts =>
      some (parts.filter fun part =>
        !(part.isEmpty || part = ['.']))
  | _ => none

/- Append a part to a path, with one `/` between them. -/
def push
    (path part : List Char) : List Char :=
  if path = [] ∨ path.getLast? = some '/' then
    path ++ part
  else path ++ '/' :: part

/- The home directory: HOME, if it is set to text. -/
def home?
    (source : Source) : Logged (Option String) := do
  match source.textOf "HOME" with
  | some home =>
      Logged.emit .homeFound
      Logged.emit (.homeSubstituted home)
      return some home
  | none =>
      Logged.emit .homeMissing
      return none

/- Replace a leading `~` by the home directory. -/
def expand
    (source : Source)
    (path : String) : Logged String := do
  match tail? path.toList with
  | none => return path
  | some parts =>
      let home := (← home? source).getD ""
      return String.ofList (parts.foldl push home.toList)

end HomePath

end LayeredSettings
