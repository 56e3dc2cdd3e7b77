import LayeredSettings.Profile.Basic
import LayeredSettings.Text.Blank
import LayeredSettings.Text.Line

/-
  This file merges the sections of a file into profiles.

  Key definitions include:
    * `Designation`
    * `Designation.of`
    * `Merge`
    * `Merge.addSection`
    * `ProfileSet.mergeFile`

  In a credentials file a section has the name of a profile.
  In a config file it has that name after `profile`, except
  for `default`, which also stands alone.  If both forms of
  the default profile are there, the one with `profile` wins
  and the other leaves no trace, in whatever order they come.
-/

namespace LayeredSettings

------------------------------------------------------------
-- Names of Sections
------------------------------------------------------------

/- What the name of a section designates. -/
inductive Designation where
  | named (profile : String)
  | bareDefault
  | prefixedDefault
  | nothing
  deriving DecidableEq, Repr

namespace Designation

/- The word before the names of profiles. -/
def keyword : String :=
  "profile"

/- The text after the keyword and a blank, trimmed. -/
def afterKeyword
    (heading : String) : Option String :=
  match Text.after? keyword.toList heading.toList with
  | some (c :: rest) =>
      if Text.isBlank c then
        some (String.ofList
          (Text.trim Text.isWhiteSpace (c :: rest)))
      else none
  | _ => none

/- The designation of a section of a config file. -/
def ofConfig
    (heading : String) : Designation :=
  if heading = "default" then .bareDefault
  else
    match afterKeyword heading with
    | none => .nothing
    | some name =>
        if name = "default" then .prefixedDefault
        else .named name

/- The designation of a section of a file. -/
def of
    (kind : FileKind)
    (heading : String) : Designation :=
  match kind with
  | .credentials => .named heading
  | .config => ofConfig heading

end Designation

------------------------------------------------------------
-- Merging
------------------------------------------------------------

/-
  The state of a merge: the profiles, and whether a default
  section with the keyword was found in the file.
-/
structure Merge where
  profiles : ProfileSet
  prefixedDefault : Bool
  deriving DecidableEq

namespace Merge

/- Insert properties, of which the keys have to be valid. -/
def addProperties
    (profile : Profile)
    (name : String) :
    List (String × String) → Logged Profile
| [] => return profile
| (key, value) :: rest => do
    if Text.isIdentifier key then
      addProperties (← profile.insert key value) name rest
    else
      Logged.emit (.keyInvalid name key)
      addProperties profile name rest

/- Add properties to the profile with a valid name. -/
def contribute
    (merge : Merge)
    (name : String)
    (properties : List (String × String)) :
    Logged Merge := do
  if Text.isIdentifier name then
    let profile ← addProperties
      (merge.profiles.profileOrNew name) name properties
    return { merge with
      profiles := merge.profiles.store name profile }
  else
    Logged.emit (.profileNameInvalid name)
    return merge

/-
  Give the default profile to the sections with the keyword:
  what the profile had before is dropped, once per file.
-/
def claimDefault
    (merge : Merge) : Logged Merge := do
  if merge.prefixedDefault then
    return merge
  if (merge.profiles.profile? "default").isSome then
    Logged.emit .defaultSuperseded
  return ⟨merge.profiles.remove "default", true⟩

/- Merge a section. -/
def addSection
    (kind : FileKind)
    (merge : Merge)
    (heading : String)
    (properties : List (String × String)) :
    Logged Merge := do
  match Designation.of kind heading with
  | .named name => merge.contribute name properties
  | .bareDefault =>
      if merge.prefixedDefault then
        Logged.emit .defaultSuperseded
        return merge
      else merge.contribute "default" properties
  | .prefixedDefault =>
      (← merge.claimDefault).contribute "default" properties
  | .nothing =>
      Logged.emit (.sectionIgnored heading)
      return merge

/- Merge sections from left to right. -/
def addSections
    (kind : FileKind)
    (merge : Merge) :
    List (String × List (String × String)) → Logged Merge
| [] => return merge
| (heading, properties) :: rest => do
    addSections kind
      (← merge.addSection kind heading properties) rest

end Merge

/- Merge the sections of a file, listed in any order. -/
def ProfileSet.mergeFile
    (base : ProfileSet)
    (kind : FileKind)
    (sections : List (String × List (String × String))) :
    Logged ProfileSet := do
  return (← Merge.addSections kind ⟨base, false⟩
    sections).profiles

end LayeredSettings
