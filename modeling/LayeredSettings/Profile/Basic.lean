import LayeredSettings.Event.Logged
import LayeredSettings.Text.Letter

/-
  This file defines profiles and sets of profiles.

  Key definitions include:
    * `Property`
    * `Profile`
    * `Profile.get`
    * `Profile.insert`
    * `ProfileSet`
    * `ProfileSet.get`
    * `ProfileSet.ofLists`

  Keys are stored in lower case and asked for in any letter
  case.  The names of profiles are exact.
-/

namespace LayeredSettings

------------------------------------------------------------
-- Profiles
------------------------------------------------------------

/- A key and its value. -/
structure Property where
  key : String
  value : String
  deriving DecidableEq, Repr

/- A name and properties by key. -/
structure Profile where
  name : String
  properties : Table String Property
  deriving DecidableEq

namespace Profile

/- A profile without properties. -/
def empty
    (name : String) : Profile where
  name := name
  properties := Table.empty

/- The value of a key, in any ASCII letter case. -/
def get
    (profile : Profile)
    (key : String) : Option String :=
  (profile.properties.get? (Text.lowerCase key)).map
    Property.value

/-
  Give a key a value.  The event of a value that is replaced
  names the key and neither value.
-/
def insert
    (profile : Profile)
    (key value : String) : Logged Profile := do
  let lower := Text.lowerCase key
  if profile.properties.contains lower then
    Logged.emit (.propertyOverwritten profile.name lower)
  return { profile with
    properties :=
      profile.properties.insert lower ⟨lower, value⟩ }

/- Give keys values from left to right. -/
def insertAll
    (profile : Profile) :
    List (String × String) → Logged Profile
| [] => return profile
| (key, value) :: rest => do
    (← profile.insert key value).insertAll rest

end Profile

------------------------------------------------------------
-- Profile Sets
------------------------------------------------------------

/- Profiles by name, and the name that is selected. -/
structure ProfileSet where
  profiles : Table String Profile
  selected : String
  deriving DecidableEq

namespace ProfileSet

/- No profiles, and a selected name. -/
def empty
    (selected : String) : ProfileSet where
  profiles := Table.empty
  selected := selected

/- The profile with a name. -/
def profile?
    (set : ProfileSet)
    (name : String) : Option Profile :=
  set.profiles.get? name

/- The value of a key in the selected profile. -/
def get
    (set : ProfileSet)
    (key : String) : Option String := do
  (← set.profile? set.selected).get key

/- Whether the set has no profile. -/
def isEmpty
    (set : ProfileSet) : Bool :=
  set.profiles.isEmpty

/- The profile with a name, new if there is none yet. -/
def profileOrNew
    (set : ProfileSet)
    (name : String) : Profile :=
  (set.profile? name).getD (Profile.empty name)

/- Store a profile under a name. -/
def store
    (set : ProfileSet)
    (name : String)
    (profile : Profile) : ProfileSet :=
  { set with profiles := set.profiles.insert name profile }

/- Remove the profile with a name. -/
def remove
    (set : ProfileSet)
    (name : String) : ProfileSet :=
  { set with profiles := set.profiles.erase name }

/- Add properties to profiles, from left to right. -/
def addAll
    (set : ProfileSet) :
    List (String × List (String × String)) →
      Logged ProfileSet
| [] => return set
| (name, properties) :: rest => do
    let profile ←
      (set.profileOrNew name).insertAll properties
    (set.store name profile).addAll rest

/- A set of profiles from names, keys and values. -/
def ofLists
    (profiles : List (String × List (String × String)))
    (selected : String) : Logged ProfileSet :=
  (empty selected).addAll profiles

end ProfileSet

end LayeredSettings
