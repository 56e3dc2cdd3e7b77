import LayeredSettings.Profile.Load
import Mathlib

/-
  Profile sets as they are built: what each change does to
  the properties that are stored, and the invariant that
  names and keys are stored under themselves.

  Key definitions include:
    * `ProfileSet.property?`
    * `Profile.IsCoherent`
    * `ProfileSet.IsCoherent`

  Key theorems include:
    * `Profile.IsCoherent.insert`
    * `Profile.IsCoherent.get_eq`
    * `ProfileSet.IsCoherent.store`

  Every change of a set goes through `Profile.insert`, which
  stores a property under its key in lower case, and through
  `ProfileSet.store`.  So the invariant needs one lemma for
  each of them, and all else follows by induction.
-/

------------------------------------------------------------
-- Letter Case
------------------------------------------------------------

namespace LayeredSettings

/- A text in lower case stays as it is. -/
@[simp]
theorem Text.lowerCase_lowerCase
    (s : String) :
    lowerCase (lowerCase s) = lowerCase s := by
  simp [lowerCase, Function.comp_def]

end LayeredSettings

------------------------------------------------------------
-- Stored Properties
------------------------------------------------------------

namespace LayeredSettings

namespace ProfileSet

/- The property that is stored under a name and a key. -/
def property?
    (set : ProfileSet)
    (name key : String) : Option Property :=
  (set.profile? name).bind fun profile =>
    profile.properties.get? key

@[simp]
theorem profile?_empty
    (selected name : String) :
    (empty selected).profile? name = none := rfl

@[simp]
theorem profile?_store
    (set : ProfileSet)
    (name other : String)
    (profile : Profile) :
    (set.store name profile).profile? other =
      if name = other then some profile
      else set.profile? other :=
  Table.get?_insert set.profiles name other profile

@[simp]
theorem profile?_remove
    (set : ProfileSet)
    (name other : String) :
    (set.remove name).profile? other =
      if name = other then none
      else set.profile? other :=
  Table.get?_erase set.profiles name other

@[simp]
theorem property?_empty
    (selected name key : String) :
    (empty selected).property? name key = none := rfl

/- A stored profile brings its properties and no others. -/
@[simp]
theorem property?_store
    (set : ProfileSet)
    (name other key : String)
    (profile : Profile) :
    (set.store name profile).property? other key =
      if name = other then profile.properties.get? key
      else set.property? other key := by
  unfold property?
  rw [profile?_store]
  by_cases h : name = other
  · simp [h]
  · simp [h]

/- A new profile has no properties, an old one its own. -/
@[simp]
theorem get?_properties_profileOrNew
    (set : ProfileSet)
    (name key : String) :
    (set.profileOrNew name).properties.get? key =
      set.property? name key := by
  unfold profileOrNew property?
  cases set.profile? name with
  | none => rfl
  | some profile => rfl

end ProfileSet

namespace Profile

/- What an insertion stores, whatever it reports. -/
@[simp]
theorem value_insert
    (profile : Profile)
    (key value : String) :
    (profile.insert key value).value =
      { profile with
        properties :=
          profile.properties.insert (Text.lowerCase key)
            ⟨Text.lowerCase key, value⟩ } := by
  unfold insert
  by_cases h :
      profile.properties.contains (Text.lowerCase key) = true
  · simp [h]
  · simp [h]

/- What an insertion reports: a value that is replaced. -/
@[simp]
theorem events_insert
    (profile : Profile)
    (key value : String) :
    (profile.insert key value).events =
      if profile.properties.contains (Text.lowerCase key) then
        [.propertyOverwritten profile.name
          (Text.lowerCase key)]
      else [] := by
  unfold insert
  by_cases h :
      profile.properties.contains (Text.lowerCase key) = true
  · simp [h]
  · simp [h]

end Profile

end LayeredSettings

------------------------------------------------------------
-- Coherence
------------------------------------------------------------

namespace LayeredSettings

/-
  Each property is stored under its own key, and that key
  has no letter in upper case.
-/
def Profile.IsCoherent
    (profile : Profile) : Prop :=
  ∀ key property,
    profile.properties.get? key = some property →
      property.key = key ∧ Text.lowerCase key = key

/- Each profile is coherent and stored under its name. -/
def ProfileSet.IsCoherent
    (set : ProfileSet) : Prop :=
  ∀ name profile,
    set.profile? name = some profile →
      profile.name = name ∧ profile.IsCoherent

namespace Profile

theorem isCoherent_empty
    (name : String) :
    (empty name).IsCoherent := by
  intro key property hProperty
  simp [empty] at hProperty

/- Insertion stores a property under its own key. -/
theorem IsCoherent.insert
    {profile : Profile}
    (hProfile : profile.IsCoherent)
    (key value : String) :
    (profile.insert key value).value.IsCoherent := by
  intro other property hProperty
  rw [value_insert] at hProperty
  simp only [Table.get?_insert] at hProperty
  by_cases h : Text.lowerCase key = other
  · rw [if_pos h] at hProperty
    cases hProperty
    subst h
    exact ⟨rfl, Text.lowerCase_lowerCase key⟩
  · rw [if_neg h] at hProperty
    exact hProfile other property hProperty

/-
  In a coherent profile a key finds the property of which
  the key is equal to it up to letter case.
-/
theorem IsCoherent.get_eq
    {profile : Profile}
    (hProfile : profile.IsCoherent)
    (key : String) :
    profile.get key =
      (profile.properties.entries.find? fun entry =>
        Text.equalIgnoringCase entry.1 key).map
          fun entry => entry.2.value := by
  have hLower :
      ∀ entry ∈ profile.properties.entries,
        Text.lowerCase entry.1 = entry.1 := by
    intro entry hEntry
    have hStored :=
      (profile.properties.get?_eq_some_iff_mem
        entry.1 entry.2).mpr hEntry
    exact (hProfile entry.1 entry.2 hStored).2
  unfold get Table.get?
  generalize profile.properties.entries = entries at hLower
  induction entries with
  | nil => rfl
  | cons entry rest ih =>
      obtain ⟨stored, property⟩ := entry
      have hStored : Text.lowerCase stored = stored :=
        hLower (stored, property) (by simp)
      have hRest := ih fun entry hEntry =>
        hLower entry (by simp [hEntry])
      by_cases h : stored = Text.lowerCase key
      · simp [Entries.get?, Text.equalIgnoringCase, h]
      · simp only [Entries.get?, if_neg h, hRest]
        simp [Text.equalIgnoringCase, hStored, h]

end Profile

namespace ProfileSet

theorem isCoherent_empty
    (selected : String) :
    (empty selected).IsCoherent := by
  intro name profile hProfile
  simp at hProfile

/- Storing a coherent profile under its name is safe. -/
theorem IsCoherent.store
    {set : ProfileSet}
    (hSet : set.IsCoherent)
    {profile : Profile}
    {name : String}
    (hName : profile.name = name)
    (hProfile : profile.IsCoherent) :
    (set.store name profile).IsCoherent := by
  intro other stored hStored
  rw [profile?_store] at hStored
  by_cases h : name = other
  · rw [if_pos h] at hStored
    cases hStored
    exact ⟨hName.trans h, hProfile⟩
  · rw [if_neg h] at hStored
    exact hSet other stored hStored

theorem IsCoherent.remove
    {set : ProfileSet}
    (hSet : set.IsCoherent)
    (name : String) :
    (set.remove name).IsCoherent := by
  intro other stored hStored
  rw [profile?_remove] at hStored
  by_cases h : name = other
  · simp [h] at hStored
  · rw [if_neg h] at hStored
    exact hSet other stored hStored

/- A profile that is added to is coherent to begin with. -/
theorem IsCoherent.profileOrNew
    {set : ProfileSet}
    (hSet : set.IsCoherent)
    (name : String) :
    (set.profileOrNew name).name = name ∧
      (set.profileOrNew name).IsCoherent := by
  unfold ProfileSet.profileOrNew
  cases h : set.profile? name with
  | none => exact ⟨rfl, Profile.isCoherent_empty name⟩
  | some profile => exact hSet name profile h

end ProfileSet

end LayeredSettings
