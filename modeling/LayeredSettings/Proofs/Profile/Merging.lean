import LayeredSettings.Proofs.Profile.Coherence

/-
  What a merge does to the stored properties, whatever it
  reports.

  Key definitions include:
    * `Merge.givenProperty`

  Key theorems include:
    * `Merge.get?_addProperties`
    * `Merge.property?_contribute`
    * `Merge.addSections_induction`
    * `ProfileSet.isCoherent_mergeFile`
    * `ProfileSet.selected_mergeFile`

  A merge changes profiles in two ways only: a section
  contributes to a profile, or it claims the default
  profile.  What both of them keep, every merge keeps.
-/

------------------------------------------------------------
-- Contributions
------------------------------------------------------------

namespace LayeredSettings

namespace Merge

/-
  What a section gives to a key of its profile: the last
  valid property that has the key up to letter case.
-/
def givenProperty
    (key : String) :
    List (String × String) → Option Property
| [] => none
| (written, value) :: rest =>
    (givenProperty key rest).or
      (if Text.isIdentifier written ∧
          Text.lowerCase written = key then
        some ⟨key, value⟩
      else none)

/- A property with a valid key is inserted. -/
theorem addProperties_cons_of_valid
    (profile : Profile)
    (name : String)
    {written : String}
    (hValid : Text.isIdentifier written = true)
    (value : String)
    (rest : List (String × String)) :
    addProperties profile name ((written, value) :: rest) =
      profile.insert written value >>= fun next =>
        addProperties next name rest := by
  simp [addProperties, hValid]

/- A property with an invalid key is reported. -/
theorem addProperties_cons_of_invalid
    (profile : Profile)
    (name : String)
    {written : String}
    (hInvalid : Text.isIdentifier written = false)
    (value : String)
    (rest : List (String × String)) :
    addProperties profile name ((written, value) :: rest) =
      Logged.emit (.keyInvalid name written) >>= fun _ =>
        addProperties profile name rest := by
  simp [addProperties, hInvalid]

/- Properties are added, and then the ones after them. -/
theorem addProperties_append
    (profile : Profile)
    (name : String)
    (before after : List (String × String)) :
    addProperties profile name (before ++ after) =
      addProperties profile name before >>= fun next =>
        addProperties next name after := by
  induction before generalizing profile with
  | nil => rfl
  | cons entry rest ih =>
      obtain ⟨written, value⟩ := entry
      rw [List.cons_append]
      cases hValid : Text.isIdentifier written with
      | false =>
          simp only [addProperties_cons_of_invalid _ _ hValid,
            bind_assoc, ih]
      | true =>
          simp only [addProperties_cons_of_valid _ _ hValid,
            bind_assoc, ih]

/- A profile keeps a property that it is not given anew. -/
theorem get?_addProperties
    (profile : Profile)
    (name key : String)
    (properties : List (String × String)) :
    (addProperties profile name
      properties).value.properties.get? key =
        (givenProperty key properties).or
          (profile.properties.get? key) := by
  induction properties generalizing profile with
  | nil => rfl
  | cons property rest ih =>
      obtain ⟨written, value⟩ := property
      cases hValid : Text.isIdentifier written with
      | true =>
          rw [addProperties_cons_of_valid profile name hValid,
            Logged.value_bind, ih, Profile.value_insert]
          by_cases hKey : Text.lowerCase written = key
          · simp [givenProperty, hValid, hKey]
          · simp [givenProperty, hKey]
      | false =>
          rw [addProperties_cons_of_invalid profile name
            hValid, Logged.value_bind, ih]
          simp [givenProperty, hValid]

/- Properties are added to a profile of the same name. -/
@[simp]
theorem name_addProperties
    (profile : Profile)
    (name : String)
    (properties : List (String × String)) :
    (addProperties profile name properties).value.name =
      profile.name := by
  induction properties generalizing profile with
  | nil => rfl
  | cons property rest ih =>
      obtain ⟨written, value⟩ := property
      cases hValid : Text.isIdentifier written with
      | true =>
          rw [addProperties_cons_of_valid profile name hValid,
            Logged.value_bind, ih, Profile.value_insert]
      | false =>
          rw [addProperties_cons_of_invalid profile name
            hValid, Logged.value_bind, ih]

theorem isCoherent_addProperties
    {profile : Profile}
    (hProfile : profile.IsCoherent)
    (name : String)
    (properties : List (String × String)) :
    (addProperties profile name
      properties).value.IsCoherent := by
  induction properties generalizing profile with
  | nil => exact hProfile
  | cons property rest ih =>
      obtain ⟨written, value⟩ := property
      cases hValid : Text.isIdentifier written with
      | true =>
          rw [addProperties_cons_of_valid profile name hValid]
          exact ih (hProfile.insert written value)
      | false =>
          rw [addProperties_cons_of_invalid profile name
            hValid]
          exact ih hProfile

/- A contribution stores a profile with a valid name. -/
theorem value_contribute
    (merge : Merge)
    (name : String)
    (properties : List (String × String)) :
    (merge.contribute name properties).value =
      if Text.isIdentifier name then
        { merge with
          profiles := merge.profiles.store name
            (addProperties
              (merge.profiles.profileOrNew name) name
                properties).value }
      else merge := by
  unfold contribute
  by_cases hName : Text.isIdentifier name = true
  · simp [hName]
  · simp [hName]

/-
  A contribution comes before what its profile had, and no
  other profile gets any of it.
-/
theorem property?_contribute
    (merge : Merge)
    (name other key : String)
    (properties : List (String × String)) :
    (merge.contribute name
      properties).value.profiles.property? other key =
        (if name = other ∧ Text.isIdentifier name then
          givenProperty key properties
        else none).or
          (merge.profiles.property? other key) := by
  rw [value_contribute]
  by_cases hName : Text.isIdentifier name = true
  · rw [if_pos hName]
    by_cases h : name = other
    · subst h
      simp [hName, get?_addProperties]
    · simp [h]
  · simp [hName]

/- A contribution makes its profile exist and no other. -/
theorem isSome_profile?_contribute
    (merge : Merge)
    (name other : String)
    (properties : List (String × String)) :
    ((merge.contribute name
      properties).value.profiles.profile? other).isSome ↔
        (name = other ∧ Text.isIdentifier name = true) ∨
          (merge.profiles.profile? other).isSome := by
  rw [value_contribute]
  by_cases hName : Text.isIdentifier name = true
  · rw [if_pos hName]
    by_cases h : name = other
    · subst h
      simp [hName]
    · simp [h]
  · simp [hName]

theorem selected_contribute
    (merge : Merge)
    (name : String)
    (properties : List (String × String)) :
    (merge.contribute name
      properties).value.profiles.selected =
        merge.profiles.selected := by
  rw [value_contribute]
  by_cases hName : Text.isIdentifier name = true
  · rw [if_pos hName]
    rfl
  · rw [if_neg hName]

theorem isCoherent_contribute
    {merge : Merge}
    (hMerge : merge.profiles.IsCoherent)
    (name : String)
    (properties : List (String × String)) :
    (merge.contribute name
      properties).value.profiles.IsCoherent := by
  rw [value_contribute]
  by_cases hName : Text.isIdentifier name = true
  · rw [if_pos hName]
    have hOld := hMerge.profileOrNew name
    apply hMerge.store
    · rw [name_addProperties]
      exact hOld.1
    · exact isCoherent_addProperties hOld.2 name properties
  · rw [if_neg hName]
    exact hMerge

end Merge

end LayeredSettings

------------------------------------------------------------
-- The Default Profile
------------------------------------------------------------

namespace LayeredSettings

namespace Merge

/- A claim drops the default profile at its first time. -/
theorem value_claimDefault
    (merge : Merge) :
    merge.claimDefault.value =
      if merge.prefixedDefault then merge
      else ⟨merge.profiles.remove "default", true⟩ := by
  unfold claimDefault
  by_cases hClaimed : merge.prefixedDefault = true
  · simp [hClaimed]
  · by_cases hOld :
        (merge.profiles.profile? "default").isSome = true
    · simp [hClaimed, hOld]
    · simp [hClaimed, hOld]

theorem isCoherent_claimDefault
    {merge : Merge}
    (hMerge : merge.profiles.IsCoherent) :
    merge.claimDefault.value.profiles.IsCoherent := by
  rw [value_claimDefault]
  by_cases hClaimed : merge.prefixedDefault = true
  · rw [if_pos hClaimed]
    exact hMerge
  · rw [if_neg hClaimed]
    exact hMerge.remove "default"

end Merge

end LayeredSettings

------------------------------------------------------------
-- Whole Merges
------------------------------------------------------------

namespace LayeredSettings

namespace Merge

/-
  What the contributions of a section and claims of the
  default profile keep is kept by the section.
-/
theorem addSection_induction
    {I : Merge → Prop}
    {properties : List (String × String)}
    (hContribute :
      ∀ merge name,
        I merge → I (merge.contribute name properties).value)
    (hClaim : ∀ merge, I merge → I merge.claimDefault.value)
    {merge : Merge}
    (hMerge : I merge)
    (kind : FileKind)
    (heading : String) :
    I (merge.addSection kind heading properties).value := by
  unfold addSection
  cases Designation.of kind heading with
  | named name => exact hContribute merge name hMerge
  | bareDefault =>
      by_cases hClaimed : merge.prefixedDefault = true
      · simpa [hClaimed] using hMerge
      · simpa [hClaimed] using
          hContribute merge "default" hMerge
  | prefixedDefault =>
      exact hContribute _ "default" (hClaim merge hMerge)
  | nothing => exact hMerge

/- What every section of a file keeps is kept by the file. -/
theorem addSections_induction
    {I : Merge → Prop}
    {sections : List (String × List (String × String))}
    (hContribute :
      ∀ heading properties,
        (heading, properties) ∈ sections →
          ∀ merge name,
            I merge →
              I (merge.contribute name properties).value)
    (hClaim : ∀ merge, I merge → I merge.claimDefault.value)
    {merge : Merge}
    (hMerge : I merge)
    (kind : FileKind) :
    I (addSections kind merge sections).value := by
  induction sections generalizing merge with
  | nil => exact hMerge
  | cons entry rest ih =>
      obtain ⟨heading, properties⟩ := entry
      have hFirst :=
        addSection_induction
          (hContribute heading properties (by simp)) hClaim
          hMerge kind heading
      apply ih _ hFirst
      intro other listed hMem
      exact hContribute other listed (by simp [hMem])

/- The first section is merged before the others. -/
theorem value_addSections_cons
    (kind : FileKind)
    (merge : Merge)
    (heading : String)
    (properties : List (String × String))
    (rest : List (String × List (String × String))) :
    (addSections kind merge
      ((heading, properties) :: rest)).value =
      (addSections kind (merge.addSection kind heading
        properties).value rest).value := rfl

/- A section of credentials goes to the profile it names. -/
theorem addSection_credentials
    (merge : Merge)
    (heading : String)
    (properties : List (String × String)) :
    merge.addSection .credentials heading properties =
      merge.contribute heading properties := rfl

/- Sections are merged, and then the sections after them. -/
theorem addSections_append
    (kind : FileKind)
    (merge : Merge)
    (before after : List (String × List (String × String))) :
    addSections kind merge (before ++ after) =
      addSections kind merge before >>= fun next =>
        addSections kind next after := by
  induction before generalizing merge with
  | nil => rfl
  | cons entry rest ih =>
      obtain ⟨heading, properties⟩ := entry
      simp only [List.cons_append, addSections, bind_assoc,
        ih]

/- Whatever is merged keeps the profiles coherent. -/
theorem isCoherent_addSections
    {merge : Merge}
    (hMerge : merge.profiles.IsCoherent)
    (kind : FileKind)
    (sections : List (String × List (String × String))) :
    (addSections kind merge
      sections).value.profiles.IsCoherent := by
  apply addSections_induction
    (I := fun merge => merge.profiles.IsCoherent)
  · intro heading properties _ merge name hMerge
    exact isCoherent_contribute hMerge name properties
  · intro merge hMerge
    exact isCoherent_claimDefault hMerge
  · exact hMerge

end Merge

namespace ProfileSet

/- Merging a file keeps a set coherent. -/
theorem isCoherent_mergeFile
    {base : ProfileSet}
    (hBase : base.IsCoherent)
    (kind : FileKind)
    (sections : List (String × List (String × String))) :
    (base.mergeFile kind sections).value.IsCoherent := by
  have hStart :
      (Merge.mk base false).profiles.IsCoherent := hBase
  exact Merge.isCoherent_addSections hStart kind sections

/- Merging a file does not change what is selected. -/
theorem selected_mergeFile
    (base : ProfileSet)
    (kind : FileKind)
    (sections : List (String × List (String × String))) :
    (base.mergeFile kind sections).value.selected =
      base.selected := by
  apply Merge.addSections_induction
    (I := fun merge =>
      merge.profiles.selected = base.selected)
  · intro heading properties _ merge name hMerge
    rw [Merge.selected_contribute]
    exact hMerge
  · intro merge hMerge
    rw [Merge.value_claimDefault]
    by_cases hClaimed : merge.prefixedDefault = true
    · rw [if_pos hClaimed]
      exact hMerge
    · rw [if_neg hClaimed]
      exact hMerge
  · rfl

end ProfileSet

end LayeredSettings
