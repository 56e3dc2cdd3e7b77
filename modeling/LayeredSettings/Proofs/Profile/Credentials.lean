import LayeredSettings.Proofs.Profile.Merging

/-
  Merging a credentials file: it lies over what was loaded
  before.

  Key definitions include:
    * `ProfileSet.IsOverlay`
    * `Merge.givenByCredentials`

  Key theorems include:
    * `Merge.property?_addSections_credentials`
    * `ProfileSet.isOverlay_mergeFile_credentials`

  The sections of a credentials file name their profiles as
  they are written, so none of them takes anything away.
  What they give depends on the file alone.
-/

namespace LayeredSettings

------------------------------------------------------------
-- Overlays
------------------------------------------------------------

/-
  A set that has what the upper set has and, where that has
  nothing, what the lower set has.
-/
structure ProfileSet.IsOverlay
    (upper lower set : ProfileSet) : Prop where
  name_iff :
    ∀ name,
      (set.profile? name).isSome ↔
        (upper.profile? name).isSome ∨
          (lower.profile? name).isSome
  property :
    ∀ name key,
      set.property? name key =
        (upper.property? name key).or
          (lower.property? name key)

------------------------------------------------------------
-- Sections of a Credentials File
------------------------------------------------------------

namespace Merge

/- What the sections of a credentials file give to a key. -/
def givenByCredentials
    (name key : String) :
    List (String × List (String × String)) →
      Option Property
| [] => none
| (heading, properties) :: rest =>
    (givenByCredentials name key rest).or
      (if heading = name ∧ Text.isIdentifier heading then
        givenProperty key properties
      else none)

/- A property that is not given anew stays. -/
theorem property?_addSections_credentials
    (merge : Merge)
    (name key : String)
    (sections : List (String × List (String × String))) :
    (addSections .credentials merge
      sections).value.profiles.property? name key =
        (givenByCredentials name key sections).or
          (merge.profiles.property? name key) := by
  induction sections generalizing merge with
  | nil => rfl
  | cons entry rest ih =>
      obtain ⟨heading, properties⟩ := entry
      rw [value_addSections_cons, addSection_credentials, ih,
        property?_contribute, givenByCredentials,
        Option.or_assoc]

/- A profile exists exactly if it did or has a section. -/
theorem isSome_profile?_addSections_credentials
    (merge : Merge)
    (name : String)
    (sections : List (String × List (String × String))) :
    ((addSections .credentials merge
      sections).value.profiles.profile? name).isSome ↔
        (name ∈ sections.map Prod.fst ∧
          Text.isIdentifier name = true) ∨
          (merge.profiles.profile? name).isSome := by
  induction sections generalizing merge with
  | nil => simp [addSections]
  | cons entry rest ih =>
      obtain ⟨heading, properties⟩ := entry
      rw [value_addSections_cons, addSection_credentials, ih,
        isSome_profile?_contribute]
      constructor
      · rintro (⟨hMem, hName⟩ | ⟨rfl, hName⟩ | hOld)
        · exact Or.inl ⟨by simp [hMem], hName⟩
        · exact Or.inl ⟨by simp, hName⟩
        · exact Or.inr hOld
      · rintro (⟨hMem, hName⟩ | hOld)
        · simp only [List.map_cons, List.mem_cons] at hMem
          rcases hMem with rfl | hMem
          · exact Or.inr (Or.inl ⟨rfl, hName⟩)
          · exact Or.inl ⟨hMem, hName⟩
        · exact Or.inr (Or.inr hOld)

end Merge

/-
  A credentials file merged into a set lies over the set:
  the upper set is what the file merges to on its own.
-/
theorem ProfileSet.isOverlay_mergeFile_credentials
    (base : ProfileSet)
    (selected : String)
    (sections : List (String × List (String × String))) :
    IsOverlay
      ((empty selected).mergeFile .credentials sections).value
      base
      (base.mergeFile .credentials sections).value := by
  constructor
  · intro name
    have hBase :=
      Merge.isSome_profile?_addSections_credentials
        ⟨base, false⟩ name sections
    have hAlone :=
      Merge.isSome_profile?_addSections_credentials
        ⟨empty selected, false⟩ name sections
    simp only [profile?_empty, Option.isSome_none,
      Bool.false_eq_true, or_false] at hAlone
    exact hBase.trans (or_congr_left hAlone.symm)
  · intro name key
    have hBase :=
      Merge.property?_addSections_credentials
        ⟨base, false⟩ name key sections
    have hAlone :=
      Merge.property?_addSections_credentials
        ⟨empty selected, false⟩ name key sections
    rw [property?_empty, Option.or_none] at hAlone
    exact hBase.trans (by rw [← hAlone]; rfl)

end LayeredSettings
