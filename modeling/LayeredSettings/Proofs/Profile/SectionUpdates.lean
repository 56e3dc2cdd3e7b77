import LayeredSettings.Profile.Sections

/-
  This file says what opening sections, setting properties
  and extending them does to the sections that are read.

  Key definitions include:
    * `Sections.value?`

  Key theorems include:
    * `SectionReader.value?_openSection`
    * `SectionReader.value?_setProperty`
    * `SectionReader.value?_extendProperty`
    * `SectionReader.extendProperty_setProperty`
-/

------------------------------------------------------------
-- Values of Sections
------------------------------------------------------------

namespace LayeredSettings

/- The value of a key of a section. -/
def Sections.value?
    (sections : Sections)
    (heading key : String) : Option String :=
  (sections.get? heading).bind fun properties =>
    properties.get? key

namespace SectionReader

variable (reader : SectionReader)
variable (heading key text : String)
variable (other name : String)

/- The value of a key of a section that is put in place. -/
theorem value?_insert
    (sections : Sections)
    (properties : Table String String) :
    Sections.value? (sections.insert heading properties)
        other name =
      if heading = other then properties.get? name
      else Sections.value? sections other name := by
  unfold Sections.value?
  rw [Table.get?_insert]
  split
  · rfl
  · rfl

/- A section that may be new has the values it had. -/
theorem get?_sectionOrNew :
    (reader.sectionOrNew heading).get? key =
      Sections.value? reader.sections heading key := by
  unfold sectionOrNew Sections.value?
  cases reader.sections.get? heading with
  | none => exact Table.get?_empty key
  | some properties => rfl

/- Opening a section changes no value. -/
theorem value?_openSection :
    Sections.value? (reader.openSection heading).sections
        other name =
      Sections.value? reader.sections other name := by
  unfold openSection
  rw [value?_insert]
  split
  · next hSame =>
      subst hSame
      exact get?_sectionOrNew reader heading name
  · rfl

/- A property that is set has its value; the others stay. -/
theorem value?_setProperty :
    Sections.value?
        (reader.setProperty heading key text).sections
        other name =
      if heading = other ∧ key = name then some text
      else Sections.value? reader.sections other name := by
  unfold setProperty
  rw [value?_insert, Table.get?_insert]
  by_cases hHeading : heading = other
  · subst hHeading
    by_cases hKey : key = name
    · rw [if_pos rfl, if_pos hKey, if_pos ⟨rfl, hKey⟩]
    · rw [if_pos rfl, if_neg hKey, if_neg (hKey ·.2)]
      exact get?_sectionOrNew reader heading name
  · rw [if_neg hHeading, if_neg (hHeading ·.1)]

/- A property is extended in place, or there is none. -/
theorem extendProperty_cases :
    (Sections.value? reader.sections heading key = none ∧
      reader.extendProperty heading key text = reader) ∨
    ∃ properties value,
      reader.sections.get? heading = some properties ∧
        properties.get? key = some value ∧
          reader.extendProperty heading key text =
            { reader with
              sections := reader.sections.insert heading
                (properties.insert key
                  (value ++ "\n" ++ text)) } := by
  unfold extendProperty Sections.value?
  cases hSection : reader.sections.get? heading with
  | none => exact Or.inl ⟨rfl, rfl⟩
  | some properties =>
      cases hValue : properties.get? key with
      | none =>
          refine Or.inl ⟨hValue, ?_⟩
          simp only [hValue]
      | some value =>
          refine Or.inr ⟨properties, value, rfl, hValue, ?_⟩
          simp only [hValue]

/- A property that is extended has one more line. -/
theorem value?_extendProperty :
    Sections.value?
        (reader.extendProperty heading key text).sections
        other name =
      if heading = other ∧ key = name then
        (Sections.value? reader.sections heading key).map
          fun value => value ++ "\n" ++ text
      else Sections.value? reader.sections other name := by
  rcases extendProperty_cases reader heading key text with
    ⟨hNone, hSame⟩ |
    ⟨properties, value, hSection, hValue, hNext⟩
  · rw [hSame, hNone]
    split
    · next hKeys =>
        rw [← hKeys.1, ← hKeys.2, hNone]
        rfl
    · rfl
  · rw [hNext, value?_insert, Table.get?_insert]
    by_cases hHeading : heading = other
    · subst hHeading
      by_cases hKey : key = name
      · subst hKey
        simp [Sections.value?, hSection, hValue]
      · rw [if_pos rfl, if_neg hKey, if_neg (hKey ·.2)]
        simp [Sections.value?, hSection]
    · rw [if_neg hHeading, if_neg (hHeading ·.1)]

/- A section that is put in place is the only new one. -/
theorem isSome_get?_insert
    (sections : Sections)
    (properties : Table String String) :
    ((sections.insert heading properties).get? other).isSome ↔
      heading = other ∨ (sections.get? other).isSome := by
  rw [Table.get?_insert]
  by_cases hSame : heading = other
  · simp [hSame]
  · simp [hSame]

/- Extending a property adds no section. -/
theorem isSome_get?_extendProperty :
    ((reader.extendProperty heading key text).sections.get?
        other).isSome =
      (reader.sections.get? other).isSome := by
  rcases extendProperty_cases reader heading key text with
    ⟨-, hSame⟩ | ⟨properties, value, hSection, -, hNext⟩
  · rw [hSame]
  · rw [hNext, Table.get?_insert]
    split
    · next hHeading =>
        rw [← hHeading, hSection]
        rfl
    · rfl

/- Continuing a value leaves the reader in place. -/
theorem cursor_extendProperty :
    (reader.extendProperty heading key text).cursor =
      reader.cursor := by
  unfold extendProperty
  split
  · rfl
  · split
    · rfl
    · rfl

/- A property that is set and extended is set at once. -/
theorem extendProperty_setProperty
    (value : String) :
    (reader.setProperty heading key value).extendProperty
        heading key text =
      reader.setProperty heading key
        (value ++ "\n" ++ text) := by
  unfold setProperty extendProperty
  simp

end SectionReader

end LayeredSettings
