import LayeredSettings.Text.Letter
import Mathlib

/-
  The letter case of ASCII, told from the letters.

  Key definitions include:
    * `Text.IsLowered`, `Text.SameLetter`
    * `Text.IsCaseVariant`

  Key theorems include:
    * `Text.toLower_eq_toLower_iff`
    * `Text.isCaseVariant_iff`
    * `Text.lowerCase_eq_self_iff`

  Two texts are the same up to letter case if they are so
  character by character.  Of all such texts one has no
  letter in upper case, and it is compared in their place.
-/

namespace LayeredSettings

namespace Text

------------------------------------------------------------
-- Characters
------------------------------------------------------------

/- A letter of ASCII in upper case, and it in lower case. -/
structure IsLowered
    (upper lower : Char) : Prop where
  is_upper : upper.isUpper = true
  toNat_eq : lower.toNat = upper.toNat + 32

/- One character, or one letter of ASCII in two cases. -/
def SameLetter
    (c d : Char) : Prop :=
  c = d ∨ IsLowered c d ∨ IsLowered d c

/- The letters of ASCII in upper case by their codes. -/
theorem toNat_of_isUpper
    {c : Char}
    (hUpper : c.isUpper = true) :
    65 ≤ c.toNat ∧ c.toNat ≤ 90 := by
  simpa [Char.isUpper, UInt32.le_iff_toNat_le,
    ← Char.toNat_val] using hUpper

/- A letter is lowered by lowering it. -/
theorem isLowered_iff
    {upper lower : Char} :
    IsLowered upper lower ↔
      upper.isUpper = true ∧ upper.toLower = lower := by
  constructor
  · rintro ⟨hUpper, hLower⟩
    refine ⟨hUpper, ?_⟩
    rw [Char.toLower_eq_of_isUpper hUpper, ← hLower,
      Char.ofNat_toNat]
  · rintro ⟨hUpper, rfl⟩
    refine ⟨hUpper, ?_⟩
    have hRange := toNat_of_isUpper hUpper
    rw [Char.toLower_eq_of_isUpper hUpper,
      Char.toNat_ofNat, if_pos (Or.inl (by omega))]

/- A character stays as it is if it is not in upper case. -/
theorem toLower_eq_self_iff
    {c : Char} :
    c.toLower = c ↔ c.isUpper = false := by
  constructor
  · intro hLower
    rw [← hLower]
    exact Char.isUpper_toLower_eq_false c
  · intro hUpper
    exact Char.toLower_eq_of_not_isUpper (by simp [hUpper])

/- What is lowered alike is the same letter. -/
theorem toLower_eq_toLower_iff
    {c d : Char} :
    c.toLower = d.toLower ↔ SameLetter c d := by
  constructor
  · intro hLower
    cases hFirst : c.isUpper with
    | false =>
        rw [toLower_eq_self_iff.mpr hFirst] at hLower
        cases hSecond : d.isUpper with
        | false =>
            rw [toLower_eq_self_iff.mpr hSecond] at hLower
            exact Or.inl hLower
        | true =>
            exact Or.inr
              (Or.inr
                (isLowered_iff.mpr ⟨hSecond, hLower.symm⟩))
    | true =>
        cases hSecond : d.isUpper with
        | false =>
            rw [toLower_eq_self_iff.mpr hSecond] at hLower
            exact Or.inr
              (Or.inl (isLowered_iff.mpr ⟨hFirst, hLower⟩))
        | true =>
            have hOne :=
              (isLowered_iff.mpr ⟨hFirst, rfl⟩).toNat_eq
            have hTwo :=
              (isLowered_iff.mpr ⟨hSecond, rfl⟩).toNat_eq
            rw [hLower, hTwo] at hOne
            exact Or.inl
              (Char.toNat_inj.mp
                (Nat.add_right_cancel hOne).symm)
  · rintro (rfl | hLowered | hLowered)
    · rfl
    · rw [← (isLowered_iff.mp hLowered).2,
        Char.toLower_toLower_eq_toLower]
    · rw [← (isLowered_iff.mp hLowered).2,
        Char.toLower_toLower_eq_toLower]

------------------------------------------------------------
-- Texts
------------------------------------------------------------

/- Texts that differ in the case of ASCII letters only. -/
def IsCaseVariant
    (s t : String) : Prop :=
  List.Forall₂ SameLetter s.toList t.toList

/- Texts are variants if lower case makes them the same. -/
theorem isCaseVariant_iff
    {s t : String} :
    IsCaseVariant s t ↔ lowerCase s = lowerCase t := by
  unfold IsCaseVariant lowerCase
  rw [String.ofList_inj, ← List.forall₂_eq_eq_eq,
    List.forall₂_map_left_iff, List.forall₂_map_right_iff]
  simp only [toLower_eq_toLower_iff]

/- A text is in lower case if it has no other letters. -/
theorem lowerCase_eq_self_iff
    {s : String} :
    lowerCase s = s ↔ ∀ c ∈ s.toList, c.isUpper = false := by
  have hSame :
      lowerCase s = s ↔
        s.toList.map Char.toLower = s.toList.map id := by
    unfold lowerCase
    rw [← String.toList_inj, String.toList_ofList,
      List.map_id]
  rw [hSame, List.map_inj_left]
  simp only [id_eq, toLower_eq_self_iff]

end Text

end LayeredSettings
