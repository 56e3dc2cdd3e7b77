import LayeredSettings.Proofs.Text.LetterCase

/-
  Names that are compared without regard to letter case, and
  when such a comparison cannot go wrong.

  Key definitions include:
    * `Text.IsASCII`
    * `Text.IsVocabulary`

  Key theorems include:
    * `Text.isASCII_of_lowerCase_eq`
    * `Text.eq_of_sublist_of_lowerCase_eq`
    * `Text.IsVocabulary.find?_eq_some_iff`
    * `Text.IsVocabulary.eq_of_sublist_texts`

  In a vocabulary no name can be taken for another one, even
  if characters are left out.  So it does not matter in which
  order the names are tried, and no text is a name together
  with a part of it.
-/

------------------------------------------------------------
-- Texts up to Letter Case
------------------------------------------------------------

namespace LayeredSettings

namespace Text

/- Every character is one of ASCII. -/
def IsASCII
    (s : String) : Prop :=
  ∀ c ∈ s.toList, c.toNat < 128

instance (s : String) :
    Decidable (IsASCII s) :=
  List.decidableBAll (fun c : Char => c.toNat < 128)
    s.toList

/- The other case of a character of ASCII is one as well. -/
theorem SameLetter.toNat_lt
    {c d : Char}
    (hSame : SameLetter c d)
    (hBound : d.toNat < 128) :
    c.toNat < 128 := by
  rcases hSame with rfl | hLowered | hLowered
  · exact hBound
  · have hCode := hLowered.toNat_eq
    omega
  · have hCode := hLowered.toNat_eq
    have hRange := toNat_of_isUpper hLowered.is_upper
    omega

/- The characters of a text in lower case. -/
theorem toList_lowerCase
    (s : String) :
    (lowerCase s).toList = s.toList.map Char.toLower :=
  String.toList_ofList

variable {s t : String}

/- No other character is taken for one of ASCII. -/
theorem isASCII_of_lowerCase_eq
    (hSame : lowerCase s = lowerCase t)
    (hASCII : IsASCII t) :
    IsASCII s := by
  intro c hMem
  have hLower : c.toLower ∈ (lowerCase t).toList := by
    rw [← hSame, toList_lowerCase]
    exact List.mem_map_of_mem hMem
  rw [toList_lowerCase] at hLower
  rcases List.mem_map.mp hLower with ⟨d, hIn, hEq⟩
  have hLetter : SameLetter c d :=
    toLower_eq_toLower_iff.mp hEq.symm
  exact hLetter.toNat_lt (hASCII d hIn)

/- What is left out of a text is left out in lower case. -/
theorem sublist_lowerCase
    (hSub : s.toList.Sublist t.toList) :
    (lowerCase s).toList.Sublist (lowerCase t).toList := by
  rw [toList_lowerCase, toList_lowerCase]
  exact hSub.map Char.toLower

/- Nothing is left out of a text that is as long. -/
theorem eq_of_sublist_of_lowerCase_eq
    (hSub : s.toList.Sublist t.toList)
    (hSame : lowerCase s = lowerCase t) :
    s = t := by
  have hLength : s.toList.length = t.toList.length := by
    have hLists := congrArg String.toList hSame
    rw [toList_lowerCase, toList_lowerCase] at hLists
    simpa using congrArg List.length hLists
  exact String.toList_inj.mp (hSub.eq_of_length hLength)

------------------------------------------------------------
-- Vocabularies
------------------------------------------------------------

/-
  Names of ASCII of which none is left if characters of
  another one are left out, whatever the letter case.
-/
structure IsVocabulary
    {α : Type}
    (nameOf : α → String) : Prop where
  is_ascii : ∀ a, IsASCII (nameOf a)
  eq_of_sublist :
    ∀ a b,
      (lowerCase (nameOf a)).toList.Sublist
          (lowerCase (nameOf b)).toList →
        a = b

namespace IsVocabulary

variable {α : Type}
variable {nameOf : α → String}
variable {a b : α}

/- Two values do not share a name. -/
theorem eq_of_lowerCase_eq
    (hNames : IsVocabulary nameOf)
    (hFirst : lowerCase s = lowerCase (nameOf a))
    (hSecond : lowerCase s = lowerCase (nameOf b)) :
    a = b := by
  apply hNames.eq_of_sublist
  rw [← hFirst, hSecond]

/-
  Of candidates that include all values a search by name
  finds the value that is named, in whatever order.
-/
theorem find?_eq_some_iff
    (hNames : IsVocabulary nameOf)
    {candidates : List α}
    (hAll : ∀ value, value ∈ candidates) :
    (candidates.find? fun value =>
        equalIgnoringCase (nameOf value) s) = some a ↔
      lowerCase s = lowerCase (nameOf a) := by
  have hMatches (value : α) :
      equalIgnoringCase (nameOf value) s = true ↔
        lowerCase s = lowerCase (nameOf value) := by
    unfold equalIgnoringCase
    rw [beq_iff_eq, eq_comm]
  constructor
  · intro hFind
    have hFound := List.find?_some hFind
    exact (hMatches a).mp hFound
  · intro hName
    cases hFind : candidates.find? fun value =>
        equalIgnoringCase (nameOf value) s with
    | none =>
        have hMisses :=
          List.find?_eq_none.mp hFind a (hAll a)
        exact absurd ((hMatches a).mpr hName) hMisses
    | some found =>
        have hFound := List.find?_some hFind
        rw [hMatches] at hFound
        rw [hNames.eq_of_lowerCase_eq hFound hName]

/- No text that has a name is part of another such text. -/
theorem eq_of_sublist_texts
    (hNames : IsVocabulary nameOf)
    (hSub : s.toList.Sublist t.toList)
    (hFirst : lowerCase s = lowerCase (nameOf a))
    (hSecond : lowerCase t = lowerCase (nameOf b)) :
    s = t := by
  have hValue : a = b := by
    apply hNames.eq_of_sublist
    rw [← hFirst, ← hSecond]
    exact sublist_lowerCase hSub
  apply eq_of_sublist_of_lowerCase_eq hSub
  rw [hFirst, hSecond, hValue]

end IsVocabulary

end Text

end LayeredSettings
