import LayeredSettings.Proofs.Profile.Grammar
import LayeredSettings.Proofs.Profile.History

/-
  This file says which values the lines of a file give, and
  what one more line changes about them.

  Key definitions include:
    * `Grammar.Under`
    * `Grammar.Gives`
    * `Grammar.continued`
    * `Grammar.Holds`

  Key theorems include:
    * `Grammar.holds_concat_iff_of_gives`
    * `Grammar.holds_concat_iff_of_isOpen`
    * `Grammar.exists_holds_iff`

  The value of a key of a section starts at the property line
  that gives it last, and it is open until a line ends it.
-/

------------------------------------------------------------
-- What Files Say
------------------------------------------------------------

namespace LayeredSettings

namespace Grammar

/- The nearest heading before the next line has the name. -/
def Under
    (heading : String)
    (before : List (List Char)) : Prop :=
  Since (fun _ line => Names line heading) IsHeading before

/- A property line gives a key of a section a value. -/
def Gives
    (heading key : String)
    (before : List (List Char))
    (line : List Char) : Prop :=
  Under heading before ∧ ∃ first, Assigns line key first

/- A line that ends the value before it. -/
def Ends
    (line : List Char) : Prop :=
  IsHeading line ∨ IsProperty line

instance (line : List Char) :
    Decidable (Ends line) :=
  inferInstanceAs
    (Decidable (IsHeading line ∨ IsProperty line))

/-
  The further lines of a value among the lines after its
  first line: continuations, until a line ends the value.
-/
def furtherLines
    (after : List (List Char)) : List (List Char) :=
  (after.takeWhile fun line => ¬ Ends line).filter
    fun line => IsContinuation line

/- A value from its first line and the lines after that. -/
def continued
    (first : String)
    (after : List (List Char)) : String :=
  (furtherLines after).foldl
    (fun value line =>
      value ++ "\n" ++ String.ofList (stripped line))
    first

/-
  The value of a key of a section: it starts at the property
  line that gives the key a value last.
-/
def Holds
    (heading key value : String)
    (lines : List (List Char)) : Prop :=
  ∃ before line after first,
    IsLast (Gives heading key) lines before line after ∧
      Assigns line key first ∧
        value = continued first after

/- The value of the key may be continued. -/
def IsOpen
    (heading key : String)
    (lines : List (List Char)) : Prop :=
  Since (Gives heading key) Ends lines

end Grammar

end LayeredSettings

------------------------------------------------------------
-- One More Line
------------------------------------------------------------

namespace LayeredSettings

namespace Grammar

variable {lines after : List (List Char)}
variable {line : List Char}
variable {heading key value first : String}

/- Only headings change the nearest heading. -/
theorem under_concat_iff_of_not
    (hHeading : ¬ IsHeading line) :
    Under heading (lines ++ [line]) ↔
      Under heading lines := by
  have hNames : ¬ Names line heading :=
    fun h => hHeading h.1
  unfold Under
  rw [since_concat_iff, or_iff_right hNames,
    and_iff_right hHeading]

/- A heading is the nearest heading for the next line. -/
theorem under_concat_iff_of_isHeading
    (hHeading : IsHeading line) :
    Under heading (lines ++ [line]) ↔
      Names line heading := by
  unfold Under
  rw [since_concat_iff]
  constructor
  · intro hCases
    rcases hCases with hNames | ⟨hNot, -⟩
    · exact hNames
    · exact absurd hHeading hNot
  · exact Or.inl

/- The nearest heading is one of the lines. -/
theorem Under.exists_names
    (hUnder : Under heading lines) :
    ∃ found ∈ lines, Names found heading := by
  rcases hUnder with ⟨before, found, after, rfl, hNames, -⟩
  exact ⟨found, by simp, hNames⟩

/- One more line may have a name. -/
theorem exists_names_concat_iff :
    (∃ found ∈ lines ++ [line], Names found heading) ↔
      Names line heading ∨
        ∃ found ∈ lines, Names found heading := by
  constructor
  · intro hExists
    rcases hExists with ⟨found, hMem, hNames⟩
    rcases List.mem_append.mp hMem with hOld | hNew
    · exact Or.inr ⟨found, hOld, hNames⟩
    · rw [List.mem_singleton.mp hNew] at hNames
      exact Or.inl hNames
  · intro hCases
    rcases hCases with hNames | ⟨found, hMem, hNames⟩
    · exact ⟨line, by simp, hNames⟩
    · exact ⟨found, by simp [hMem], hNames⟩

/- A line that ends no value leaves the open one open. -/
theorem isOpen_concat_iff_of_not
    (hEnds : ¬ Ends line) :
    IsOpen heading key (lines ++ [line]) ↔
      IsOpen heading key lines := by
  have hGives : ¬ Gives heading key lines line := by
    intro h
    rcases h.2 with ⟨first, hAssigns⟩
    exact hEnds (Or.inr hAssigns.1)
  unfold IsOpen
  rw [since_concat_iff, or_iff_right hGives,
    and_iff_right hEnds]

/- A line that ends a value may give a new one. -/
theorem isOpen_concat_iff_of_ends
    (hEnds : Ends line) :
    IsOpen heading key (lines ++ [line]) ↔
      Gives heading key lines line := by
  unfold IsOpen
  rw [since_concat_iff]
  constructor
  · intro hCases
    rcases hCases with hGives | ⟨hNot, -⟩
    · exact hGives
    · exact absurd hEnds hNot
  · exact Or.inl

/- No continuation ends a value. -/
theorem IsContinuation.not_ends
    (hContinuation : IsContinuation line) :
    ¬ Ends line := by
  intro hEnds
  rcases hEnds with hHeading | hProperty
  · exact hHeading.not_isContinuation hContinuation
  · exact hProperty.2.2 hContinuation

/- A value that nothing has ended has one more line. -/
theorem furtherLines_concat_of_open
    (hOpen : ∀ later ∈ after, ¬ Ends later)
    (hContinuation : IsContinuation line) :
    furtherLines (after ++ [line]) =
      furtherLines after ++ [line] := by
  have hAfter :
      (after.takeWhile fun later => ¬ Ends later) = after :=
    List.takeWhile_eq_self_iff.mpr fun later hMem =>
      decide_eq_true (hOpen later hMem)
  have hAll :
      ((after ++ [line]).takeWhile fun later => ¬ Ends later) =
        after ++ [line] := by
    apply List.takeWhile_eq_self_iff.mpr
    intro later hMem
    rcases List.mem_append.mp hMem with hOld | hNew
    · exact decide_eq_true (hOpen later hOld)
    · rw [List.mem_singleton.mp hNew]
      exact decide_eq_true hContinuation.not_ends
  unfold furtherLines
  rw [hAfter, hAll, List.filter_append]
  simp [hContinuation]

/- A value that has been ended has no more lines. -/
theorem furtherLines_concat_of_ended
    (hEnded : ¬ ∀ later ∈ after, ¬ Ends later) :
    furtherLines (after ++ [line]) = furtherLines after := by
  unfold furtherLines
  rw [List.takeWhile_append, if_neg]
  intro hLength
  have hAll :=
    (List.takeWhile_prefix _).eq_of_length hLength
  rw [List.takeWhile_eq_self_iff] at hAll
  exact hEnded fun later hMem =>
    of_decide_eq_true (hAll later hMem)

/- A line that is no continuation is no further line. -/
theorem furtherLines_concat_of_not
    (hContinuation : ¬ IsContinuation line) :
    furtherLines (after ++ [line]) = furtherLines after := by
  by_cases hOpen : ∀ later ∈ after, ¬ Ends later
  · have hAfter :
        (after.takeWhile fun later => ¬ Ends later) =
          after :=
      List.takeWhile_eq_self_iff.mpr fun later hMem =>
        decide_eq_true (hOpen later hMem)
    have hLast :
        ([line].takeWhile fun later => ¬ Ends later).filter
          (fun later => IsContinuation later) = [] := by
      apply List.filter_eq_nil_iff.mpr
      intro later hMem
      have hSame :=
        List.mem_singleton.mp
          ((List.takeWhile_sublist _).mem hMem)
      rw [hSame]
      simp [hContinuation]
    unfold furtherLines
    rw [List.takeWhile_append_of_pos (by simpa using hOpen),
      List.filter_append, hAfter, hLast, List.append_nil]
  · exact furtherLines_concat_of_ended hOpen

/- No continuation gives a key a value. -/
theorem IsContinuation.not_gives
    (hContinuation : IsContinuation line) :
    ¬ Gives heading key lines line := by
  intro hGives
  rcases hGives.2 with ⟨first, hAssigns⟩
  exact hContinuation.not_ends (Or.inr hAssigns.1)

/- A line that neither gives a value nor continues one. -/
theorem holds_concat_iff_of_furtherLines_eq
    (hGives : ¬ Gives heading key lines line)
    (hFurther :
      ∀ before found after,
        IsLast (Gives heading key) lines before found after →
          furtherLines (after ++ [line]) =
            furtherLines after) :
    Holds heading key value (lines ++ [line]) ↔
      Holds heading key value lines := by
  constructor
  · intro hHolds
    rcases hHolds with
      ⟨before, found, after, first, hLast, hAssigns, rfl⟩
    rcases isLast_concat_iff.mp hLast with
      ⟨-, -, -, hEvent⟩ | ⟨-, middle, rfl, hBefore⟩
    · exact absurd hEvent hGives
    · refine ⟨before, found, middle, first, hBefore,
        hAssigns, ?_⟩
      unfold continued
      rw [hFurther before found middle hBefore]
  · intro hHolds
    rcases hHolds with
      ⟨before, found, after, first, hLast, hAssigns, rfl⟩
    refine ⟨before, found, after ++ [line], first,
      isLast_concat_iff.mpr
        (Or.inr ⟨hGives, after, rfl, hLast⟩),
      hAssigns, ?_⟩
    unfold continued
    rw [hFurther before found after hLast]

/- A line that changes no value of a key. -/
theorem holds_concat_iff_of_not
    (hGives : ¬ Gives heading key lines line)
    (hContinuation : ¬ IsContinuation line) :
    Holds heading key value (lines ++ [line]) ↔
      Holds heading key value lines := by
  apply holds_concat_iff_of_furtherLines_eq hGives
  intro before found after hLast
  exact furtherLines_concat_of_not hContinuation

/- A continuation where the value of the key is not open. -/
theorem holds_concat_iff_of_not_isOpen
    (hContinuation : IsContinuation line)
    (hOpen : ¬ IsOpen heading key lines) :
    Holds heading key value (lines ++ [line]) ↔
      Holds heading key value lines := by
  apply holds_concat_iff_of_furtherLines_eq
    hContinuation.not_gives
  intro before found after hLast
  apply furtherLines_concat_of_ended
  unfold IsOpen at hOpen
  rwa [hLast.since_iff] at hOpen

/- A line that gives a key a value. -/
theorem holds_concat_iff_of_gives
    (hUnder : Under heading lines)
    (hAssigns : Assigns line key first) :
    Holds heading key value (lines ++ [line]) ↔
      value = first := by
  have hGives : Gives heading key lines line :=
    ⟨hUnder, first, hAssigns⟩
  constructor
  · intro hHolds
    rcases hHolds with
      ⟨before, found, after, other, hLast, hOther, rfl⟩
    rcases isLast_concat_iff.mp hLast with
      ⟨-, rfl, rfl, -⟩ | ⟨hNot, -⟩
    · rw [(hOther.unique hAssigns).2]
      rfl
    · exact absurd hGives hNot
  · intro hValue
    subst hValue
    exact ⟨lines, line, [], value,
      isLast_concat_iff.mpr
        (Or.inl ⟨rfl, rfl, rfl, hGives⟩),
      hAssigns, rfl⟩

/- A continuation where the value of the key is open. -/
theorem holds_concat_iff_of_isOpen
    (hContinuation : IsContinuation line)
    (hOpen : IsOpen heading key lines) :
    Holds heading key value (lines ++ [line]) ↔
      ∃ old,
        Holds heading key old lines ∧
          value =
            old ++ "\n" ++ String.ofList (stripped line) := by
  have hContinued :
      ∀ before found after first,
        IsLast (Gives heading key) lines before found after →
          continued first (after ++ [line]) =
            continued first after ++ "\n" ++
              String.ofList (stripped line) := by
    intro before found after first hLast
    have hNone := hLast.since_iff.mp hOpen
    unfold continued
    rw [furtherLines_concat_of_open hNone hContinuation,
      List.foldl_append]
    rfl
  constructor
  · intro hHolds
    rcases hHolds with
      ⟨before, found, after, first, hLast, hAssigns, rfl⟩
    rcases isLast_concat_iff.mp hLast with
      ⟨-, -, -, hEvent⟩ | ⟨-, middle, rfl, hBefore⟩
    · exact absurd hEvent hContinuation.not_gives
    · exact ⟨_,
        ⟨before, found, middle, first, hBefore, hAssigns,
          rfl⟩,
        hContinued before found middle first hBefore⟩
  · intro hHolds
    rcases hHolds with
      ⟨old, ⟨before, found, after, first, hLast, hAssigns,
        rfl⟩, rfl⟩
    exact ⟨before, found, after ++ [line], first,
      isLast_concat_iff.mpr
        (Or.inr ⟨hContinuation.not_gives, after, rfl, hLast⟩),
      hAssigns,
      (hContinued before found after first hLast).symm⟩

/- The key has a value exactly if some line gives it one. -/
theorem exists_holds_iff :
    (∃ value, Holds heading key value lines) ↔
      ∃ before line after,
        lines = before ++ line :: after ∧
          Gives heading key before line := by
  constructor
  · intro hHolds
    rcases hHolds with
      ⟨value, before, line, after, first, hLast, -⟩
    exact ⟨before, line, after, hLast.1, hLast.2.1⟩
  · intro hGives
    rcases hGives with ⟨front, found, back, hLines, hGives⟩
    rcases exists_isLast hLines hGives with
      ⟨before, line, after, hLast⟩
    rcases hLast.2.1.2 with ⟨first, hAssigns⟩
    exact ⟨_, before, line, after, first, hLast, hAssigns,
      rfl⟩

end Grammar

end LayeredSettings
