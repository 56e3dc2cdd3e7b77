import LayeredSettings.Proofs.Profile.Reading
import LayeredSettings.Proofs.Profile.SectionUpdates
import LayeredSettings.Proofs.Profile.Values
import Mathlib

/-
  This file says what a profile file that is read means.

  Key definitions include:
    * `Grammar.Describes`

  Key theorems include:
    * `Grammar.Describes.step`
    * `Sections.parse_meaning`

  The reader builds sections up line by line; `Describes`
  says how far it has come, in terms of the lines alone.
-/

------------------------------------------------------------
-- How Far the Reader Has Come
------------------------------------------------------------

namespace LayeredSettings

namespace Grammar

/- The reader knows what the lines before it say. -/
structure Describes
    (lines : List (List Char))
    (reader : SectionReader) : Prop where
  under_iff :
    ∀ heading,
      (∃ property,
        reader.cursor = some ⟨heading, property⟩) ↔
        Under heading lines
  isOpen_iff :
    ∀ heading key,
      reader.cursor = some ⟨heading, some key⟩ ↔
        IsOpen heading key lines
  names_iff :
    ∀ heading,
      (reader.sections.get? heading).isSome ↔
        ∃ line ∈ lines, Names line heading
  holds_iff :
    ∀ heading key value,
      Sections.value? reader.sections heading key =
          some value ↔
        Holds heading key value lines

/- Where the reader starts nothing is said. -/
theorem describes_initial :
    Describes [] SectionReader.initial where
  under_iff heading := by
    apply iff_of_false
    · intro hCursor
      rcases hCursor with ⟨property, hCursor⟩
      cases hCursor
    · exact not_since_nil
  isOpen_iff heading key := by
    apply iff_of_false
    · intro hCursor
      cases hCursor
    · exact not_since_nil
  names_iff heading := by
    apply iff_of_false
    · intro hSome
      cases hSome
    · intro hNames
      rcases hNames with ⟨line, hMem, -⟩
      cases hMem
  holds_iff heading key value := by
    apply iff_of_false
    · intro hValue
      cases hValue
    · intro hHolds
      rcases hHolds with ⟨before, line, after, -, hLast, -⟩
      exact absurd hLast.1 (by simp)

variable {lines : List (List Char)}
variable {line : List Char}
variable {reader : SectionReader}

/- An ignored line says nothing. -/
theorem Describes.ignored
    (hDescribes : Describes lines reader)
    (hIgnored : IsIgnored line) :
    Describes (lines ++ [line]) reader := by
  have hHeading : ¬ IsHeading line :=
    fun h => h.not_isIgnored hIgnored
  have hProperty : ¬ IsProperty line :=
    fun h => h.1 hIgnored
  have hContinuation : ¬ IsContinuation line :=
    fun h => h.1 hIgnored
  have hEnds : ¬ Ends line := not_or.mpr ⟨hHeading, hProperty⟩
  constructor
  · intro heading
    rw [under_concat_iff_of_not hHeading]
    exact hDescribes.under_iff heading
  · intro heading key
    rw [isOpen_concat_iff_of_not hEnds]
    exact hDescribes.isOpen_iff heading key
  · intro heading
    rw [exists_names_concat_iff,
      or_iff_right fun h : Names line heading => hHeading h.1]
    exact hDescribes.names_iff heading
  · intro heading key value
    rw [holds_concat_iff_of_not
      (fun h => hProperty h.2.choose_spec.1) hContinuation]
    exact hDescribes.holds_iff heading key value

/- A heading opens its section. -/
theorem Describes.heading
    {heading : String}
    (hDescribes : Describes lines reader)
    (hNames : Names line heading) :
    Describes (lines ++ [line])
      (reader.openSection heading) := by
  have hEnds : Ends line := Or.inl hNames.1
  have hGives :
      ∀ other key, ¬ Gives other key lines line := by
    intro other key hGives
    rcases hGives.2 with ⟨first, hAssigns⟩
    exact hAssigns.1.2.1 hNames.1
  have hSame :
      ∀ other, heading = other ↔ Names line other := by
    intro other
    constructor
    · intro hSame
      rwa [← hSame]
    · exact hNames.unique
  constructor
  · intro other
    rw [under_concat_iff_of_isHeading hNames.1, ← hSame]
    simp [SectionReader.openSection]
  · intro other key
    rw [isOpen_concat_iff_of_ends hEnds]
    apply iff_of_false
    · intro hCursor
      cases hCursor
    · exact hGives other key
  · intro other
    rw [exists_names_concat_iff, ← hSame,
      ← hDescribes.names_iff]
    exact SectionReader.isSome_get?_insert heading other _ _
  · intro other key value
    rw [SectionReader.value?_openSection,
      holds_concat_iff_of_not (hGives other key)
        hNames.1.not_isContinuation]
    exact hDescribes.holds_iff other key value

/- A continuation extends the open property. -/
theorem Describes.continuation
    {heading key : String}
    (hDescribes : Describes lines reader)
    (hContinuation : IsContinuation line)
    (hCursor : reader.cursor = some ⟨heading, some key⟩) :
    Describes (lines ++ [line])
      (reader.extendProperty heading key
        (String.ofList (stripped line))) := by
  have hHeading : ¬ IsHeading line :=
    fun h => h.not_isContinuation hContinuation
  constructor
  · intro other
    rw [SectionReader.cursor_extendProperty,
      under_concat_iff_of_not hHeading]
    exact hDescribes.under_iff other
  · intro other name
    rw [SectionReader.cursor_extendProperty,
      isOpen_concat_iff_of_not hContinuation.not_ends]
    exact hDescribes.isOpen_iff other name
  · intro other
    rw [SectionReader.isSome_get?_extendProperty,
      exists_names_concat_iff,
      or_iff_right fun h : Names line other => hHeading h.1]
    exact hDescribes.names_iff other
  · intro other name value
    rw [SectionReader.value?_extendProperty]
    by_cases hSame : heading = other ∧ key = name
    · rcases hSame with ⟨rfl, rfl⟩
      have hOpen :=
        (hDescribes.isOpen_iff heading key).mp hCursor
      rw [if_pos ⟨rfl, rfl⟩, Option.map_eq_some_iff,
        holds_concat_iff_of_isOpen hContinuation hOpen]
      apply exists_congr
      intro old
      rw [hDescribes.holds_iff, eq_comm]
    · have hNotOpen : ¬ IsOpen other name lines := by
        rw [← hDescribes.isOpen_iff, hCursor]
        intro hOther
        cases hOther
        exact hSame ⟨rfl, rfl⟩
      rw [if_neg hSame,
        holds_concat_iff_of_not_isOpen hContinuation
          hNotOpen]
      exact hDescribes.holds_iff other name value

/- The current section is that of the nearest heading. -/
theorem Describes.under_iff_of_cursor
    {cursor : Cursor}
    (hDescribes : Describes lines reader)
    (hCursor : reader.cursor = some cursor)
    (heading : String) :
    cursor.heading = heading ↔ Under heading lines := by
  rw [← hDescribes.under_iff, hCursor]
  constructor
  · intro hSame
    exact ⟨cursor.property, by rw [← hSame]⟩
  · intro hSome
    rcases hSome with ⟨property, hSome⟩
    cases hSome
    rfl

/- A property gives its key a value in the current section. -/
theorem Describes.gives_iff
    {cursor : Cursor}
    {key first : String}
    (hDescribes : Describes lines reader)
    (hCursor : reader.cursor = some cursor)
    (hAssigns : Assigns line key first)
    (heading name : String) :
    Gives heading name lines line ↔
      cursor.heading = heading ∧ key = name := by
  rw [hDescribes.under_iff_of_cursor hCursor]
  constructor
  · intro hGives
    rcases hGives with ⟨hUnder, value, hValue⟩
    exact ⟨hUnder, (hAssigns.unique hValue).1⟩
  · intro hSame
    rcases hSame with ⟨hUnder, rfl⟩
    exact ⟨hUnder, first, hAssigns⟩

/- A property sets the value of its key in its section. -/
theorem Describes.property
    {cursor : Cursor}
    {key first : String}
    (hDescribes : Describes lines reader)
    (hAssigns : Assigns line key first)
    (hCursor : reader.cursor = some cursor) :
    Describes (lines ++ [line])
      (reader.setProperty cursor.heading key first) := by
  have hProperty := hAssigns.1
  have hUnder := hDescribes.under_iff_of_cursor hCursor
  have hGives := hDescribes.gives_iff hCursor hAssigns
  constructor
  · intro other
    rw [under_concat_iff_of_not hProperty.2.1, ← hUnder]
    simp [SectionReader.setProperty]
  · intro other name
    rw [isOpen_concat_iff_of_ends (Or.inr hProperty), hGives]
    simp [SectionReader.setProperty]
  · intro other
    have hInsert :=
      SectionReader.isSome_get?_insert cursor.heading other
        reader.sections
        ((reader.sectionOrNew cursor.heading).insert key first)
    rw [exists_names_concat_iff,
      or_iff_right fun h : Names line other =>
        hProperty.2.1 h.1]
    refine hInsert.trans ?_
    rw [hDescribes.names_iff]
    apply or_iff_right_of_imp
    intro hSame
    exact ((hUnder other).mp hSame).exists_names
  · intro other name value
    rw [SectionReader.value?_setProperty]
    by_cases hSame : cursor.heading = other ∧ key = name
    · rw [if_pos hSame, Option.some.injEq, eq_comm]
      rcases hSame with ⟨rfl, rfl⟩
      exact (holds_concat_iff_of_gives
        ((hUnder _).mp rfl) hAssigns).symm
    · rw [if_neg hSame, holds_concat_iff_of_not
        (fun h => hSame ((hGives other name).mp h))
        hProperty.2.2]
      exact hDescribes.holds_iff other name value

end Grammar

end LayeredSettings

------------------------------------------------------------
-- Files
------------------------------------------------------------

namespace LayeredSettings

open Grammar

/- Every step says what its line says. -/
theorem Grammar.Describes.step
    {lines : List (List Char)}
    {line : List Char}
    {reader next : SectionReader}
    (hDescribes : Describes lines reader)
    (hStep : reader.Step line next) :
    Describes (lines ++ [line]) next := by
  cases hStep with
  | ignored hIgnored => exact hDescribes.ignored hIgnored
  | heading hNames => exact hDescribes.heading hNames
  | continuation hContinuation hCursor =>
      exact hDescribes.continuation hContinuation hCursor
  | property hAssigns hCursor =>
      exact hDescribes.property hAssigns hCursor

/- When all lines are read the reader knows what they say. -/
theorem Grammar.describes_of_readLines_eq_ok
    {lines : List (List Char)}
    {last : SectionReader}
    {number : Nat}
    (hRead :
      SectionReader.initial.readLines number lines =
        .ok last) :
    Describes lines last :=
  SectionReader.invariant_of_readLines_eq_ok
    (fun _ _ _ _ hDescribes hStep => hDescribes.step hStep)
    describes_initial hRead

namespace Sections

/- A value that is read from a file holds of its lines. -/
theorem holds_of_parse
    {path text heading key value : String}
    {sections : Sections}
    (hParse : parse path text = .ok sections)
    (hValue : value? sections heading key = some value) :
    Holds heading key value (Text.lines text.toList) := by
  rcases exists_readLines_of_parse hParse with
    ⟨last, hRead, rfl⟩
  have hDescribes := describes_of_readLines_eq_ok hRead
  exact (hDescribes.holds_iff heading key value).mp hValue

/-
  The sections of a file that is read are those that its
  headings name.  Their keys are those that property lines
  under these headings give values, and the values are those
  given last with the continuations after them.
-/
theorem parse_meaning
    {path text : String}
    {sections : Sections}
    (hParse : parse path text = .ok sections) :
    (∀ heading,
      (∃ properties,
        sections.get? heading = some properties) ↔
        ∃ line ∈ Text.lines text.toList,
          Names line heading) ∧
    (∀ heading key,
      (∃ value, value? sections heading key = some value) ↔
        ∃ before line after,
          Text.lines text.toList = before ++ line :: after ∧
            Gives heading key before line) ∧
    ∀ heading key value,
      value? sections heading key = some value ↔
        Holds heading key value (Text.lines text.toList) := by
  unfold parse at hParse
  cases hRead : SectionReader.initial.readLines 1
      (Text.lines text.toList) with
  | error found =>
      rw [hRead] at hParse
      cases hParse
  | ok last =>
      rw [hRead] at hParse
      cases hParse
      have hDescribes := describes_of_readLines_eq_ok hRead
      refine ⟨?_, ?_, hDescribes.holds_iff⟩
      · intro heading
        rw [← Option.isSome_iff_exists]
        exact hDescribes.names_iff heading
      · intro heading key
        rw [← exists_holds_iff]
        exact exists_congr
          (hDescribes.holds_iff heading key)

/- A section that is opened twice and gives a key twice. -/
def reopenedText : String :=
  "[a]\nk = 1\n[b]\nk = 2\n[a]\nk = 3 # c\n\n  four # d\n"

/- The sections of that file. -/
def reopenedSections : Sections :=
  Table.ofList
    [ ("a", Table.ofList [("k", "3\nfour # d")]),
      ("b", Table.ofList [("k", "2")]) ]

theorem parse_meaning_reopenedText :
    parse "config" reopenedText = .ok reopenedSections ∧
      Holds "a" "k" "3\nfour # d"
        (Text.lines reopenedText.toList) := by
  have hParse :
      parse "config" reopenedText = .ok reopenedSections := by
    cbv
  have hValue :
      value? reopenedSections "a" "k" =
        some "3\nfour # d" := by
    cbv
  rcases parse_meaning hParse with ⟨-, -, hHolds⟩
  exact ⟨hParse, (hHolds "a" "k" _).mp hValue⟩

end Sections

end LayeredSettings
