import LayeredSettings.Proofs.Profile.History
import LayeredSettings.Proofs.Profile.Reading
import LayeredSettings.Proofs.Profile.SectionUpdates

/-
  This file says which profile files are read, and which
  error the others give.

  Key definitions include:
    * `Grammar.Obeys`
    * `Grammar.IsGrammatical`
    * `Grammar.Breaks`

  Key theorems include:
    * `Grammar.Breaks.not_obeys`
    * `Sections.parse_grammatical`

  A line obeys its rule or breaks it in view of the lines
  before it.  What the reader knows of these lines is that
  there is a heading, and that a property is open.
-/

------------------------------------------------------------
-- Rules
------------------------------------------------------------

namespace LayeredSettings

namespace Grammar

/- Some line is a heading. -/
def HasHeading
    (lines : List (List Char)) : Prop :=
  ∃ line ∈ lines, IsHeading line

/- Some line is a property, and no heading comes after it. -/
def HasProperty
    (lines : List (List Char)) : Prop :=
  Since (fun _ line => IsProperty line) IsHeading lines

/- A line obeys the rule for its kind of line. -/
inductive Obeys
    (before : List (List Char))
    (line : List Char) : Prop where
| ignored
    (hIgnored : IsIgnored line)
| heading
    (name : List Char)
    (hHeading : IsHeading line)
    (hName : Encloses line name)
    (hFilled : IsFilled name)
| continuation
    (hContinuation : IsContinuation line)
    (hBefore : HasProperty before)
| property
    (key value : List Char)
    (hProperty : IsProperty line)
    (hBefore : HasHeading before)
    (hLine : line = key ++ '=' :: value)
    (hKey : '=' ∉ key)
    (hFilled : IsFilled key)

/- Every line obeys its rule. -/
def IsGrammatical
    (lines : List (List Char)) : Prop :=
  ∀ before line after,
    lines = before ++ line :: after → Obeys before line

/-
  A line breaks the rule for its kind of line.  The message
  is that of the first condition of the rule that is broken.
-/
inductive Breaks
    (before : List (List Char))
    (line : List Char) : String → Prop where
| openHeading
    (hHeading : IsHeading line)
    (hOpen : ∀ name, ¬ Encloses line name) :
    Breaks before line
      "profile definition must end with ']'"
| unnamedHeading
    (name : List Char)
    (hHeading : IsHeading line)
    (hName : Encloses line name)
    (hEmpty : ¬ IsFilled name) :
    Breaks before line "profile name must not be empty"
| continuationBeforeHeading
    (hContinuation : IsContinuation line)
    (hBefore : ¬ HasHeading before) :
    Breaks before line "expected a profile definition"
| continuationBeforeProperty
    (hContinuation : IsContinuation line)
    (hHeading : HasHeading before)
    (hBefore : ¬ HasProperty before) :
    Breaks before line
      ("expected a property definition, " ++
        "found a property continuation")
| propertyBeforeHeading
    (hProperty : IsProperty line)
    (hBefore : ¬ HasHeading before) :
    Breaks before line "expected a profile definition"
| noEqualsSign
    (hProperty : IsProperty line)
    (hHeading : HasHeading before)
    (hEquals : '=' ∉ line) :
    Breaks before line
      "expected an '=' sign defining a property"
| unnamedProperty
    (key value : List Char)
    (hProperty : IsProperty line)
    (hHeading : HasHeading before)
    (hLine : line = key ++ '=' :: value)
    (hKey : '=' ∉ key)
    (hEmpty : ¬ IsFilled key) :
    Breaks before line "property did not have a name"

/- A property after which no heading comes has a heading. -/
theorem IsGrammatical.hasHeading
    {lines : List (List Char)}
    (hLines : IsGrammatical lines)
    (hProperty : HasProperty lines) :
    HasHeading lines := by
  rcases hProperty with
    ⟨before, line, after, rfl, hLine, -⟩
  cases hLines before line after rfl with
  | ignored hIgnored => exact absurd hIgnored hLine.1
  | heading name hHeading =>
      exact absurd hHeading hLine.2.1
  | continuation hContinuation =>
      exact absurd hContinuation hLine.2.2
  | property key value hProperty hBefore =>
      rcases hBefore with ⟨heading, hMem, hHeading⟩
      exact ⟨heading, by simp [hMem], hHeading⟩

end Grammar

end LayeredSettings

------------------------------------------------------------
-- Where the Reader Stands
------------------------------------------------------------

namespace LayeredSettings

namespace Grammar

variable {before : List (List Char)}
variable {line : List Char}

/- One more line may be a heading. -/
theorem hasHeading_concat_iff :
    HasHeading (before ++ [line]) ↔
      IsHeading line ∨ HasHeading before := by
  unfold HasHeading
  constructor
  · rintro ⟨found, hMem, hHeading⟩
    rcases List.mem_append.mp hMem with hOld | hNew
    · exact Or.inr ⟨found, hOld, hHeading⟩
    · rw [List.mem_singleton.mp hNew] at hHeading
      exact Or.inl hHeading
  · rintro (hHeading | ⟨found, hMem, hHeading⟩)
    · exact ⟨line, by simp, hHeading⟩
    · exact ⟨found, by simp [hMem], hHeading⟩

/- A line of a kind that changes nothing for later lines. -/
theorem hasProperty_concat_iff_of_not
    (hProperty : ¬ IsProperty line)
    (hHeading : ¬ IsHeading line) :
    HasProperty (before ++ [line]) ↔ HasProperty before := by
  unfold HasProperty
  rw [since_concat_iff]
  simp [hProperty, hHeading]

/- The cursor says what there is among the lines before. -/
structure Stands
    (before : List (List Char))
    (cursor : Option Cursor) : Prop where
  hasHeading_iff :
    HasHeading before ↔ ∃ current, cursor = some current
  hasProperty_iff :
    HasProperty before ↔
      ∃ heading key, cursor = some ⟨heading, some key⟩

/- Where the reader starts. -/
theorem stands_initial :
    Stands [] SectionReader.initial.cursor where
  hasHeading_iff := by
    constructor
    · rintro ⟨line, hMem, -⟩
      cases hMem
    · rintro ⟨current, hCursor⟩
      cases hCursor
  hasProperty_iff := by
    constructor
    · intro hProperty
      exact absurd hProperty not_since_nil
    · rintro ⟨heading, key, hCursor⟩
      cases hCursor

/- A line that changes nothing leaves the reader in place. -/
theorem Stands.of_not
    {cursor : Option Cursor}
    (hStands : Stands before cursor)
    (hProperty : ¬ IsProperty line)
    (hHeading : ¬ IsHeading line) :
    Stands (before ++ [line]) cursor where
  hasHeading_iff := by
    rw [hasHeading_concat_iff, ← hStands.hasHeading_iff]
    exact or_iff_right hHeading
  hasProperty_iff := by
    rw [hasProperty_concat_iff_of_not hProperty hHeading]
    exact hStands.hasProperty_iff

/- Every step keeps the cursor in line with the lines. -/
theorem Stands.step
    {reader next : SectionReader}
    (hStands : Stands before reader.cursor)
    (hStep : reader.Step line next) :
    Stands (before ++ [line]) next.cursor := by
  cases hStep with
  | ignored hIgnored =>
      apply hStands.of_not
      · intro hProperty
        exact hProperty.1 hIgnored
      · intro hHeading
        exact hHeading.not_isIgnored hIgnored
  | continuation hContinuation hCursor =>
      rw [SectionReader.cursor_extendProperty]
      apply hStands.of_not
      · intro hProperty
        exact hProperty.2.2 hContinuation
      · intro hHeading
        exact hHeading.not_isContinuation hContinuation
  | heading hNames =>
      constructor
      · rw [hasHeading_concat_iff]
        exact iff_of_true (Or.inl hNames.1) ⟨_, rfl⟩
      · unfold HasProperty
        rw [since_concat_iff]
        apply iff_of_false
        · rintro (hProperty | ⟨hStop, -⟩)
          · exact hProperty.2.1 hNames.1
          · exact hStop hNames.1
        · rintro ⟨heading, key, hCursor⟩
          cases hCursor
  | property hAssigns hCursor =>
      constructor
      · rw [hasHeading_concat_iff, hStands.hasHeading_iff]
        exact iff_of_true (Or.inr ⟨_, hCursor⟩) ⟨_, rfl⟩
      · unfold HasProperty
        rw [since_concat_iff]
        exact iff_of_true (Or.inl hAssigns.1) ⟨_, _, rfl⟩

/- A line that is read obeys its rule. -/
theorem Stands.obeys
    {reader next : SectionReader}
    (hStands : Stands before reader.cursor)
    (hStep : reader.Step line next) :
    Obeys before line := by
  cases hStep with
  | ignored hIgnored => exact .ignored hIgnored
  | heading hNames =>
      rcases hNames with
        ⟨hHeading, name, hName, hFilled, -⟩
      exact .heading name hHeading hName hFilled
  | continuation hContinuation hCursor =>
      have hBefore :=
        hStands.hasProperty_iff.mpr ⟨_, _, hCursor⟩
      exact .continuation hContinuation hBefore
  | property hAssigns hCursor =>
      rcases hAssigns with
        ⟨hProperty, key, value, kept, hLine, hKey, hFilled, -⟩
      have hBefore :=
        hStands.hasHeading_iff.mpr ⟨_, hCursor⟩
      exact .property key value hProperty hBefore hLine hKey
        hFilled

/- A line that is refused breaks its rule as the fault says. -/
theorem Stands.breaks
    {reader : SectionReader}
    {fault : LineFault}
    (hStands : Stands before reader.cursor)
    (hRefuses : reader.Refuses line fault) :
    Breaks before line fault.message := by
  have hNoHeading :
      reader.cursor = none → ¬ HasHeading before := by
    intro hCursor hBefore
    rcases hStands.hasHeading_iff.mp hBefore with ⟨_, hSome⟩
    rw [hCursor] at hSome
    cases hSome
  have hSomeHeading :
      ∀ cursor, reader.cursor = some cursor →
        HasHeading before :=
    fun cursor h => hStands.hasHeading_iff.mpr ⟨cursor, h⟩
  cases hRefuses with
  | unclosedHeading hHeading hOpen =>
      exact .openHeading hHeading hOpen
  | unnamedHeading hHeading hName hEmpty =>
      exact .unnamedHeading _ hHeading hName hEmpty
  | continuationBeforeHeading hContinuation hCursor =>
      exact .continuationBeforeHeading hContinuation
        (hNoHeading hCursor)
  | continuationBeforeProperty hContinuation hCursor =>
      refine .continuationBeforeProperty hContinuation
        (hSomeHeading _ hCursor) ?_
      rw [hStands.hasProperty_iff]
      rintro ⟨heading, key, hSome⟩
      rw [hCursor] at hSome
      cases hSome
  | propertyBeforeHeading hProperty hCursor =>
      exact .propertyBeforeHeading hProperty
        (hNoHeading hCursor)
  | noEqualsSign hProperty hCursor hEquals =>
      exact .noEqualsSign hProperty (hSomeHeading _ hCursor)
        hEquals
  | unnamedProperty hProperty hCursor hLine hKey hEmpty =>
      exact .unnamedProperty _ _ hProperty
        (hSomeHeading _ hCursor) hLine hKey hEmpty

end Grammar

end LayeredSettings

------------------------------------------------------------
-- Rules and Breaches
------------------------------------------------------------

namespace LayeredSettings

namespace Grammar

variable {before : List (List Char)}
variable {line : List Char}

/- The rule for headings. -/
theorem Obeys.of_isHeading
    (hObeys : Obeys before line)
    (hHeading : IsHeading line) :
    ∃ name, Encloses line name ∧ IsFilled name := by
  cases hObeys with
  | ignored hIgnored =>
      exact absurd hIgnored hHeading.not_isIgnored
  | heading name _ hName hFilled =>
      exact ⟨name, hName, hFilled⟩
  | continuation hContinuation =>
      exact absurd hContinuation hHeading.not_isContinuation
  | property _ _ hProperty =>
      exact absurd hHeading hProperty.2.1

/- The rule for continuations. -/
theorem Obeys.of_isContinuation
    (hObeys : Obeys before line)
    (hContinuation : IsContinuation line) :
    HasProperty before := by
  cases hObeys with
  | ignored hIgnored =>
      exact absurd hIgnored hContinuation.1
  | heading _ hHeading =>
      exact absurd hContinuation hHeading.not_isContinuation
  | continuation _ hBefore => exact hBefore
  | property _ _ hProperty =>
      exact absurd hContinuation hProperty.2.2

/- The rule for properties. -/
theorem Obeys.of_isProperty
    (hObeys : Obeys before line)
    (hProperty : IsProperty line) :
    HasHeading before ∧
      ∃ key value,
        line = key ++ '=' :: value ∧ '=' ∉ key ∧
          IsFilled key := by
  cases hObeys with
  | ignored hIgnored => exact absurd hIgnored hProperty.1
  | heading _ hHeading => exact absurd hHeading hProperty.2.1
  | continuation hContinuation =>
      exact absurd hContinuation hProperty.2.2
  | property key value _ hBefore hLine hKey hFilled =>
      exact ⟨hBefore, key, value, hLine, hKey, hFilled⟩

/- No line both breaks its rule and obeys it. -/
theorem Breaks.not_obeys
    {message : String}
    (hBreaks : Breaks before line message)
    (hBefore : IsGrammatical before) :
    ¬ Obeys before line := by
  intro hObeys
  cases hBreaks with
  | openHeading hHeading hOpen =>
      rcases hObeys.of_isHeading hHeading with ⟨name, hName, -⟩
      exact hOpen name hName
  | unnamedHeading name hHeading hName hEmpty =>
      rcases hObeys.of_isHeading hHeading with
        ⟨other, hOther, hFilled⟩
      rw [hOther.unique hName] at hFilled
      exact hEmpty hFilled
  | continuationBeforeHeading hContinuation hNone =>
      exact hNone
        (hBefore.hasHeading
          (hObeys.of_isContinuation hContinuation))
  | continuationBeforeProperty hContinuation _ hNone =>
      exact hNone (hObeys.of_isContinuation hContinuation)
  | propertyBeforeHeading hProperty hNone =>
      exact hNone (hObeys.of_isProperty hProperty).1
  | noEqualsSign hProperty _ hEquals =>
      rcases (hObeys.of_isProperty hProperty).2 with
        ⟨key, value, rfl, -⟩
      exact hEquals (by simp)
  | unnamedProperty key value hProperty _ hLine hKey hEmpty =>
      rcases (hObeys.of_isProperty hProperty).2 with
        ⟨other, rest, hOtherLine, hOther, hFilled⟩
      rw [hLine] at hOtherLine
      have hSame :=
        append_equals_inj hKey hOther hOtherLine
      rw [← hSame.1] at hFilled
      exact hEmpty hFilled

/- One more line that obeys its rule. -/
theorem IsGrammatical.concat
    (hBefore : IsGrammatical before)
    (hObeys : Obeys before line) :
    IsGrammatical (before ++ [line]) := by
  intro front found after hLines
  rcases concat_eq_append_cons_iff.mp hLines with
    ⟨rfl, rfl, -⟩ | ⟨middle, -, rfl⟩
  · exact hObeys
  · exact hBefore front found middle rfl

/- No lines break no rule. -/
theorem isGrammatical_nil :
    IsGrammatical [] := by
  intro front found after hLines
  exact absurd hLines (by simp)

/- Lines that are read obey their rules. -/
theorem isGrammatical_of_readLines_eq_ok
    {lines : List (List Char)}
    {last : SectionReader}
    {number : Nat}
    (hRead :
      SectionReader.initial.readLines number lines =
        .ok last) :
    IsGrammatical lines ∧ Stands lines last.cursor := by
  have hInvariant :=
    SectionReader.invariant_of_readLines_eq_ok
      (I := fun before reader =>
        IsGrammatical before ∧ Stands before reader.cursor)
      (fun before line reader next hBefore hStep =>
        ⟨hBefore.1.concat (hBefore.2.obeys hStep),
          hBefore.2.step hStep⟩)
      ⟨isGrammatical_nil, stands_initial⟩ hRead
  rwa [List.nil_append] at hInvariant

end Grammar

end LayeredSettings

------------------------------------------------------------
-- Files
------------------------------------------------------------

namespace LayeredSettings

open Grammar

/-
  A file is read exactly if every line obeys its rule.  If it
  is not read, the error is about the first line that breaks
  its rule.
-/
theorem Sections.parse_grammatical
    (path text : String) :
    ((∃ sections, parse path text = .ok sections) ↔
      IsGrammatical (Text.lines text.toList)) ∧
    ∀ error, parse path text = .error error →
      ∃ before line after,
        Text.lines text.toList = before ++ line :: after ∧
          IsGrammatical before ∧
          ¬ Obeys before line ∧
          Breaks before line error.fault.message ∧
          error.path = path ∧
          error.line = before.length + 1 := by
  unfold parse
  cases hRead : SectionReader.initial.readLines 1
      (Text.lines text.toList) with
  | ok last =>
      constructor
      · exact iff_of_true ⟨_, rfl⟩
          (isGrammatical_of_readLines_eq_ok hRead).1
      · intro error hError
        cases hError
  | error found =>
      rcases found with ⟨number, fault⟩
      rcases SectionReader.split_of_readLines_eq_error hRead
        with ⟨before, line, after, stop, hLines, hBefore,
          hRefuses, hNumber⟩
      rcases isGrammatical_of_readLines_eq_ok hBefore with
        ⟨hGrammatical, hStands⟩
      have hBreaks := hStands.breaks hRefuses
      have hNotObeys := hBreaks.not_obeys hGrammatical
      have hLine : number = before.length + 1 := by omega
      constructor
      · apply iff_of_false
        · rintro ⟨sections, hSections⟩
          cases hSections
        · intro hAll
          exact hNotObeys (hAll before line after hLines)
      · intro error hError
        cases hError
        exact ⟨before, line, after, hLines, hGrammatical,
          hNotObeys, hBreaks, rfl, hLine⟩

/- Ignored lines are counted, and they leave nothing open. -/
example :
    Sections.parse "config" "# c\n[a]\n \n b\n" =
      .error ⟨"config", 4, .beforeProperty⟩ := by
  cbv

end LayeredSettings
