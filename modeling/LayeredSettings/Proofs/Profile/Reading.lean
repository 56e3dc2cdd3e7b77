import LayeredSettings.Profile.Sections
import LayeredSettings.Proofs.Profile.Grammar

/-
  This file says what the reader of profile files does at one
  line, and what carries over to many lines.

  Key definitions include:
    * `SectionReader.Step`
    * `SectionReader.Refuses`
    * `SectionReader.Reads`

  Key theorems include:
    * `SectionReader.outcome_readLine`
    * `SectionReader.Step.readLine_eq`,
      `SectionReader.Refuses.readLine_eq`
    * `SectionReader.readLines_append`
    * `SectionReader.invariant_of_readLines_eq_ok`
    * `SectionReader.split_of_readLines_eq_error`

  A step is described by the kind of its line and by the
  cursor.  What holds of all runs of the reader is derived
  from these descriptions and not from the reader.
-/

------------------------------------------------------------
-- Steps
------------------------------------------------------------

namespace LayeredSettings

namespace SectionReader

open Grammar

/- What the reader does with a line that may stand there. -/
inductive Step
    (reader : SectionReader)
    (line : List Char) : SectionReader → Prop where
| ignored
    (hIgnored : IsIgnored line) :
    Step reader line reader
| heading
    {heading : String}
    (hNames : Names line heading) :
    Step reader line (reader.openSection heading)
| continuation
    {heading key : String}
    (hContinuation : IsContinuation line)
    (hCursor : reader.cursor = some ⟨heading, some key⟩) :
    Step reader line
      (reader.extendProperty heading key
        (String.ofList (stripped line)))
| property
    {cursor : Cursor}
    {key value : String}
    (hAssigns : Assigns line key value)
    (hCursor : reader.cursor = some cursor) :
    Step reader line
      (reader.setProperty cursor.heading key value)

/-
  What the reader finds wrong with a line.  Where the line
  stands is looked at before what it says.
-/
inductive Refuses
    (reader : SectionReader)
    (line : List Char) : LineFault → Prop where
| unclosedHeading
    (hHeading : IsHeading line)
    (hOpen : ∀ name, ¬ Encloses line name) :
    Refuses reader line .unclosedHeading
| unnamedHeading
    {name : List Char}
    (hHeading : IsHeading line)
    (hName : Encloses line name)
    (hEmpty : ¬ IsFilled name) :
    Refuses reader line .unnamedHeading
| continuationBeforeHeading
    (hContinuation : IsContinuation line)
    (hCursor : reader.cursor = none) :
    Refuses reader line .beforeHeading
| continuationBeforeProperty
    {heading : String}
    (hContinuation : IsContinuation line)
    (hCursor : reader.cursor = some ⟨heading, none⟩) :
    Refuses reader line .beforeProperty
| propertyBeforeHeading
    (hProperty : IsProperty line)
    (hCursor : reader.cursor = none) :
    Refuses reader line .beforeHeading
| noEqualsSign
    {cursor : Cursor}
    (hProperty : IsProperty line)
    (hCursor : reader.cursor = some cursor)
    (hEquals : '=' ∉ line) :
    Refuses reader line .noEqualsSign
| unnamedProperty
    {cursor : Cursor}
    {before after : List Char}
    (hProperty : IsProperty line)
    (hCursor : reader.cursor = some cursor)
    (hLine : line = before ++ '=' :: after)
    (hBefore : '=' ∉ before)
    (hEmpty : ¬ IsFilled before) :
    Refuses reader line .unnamedProperty

/- What can come of a line. -/
def Outcome
    (reader : SectionReader)
    (line : List Char) :
    Except LineFault SectionReader → Prop
| .ok next => Step reader line next
| .error fault => Refuses reader line fault

/- What comes of a heading. -/
theorem outcome_readHeading
    {reader : SectionReader}
    {line : List Char}
    (hHeading : IsHeading line) :
    Outcome reader line (reader.readHeading line) := by
  unfold readHeading
  by_cases hClosed : ∃ name, Encloses line name
  · rcases hClosed with ⟨name, hName⟩
    rw [hName.read_eq]
    by_cases hEmpty : stripped name = []
    · rw [if_pos hEmpty]
      exact .unnamedHeading hHeading hName
        (stripped_eq_nil_iff.mp hEmpty)
    · rw [if_neg hEmpty]
      exact Step.heading
        ⟨hHeading, name, hName,
          stripped_ne_nil_iff.mp hEmpty, rfl⟩
  · have hOpen : ∀ name, ¬ Encloses line name :=
      fun name h => hClosed ⟨name, h⟩
    rw [read_eq_error_of_forall_not_encloses hOpen]
    exact .unclosedHeading hHeading hOpen

/- What comes of a continuation. -/
theorem outcome_readContinuation
    {reader : SectionReader}
    {line : List Char}
    (hContinuation : IsContinuation line) :
    Outcome reader line (reader.readContinuation line) := by
  unfold readContinuation
  cases hCursor : reader.cursor with
  | none =>
      exact .continuationBeforeHeading hContinuation hCursor
  | some cursor =>
      rcases cursor with ⟨heading, none | key⟩
      · exact .continuationBeforeProperty hContinuation
          hCursor
      · exact Step.continuation hContinuation hCursor

/- What comes of a property. -/
theorem outcome_readProperty
    {reader : SectionReader}
    {line : List Char}
    (hProperty : IsProperty line) :
    Outcome reader line (reader.readProperty line) := by
  unfold readProperty
  cases hCursor : reader.cursor with
  | none =>
      exact .propertyBeforeHeading hProperty hCursor
  | some cursor =>
      by_cases hEquals : '=' ∈ line
      · rcases List.eq_append_cons_of_mem hEquals with
          ⟨before, after, rfl, hBefore⟩
        have hIff := @read_property_eq_ok_iff
          (before ++ '=' :: after)
        rw [read_append_equals hBefore] at hIff ⊢
        by_cases hEmpty : stripped before = []
        · rw [if_pos hEmpty]
          exact .unnamedProperty hProperty hCursor rfl
            hBefore (stripped_eq_nil_iff.mp hEmpty)
        · rw [if_neg hEmpty] at hIff ⊢
          exact Step.property ((hIff hProperty).mp rfl)
            hCursor
      · rw [read_eq_error_of_not_mem hEquals]
        exact .noEqualsSign hProperty hCursor hEquals

/- What comes of a line, whatever it is. -/
theorem outcome_readLine
    (reader : SectionReader)
    (line : List Char) :
    Outcome reader line (reader.readLine line) := by
  have hShape := hasShape_of line
  unfold readLine
  cases hOf : LineShape.of line with
  | ignored =>
      rw [hOf] at hShape
      exact Step.ignored hShape
  | heading =>
      rw [hOf] at hShape
      exact outcome_readHeading hShape
  | continuation =>
      rw [hOf] at hShape
      exact outcome_readContinuation hShape
  | property =>
      rw [hOf] at hShape
      exact outcome_readProperty hShape

/- A line that is read makes a step. -/
theorem step_of_readLine_eq_ok
    {reader next : SectionReader}
    {line : List Char}
    (hRead : reader.readLine line = .ok next) :
    Step reader line next := by
  have hOutcome := outcome_readLine reader line
  rw [hRead] at hOutcome
  exact hOutcome

/- A line that is not read is refused. -/
theorem refuses_of_readLine_eq_error
    {reader : SectionReader}
    {line : List Char}
    {fault : LineFault}
    (hRead : reader.readLine line = .error fault) :
    Refuses reader line fault := by
  have hOutcome := outcome_readLine reader line
  rw [hRead] at hOutcome
  exact hOutcome

/- The reader of a line is chosen by the kind of line. -/
theorem readLine_of_isHeading
    {line : List Char}
    (hHeading : IsHeading line)
    (reader : SectionReader) :
    reader.readLine line = reader.readHeading line := by
  have hShape : LineShape.of line = .heading :=
    of_eq_iff.mpr hHeading
  unfold readLine
  rw [hShape]

theorem readLine_of_isContinuation
    {line : List Char}
    (hContinuation : IsContinuation line)
    (reader : SectionReader) :
    reader.readLine line = reader.readContinuation line := by
  have hShape : LineShape.of line = .continuation :=
    of_eq_iff.mpr hContinuation
  unfold readLine
  rw [hShape]

theorem readLine_of_isProperty
    {line : List Char}
    (hProperty : IsProperty line)
    (reader : SectionReader) :
    reader.readLine line = reader.readProperty line := by
  have hShape : LineShape.of line = .property :=
    of_eq_iff.mpr hProperty
  unfold readLine
  rw [hShape]

/- A line that may stand there is read. -/
theorem Step.readLine_eq
    {reader next : SectionReader}
    {line : List Char}
    (hStep : Step reader line next) :
    reader.readLine line = .ok next := by
  cases hStep with
  | ignored hIgnored =>
      have hShape : LineShape.of line = .ignored :=
        of_eq_iff.mpr hIgnored
      unfold readLine
      rw [hShape]
  | heading hNames =>
      rw [readLine_of_isHeading hNames.1, readHeading,
        (read_heading_eq_ok_iff hNames.1).mpr hNames]
      rfl
  | continuation hContinuation hCursor =>
      rw [readLine_of_isContinuation hContinuation,
        readContinuation, hCursor]
      rfl
  | property hAssigns hCursor =>
      rw [readLine_of_isProperty hAssigns.1, readProperty,
        hCursor]
      dsimp only
      rw [(read_property_eq_ok_iff hAssigns.1).mpr hAssigns]
      rfl

/- A line with which something is wrong is not read. -/
theorem Refuses.readLine_eq
    {reader : SectionReader}
    {line : List Char}
    {fault : LineFault}
    (hRefuses : Refuses reader line fault) :
    reader.readLine line = .error fault := by
  cases hRefuses with
  | unclosedHeading hHeading hOpen =>
      rw [readLine_of_isHeading hHeading, readHeading,
        read_eq_error_of_forall_not_encloses hOpen]
      rfl
  | unnamedHeading hHeading hName hEmpty =>
      rw [readLine_of_isHeading hHeading, readHeading,
        hName.read_eq,
        if_pos (stripped_eq_nil_iff.mpr hEmpty)]
      rfl
  | continuationBeforeHeading hContinuation hCursor =>
      rw [readLine_of_isContinuation hContinuation,
        readContinuation, hCursor]
  | continuationBeforeProperty hContinuation hCursor =>
      rw [readLine_of_isContinuation hContinuation,
        readContinuation, hCursor]
  | propertyBeforeHeading hProperty hCursor =>
      rw [readLine_of_isProperty hProperty, readProperty,
        hCursor]
  | noEqualsSign hProperty hCursor hEquals =>
      rw [readLine_of_isProperty hProperty, readProperty,
        hCursor]
      dsimp only
      rw [read_eq_error_of_not_mem hEquals]
      rfl
  | unnamedProperty hProperty hCursor hLine hBefore hEmpty =>
      rw [readLine_of_isProperty hProperty, readProperty,
        hCursor, hLine]
      dsimp only
      rw [read_append_equals hBefore,
        if_pos (stripped_eq_nil_iff.mpr hEmpty)]
      rfl

end SectionReader

end LayeredSettings

------------------------------------------------------------
-- Runs
------------------------------------------------------------

namespace LayeredSettings

namespace SectionReader

/- Lines are read, and then the lines after them. -/
theorem readLines_append
    (reader : SectionReader)
    (number : Nat)
    (lines rest : List (List Char)) :
    reader.readLines number (lines ++ rest) =
      match reader.readLines number lines with
      | .ok next =>
          next.readLines (number + lines.length) rest
      | .error found => .error found := by
  induction lines generalizing reader number with
  | nil => rfl
  | cons line lines ih =>
      rw [List.cons_append, readLines, readLines]
      cases reader.readLine line with
      | error fault => rfl
      | ok next =>
          dsimp only
          rw [ih, List.length_cons, Nat.add_right_comm,
            Nat.add_assoc]

/- A run that comes to its end has come through its start. -/
theorem exists_readLines_of_append
    {reader last : SectionReader}
    {number : Nat}
    {lines rest : List (List Char)}
    (hRead :
      reader.readLines number (lines ++ rest) = .ok last) :
    ∃ stop,
      reader.readLines number lines = .ok stop ∧
        stop.readLines (number + lines.length) rest =
          .ok last := by
  rw [readLines_append] at hRead
  cases hLines : reader.readLines number lines with
  | error found =>
      rw [hLines] at hRead
      cases hRead
  | ok stop =>
      rw [hLines] at hRead
      exact ⟨stop, rfl, hRead⟩

/- Lines are read alike whatever their numbers are. -/
theorem readLines_add
    (reader : SectionReader)
    (extra number : Nat)
    (lines : List (List Char)) :
    reader.readLines (extra + number) lines =
      (reader.readLines number lines).mapError
        fun found => (extra + found.1, found.2) := by
  induction lines generalizing reader number with
  | nil => rfl
  | cons line lines ih =>
      rw [readLines, readLines]
      cases reader.readLine line with
      | error fault => rfl
      | ok next => exact ih next (number + 1)

/- Lines that are read are read whatever their numbers. -/
theorem readLines_renumber
    {reader last : SectionReader}
    {number : Nat}
    {lines : List (List Char)}
    (hRead : reader.readLines number lines = .ok last)
    (other : Nat) :
    reader.readLines other lines = .ok last := by
  have hNumber := reader.readLines_add number 0 lines
  have hOther := reader.readLines_add other 0 lines
  rw [Nat.add_zero] at hNumber hOther
  rw [hRead] at hNumber
  rw [hOther]
  cases hZero : reader.readLines 0 lines with
  | error found =>
      rw [hZero] at hNumber
      cases hNumber
  | ok own =>
      rw [hZero] at hNumber
      rw [Except.ok.inj hNumber]
      rfl

/-
  What every step keeps up, as the lines read so far grow by
  one, holds when all lines are read.
-/
theorem invariant_of_readLines_eq_ok
    {I : List (List Char) → SectionReader → Prop}
    (hStep :
      ∀ before line reader next,
        I before reader → Step reader line next →
          I (before ++ [line]) next)
    {before lines : List (List Char)}
    {reader last : SectionReader}
    {number : Nat}
    (hStart : I before reader)
    (hRead : reader.readLines number lines = .ok last) :
    I (before ++ lines) last := by
  induction lines generalizing before reader number with
  | nil =>
      cases hRead
      rw [List.append_nil]
      exact hStart
  | cons line rest ih =>
      unfold readLines at hRead
      cases hLine : reader.readLine line with
      | error fault =>
          rw [hLine] at hRead
          cases hRead
      | ok next =>
          rw [hLine] at hRead
          have hNext :=
            hStep before line reader next hStart
              (step_of_readLine_eq_ok hLine)
          have hLast := ih hNext hRead
          rw [List.append_assoc] at hLast
          exact hLast

/-
  A run that fails has read all lines before one that it
  refuses, and it has counted them.
-/
theorem split_of_readLines_eq_error
    {lines : List (List Char)}
    {reader : SectionReader}
    {number found : Nat}
    {fault : LineFault}
    (hRead :
      reader.readLines number lines =
        .error (found, fault)) :
    ∃ before line after stop,
      lines = before ++ line :: after ∧
        reader.readLines number before = .ok stop ∧
          Refuses stop line fault ∧
            found = number + before.length := by
  induction lines generalizing reader number with
  | nil => cases hRead
  | cons line rest ih =>
      unfold readLines at hRead
      cases hLine : reader.readLine line with
      | error other =>
          rw [hLine] at hRead
          cases hRead
          exact ⟨[], line, rest, reader, rfl, rfl,
            refuses_of_readLine_eq_error hLine, rfl⟩
      | ok next =>
          rw [hLine] at hRead
          rcases ih hRead with
            ⟨before, bad, after, stop, rfl, hBefore,
              hRefuses, hFound⟩
          refine ⟨line :: before, bad, after, stop, rfl, ?_,
            hRefuses, ?_⟩
          · unfold readLines
            rw [hLine]
            exact hBefore
          · rw [hFound, List.length_cons]
            omega

/- Lines that make a step each. -/
inductive Reads :
    SectionReader → List (List Char) → SectionReader → Prop
    where
| nil
    {reader : SectionReader} :
    Reads reader [] reader
| cons
    {reader next last : SectionReader}
    {line : List Char}
    {rest : List (List Char)}
    (hStep : Step reader line next)
    (hRest : Reads next rest last) :
    Reads reader (line :: rest) last

/- Some lines are read, and then the other lines. -/
theorem Reads.append
    {reader next last : SectionReader}
    {lines rest : List (List Char)}
    (hLines : Reads reader lines next)
    (hRest : Reads next rest last) :
    Reads reader (lines ++ rest) last := by
  induction hLines with
  | nil => exact hRest
  | cons hStep _ ih => exact .cons hStep (ih hRest)

/- Lines that make steps are read, whatever their numbers. -/
theorem Reads.readLines_eq
    {reader last : SectionReader}
    {lines : List (List Char)}
    (hReads : Reads reader lines last)
    (number : Nat) :
    reader.readLines number lines = .ok last := by
  induction hReads generalizing number with
  | nil => rfl
  | cons hStep _ ih =>
      unfold readLines
      rw [hStep.readLine_eq]
      exact ih (number + 1)

end SectionReader

/- A file that is parsed was read to its last line. -/
theorem Sections.exists_readLines_of_parse
    {path text : String}
    {sections : Sections}
    (hParse : parse path text = .ok sections) :
    ∃ last,
      SectionReader.initial.readLines 1
          (Text.lines text.toList) = .ok last ∧
        last.sections = sections := by
  unfold parse at hParse
  cases hRead : SectionReader.initial.readLines 1
      (Text.lines text.toList) with
  | error found =>
      rw [hRead] at hParse
      cases hParse
  | ok last =>
      rw [hRead] at hParse
      exact ⟨last, rfl, Except.ok.inj hParse⟩

/- A file that is not parsed has a line that is refused. -/
theorem Sections.readLines_of_parse_eq_error
    {path text : String}
    {error : ProfileParseError}
    (hParse : parse path text = .error error) :
    SectionReader.initial.readLines 1
        (Text.lines text.toList) =
      .error (error.line, error.fault) ∧
    error.path = path := by
  unfold parse at hParse
  cases hRead : SectionReader.initial.readLines 1
      (Text.lines text.toList) with
  | ok last =>
      rw [hRead] at hParse
      cases hParse
  | error found =>
      rw [hRead] at hParse
      cases hParse
      exact ⟨rfl, rfl⟩

end LayeredSettings
