import LayeredSettings.Proofs.Profile.Reading
import LayeredSettings.Proofs.Profile.SectionUpdates
import LayeredSettings.Proofs.Text.Lines

/-
  Files that are put together from two files.

  Key definitions include:
    * `Sections.IsUnion`
    * `SectionReader.Resumes`
    * `SectionReader.Agree`
    * `Grammar.StartsWithHeading`

  Key theorems include:
    * `SectionReader.Resumes.step`
    * `SectionReader.agree_readLines`
    * `SectionReader.agree_of_startsWithHeading`
    * `Sections.parse_append`

  A reader that has read one text goes on with the next.  A
  fresh reader of the next text is followed by it step by
  step: after the first heading both stand at the same place,
  and what the fresh one has lies over what there was before.
-/

------------------------------------------------------------
-- Unions of Sections
------------------------------------------------------------

namespace LayeredSettings

namespace Sections

/-
  The sections of two files together.  A key that both files
  give a value has that of the later file, as it is there.
-/
structure IsUnion
    (earlier later both : Sections) : Prop where
  section_iff :
    ∀ heading,
      (both.get? heading).isSome ↔
        (later.get? heading).isSome ∨
          (earlier.get? heading).isSome
  value_eq :
    ∀ heading key,
      value? both heading key =
        (value? later heading key).or
          (value? earlier heading key)

/- A file without sections adds nothing. -/
theorem isUnion_empty
    (earlier : Sections) :
    IsUnion earlier Table.empty earlier where
  section_iff heading := by
    rw [Table.get?_empty]
    simp
  value_eq heading key := by
    rfl

end Sections

end LayeredSettings

------------------------------------------------------------
-- Readers That Go On
------------------------------------------------------------

namespace LayeredSettings

namespace SectionReader

open Grammar

variable {earlier : Sections}
variable {fresh reader next : SectionReader}
variable {line : List Char}

/-
  A reader that had sections from before and has read since
  then what a fresh reader has read.  A property that can be
  continued is always one of the fresh reader, so that no
  value from before is continued.
-/
structure Resumes
    (earlier : Sections)
    (fresh reader : SectionReader) : Prop where
  cursor_eq : reader.cursor = fresh.cursor
  is_union :
    Sections.IsUnion earlier fresh.sections reader.sections
  is_held :
    ∀ heading key,
      fresh.cursor = some ⟨heading, some key⟩ →
        (Sections.value? fresh.sections heading key).isSome

/- Both readers open a section, wherever they stand. -/
theorem resumes_openSection
    (hUnion :
      Sections.IsUnion earlier fresh.sections
        reader.sections)
    (heading : String) :
    Resumes earlier (fresh.openSection heading)
      (reader.openSection heading) where
  cursor_eq := rfl
  is_union := by
    constructor
    · intro other
      unfold openSection
      rw [isSome_get?_insert, isSome_get?_insert,
        hUnion.section_iff, or_assoc]
    · intro other key
      rw [value?_openSection, value?_openSection,
        hUnion.value_eq]
  is_held := by
    intro other key hCursor
    cases hCursor

namespace Resumes

/- Both readers set a property. -/
theorem setProperty
    (hResumes : Resumes earlier fresh reader)
    (heading key value : String) :
    Resumes earlier (fresh.setProperty heading key value)
      (reader.setProperty heading key value) where
  cursor_eq := rfl
  is_union := by
    constructor
    · intro other
      unfold SectionReader.setProperty
      rw [isSome_get?_insert, isSome_get?_insert,
        hResumes.is_union.section_iff, or_assoc]
    · intro other name
      rw [value?_setProperty, value?_setProperty,
        hResumes.is_union.value_eq]
      split
      · rfl
      · rfl
  is_held := by
    intro other name hCursor
    cases hCursor
    rw [value?_setProperty, if_pos ⟨rfl, rfl⟩]
    rfl

/- Both readers extend a value of the fresh one. -/
theorem extendProperty
    (hResumes : Resumes earlier fresh reader)
    {heading key : String}
    (hCursor : fresh.cursor = some ⟨heading, some key⟩)
    (text : String) :
    Resumes earlier (fresh.extendProperty heading key text)
      (reader.extendProperty heading key text) := by
  have hHeld := hResumes.is_held heading key hCursor
  rcases Option.isSome_iff_exists.mp hHeld with
    ⟨value, hValue⟩
  constructor
  · rw [cursor_extendProperty, cursor_extendProperty,
      hResumes.cursor_eq]
  · constructor
    · intro other
      rw [isSome_get?_extendProperty,
        isSome_get?_extendProperty,
        hResumes.is_union.section_iff]
    · intro other name
      rw [value?_extendProperty, value?_extendProperty,
        hResumes.is_union.value_eq,
        hResumes.is_union.value_eq, hValue]
      split
      · rfl
      · rfl
  · intro other name hOther
    rw [cursor_extendProperty] at hOther
    rw [value?_extendProperty, hValue]
    split
    · rfl
    · exact hResumes.is_held other name hOther

/- Every step of the fresh reader is made by the other. -/
theorem step
    (hResumes : Resumes earlier fresh reader)
    (hStep : fresh.Step line next) :
    ∃ other,
      reader.Step line other ∧ Resumes earlier next other := by
  cases hStep with
  | ignored hIgnored =>
      exact ⟨reader, .ignored hIgnored, hResumes⟩
  | heading hNames =>
      exact ⟨_, .heading hNames,
        resumes_openSection hResumes.is_union _⟩
  | continuation hContinuation hCursor =>
      have hSame := hResumes.cursor_eq.trans hCursor
      exact ⟨_, .continuation hContinuation hSame,
        hResumes.extendProperty hCursor _⟩
  | property hAssigns hCursor =>
      have hSame := hResumes.cursor_eq.trans hCursor
      exact ⟨_, .property hAssigns hSame,
        hResumes.setProperty _ _ _⟩

/- What the fresh reader refuses is refused by the other. -/
theorem refuses
    {fault : LineFault}
    (hResumes : Resumes earlier fresh reader)
    (hRefuses : fresh.Refuses line fault) :
    reader.Refuses line fault := by
  have hSame := hResumes.cursor_eq
  cases hRefuses with
  | unclosedHeading hHeading hOpen =>
      exact .unclosedHeading hHeading hOpen
  | unnamedHeading hHeading hName hEmpty =>
      exact .unnamedHeading hHeading hName hEmpty
  | continuationBeforeHeading hContinuation hCursor =>
      exact .continuationBeforeHeading hContinuation
        (hSame.trans hCursor)
  | continuationBeforeProperty hContinuation hCursor =>
      exact .continuationBeforeProperty hContinuation
        (hSame.trans hCursor)
  | propertyBeforeHeading hProperty hCursor =>
      exact .propertyBeforeHeading hProperty
        (hSame.trans hCursor)
  | noEqualsSign hProperty hCursor hEquals =>
      exact .noEqualsSign hProperty (hSame.trans hCursor)
        hEquals
  | unnamedProperty hProperty hCursor hLine hBefore hEmpty =>
      exact .unnamedProperty hProperty (hSame.trans hCursor)
        hLine hBefore hEmpty

end Resumes

end SectionReader

end LayeredSettings

------------------------------------------------------------
-- Runs That Go On
------------------------------------------------------------

namespace LayeredSettings

namespace SectionReader

open Grammar

variable {earlier : Sections}
variable {fresh reader : SectionReader}
variable {lines : List (List Char)}

/-
  Two runs over the same lines that come to the same: both
  read them all, or both stop at one line for one reason.
-/
inductive Agree
    (earlier : Sections) :
    Except (Nat × LineFault) SectionReader →
      Except (Nat × LineFault) SectionReader → Prop
    where
| read
    {fresh reader : SectionReader}
    (hResumes : Resumes earlier fresh reader) :
    Agree earlier (.ok fresh) (.ok reader)
| stopped
    {found : Nat × LineFault} :
    Agree earlier (.error found) (.error found)

/- A reader that goes on does what the fresh one does. -/
theorem agree_readLines
    (hResumes : Resumes earlier fresh reader)
    (number : Nat)
    (lines : List (List Char)) :
    Agree earlier (fresh.readLines number lines)
      (reader.readLines number lines) := by
  induction lines generalizing fresh reader number with
  | nil => exact .read hResumes
  | cons line rest ih =>
      have hOutcome := outcome_readLine fresh line
      rw [readLines, readLines]
      cases hLine : fresh.readLine line with
      | error fault =>
          rw [hLine] at hOutcome
          rw [(hResumes.refuses hOutcome).readLine_eq]
          exact .stopped
      | ok next =>
          rw [hLine] at hOutcome
          rcases hResumes.step hOutcome with
            ⟨other, hStep, hNext⟩
          rw [hStep.readLine_eq]
          exact ih hNext (number + 1)

end SectionReader

end LayeredSettings

------------------------------------------------------------
-- Where Runs Start
------------------------------------------------------------

namespace LayeredSettings

/- The first line that is not ignored is a heading. -/
def Grammar.StartsWithHeading
    (lines : List (List Char)) : Prop :=
  ∃ before line after,
    lines = before ++ line :: after ∧
      (∀ other ∈ before, IsIgnored other) ∧ IsHeading line

namespace SectionReader

open Grammar

variable {earlier : Sections}
variable {fresh reader : SectionReader}
variable {lines : List (List Char)}

/- Ignored lines make no difference to a reader. -/
theorem readLines_of_forall_isIgnored
    (hIgnored : ∀ line ∈ lines, IsIgnored line)
    (reader : SectionReader)
    (number : Nat) :
    reader.readLines number lines = .ok reader := by
  induction lines generalizing number with
  | nil => rfl
  | cons line rest ih =>
      have hStep : reader.Step line reader :=
        .ignored (hIgnored line (by simp))
      rw [readLines, hStep.readLine_eq]
      exact
        ih (fun other hMem => hIgnored other (by simp [hMem]))
          (number + 1)

/-
  From a first heading on readers agree that stood at
  different places before, as no heading depends on that.
-/
theorem agree_of_isHeading
    {line : List Char}
    (hHeading : IsHeading line)
    (hUnion :
      Sections.IsUnion earlier fresh.sections
        reader.sections)
    (number : Nat)
    (rest : List (List Char)) :
    Agree earlier (fresh.readLines number (line :: rest))
      (reader.readLines number (line :: rest)) := by
  have hRead (any : SectionReader) :
      any.readLine line =
        (Heading.read line).map any.openSection := by
    rw [readLine_of_isHeading hHeading, readHeading]
    cases Heading.read line with
    | error fault => rfl
    | ok heading => rfl
  rw [readLines, readLines, hRead, hRead]
  cases Heading.read line with
  | error fault => exact .stopped
  | ok heading =>
      exact
        agree_readLines (resumes_openSection hUnion heading)
          (number + 1) rest

theorem agree_of_startsWithHeading
    (hStarts : StartsWithHeading lines)
    (hUnion :
      Sections.IsUnion earlier fresh.sections
        reader.sections)
    (number : Nat) :
    Agree earlier (fresh.readLines number lines)
      (reader.readLines number lines) := by
  rcases hStarts with
    ⟨before, line, after, rfl, hBefore, hHeading⟩
  rw [readLines_append, readLines_append,
    readLines_of_forall_isIgnored hBefore,
    readLines_of_forall_isIgnored hBefore]
  exact agree_of_isHeading hHeading hUnion _ after

/-
  At the start of a file only a heading can be read, besides
  lines that are ignored.
-/
theorem startsWithHeading_or_of_readLines_eq_ok
    {last : SectionReader}
    {number : Nat}
    (hRead : initial.readLines number lines = .ok last) :
    StartsWithHeading lines ∨
      ∀ line ∈ lines, IsIgnored line := by
  induction lines generalizing number with
  | nil => exact Or.inr (by simp)
  | cons line rest ih =>
      rw [readLines] at hRead
      cases hLine : initial.readLine line with
      | error fault =>
          rw [hLine] at hRead
          cases hRead
      | ok next =>
          rw [hLine] at hRead
          cases step_of_readLine_eq_ok hLine with
          | heading hNames =>
              exact Or.inl ⟨[], line, rest, rfl, by simp,
                hNames.1⟩
          | continuation _ hCursor => cases hCursor
          | property _ hCursor => cases hCursor
          | ignored hIgnored =>
              rcases ih hRead with hStarts | hAll
              · rcases hStarts with
                  ⟨before, found, after, rfl, hBefore,
                    hHeading⟩
                refine
                  Or.inl ⟨line :: before, found, after, rfl,
                    ?_, hHeading⟩
                exact List.forall_mem_cons.mpr
                  ⟨hIgnored, hBefore⟩
              · exact Or.inr
                  (List.forall_mem_cons.mpr
                    ⟨hIgnored, hAll⟩)

/-
  What a fresh reader reads is read by one that goes on: the
  lines start with a heading, or there is nothing in them.
-/
theorem exists_isUnion_of_readLines_eq_ok
    {last : SectionReader}
    {number : Nat}
    (hRead : initial.readLines number lines = .ok last)
    (reader : SectionReader) :
    ∃ both,
      reader.readLines number lines = .ok both ∧
        Sections.IsUnion reader.sections last.sections
          both.sections := by
  rcases startsWithHeading_or_of_readLines_eq_ok hRead with
    hStarts | hIgnored
  · have hUnion :
        Sections.IsUnion reader.sections initial.sections
          reader.sections :=
      Sections.isUnion_empty reader.sections
    have hAgree :=
      agree_of_startsWithHeading hStarts hUnion number
    rw [hRead] at hAgree
    generalize reader.readLines number lines = result
      at hAgree
    cases hAgree with
    | read hResumes => exact ⟨_, rfl, hResumes.is_union⟩
  · rw [readLines_of_forall_isIgnored hIgnored] at hRead
    cases hRead
    exact
      ⟨reader,
        readLines_of_forall_isIgnored hIgnored reader number,
        Sections.isUnion_empty reader.sections⟩

/- What a fresh reader stops at stops one that goes on. -/
theorem readLines_eq_error_of_startsWithHeading
    (hStarts : StartsWithHeading lines)
    {number : Nat}
    {found : Nat × LineFault}
    (hRead : initial.readLines number lines = .error found)
    (reader : SectionReader) :
    reader.readLines number lines = .error found := by
  have hUnion :
      Sections.IsUnion reader.sections initial.sections
        reader.sections :=
    Sections.isUnion_empty reader.sections
  have hAgree :=
    agree_of_startsWithHeading hStarts hUnion number
  rw [hRead] at hAgree
  generalize reader.readLines number lines = result at hAgree
  cases hAgree with
  | stopped => rfl

end SectionReader

end LayeredSettings

------------------------------------------------------------
-- Files
------------------------------------------------------------

namespace LayeredSettings

namespace Sections

open Grammar

/- A text after one that ends in a line feed is read last. -/
theorem parse_append_eq
    {first second : String}
    (hFirst : first = "" ∨ ∃ front, first = front ++ "\n")
    (path : String) :
    parse path (first ++ second) =
      match SectionReader.initial.readLines 1
          (Text.lines first.toList) with
      | .ok next =>
          match next.readLines
              (1 + (Text.lines first.toList).length)
              (Text.lines second.toList) with
          | .ok last => .ok last.sections
          | .error (line, fault) => .error ⟨path, line, fault⟩
      | .error (line, fault) =>
          .error ⟨path, line, fault⟩ := by
  unfold parse
  rw [Text.lines_toList_append hFirst,
    SectionReader.readLines_append]
  cases SectionReader.initial.readLines 1
      (Text.lines first.toList) with
  | error found => rfl
  | ok next => rfl

/-
  Two files put together, of which the first is empty or ends
  in a line feed.  If both are read, so are they together,
  with the values of the second file where both have one.  If
  the first is not read its error is that of both.  If the
  second is not read its error is that of both as well, with
  the lines of the first counted, provided that the second
  does not start in a section of the first.
-/
theorem parse_append
    {first second : String}
    (hFirst : first = "" ∨ ∃ front, first = front ++ "\n")
    (path : String) :
    (∀ earlier later,
      parse path first = .ok earlier →
        parse path second = .ok later →
          ∃ both,
            parse path (first ++ second) = .ok both ∧
              IsUnion earlier later both) ∧
    (∀ error,
      parse path first = .error error →
        parse path (first ++ second) = .error error) ∧
    ∀ earlier error,
      parse path first = .ok earlier →
        parse path second = .error error →
          StartsWithHeading (Text.lines second.toList) →
            parse path (first ++ second) =
              .error
                { error with
                  line :=
                    error.line +
                      (Text.lines first.toList).length } := by
  rw [parse_append_eq hFirst]
  refine ⟨?_, ?_, ?_⟩
  · intro earlier later hEarlier hLater
    rcases exists_readLines_of_parse hEarlier with
      ⟨next, hNext, rfl⟩
    rcases exists_readLines_of_parse hLater with
      ⟨last, hLast, rfl⟩
    rcases SectionReader.exists_isUnion_of_readLines_eq_ok
        hLast next with ⟨both, hBoth, hUnion⟩
    rw [hNext]
    dsimp only
    rw [Nat.add_comm, SectionReader.readLines_add, hBoth]
    exact ⟨both.sections, rfl, hUnion⟩
  · intro error hError
    rcases readLines_of_parse_eq_error hError with
      ⟨hRead, rfl⟩
    rw [hRead]
  · intro earlier error hEarlier hError hStarts
    rcases exists_readLines_of_parse hEarlier with
      ⟨next, hNext, rfl⟩
    rcases readLines_of_parse_eq_error hError with
      ⟨hRead, rfl⟩
    have hStopped :=
      SectionReader.readLines_eq_error_of_startsWithHeading
        hStarts hRead next
    rw [hNext]
    dsimp only
    rw [Nat.add_comm, SectionReader.readLines_add, hStopped]
    dsimp only [Except.mapError]
    rw [Nat.add_comm]

/-
  A section that is opened again gives a key a new value,
  which a continuation extends, and keeps the other key.
-/
theorem parse_append_reopened :
    ∃ both,
      parse "config"
          ("[a]\nk = 1\n two\nl = 2\n" ++
            "# c\n[a]\nk = 3\n four\n") = .ok both ∧
        value? both "a" "k" = some "3\nfour" ∧
        value? both "a" "l" = some "2" := by
  have hFirst :
      parse "config" "[a]\nk = 1\n two\nl = 2\n" =
        .ok (Table.ofList
          [ ( "a",
              Table.ofList
                [("k", "1\ntwo"), ("l", "2")] ) ]) := by
    rfl
  have hSecond :
      parse "config" "# c\n[a]\nk = 3\n four\n" =
        .ok (Table.ofList
          [("a", Table.ofList [("k", "3\nfour")])]) := by
    rfl
  rcases (parse_append
      (Or.inr ⟨"[a]\nk = 1\n two\nl = 2", by decide⟩)
      "config").1 _ _ hFirst hSecond with
    ⟨both, hBoth, hUnion⟩
  refine ⟨both, hBoth, ?_, ?_⟩
  · rw [hUnion.value_eq]
    rfl
  · rw [hUnion.value_eq]
    rfl

end Sections

end LayeredSettings
