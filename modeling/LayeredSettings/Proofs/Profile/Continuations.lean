import LayeredSettings.Proofs.Profile.Meaning

/-
  What the reader of profile files has where it stands, and
  why it loses no continuation.

  Key definitions include:
    * `Grammar.IsNewest`
    * `SectionReader.Extends`
    * `SectionReader.Continues`

  Key theorems include:
    * `Grammar.Describes.exists_section`
    * `Grammar.Describes.exists_newest`
    * `SectionReader.extends_extendProperty`
    * `SectionReader.readLines_loses_no_continuation`

  A continuation is put behind the value at the cursor, and
  nothing happens if there is no such value.  But wherever
  the reader gets to, the cursor stands at a section and at a
  property that it has, so this never comes about.
-/

------------------------------------------------------------
-- At the Cursor
------------------------------------------------------------

namespace LayeredSettings

namespace Grammar

variable {lines : List (List Char)}
variable {line : List Char}
variable {reader : SectionReader}
variable {heading key value : String}

/-
  The value that was given last of all, whatever the key is,
  with the continuations that came after it.
-/
def IsNewest
    (heading key value : String)
    (lines : List (List Char)) : Prop :=
  ∃ before line after first,
    lines = before ++ line :: after ∧
      Gives heading key before line ∧
        Assigns line key first ∧
          (∀ later ∈ after, ¬ Ends later) ∧
            value = continued first after

/- What is given last of all is given last for its key. -/
theorem IsNewest.holds
    (hNewest : IsNewest heading key value lines) :
    Holds heading key value lines := by
  rcases hNewest with
    ⟨before, line, after, first, hLines, hGives, hAssigns,
      hOpen, hValue⟩
  refine
    ⟨before, line, after, first, ⟨hLines, hGives, ?_⟩,
      hAssigns, hValue⟩
  rintro between later rest rfl ⟨-, other, hOther⟩
  exact hOpen later (by simp) (Or.inr hOther.1)

/- A property that may be continued was given last of all. -/
theorem exists_isNewest_of_isOpen
    (hOpen : IsOpen heading key lines) :
    ∃ value, IsNewest heading key value lines := by
  rcases hOpen with
    ⟨before, line, after, hLines, hGives, hNone⟩
  rcases hGives.2 with ⟨first, hAssigns⟩
  exact
    ⟨continued first after, before, line, after, first,
      hLines, hGives, hAssigns, hNone, rfl⟩

/- The section at the cursor is one that was read. -/
theorem Describes.exists_section
    {cursor : Cursor}
    (hDescribes : Describes lines reader)
    (hCursor : reader.cursor = some cursor) :
    ∃ properties,
      reader.sections.get? cursor.heading =
        some properties := by
  have hUnder : Under cursor.heading lines :=
    (hDescribes.under_iff_of_cursor hCursor _).mp rfl
  rw [← Option.isSome_iff_exists, hDescribes.names_iff]
  exact hUnder.exists_names

/- The property at the cursor has the newest value. -/
theorem Describes.exists_newest
    (hDescribes : Describes lines reader)
    (hCursor : reader.cursor = some ⟨heading, some key⟩) :
    ∃ value,
      Sections.value? reader.sections heading key =
          some value ∧
        IsNewest heading key value lines := by
  have hOpen : IsOpen heading key lines :=
    (hDescribes.isOpen_iff heading key).mp hCursor
  rcases exists_isNewest_of_isOpen hOpen with
    ⟨value, hNewest⟩
  refine ⟨value, ?_, hNewest⟩
  rw [hDescribes.holds_iff]
  exact hNewest.holds

end Grammar

end LayeredSettings

------------------------------------------------------------
-- Continuations
------------------------------------------------------------

namespace LayeredSettings

namespace SectionReader

open Grammar

/-
  A reader that has put one more line behind the value of a
  key of a section, and is the same in all else.
-/
structure Extends
    (reader : SectionReader)
    (heading key value text : String)
    (next : SectionReader) : Prop where
  cursor_eq : next.cursor = reader.cursor
  value_eq :
    Sections.value? reader.sections heading key = some value
  next_value_eq :
    Sections.value? next.sections heading key =
      some (value ++ "\n" ++ text)
  other_key :
    ∀ name, name ≠ key →
      Sections.value? next.sections heading name =
        Sections.value? reader.sections heading name
  other_section :
    ∀ other, other ≠ heading →
      next.sections.get? other = reader.sections.get? other

/-
  What becomes of a continuation.  It is refused where no
  property was read last, and else it extends the value of
  that property.
-/
inductive Continues
    (reader : SectionReader)
    (line : List Char) :
    Except LineFault SectionReader → Prop where
| extended
    {heading key value : String}
    {next : SectionReader}
    (hCursor : reader.cursor = some ⟨heading, some key⟩)
    (hExtends :
      Extends reader heading key value
        (String.ofList (stripped line)) next) :
    Continues reader line (.ok next)
| beforeHeading
    (hCursor : reader.cursor = none) :
    Continues reader line (.error .beforeHeading)
| beforeProperty
    {heading : String}
    (hCursor : reader.cursor = some ⟨heading, none⟩) :
    Continues reader line (.error .beforeProperty)

variable {reader : SectionReader}
variable {lines : List (List Char)}
variable {line : List Char}
variable {heading key value : String}

/- A value that is there is extended, and nothing else. -/
theorem extends_extendProperty
    (hValue :
      Sections.value? reader.sections heading key =
        some value)
    (text : String) :
    Extends reader heading key value text
      (reader.extendProperty heading key text) where
  cursor_eq := cursor_extendProperty reader heading key text
  value_eq := hValue
  next_value_eq := by
    rw [value?_extendProperty, if_pos ⟨rfl, rfl⟩, hValue]
    rfl
  other_key name hName := by
    rw [value?_extendProperty, if_neg]
    exact fun hSame => hName hSame.2.symm
  other_section other hOther := by
    rcases extendProperty_cases reader heading key text with
      ⟨-, hSame⟩ | ⟨properties, old, -, -, hNext⟩
    · rw [hSame]
    · rw [hNext, Table.get?_insert, if_neg hOther.symm]

/-
  No continuation is passed over: at the cursor of a reader
  that knows its lines there is a value to extend.
-/
theorem continues_readLine
    (hDescribes : Describes lines reader)
    (hContinuation : IsContinuation line) :
    Continues reader line (reader.readLine line) := by
  rw [readLine_of_isContinuation hContinuation]
  unfold readContinuation
  cases hCursor : reader.cursor with
  | none => exact .beforeHeading hCursor
  | some cursor =>
      rcases cursor with ⟨heading, none | key⟩
      · exact .beforeProperty hCursor
      · rcases hDescribes.exists_newest hCursor with
          ⟨value, hValue, -⟩
        exact .extended hCursor
          (extends_extendProperty hValue _)

/- A line that is refused fails the file, with its number. -/
theorem parse_eq_error_of_readLine
    {number : Nat}
    {path text : String}
    {rest : List (List Char)}
    {fault : LineFault}
    (hRead : initial.readLines number lines = .ok reader)
    (hLines :
      Text.lines text.toList = lines ++ line :: rest)
    (hRefused : reader.readLine line = .error fault) :
    Sections.parse path text =
      .error ⟨path, lines.length + 1, fault⟩ := by
  have hError :
      initial.readLines 1 (lines ++ line :: rest) =
        .error (lines.length + 1, fault) := by
    rw [readLines_append, readLines_renumber hRead 1,
      Nat.add_comm]
    dsimp only
    rw [readLines, hRefused]
  unfold Sections.parse
  rw [hLines, hError]

------------------------------------------------------------
-- Runs
------------------------------------------------------------

/-
  Wherever the reader gets to, whatever lines come next, it
  has the section at its cursor.  If it is at a property too,
  this has a value, and the value is the one given last.  So
  each continuation extends that value and changes nothing
  else, or it is refused and the file is not read.
-/
theorem readLines_loses_no_continuation
    {number : Nat}
    (hRead : initial.readLines number lines = .ok reader) :
    (∀ cursor, reader.cursor = some cursor →
      ∃ properties,
        reader.sections.get? cursor.heading =
          some properties) ∧
    (∀ heading key,
      reader.cursor = some ⟨heading, some key⟩ →
        ∃ value,
          Sections.value? reader.sections heading key =
              some value ∧
            IsNewest heading key value lines) ∧
    (∀ line, IsContinuation line →
      Continues reader line (reader.readLine line)) ∧
    ∀ path text line rest fault,
      Text.lines text.toList = lines ++ line :: rest →
        reader.readLine line = .error fault →
          Sections.parse path text =
            .error ⟨path, lines.length + 1, fault⟩ := by
  have hDescribes := describes_of_readLines_eq_ok hRead
  refine ⟨?_, ?_, ?_, ?_⟩
  · intro cursor hCursor
    exact hDescribes.exists_section hCursor
  · intro heading key hCursor
    exact hDescribes.exists_newest hCursor
  · intro line hContinuation
    exact continues_readLine hDescribes hContinuation
  · intro path text line rest fault hLines hRefused
    exact parse_eq_error_of_readLine hRead hLines hRefused

/- A key that is given in two sections, and once again. -/
def repeatedLines : List (List Char) :=
  [ "[a]".toList, "k = 1".toList,
    "[b]".toList, "k = 2".toList,
    "[a]".toList, "k = 3".toList, " four".toList ]

/- The reader of these lines. -/
def repeatedReader : SectionReader where
  sections := Table.ofList
    [ ("a", Table.ofList [("k", "3\nfour")]),
      ("b", Table.ofList [("k", "2")]) ]
  cursor := some ⟨"a", some "k"⟩

theorem readLines_loses_no_continuation_repeated :
    initial.readLines 1 repeatedLines = .ok repeatedReader ∧
    IsNewest "a" "k" "3\nfour" repeatedLines ∧
    (∃ next,
      repeatedReader.readLine "\tfive # d".toList =
          .ok next ∧
        repeatedReader.Extends "a" "k" "3\nfour"
          "five # d" next) ∧
    Sections.parse "config"
        "[a]\nk = 1\n[b]\nk = 2\n[a]\nk = 3\n four\nbad" =
      .error ⟨"config", 8, .noEqualsSign⟩ := by
  have hRead :
      initial.readLines 1 repeatedLines =
        .ok repeatedReader := by
    cbv
  rcases readLines_loses_no_continuation hRead with
    ⟨-, hNewest, hContinues, hRefused⟩
  refine ⟨hRead, ?_, ?_, ?_⟩
  · rcases hNewest "a" "k" rfl with
      ⟨value, hValue, hIsNewest⟩
    have hSame : "3\nfour" = value := Option.some.inj hValue
    rwa [← hSame] at hIsNewest
  · have hThis := hContinues "\tfive # d".toList (by decide)
    generalize hResult :
      repeatedReader.readLine "\tfive # d".toList = result
      at hThis
    cases hThis with
    | extended hCursor hExtends =>
        cases hCursor
        have hSame : "3\nfour" = _ :=
          Option.some.inj hExtends.value_eq
        have hText :
            String.ofList (stripped "\tfive # d".toList) =
              "five # d" := by
          rfl
        rw [hText, ← hSame] at hExtends
        exact ⟨_, rfl, hExtends⟩
    | beforeHeading hCursor => cases hCursor
    | beforeProperty hCursor => cases hCursor
  · exact hRefused "config" _ "bad".toList [] .noEqualsSign
      (by cbv) (by cbv)

end SectionReader

end LayeredSettings
