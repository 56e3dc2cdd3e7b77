import LayeredSettings.Proofs.Profile.Shape

/-
  Comment marks in values: which of them a value keeps.

  Key definitions include:
    * `Grammar.HasNoSpacedMark`
    * `Grammar.StartsWithMark`
    * `Sections.HasFirstLine`

  Key theorems include:
    * `Grammar.IsUncommented.eq_of_hasNoSpacedMark`
    * `Grammar.Describes.hasFirstLine`
    * `Sections.parse_keeps_unspaced_marks`

  A mark that stands after a blank starts a comment, and so
  does a mark that is the first character after the equals
  sign.  A value that has neither is kept to its last
  character; one that starts with a mark is dropped whole.
-/

------------------------------------------------------------
-- Marks
------------------------------------------------------------

namespace LayeredSettings

namespace Grammar

/- No comment mark stands directly after a blank. -/
def HasNoSpacedMark
    (text : List Char) : Prop :=
  text.IsChain fun blank mark =>
    Text.isBlank blank = true → isCommentMark mark = false

instance (text : List Char) :
    Decidable (HasNoSpacedMark text) :=
  inferInstanceAs (Decidable (List.IsChain _ text))

/- The first character is a comment mark. -/
def StartsWithMark
    (text : List Char) : Prop :=
  ∃ mark ∈ text.head?, isCommentMark mark = true

variable {text kept : List Char}

/- Marks that are neither first nor spaced open nothing. -/
theorem HasNoSpacedMark.isCommentFree
    (hMarks : HasNoSpacedMark text)
    (hStart : ¬ StartsWithMark text) :
    IsCommentFree text := by
  rintro before mark after rfl ⟨hMark, hBlank⟩
  rcases List.eq_nil_or_concat' before with
    rfl | ⟨front, blank, rfl⟩
  · exact hStart ⟨mark, rfl, hMark⟩
  · have hSuffix :
        blank :: mark :: after <:+
          (front ++ [blank]) ++ mark :: after :=
      ⟨front, by simp⟩
    have hPair : HasNoSpacedMark (blank :: mark :: after) :=
      List.IsChain.suffix hMarks hSuffix
    have hUnmarked :=
      (List.isChain_cons_cons.mp hPair).1
        (hBlank blank (by simp))
    rw [hMark] at hUnmarked
    cases hUnmarked

/- A mark that comes first leaves nothing of the text. -/
theorem StartsWithMark.isUncommented_nil
    (hStart : StartsWithMark text) :
    IsUncommented text [] := by
  rcases hStart with ⟨mark, hFirst, hMark⟩
  rcases List.head?_eq_some_iff.mp hFirst with ⟨rest, rfl⟩
  refine
    ⟨fun before c after hSplit => absurd hSplit (by simp),
      Or.inr ⟨mark, rest, rfl, hMark, ?_⟩⟩
  simp

/-
  What is kept of a text without spaced marks: all of it, or
  nothing if a mark comes first.
-/
theorem IsUncommented.eq_of_hasNoSpacedMark
    (hKept : IsUncommented text kept)
    (hMarks : HasNoSpacedMark text) :
    (¬ StartsWithMark text → kept = text) ∧
      (StartsWithMark text → kept = []) := by
  constructor
  · intro hStart
    exact hKept.unique
      ⟨hMarks.isCommentFree hStart, Or.inl rfl⟩
  · intro hStart
    exact hKept.unique hStart.isUncommented_nil

/- What a line assigns comes from around its equals sign. -/
theorem Assigns.exists_isUncommented
    {before after : List Char}
    {key value : String}
    (hAssigns : Assigns (before ++ '=' :: after) key value)
    (hBefore : '=' ∉ before) :
    key = String.ofList (stripped before) ∧
      ∃ kept,
        IsUncommented after kept ∧
          value = String.ofList (stripped kept) := by
  rcases hAssigns with
    ⟨-, other, rest, kept, hLine, hOther, -, hKept, hKey,
      hValue⟩
  rcases append_equals_inj hBefore hOther hLine with
    ⟨rfl, rfl⟩
  exact ⟨hKey, kept, hKept, hValue⟩

end Grammar

end LayeredSettings

------------------------------------------------------------
-- First Lines of Values
------------------------------------------------------------

namespace LayeredSettings

open Grammar

/- A key of a section has a value with that first line. -/
def Sections.HasFirstLine
    (sections : Sections)
    (heading key : String)
    (line : List Char) : Prop :=
  ∃ stored further,
    value? sections heading key = some stored ∧
      Text.splitAll '\n' stored.toList = line :: further

/-
  The first line of a value is the one that its property line
  assigns, whatever continues it.
-/
theorem Grammar.Describes.hasFirstLine
    {lines before after : List (List Char)}
    {line : List Char}
    {reader : SectionReader}
    {heading key first : String}
    (hDescribes : Describes lines reader)
    (hFeed : ∀ other ∈ lines, '\n' ∉ other)
    (hLast : IsLast (Gives heading key) lines before line after)
    (hAssigns : Assigns line key first) :
    reader.sections.HasFirstLine heading key
      first.toList := by
  have hHolds :
      Holds heading key (continued first after) lines :=
    ⟨before, line, after, first, hLast, hAssigns, rfl⟩
  have hBlock : ∀ other ∈ line :: after, '\n' ∉ other := by
    intro other hMem
    apply hFeed
    rw [hLast.1]
    exact List.mem_append_right before hMem
  exact
    ⟨_, _, (hDescribes.holds_iff heading key _).mpr hHolds,
      hAssigns.splitAll_continued hBlock⟩

namespace SectionReader

/- A property line that is read assigns under a heading. -/
theorem exists_assigns_of_readLines_eq_ok
    {last : SectionReader}
    {number : Nat}
    {before after : List (List Char)}
    {line : List Char}
    (hRead :
      initial.readLines number (before ++ line :: after) =
        .ok last)
    (hProperty : IsProperty line) :
    ∃ heading key first,
      Under heading before ∧ Assigns line key first := by
  rcases exists_readLines_of_append hRead with
    ⟨stop, hBefore, hAfter⟩
  have hDescribes := describes_of_readLines_eq_ok hBefore
  rw [readLines] at hAfter
  cases hLine : stop.readLine line with
  | error fault =>
      rw [hLine] at hAfter
      cases hAfter
  | ok next =>
      cases step_of_readLine_eq_ok hLine with
      | ignored hIgnored =>
          exact absurd hIgnored hProperty.1
      | heading hNames =>
          exact absurd hNames.1 hProperty.2.1
      | continuation hContinuation _ =>
          exact absurd hContinuation hProperty.2.2
      | property hAssigns hCursor =>
          exact
            ⟨_, _, _,
              (hDescribes.under_iff_of_cursor hCursor _).mp
                rfl,
              hAssigns⟩

end SectionReader

end LayeredSettings

------------------------------------------------------------
-- Files
------------------------------------------------------------

namespace LayeredSettings

namespace Sections

open Grammar

variable {path text : String}
variable {sections : Sections}
variable {before after : List (List Char)}
variable {line key value : List Char}

/-
  A property line of a file that is read, of which no mark in
  the value stands after a blank.  As long as no later line
  gives its key again, the value that is stored starts with
  the whole value of the line without the blanks around, no
  mark being lost, unless the first character after the
  equals sign is a mark.  Then it starts with an empty line.
-/
theorem parse_keeps_unspaced_marks
    (hParse : parse path text = .ok sections)
    (hLines :
      Text.lines text.toList = before ++ line :: after)
    (hProperty : IsProperty line)
    (hLine : line = key ++ '=' :: value)
    (hKey : '=' ∉ key)
    (hMarks : HasNoSpacedMark value) :
    ∃ heading name first,
      Under heading before ∧
        name = String.ofList (stripped key) ∧
        (∀ between rest,
          after = between ++ rest →
            IsLast (Grammar.Gives heading name)
                (before ++ line :: between) before line
                between →
              ∃ reader,
                SectionReader.initial.readLines 1
                    (before ++ line :: between) =
                  .ok reader ∧
                (rest = [] → reader.sections = sections) ∧
                reader.sections.HasFirstLine heading name
                  first) ∧
        (¬ StartsWithMark value → first = stripped value) ∧
        (StartsWithMark value → first = []) := by
  rcases exists_readLines_of_parse hParse with
    ⟨last, hRead, rfl⟩
  have hFeed :
      ∀ other ∈ Text.lines text.toList, '\n' ∉ other :=
    fun _ hMem => Text.not_mem_of_mem_lines hMem
  rw [hLines] at hRead hFeed
  rcases SectionReader.exists_assigns_of_readLines_eq_ok
      hRead hProperty with
    ⟨heading, name, first, hUnder, hAssigns⟩
  have hParts := hAssigns
  rw [hLine] at hParts
  rcases hParts.exists_isUncommented hKey with
    ⟨hName, kept, hKept, rfl⟩
  have hCases := hKept.eq_of_hasNoSpacedMark hMarks
  refine
    ⟨heading, name, stripped kept, hUnder, hName, ?_,
      fun hStart => congrArg stripped (hCases.1 hStart),
      fun hStart => congrArg stripped (hCases.2 hStart)⟩
  rintro between rest rfl hLast
  rw [← List.cons_append, ← List.append_assoc] at hRead hFeed
  rcases SectionReader.exists_readLines_of_append hRead with
    ⟨reader, hReader, hRest⟩
  have hStored :=
    (describes_of_readLines_eq_ok hReader).hasFirstLine
      (fun other hMem =>
        hFeed other (List.mem_append_left rest hMem))
      hLast hAssigns
  rw [String.toList_ofList] at hStored
  refine ⟨reader, hReader, ?_, hStored⟩
  rintro rfl
  exact congrArg SectionReader.sections (Except.ok.inj hRest)

/- A colour and a password, with marks and a continuation. -/
theorem parse_keeps_unspaced_marks_colour :
    ∃ sections heading,
      parse "config" "[a]\nk = x#y;\n z\n" = .ok sections ∧
        Under heading ["[a]".toList] ∧
          sections.HasFirstLine heading "k" "x#y;".toList := by
  have hParse :
      parse "config" "[a]\nk = x#y;\n z\n" =
        .ok (Table.ofList
          [("a", Table.ofList [("k", "x#y;\nz")])]) := by
    rfl
  have hProperty : IsProperty "k = x#y;".toList := by
    decide
  have hAssigns : Assigns "k = x#y;".toList "k" "x#y;" :=
    (read_property_eq_ok_iff hProperty).mp rfl
  have hLines :
      Text.lines "[a]\nk = x#y;\n z\n".toList =
        ["[a]".toList] ++ "k = x#y;".toList ::
          [" z".toList] := by
    rfl
  have hLine :
      "k = x#y;".toList = "k ".toList ++ '=' ::
        " x#y;".toList := by
    rfl
  rcases parse_keeps_unspaced_marks hParse hLines hProperty
      hLine (by decide) (by decide) with
    ⟨heading, name, first, hUnder, rfl, hStored, hKept, -⟩
  have hStart : ¬ StartsWithMark " x#y;".toList := by
    rintro ⟨mark, hFirst, hMark⟩
    cases hFirst
    revert hMark
    decide
  have hLast :
      IsLast (Grammar.Gives heading "k")
        (["[a]".toList] ++ "k = x#y;".toList ::
          [" z".toList])
        ["[a]".toList] "k = x#y;".toList [" z".toList] := by
    refine ⟨rfl, ⟨hUnder, _, hAssigns⟩, ?_⟩
    intro middle later rest hSplit
    have hLater : later ∈ [" z".toList] := by
      rw [hSplit]
      simp
    rw [List.mem_singleton.mp hLater]
    exact IsContinuation.not_gives (by decide)
  rcases hStored [" z".toList] [] rfl hLast with
    ⟨reader, -, hSections, hFirst⟩
  rw [hSections rfl, hKept hStart] at hFirst
  exact ⟨_, heading, hParse, hUnder, hFirst⟩

/-
  A colour of which the mark is the first character after the
  equals sign: no mark stands after a blank, but all is lost.
-/
theorem parse_loses_leading_mark :
    ∃ sections before line after,
      parse "config" "[default]\nk=#abc\n" = .ok sections ∧
        Text.lines "[default]\nk=#abc\n".toList =
          before ++ line :: after ∧
        IsProperty line ∧
        line = "k".toList ++ '=' :: "#abc".toList ∧
        HasNoSpacedMark "#abc".toList ∧
        IsLast (Grammar.Gives "default" "k")
          (before ++ line :: after) before line after ∧
        ¬ sections.HasFirstLine "default" "k"
          (stripped "#abc".toList) := by
  have hParse :
      parse "config" "[default]\nk=#abc\n" =
        .ok (Table.ofList
          [("default", Table.ofList [("k", "")])]) := by
    rfl
  have hProperty : IsProperty "k=#abc".toList := by
    decide
  have hAssigns : Assigns "k=#abc".toList "k" "" :=
    (read_property_eq_ok_iff hProperty).mp rfl
  have hHeading : IsHeading "[default]".toList := by
    decide
  have hNames : Names "[default]".toList "default" :=
    (read_heading_eq_ok_iff hHeading).mp rfl
  have hUnder : Under "default" ["[default]".toList] :=
    ⟨[], _, [], rfl, hNames, by simp⟩
  refine
    ⟨_, ["[default]".toList], "k=#abc".toList, [], hParse,
      rfl, hProperty, rfl, by decide,
      ⟨rfl, ⟨hUnder, _, hAssigns⟩, by simp⟩, ?_⟩
  rintro ⟨stored, further, hValue, hSplit⟩
  have hStored : stored = "" := (Option.some.inj hValue).symm
  subst hStored
  cases hSplit

end Sections

end LayeredSettings
