import LayeredSettings.Proofs.Profile.Concatenation
import LayeredSettings.Proofs.Profile.Shape

/-
  What of the layout of a profile file carries no meaning:
  lines of blanks, lines of comments, and how lines end.

  Key definitions include:
    * `SectionReader.pushDown`
    * `Text.withReturns`

  Key theorems include:
    * `SectionReader.readLines_insert_ignored`
    * `Sections.parse_insert_ignored`
    * `Text.lines_withReturns`
    * `Sections.parse_withReturns`

  An ignored line is one step of the reader that leaves it as
  it is, so wherever the line stands the lines below are read
  as before, under greater numbers.  The ends of lines are
  gone before the reader starts.
-/

------------------------------------------------------------
-- One More Ignored Line
------------------------------------------------------------

namespace LayeredSettings

namespace SectionReader

open Grammar

variable {lines rest : List (List Char)}
variable {line : List Char}

/-
  The number of a line when one more line is put in, of which
  the number is `place`.
-/
def pushDown
    (place number : Nat) : Nat :=
  if number < place then number else number + 1

/- The line that stops a run is one of those that it reads. -/
theorem number_of_readLines_eq_error
    {reader : SectionReader}
    {number found : Nat}
    {fault : LineFault}
    (hRead :
      reader.readLines number lines =
        .error (found, fault)) :
    number ≤ found ∧ found < number + lines.length := by
  rcases split_of_readLines_eq_error hRead with
    ⟨before, bad, after, stop, rfl, -, -, rfl⟩
  simp

/-
  With one more ignored line a run comes to the same, and the
  line that it stops at is pushed down if it is below.
-/
theorem readLines_insert_ignored
    (hIgnored : IsIgnored line)
    (reader : SectionReader)
    (number : Nat)
    (lines rest : List (List Char)) :
    reader.readLines number (lines ++ line :: rest) =
      (reader.readLines number (lines ++ rest)).mapError
        fun found =>
          (pushDown (number + lines.length) found.1,
            found.2) := by
  rw [readLines_append, readLines_append]
  cases hLines : reader.readLines number lines with
  | error found =>
      have hAbove :=
        (number_of_readLines_eq_error hLines).2
      simp only [Except.mapError, pushDown, if_pos hAbove]
  | ok next =>
      have hStep : next.Step line next := .ignored hIgnored
      simp only [readLines, hStep.readLine_eq]
      rw [Nat.add_comm _ 1, readLines_add]
      cases hRest :
          next.readLines (number + lines.length) rest with
      | ok last => rfl
      | error found =>
          have hBelow :=
            (number_of_readLines_eq_error hRest).1
          simp only [Except.mapError, pushDown,
            if_neg (Nat.not_lt.mpr hBelow), Nat.add_comm]

end SectionReader

/- A line without its return is ignored if the line is. -/
theorem Grammar.IsIgnored.withoutReturn
    {line : List Char}
    (hIgnored : IsIgnored line) :
    IsIgnored (Text.withoutReturn line) := by
  unfold Text.withoutReturn
  split
  · next hLast =>
      rcases hIgnored with
        hBlank | ⟨blanks, mark, rest, rfl, hBlanks, hMark⟩
      · exact Or.inl fun c hMem =>
          hBlank c (List.mem_of_mem_dropLast hMem)
      · cases rest with
        | nil =>
            rw [List.getLast?_concat,
              Option.some.injEq] at hLast
            subst hLast
            exact absurd hMark (by decide)
        | cons c rest =>
            refine
              Or.inr
                ⟨blanks, mark, (c :: rest).dropLast, ?_,
                  hBlanks, hMark⟩
            rw [List.dropLast_append_of_ne_nil (by simp),
              List.dropLast_cons_of_ne_nil (by simp)]
  · exact hIgnored

namespace Sections

open Grammar

/-
  A line of blanks or of a comment may be put in wherever a
  line starts: at the start of the file or after a line feed,
  also inside a value.  What is read is the same, and so is
  an error, of which the line is pushed down if it is below.
-/
theorem parse_insert_ignored
    {front line back : String}
    (hFront : front = "" ∨ ∃ text, front = text ++ "\n")
    (hIgnored : IsIgnored line.toList)
    (hFeed : '\n' ∉ line.toList)
    (path : String) :
    parse path (front ++ (line ++ "\n" ++ back)) =
      (parse path (front ++ back)).mapError fun error =>
        { error with
          line :=
            SectionReader.pushDown
              ((Text.lines front.toList).length + 1)
              error.line } := by
  have hLine :
      Text.lines (line ++ "\n" ++ back).toList =
        Text.withoutReturn line.toList ::
          Text.lines back.toList := by
    rw [String.toList_append, String.toList_append,
      List.append_assoc]
    exact Text.lines_append_newline hFeed
  unfold parse
  rw [Text.lines_toList_append hFront,
    Text.lines_toList_append hFront, hLine,
    SectionReader.readLines_insert_ignored
      hIgnored.withoutReturn]
  cases SectionReader.initial.readLines 1
      (Text.lines front.toList ++
        Text.lines back.toList) with
  | ok last => rfl
  | error found =>
      simp only [Except.mapError, Nat.add_comm 1]

/-
  A comment that is indented, between a property and the line
  that continues it.
-/
theorem parse_insert_ignored_inValue :
    parse "config" "[a]\nk = 1\n\t # c\n two\n" =
        .ok (Table.ofList
          [("a", Table.ofList [("k", "1\ntwo")])]) ∧
      parse "config" "[a]\nk = 1\n\t # c\n two\n" =
        parse "config" "[a]\nk = 1\n two\n" := by
  have hRead :
      parse "config" "[a]\nk = 1\n two\n" =
        .ok (Table.ofList
          [("a", Table.ofList [("k", "1\ntwo")])]) := by
    rfl
  have hIgnored : IsIgnored "\t # c".toList :=
    isIgnored_eq_true_iff.mp (by decide)
  have hFront :
      "[a]\nk = 1\n" = "" ∨
        ∃ text, "[a]\nk = 1\n" = text ++ "\n" :=
    Or.inr ⟨"[a]\nk = 1", by decide⟩
  have hSame :
      parse "config"
          ("[a]\nk = 1\n" ++ ("\t # c" ++ "\n" ++ " two\n")) =
        .ok (Table.ofList
          [("a", Table.ofList [("k", "1\ntwo")])]) := by
    rw [parse_insert_ignored hFront hIgnored (by decide)]
    exact congrArg (Except.mapError _) hRead
  exact ⟨hSame, hSame.trans hRead.symm⟩

end Sections

end LayeredSettings

------------------------------------------------------------
-- How Lines End
------------------------------------------------------------

namespace LayeredSettings

namespace Text

/-
  A text with a carriage return put before each line feed
  that is chosen, by its position in the text.
-/
def withReturns :
    (Nat → Bool) → List Char → List Char
| _, [] => []
| chosen, c :: rest =>
    let others := withReturns (fun n => chosen (n + 1)) rest
    if c = '\n' && chosen 0 then '\r' :: c :: others
    else c :: others

/- The returns that are put in are no part of any line. -/
theorem lines_withReturns
    {cs : List Char}
    (hReturn : '\r' ∉ cs)
    (chosen : Nat → Bool) :
    lines (withReturns chosen cs) = lines cs := by
  induction cs generalizing chosen with
  | nil => rfl
  | cons c rest ih =>
      rw [List.mem_cons, not_or] at hReturn
      have hRest :=
        ih hReturn.2 fun n => chosen (n + 1)
      by_cases hFeed : c = '\n'
      · subst hFeed
        have hAfter :
            lines ('\n' :: rest) = [] :: lines rest := rfl
        rw [withReturns, hAfter, ← hRest]
        split
        · rfl
        · rfl
      · have hOther : c = '\r' → False :=
          fun h => hReturn.1 h.symm
        rw [withReturns, if_neg (by simp [hFeed]),
          lines_cons hFeed (fun h => (hOther h).elim),
          lines_cons hFeed (fun h => (hOther h).elim), hRest]

/- Two lines of three get a return. -/
example :
    withReturns (fun place => place ≠ 3)
        ['a', '\n', 'b', '\n', '\n'] =
      ['a', '\r', '\n', 'b', '\n', '\r', '\n'] := by
  decide

end Text

/-
  A value has no character but those of lines and the line
  feeds between its own lines.
-/
theorem Grammar.Holds.not_mem_of_forall
    {heading key value : String}
    {lines : List (List Char)}
    {c : Char}
    (hHolds : Holds heading key value lines)
    (hOther : c ≠ '\n')
    (hNone : ∀ line ∈ lines, c ∉ line) :
    c ∉ value.toList := by
  rcases hHolds with
    ⟨before, line, after, first, hLast, hAssigns, rfl⟩
  have hLines : lines = before ++ line :: after := hLast.1
  rw [toList_continued]
  intro hMem
  rcases List.mem_append.mp hMem with hFirst | hFurther
  · have hNone := hNone line (by rw [hLines]; simp)
    exact hAssigns.not_mem_value hNone hFirst
  · rcases List.mem_flatMap.mp hFurther with
      ⟨part, hPart, hFound⟩
    rcases List.mem_map.mp hPart with ⟨other, hIn, rfl⟩
    have hAfter := mem_of_mem_furtherLines hIn
    have hNone := hNone other (by rw [hLines]; simp [hAfter])
    rcases List.mem_cons.mp hFound with hEq | hFound
    · exact hOther hEq
    · exact not_mem_stripped hNone hFound

namespace Sections

open Grammar

/-
  A file of a text without returns is read alike, whichever
  of its lines are made to end in a return and a line feed.
  The values that are read come from the lines of the text,
  joined by line feeds, and no return is in them.
-/
theorem parse_withReturns
    {text : String}
    (hReturn : '\r' ∉ text.toList)
    (chosen : Nat → Bool)
    (path : String) :
    parse path
        (String.ofList
          (Text.withReturns chosen text.toList)) =
      parse path text ∧
    ∀ sections heading key value,
      parse path text = .ok sections →
        value? sections heading key = some value →
          Holds heading key value
              (Text.lines text.toList) ∧
            '\r' ∉ value.toList := by
  constructor
  · unfold parse
    rw [String.toList_ofList,
      Text.lines_withReturns hReturn]
  · intro sections heading key value hParse hValue
    have hHolds := holds_of_parse hParse hValue
    refine ⟨hHolds, hHolds.not_mem_of_forall (by decide) ?_⟩
    intro line hLine hMem
    exact hReturn (Text.mem_of_mem_lines hLine hMem)

/- A heading, a property and two of its lines, ended so. -/
theorem parse_withReturns_mixedEnds :
    parse "config" "[a]\r\nk = 1\n two\r\n\r\n three\n" =
      .ok (Table.ofList
        [("a", Table.ofList [("k", "1\ntwo\nthree")])]) := by
  have hRead :
      parse "config" "[a]\nk = 1\n two\n\n three\n" =
        .ok (Table.ofList
          [ ( "a",
              Table.ofList [("k", "1\ntwo\nthree")] ) ]) := by
    rfl
  have hReturn :
      '\r' ∉ "[a]\nk = 1\n two\n\n three\n".toList := by
    decide
  have hAlike :=
    parse_withReturns hReturn
      (fun place => [3, 14, 15].contains place) "config"
  exact hAlike.1.trans hRead

end Sections

end LayeredSettings
