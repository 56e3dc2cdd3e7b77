import LayeredSettings.Text.Line

/-
  The lines of texts that are put together from lines.

  Key definitions include:
    * `withoutReturn`
    * `unlines`

  Key theorems include:
    * `lines_append_newline`
    * `lines_eq_singleton`
    * `lines_append`, `lines_toList_append`
    * `not_mem_of_mem_lines`, `mem_of_mem_lines`
    * `lines_unlines`
    * `not_mem_of_mem_splitAll`
    * `eq_append_flatMap_of_splitAll`
    * `splitAll_append_flatMap`

  The first two theorems say what the lines of every text
  are: a text has no line feed, or a first one.
-/

namespace LayeredSettings

namespace Text

------------------------------------------------------------
-- Lines
------------------------------------------------------------

/- A line without the carriage return that ends it. -/
def withoutReturn
    (line : List Char) : List Char :=
  if line.getLast? = some '\r' then line.dropLast
  else line

/- Lines that all end in a line feed. -/
def unlines
    (ls : List (List Char)) : List Char :=
  ls.flatMap fun line => line ++ ['\n']

/- A character of a line stands in front of that line. -/
theorem lines_cons
    {c : Char}
    {rest : List Char}
    (hFeed : c ≠ '\n')
    (hReturn : c = '\r' → rest.head? ≠ some '\n') :
    lines (c :: rest) =
      match lines rest with
      | [] => [[c]]
      | l :: ls => (c :: l) :: ls := by
  apply lines.eq_4
  · intro rest' hCarriage hRest
    exact hReturn hCarriage (by rw [hRest]; rfl)
  · exact hFeed

/- A text up to a line feed is a line of its own. -/
theorem lines_append_newline
    {line rest : List Char}
    (hFeed : '\n' ∉ line) :
    lines (line ++ '\n' :: rest) =
      withoutReturn line :: lines rest := by
  induction line with
  | nil => rfl
  | cons c line ih =>
      have hHead : c ≠ '\n' := fun h => hFeed (by simp [h])
      have hTail : '\n' ∉ line := fun h =>
        hFeed (by simp [h])
      cases line with
      | nil =>
          by_cases hReturn : c = '\r'
          · subst hReturn
            rfl
          · rw [List.cons_append, lines_cons hHead
              (fun h => absurd h hReturn), ih hTail]
            simp [withoutReturn, hReturn]
      | cons d line =>
          have hNext : d ≠ '\n' := fun h =>
            hTail (by simp [h])
          rw [List.cons_append, lines_cons hHead
            (fun _ => by simpa using hNext), ih hTail]
          by_cases hReturn :
              (d :: line).getLast? = some '\r'
          · simp [withoutReturn, hReturn,
              List.getLast?_cons_cons]
          · simp [withoutReturn, hReturn,
              List.getLast?_cons_cons]

/- A text without a line feed is one line, if it is any. -/
theorem lines_eq_singleton
    {line : List Char}
    (hFeed : '\n' ∉ line)
    (hNonempty : line ≠ []) :
    lines line = [line] := by
  induction line with
  | nil => exact absurd rfl hNonempty
  | cons c line ih =>
      have hHead : c ≠ '\n' := fun h => hFeed (by simp [h])
      have hTail : '\n' ∉ line := fun h =>
        hFeed (by simp [h])
      cases line with
      | nil =>
          rw [lines_cons hHead (by simp)]
          rfl
      | cons d line =>
          have hNext : d ≠ '\n' := fun h =>
            hTail (by simp [h])
          rw [lines_cons hHead
            (fun _ => by simpa using hNext),
            ih hTail (by simp)]

/- A text that ends in a line feed has lines of its own. -/
theorem lines_append
    {front : List Char}
    (hFront : front = [] ∨ front.getLast? = some '\n')
    (rest : List Char) :
    lines (front ++ rest) = lines front ++ lines rest := by
  by_cases hFeed : '\n' ∈ front
  · rcases List.eq_append_cons_of_mem hFeed with
      ⟨line, more, rfl, hLine⟩
    have hMore : more = [] ∨ more.getLast? = some '\n' := by
      cases more with
      | nil => exact Or.inl rfl
      | cons c more => exact Or.inr (by simpa using hFront)
    have hShorter :
        more.length < (line ++ '\n' :: more).length := by
      simp
      omega
    rw [List.append_assoc, List.cons_append,
      lines_append_newline hLine, lines_append_newline hLine,
      lines_append hMore, List.cons_append]
  · rcases hFront with rfl | hLast
    · rfl
    · exact absurd (List.mem_of_getLast? hLast) hFeed
termination_by front.length

/- So have the lines of two strings that are put together. -/
theorem lines_toList_append
    {first : String}
    (hFirst : first = "" ∨ ∃ front, first = front ++ "\n")
    (second : String) :
    lines (first ++ second).toList =
      lines first.toList ++ lines second.toList := by
  have hEnd :
      first.toList = [] ∨
        first.toList.getLast? = some '\n' := by
    rcases hFirst with rfl | ⟨front, rfl⟩
    · exact Or.inl rfl
    · exact Or.inr (by simp [String.toList_append])
  rw [String.toList_append, lines_append hEnd]

/- No line has a line feed in it. -/
theorem not_mem_of_mem_lines
    {cs line : List Char}
    (hLine : line ∈ lines cs) :
    '\n' ∉ line := by
  induction cs using lines.induct generalizing line with
  | case1 => cases hLine
  | case2 rest ih =>
      rcases List.mem_cons.mp hLine with rfl | hRest
      · simp
      · exact ih hRest
  | case3 rest ih =>
      rcases List.mem_cons.mp hLine with rfl | hRest
      · simp
      · exact ih hRest
  | case4 c rest hReturn hFeed hNone ih =>
      rw [lines.eq_4 _ _ hReturn hFeed, hNone] at hLine
      rw [List.mem_singleton.mp hLine]
      simpa using Ne.symm hFeed
  | case5 c rest hReturn hFeed first others hSome ih =>
      rw [lines.eq_4 _ _ hReturn hFeed, hSome] at hLine
      rcases List.mem_cons.mp hLine with rfl | hRest
      · have hFirst : '\n' ∉ first :=
          ih (by rw [hSome]; simp)
        simp [Ne.symm hFeed, hFirst]
      · exact ih (by rw [hSome]; simp [hRest])

/- A line has no character that the text has not. -/
theorem mem_of_mem_lines
    {c : Char}
    {cs line : List Char}
    (hLine : line ∈ lines cs)
    (hMem : c ∈ line) :
    c ∈ cs := by
  induction cs using lines.induct generalizing line with
  | case1 => cases hLine
  | case2 rest ih =>
      rcases List.mem_cons.mp hLine with rfl | hRest
      · cases hMem
      · simp [ih hRest hMem]
  | case3 rest ih =>
      rcases List.mem_cons.mp hLine with rfl | hRest
      · cases hMem
      · simp [ih hRest hMem]
  | case4 d rest hReturn hFeed hNone ih =>
      rw [lines.eq_4 _ _ hReturn hFeed, hNone] at hLine
      rw [List.mem_singleton.mp hLine] at hMem
      simp [List.mem_singleton.mp hMem]
  | case5 d rest hReturn hFeed first others hSome ih =>
      rw [lines.eq_4 _ _ hReturn hFeed, hSome] at hLine
      rcases List.mem_cons.mp hLine with rfl | hRest
      · rcases List.mem_cons.mp hMem with rfl | hFirst
        · simp
        · simp [ih (by rw [hSome]; simp) hFirst]
      · simp [ih (by rw [hSome]; simp [hRest]) hMem]

/- A line without returns keeps all its characters. -/
theorem withoutReturn_eq_self
    {line : List Char}
    (hReturn : '\r' ∉ line) :
    withoutReturn line = line := by
  unfold withoutReturn
  apply if_neg
  intro hLast
  exact hReturn (List.mem_of_getLast? hLast)

@[simp]
theorem unlines_nil :
    unlines [] = [] := rfl

@[simp]
theorem unlines_cons
    (line : List Char)
    (ls : List (List Char)) :
    unlines (line :: ls) = line ++ '\n' :: unlines ls := by
  simp [unlines]

/- Lines that all end in a line feed end in one. -/
theorem exists_unlines_eq_append
    {ls : List (List Char)}
    (hLines : ls ≠ []) :
    ∃ text, unlines ls = text ++ ['\n'] := by
  rcases List.eq_nil_or_concat ls with hNil | hConcat
  · exact absurd hNil hLines
  · rcases hConcat with ⟨front, line, rfl⟩
    exact ⟨unlines front ++ line, by simp [unlines]⟩

/- Lines are read back, also if the last line is open. -/
theorem lines_unlines
    {ls : List (List Char)}
    {text : List Char}
    (hLines :
      ∀ line ∈ ls, '\n' ∉ line ∧ '\r' ∉ line)
    (hNonempty : [] ∉ ls)
    (hText :
      text = unlines ls ∨ text ++ ['\n'] = unlines ls) :
    lines text = ls := by
  induction ls generalizing text with
  | nil =>
      rcases hText with rfl | hOpen
      · rfl
      · simp at hOpen
  | cons line ls ih =>
      have hLine := hLines line (by simp)
      have hRest := fun other hOther =>
        hLines other (List.mem_cons_of_mem line hOther)
      have hRestNonempty : [] ∉ ls := fun h =>
        hNonempty (by simp [h])
      have hStep :
          ∀ rest, lines (line ++ '\n' :: rest) =
            line :: lines rest := by
        intro rest
        rw [lines_append_newline hLine.1,
          withoutReturn_eq_self hLine.2]
      rcases hText with rfl | hOpen
      · rw [unlines_cons, hStep,
          ih hRest hRestNonempty (Or.inl rfl)]
      · rw [unlines_cons] at hOpen
        by_cases hLast : ls = []
        · subst hLast
          have hText : text = line :=
            List.append_cancel_right hOpen
          subst hText
          exact lines_eq_singleton hLine.1 fun h =>
            hNonempty (by simp [h])
        · rcases exists_unlines_eq_append hLast with
            ⟨rest, hFeed⟩
          have hBoth :
              text ++ ['\n'] =
                (line ++ '\n' :: rest) ++ ['\n'] := by
            simpa [hFeed] using hOpen
          rw [List.append_cancel_right hBoth, hStep,
            ih hRest hRestNonempty (Or.inr hFeed.symm)]

------------------------------------------------------------
-- Parts
------------------------------------------------------------

/- There is a first part of every text. -/
theorem exists_splitAll_eq_cons
    (sep : Char)
    (cs : List Char) :
    ∃ first further,
      splitAll sep cs = first :: further := by
  unfold splitAll
  split
  · exact ⟨_, _, rfl⟩
  · split
    · exact ⟨_, _, rfl⟩
    · split
      · exact ⟨_, _, rfl⟩
      · exact ⟨_, _, rfl⟩

/- The parts of a text with one more character in front. -/
theorem splitAll_cons_of_ne
    {sep c : Char}
    {cs first : List Char}
    {further : List (List Char)}
    (hOther : c ≠ sep)
    (hParts : splitAll sep cs = first :: further) :
    splitAll sep (c :: cs) = (c :: first) :: further := by
  rw [splitAll, if_neg hOther, hParts]

/- No part has the separator in it. -/
theorem not_mem_of_mem_splitAll
    {sep : Char}
    {cs part : List Char}
    (hPart : part ∈ splitAll sep cs) :
    sep ∉ part := by
  induction cs generalizing part with
  | nil =>
      rw [List.mem_singleton.mp hPart]
      simp
  | cons c rest ih =>
      by_cases hSame : c = sep
      · rw [splitAll, if_pos hSame] at hPart
        rcases List.mem_cons.mp hPart with rfl | hRest
        · simp
        · exact ih hRest
      · rcases exists_splitAll_eq_cons sep rest with
          ⟨first, further, hParts⟩
        rw [splitAll_cons_of_ne hSame hParts] at hPart
        rw [hParts] at ih
        rcases List.mem_cons.mp hPart with rfl | hFurther
        · have hFirst : sep ∉ first := ih (by simp)
          intro hMem
          rcases List.mem_cons.mp hMem with hEq | hIn
          · exact hSame hEq.symm
          · exact hFirst hIn
        · exact ih (by simp [hFurther])

/- A text is its parts with the separator between them. -/
theorem eq_append_flatMap_of_splitAll
    {sep : Char}
    {cs first : List Char}
    {further : List (List Char)}
    (hParts : splitAll sep cs = first :: further) :
    cs = first ++ further.flatMap fun part => sep :: part := by
  induction cs generalizing first further with
  | nil =>
      rcases List.cons.inj hParts with ⟨rfl, rfl⟩
      rfl
  | cons c rest ih =>
      rcases exists_splitAll_eq_cons sep rest with
        ⟨next, others, hRest⟩
      have hText := ih hRest
      by_cases hSame : c = sep
      · rw [splitAll, if_pos hSame, hRest] at hParts
        rcases List.cons.inj hParts with ⟨rfl, rfl⟩
        rw [hText, hSame]
        simp
      · rw [splitAll_cons_of_ne hSame hRest] at hParts
        rcases List.cons.inj hParts with ⟨rfl, rfl⟩
        rw [hText]
        rfl

/- The first part of a text with more characters in front. -/
theorem splitAll_append_of_not_mem
    {sep : Char}
    {front cs first : List Char}
    {further : List (List Char)}
    (hFront : sep ∉ front)
    (hParts : splitAll sep cs = first :: further) :
    splitAll sep (front ++ cs) =
      (front ++ first) :: further := by
  induction front with
  | nil => exact hParts
  | cons c rest ih =>
      have hOther : c ≠ sep := fun h => hFront (by simp [h])
      exact splitAll_cons_of_ne hOther
        (ih fun h => hFront (by simp [h]))

/- Parts with the separator between them are split again. -/
theorem splitAll_append_flatMap
    {sep : Char}
    {first : List Char}
    {further : List (List Char)}
    (hFirst : sep ∉ first)
    (hFurther : ∀ part ∈ further, sep ∉ part) :
    splitAll sep
        (first ++ further.flatMap fun part => sep :: part) =
      first :: further := by
  induction further generalizing first with
  | nil =>
      have hNone : splitAll sep [] = [[]] := rfl
      rw [List.flatMap_nil,
        splitAll_append_of_not_mem hFirst hNone,
        List.append_nil]
  | cons part parts ih =>
      have hRest :=
        ih (hFurther part (by simp))
          fun other hOther => hFurther other (by simp [hOther])
      have hSplit :
          splitAll sep
              ((part :: parts).flatMap
                fun part => sep :: part) =
            [] :: part :: parts := by
        rw [List.flatMap_cons, List.cons_append, splitAll,
          if_pos rfl, hRest]
      rw [splitAll_append_of_not_mem hFirst hSplit,
        List.append_nil]

end Text

end LayeredSettings
