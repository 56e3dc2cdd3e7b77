import LayeredSettings.Proofs.Profile.Canonical
import LayeredSettings.Proofs.Text.Lines

/-
  Profile files that are written, and what their lines are.

  Key definitions include:
    * `Canonical.Writes`
    * `Canonical.IsTextOf`

  Key theorems include:
    * `Canonical.IsName.names_headingLine`
    * `Canonical.IsKey.assigns_propertyLine`
    * `Canonical.isContinuation_of_isIndented`

  A listing can be written in many ways, since any blanks
  may stand before the further lines of values.
-/

------------------------------------------------------------
-- Writing
------------------------------------------------------------

namespace LayeredSettings

namespace Canonical

open Grammar

/- The line of a heading. -/
def headingLine
    (kind : FileKind)
    (name : String) : List Char :=
  '[' :: ((heading kind name).toList ++ [']'])

/- The line of a key and the first line of its value. -/
def propertyLine
    (key : String)
    (first : List Char) : List Char :=
  key.toList ++ ' ' :: '=' :: ' ' :: first

/- A line behind some blanks, at least one of them. -/
def IsIndented
    (line written : List Char) : Prop :=
  ∃ blanks,
    blanks ≠ [] ∧ (∀ c ∈ blanks, Text.isBlank c = true) ∧
      written = blanks ++ line

/- Lines that properties are written as. -/
inductive WritesProperties :
    List (String × String) → List (List Char) → Prop where
| nil :
    WritesProperties [] []
| cons
    {key value : String}
    {properties : List (String × String)}
    {first : List Char}
    {further written lines : List (List Char)}
    (hValue :
      Text.splitAll '\n' value.toList = first :: further)
    (hFurther : List.Forall₂ IsIndented further written)
    (hRest : WritesProperties properties lines) :
    WritesProperties ((key, value) :: properties)
      (propertyLine key first :: (written ++ lines))

/- Lines that a listing is written as in a kind of file. -/
inductive Writes
    (kind : FileKind) :
    List (String × List (String × String)) →
      List (List Char) → Prop where
| nil :
    Writes kind [] []
| cons
    {name : String}
    {properties : List (String × String)}
    {listing : List (String × List (String × String))}
    {body lines : List (List Char)}
    (hBody : WritesProperties properties body)
    (hRest : Writes kind listing lines) :
    Writes kind ((name, properties) :: listing)
      (headingLine kind name :: (body ++ lines))

/- A text of lines, of which the last one may be open. -/
def IsTextOf
    (lines : List (List Char))
    (text : String) : Prop :=
  text.toList = Text.unlines lines ∨
    text.toList ++ ['\n'] = Text.unlines lines

end Canonical

end LayeredSettings

------------------------------------------------------------
-- Written Lines
------------------------------------------------------------

namespace LayeredSettings

namespace Canonical

open Grammar

/- A text without blanks around is all that is left of it. -/
theorem stripped_eq_self
    {cs : List Char}
    (hFirst : ∀ c ∈ cs.head?, Text.isBlank c = false)
    (hLast : ∀ c ∈ cs.getLast?, Text.isBlank c = false) :
    stripped cs = cs := by
  have hTrim := Text.trim_eq_self hFirst hLast
  rwa [Text.trim_eq_rdropWhile] at hTrim

/- Blanks in front leave the rest as it is. -/
theorem stripped_append
    {blanks cs : List Char}
    (hBlanks : ∀ c ∈ blanks, Text.isBlank c = true) :
    stripped (blanks ++ cs) = stripped cs := by
  have hTrim :
      Text.trim Text.isBlank (blanks ++ cs) =
        Text.trim Text.isBlank cs :=
    Text.trim_append_of_forall hBlanks
  rwa [Text.trim_eq_rdropWhile, Text.trim_eq_rdropWhile]
    at hTrim

/- A blank at the end leaves the rest as it is. -/
theorem stripped_concat
    {cs : List Char}
    {blank : Char}
    (hFilled : IsFilled cs)
    (hBlank : Text.isBlank blank = true) :
    stripped (cs ++ [blank]) = stripped cs := by
  unfold stripped
  rcases hFilled with ⟨c, hMem, hOther⟩
  have hDrop : cs.dropWhile Text.isBlank ≠ [] := by
    intro hNil
    have hAll := List.dropWhile_eq_nil_iff.mp hNil c hMem
    rw [hOther] at hAll
    cases hAll
  rw [List.dropWhile_append, if_neg (by simpa using hDrop)]
  exact List.rdropWhile_concat_pos _ _ _ hBlank

/- The characters of a name are plain. -/
theorem IsName.plain
    {name : String}
    (hName : IsName name) :
    ∀ c ∈ name.toList, IsPlain c :=
  fun c hMem => (isPlain_of_mem (hName.2 c hMem)).1

/- No character of a name is a blank. -/
theorem IsName.isBlank_eq_false
    {name : String}
    (hName : IsName name) :
    ∀ c ∈ name.toList, Text.isBlank c = false :=
  fun c hMem =>
    Canonical.isBlank_eq_false (hName.plain c hMem).1

/- A name is filled. -/
theorem IsName.isFilled
    {name : String}
    (hName : IsName name) :
    IsFilled name.toList := by
  rcases List.exists_mem_of_ne_nil _ hName.1 with ⟨c, hMem⟩
  exact ⟨c, hMem, hName.isBlank_eq_false c hMem⟩

/- Nothing of a name is stripped. -/
theorem IsName.stripped_eq
    {name : String}
    (hName : IsName name) :
    stripped name.toList = name.toList := by
  apply stripped_eq_self
  · intro c hFirst
    exact hName.isBlank_eq_false c (List.mem_of_head? hFirst)
  · intro c hLast
    exact hName.isBlank_eq_false c
      (List.mem_of_getLast? hLast)

/- The heading of a profile is a plain text. -/
theorem IsName.plain_heading
    {name : String}
    (hName : IsName name)
    (kind : FileKind) :
    ∀ c ∈ (heading kind name).toList,
      isCommentMark c = false ∧ c ∉ ['\n', '\r'] := by
  intro c hMem
  have hPlain :
      c ∈ name.toList →
        isCommentMark c = false ∧ c ∉ ['\n', '\r'] := by
    intro hIn
    have hThis := hName.plain c hIn
    refine ⟨hThis.2.1, ?_⟩
    intro hFeed
    apply hThis.2.2
    simp only [List.mem_cons] at hFeed ⊢
    exact Or.inr (Or.inr (Or.inr hFeed))
  cases kind with
  | credentials => exact hPlain hMem
  | config =>
      unfold heading at hMem
      rw [String.toList_append] at hMem
      have hKeyword :
          ("profile ".toList.all fun c =>
            isCommentMark c = false ∧ c ∉ ['\n', '\r']) =
            true := by
        decide
      rcases List.mem_append.mp hMem with hWord | hIn
      · exact of_decide_eq_true
          (List.all_eq_true.mp hKeyword c hWord)
      · exact hPlain hIn

/- Nothing of the heading of a profile is stripped. -/
theorem IsName.stripped_heading
    {name : String}
    (hName : IsName name)
    (kind : FileKind) :
    IsFilled (heading kind name).toList ∧
      stripped (heading kind name).toList =
        (heading kind name).toList := by
  cases kind with
  | credentials => exact ⟨hName.isFilled, hName.stripped_eq⟩
  | config =>
      unfold heading
      rw [String.toList_append]
      constructor
      · exact ⟨'p', by simp, rfl⟩
      · apply stripped_eq_self
        · intro c hFirst
          cases hFirst
          rfl
        · intro c hLast
          rw [List.getLast?_append_of_ne_nil _ hName.1]
            at hLast
          exact hName.isBlank_eq_false c
            (List.mem_of_getLast? hLast)

/- The heading line of a profile has its heading. -/
theorem IsName.names_headingLine
    {name : String}
    (hName : IsName name)
    (kind : FileKind) :
    Names (headingLine kind name) (heading kind name) := by
  rcases hName.stripped_heading kind with
    ⟨hFilled, hStripped⟩
  refine ⟨rfl, (heading kind name).toList, ?_, hFilled, ?_⟩
  · have hTake :
        ((headingLine kind name).takeWhile
          fun c => !isCommentMark c) =
          headingLine kind name := by
      apply List.takeWhile_eq_self_iff.mpr
      intro c hMem
      unfold headingLine at hMem
      rcases List.mem_cons.mp hMem with rfl | hRest
      · rfl
      · rcases List.mem_append.mp hRest with hIn | hClose
        · simp [(hName.plain_heading kind c hIn).1]
        · rw [List.mem_singleton.mp hClose]
          rfl
    unfold Encloses headingText
    rw [hTake]
    apply List.rdropWhile_eq_self_iff.mpr
    intro hNonempty
    unfold headingLine
    rw [List.getLast_cons (by simp), List.getLast_append]
    simp
    decide
  · rw [hStripped, String.ofList_toList]

/- A line that starts like a property is one. -/
theorem isProperty_cons
    {c : Char}
    {rest : List Char}
    (hBlank : Text.isBlank c = false)
    (hMark : isCommentMark c = false)
    (hBracket : c ≠ '[') :
    IsProperty (c :: rest) := by
  have hShape : LineShape.of (c :: rest) = .property := by
    simp [LineShape.of, isIgnored, Text.trimStart, hBlank,
      hMark, hBracket]
  exact of_eq_iff.mp hShape

/- A further line that is indented is a continuation. -/
theorem isContinuation_of_isIndented
    {line written : List Char}
    (hLine : IsFurther line)
    (hWritten : IsIndented line written) :
    IsContinuation written ∧ stripped written = line := by
  rcases hWritten with ⟨blanks, hNonempty, hBlanks, rfl⟩
  constructor
  · have hShape :
        LineShape.of (blanks ++ line) = .continuation := by
      rcases List.exists_cons_of_ne_nil hLine.nonempty with
        ⟨c, rest, rfl⟩
      rcases List.exists_cons_of_ne_nil hNonempty with
        ⟨b, others, rfl⟩
      have hFirst := hLine.first c rfl
      have hMark := hLine.no_comment c rfl
      have hBlank := hBlanks b (by simp)
      have hIgnored :
          isIgnored (b :: (others ++ c :: rest)) = false := by
        unfold isIgnored Text.trimStart
        rw [← List.cons_append,
          List.dropWhile_append_of_pos hBlanks,
          List.dropWhile_cons_of_neg (by simp [hFirst])]
        exact hMark
      have hBracket : b ≠ '[' := by
        rintro rfl
        cases hBlank
      simp [LineShape.of, hIgnored, hBracket, hBlank]
    exact of_eq_iff.mp hShape
  · rw [stripped_append hBlanks]
    exact stripped_eq_self hLine.first hLine.last

/- No comment starts behind a blank that starts a value. -/
theorem isCommentFree_cons
    {blank : Char}
    {text : List Char}
    (hBlank : Text.isBlank blank = true)
    (hText : IsCommentFree text) :
    IsCommentFree (blank :: text) := by
  intro before c after hSplit hOpens
  cases before with
  | nil =>
      rcases List.cons.inj hSplit with ⟨rfl, -⟩
      have hOther :=
        isBlank_eq_false_of_isCommentMark hOpens.1
      rw [hBlank] at hOther
      cases hOther
  | cons b before =>
      rcases List.cons.inj hSplit with ⟨-, hRest⟩
      apply hText before c after hRest
      refine ⟨hOpens.1, ?_⟩
      intro last hLast
      apply hOpens.2
      cases before with
      | nil => cases hLast
      | cons d before =>
          rw [List.getLast?_cons_cons]
          exact hLast

/- A property line gives its key the first line. -/
theorem IsKey.assigns_propertyLine
    {key : String}
    {first : List Char}
    (hKey : IsKey key)
    (hFirst : IsTrimmed first)
    (hComment : IsCommentFree first) :
    Assigns (propertyLine key first) key
      (String.ofList first) := by
  have hName := hKey.isName
  have hFilled : IsFilled (key.toList ++ [' ']) := by
    rcases hName.isFilled with ⟨c, hMem, hOther⟩
    exact ⟨c, by simp [hMem], hOther⟩
  have hEquals : '=' ∉ key.toList ++ [' '] := by
    intro hMem
    rcases List.mem_append.mp hMem with hIn | hBlank
    · exact (hName.plain '=' hIn).2.2 (by simp)
    · cases List.mem_singleton.mp hBlank
  have hProperty : IsProperty (propertyLine key first) := by
    unfold propertyLine
    rcases List.exists_cons_of_ne_nil hKey.1 with
      ⟨c, rest, hChars⟩
    have hMem : c ∈ key.toList := by simp [hChars]
    rw [hChars]
    apply isProperty_cons
    · exact hName.isBlank_eq_false c hMem
    · exact (hName.plain c hMem).2.1
    · rintro rfl
      exact (hName.plain '[' hMem).2.2 (by simp)
  refine ⟨hProperty, key.toList ++ [' '], ' ' :: first,
    ' ' :: first, by simp [propertyLine], hEquals, hFilled,
    ⟨isCommentFree_cons rfl hComment, Or.inl rfl⟩, ?_, ?_⟩
  · rw [stripped_concat hName.isFilled rfl, hName.stripped_eq,
      String.ofList_toList]
  · have hStripped :
        stripped ([' '] ++ first) = stripped first :=
      stripped_append (by simp [Text.isBlank])
    rw [List.singleton_append] at hStripped
    rw [hStripped, stripped_eq_self hFirst.first hFirst.last]

end Canonical

end LayeredSettings
