import LayeredSettings.Profile.Line
import LayeredSettings.Proofs.Text.Trimming

/-
  The lines of profile files, described by what is in them.

  Key definitions include:
    * `IsIgnored`, `IsHeading`, `IsContinuation`,
      `IsProperty`
    * `Names`
    * `IsUncommented`
    * `Assigns`

  Key theorems include:
    * `of_eq_iff`
    * `read_heading_eq_ok_iff`
    * `isUncommented_cutComment`, `IsUncommented.unique`
    * `read_property_eq_ok_iff`

  The descriptions speak of the parts that a line falls
  into, and of no reader.  For each reader there is a
  theorem that says what it makes of a line.
-/

------------------------------------------------------------
-- Kinds of Lines
------------------------------------------------------------

namespace LayeredSettings

namespace Grammar

/-
  A line of blanks, or one of which the first character that
  is no blank starts a comment.
-/
def IsIgnored
    (line : List Char) : Prop :=
  (∀ c ∈ line, Text.isBlank c = true) ∨
    ∃ blanks mark rest,
      line = blanks ++ mark :: rest ∧
        (∀ c ∈ blanks, Text.isBlank c = true) ∧
          isCommentMark mark = true

/- A line that starts with an opening bracket. -/
def IsHeading
    (line : List Char) : Prop :=
  line.head? = some '['

/- A line that says something and starts with a blank. -/
def IsContinuation
    (line : List Char) : Prop :=
  ¬ IsIgnored line ∧
    ∃ c ∈ line.head?, Text.isBlank c = true

/- Any other line. -/
def IsProperty
    (line : List Char) : Prop :=
  ¬ IsIgnored line ∧ ¬ IsHeading line ∧
    ¬ IsContinuation line

/- The characters of a line without the blanks around. -/
def stripped
    (cs : List Char) : List Char :=
  (cs.dropWhile Text.isBlank).rdropWhile Text.isBlank

/- Some character is no blank. -/
def IsFilled
    (cs : List Char) : Prop :=
  ∃ c ∈ cs, Text.isBlank c = false

/- What starts a comment is no blank. -/
theorem isBlank_eq_false_of_isCommentMark
    {c : Char}
    (hMark : isCommentMark c = true) :
    Text.isBlank c = false := by
  unfold isCommentMark at hMark
  rcases (Bool.or_eq_true _ _).mp hMark with hHash | hSemi
  · rw [of_decide_eq_true hHash]
    rfl
  · rw [of_decide_eq_true hSemi]
    rfl

/- The test for ignored lines says what they are. -/
theorem isIgnored_eq_true_iff
    {line : List Char} :
    isIgnored line = true ↔ IsIgnored line := by
  unfold isIgnored Text.trimStart
  have hSplit :=
    List.takeWhile_append_dropWhile (p := Text.isBlank)
      (l := line)
  have hBlanks :
      ∀ c ∈ line.takeWhile Text.isBlank,
        Text.isBlank c = true :=
    fun c hMem => List.mem_takeWhile_imp hMem
  cases hRest : line.dropWhile Text.isBlank with
  | nil =>
      have hAll := List.dropWhile_eq_nil_iff.mp hRest
      simp only [true_iff]
      exact Or.inl hAll
  | cons c rest =>
      have hFirst : Text.isBlank c = false := by
        have hNot :=
          List.head_dropWhile_not Text.isBlank
            (l := line) (by simp [hRest])
        simpa [hRest] using hNot
      rw [hRest] at hSplit
      constructor
      · intro hMark
        exact Or.inr
          ⟨_, c, rest, hSplit.symm, hBlanks, hMark⟩
      · rintro (hAll | ⟨blanks, mark, after, hLine,
          hFront, hMark⟩)
        · have hBlank := hAll c (by rw [← hSplit]; simp)
          rw [hFirst] at hBlank
          cases hBlank
        · have hStop :=
            isBlank_eq_false_of_isCommentMark hMark
          rw [hLine, List.dropWhile_append_of_pos hFront,
            List.dropWhile_cons_of_neg (by simp [hStop])]
            at hRest
          rw [← (List.cons.inj hRest).1]
          exact hMark

/- A heading is never ignored. -/
theorem IsHeading.not_isIgnored
    {line : List Char}
    (hHeading : IsHeading line) :
    ¬ IsIgnored line := by
  rw [← isIgnored_eq_true_iff]
  cases line with
  | nil => cases hHeading
  | cons c rest =>
      have hFirst : c = '[' := Option.some.inj hHeading
      subst hFirst
      simp [isIgnored, Text.trimStart, Text.isBlank,
        isCommentMark]

/- A heading is no continuation. -/
theorem IsHeading.not_isContinuation
    {line : List Char}
    (hHeading : IsHeading line) :
    ¬ IsContinuation line := by
  rintro ⟨-, c, hFirst, hBlank⟩
  rw [hHeading] at hFirst
  cases hFirst
  revert hBlank
  decide

/- The kind of line that a shape stands for. -/
def HasShape
    (line : List Char) : LineShape → Prop
| .ignored => IsIgnored line
| .heading => IsHeading line
| .continuation => IsContinuation line
| .property => IsProperty line

/- A line has the shape that is read off it. -/
theorem hasShape_of
    (line : List Char) :
    HasShape line (LineShape.of line) := by
  unfold LineShape.of
  by_cases hIgnored : isIgnored line = true
  · rw [if_pos hIgnored]
    exact isIgnored_eq_true_iff.mp hIgnored
  · rw [if_neg hIgnored]
    rw [isIgnored_eq_true_iff] at hIgnored
    cases line with
    | nil => exact absurd (Or.inl (by simp)) hIgnored
    | cons c rest =>
        by_cases hBracket : c = '['
        · simp only [if_pos hBracket]
          exact congrArg some hBracket
        · simp only [if_neg hBracket]
          have hNotHeading : ¬ IsHeading (c :: rest) :=
            fun h => hBracket (Option.some.inj h)
          by_cases hBlank : Text.isBlank c = true
          · rw [if_pos hBlank]
            exact ⟨hIgnored, c, rfl, hBlank⟩
          · rw [if_neg hBlank]
            refine ⟨hIgnored, hNotHeading, ?_⟩
            rintro ⟨-, d, hFirst, hOther⟩
            cases hFirst
            exact hBlank hOther

/- No line has two shapes. -/
theorem HasShape.unique
    {line : List Char}
    {shape other : LineShape}
    (hShape : HasShape line shape)
    (hOther : HasShape line other) :
    shape = other := by
  cases shape with
  | ignored =>
      cases other with
      | ignored => rfl
      | heading =>
          exact absurd hShape (IsHeading.not_isIgnored hOther)
      | continuation => exact absurd hShape hOther.1
      | property => exact absurd hShape hOther.1
  | heading =>
      cases other with
      | ignored =>
          exact absurd hOther (IsHeading.not_isIgnored hShape)
      | heading => rfl
      | continuation =>
          exact absurd hOther
            (IsHeading.not_isContinuation hShape)
      | property => exact absurd hShape hOther.2.1
  | continuation =>
      cases other with
      | ignored => exact absurd hOther hShape.1
      | heading =>
          exact absurd hShape
            (IsHeading.not_isContinuation hOther)
      | continuation => rfl
      | property => exact absurd hShape hOther.2.2
  | property =>
      cases other with
      | ignored => exact absurd hOther hShape.1
      | heading => exact absurd hOther hShape.2.1
      | continuation => exact absurd hOther hShape.2.2
      | property => rfl

/- The shape of a line says of which kind it is. -/
theorem of_eq_iff
    {line : List Char}
    {shape : LineShape} :
    LineShape.of line = shape ↔ HasShape line shape := by
  constructor
  · intro hShape
    rw [← hShape]
    exact hasShape_of line
  · exact (hasShape_of line).unique

instance (line : List Char) :
    Decidable (IsHeading line) :=
  decidable_of_iff (LineShape.of line = .heading) of_eq_iff

instance (line : List Char) :
    Decidable (IsContinuation line) :=
  decidable_of_iff (LineShape.of line = .continuation)
    of_eq_iff

instance (line : List Char) :
    Decidable (IsProperty line) :=
  decidable_of_iff (LineShape.of line = .property) of_eq_iff

end Grammar

end LayeredSettings

------------------------------------------------------------
-- Headings
------------------------------------------------------------

namespace LayeredSettings

namespace Grammar

/- A heading before its comment and the space before that. -/
def headingText
    (line : List Char) : List Char :=
  (line.takeWhile fun c => !isCommentMark c).rdropWhile
    Text.isWhiteSpace

/- A heading that is closed around a name. -/
def Encloses
    (line name : List Char) : Prop :=
  headingText line = '[' :: (name ++ [']'])

/- A heading with a name, which is taken without blanks. -/
def Names
    (line : List Char)
    (heading : String) : Prop :=
  IsHeading line ∧
    ∃ name,
      Encloses line name ∧ IsFilled name ∧
        heading = String.ofList (stripped name)

/- Nothing is left of a text exactly if it is not filled. -/
theorem stripped_eq_nil_iff
    {cs : List Char} :
    stripped cs = [] ↔ ¬ IsFilled cs := by
  unfold IsFilled
  have hTrim :
      Text.trim Text.isBlank cs = [] ↔
        ∀ c ∈ cs, Text.isBlank c = true :=
    Text.trim_eq_nil_iff
  rw [Text.trim_eq_rdropWhile] at hTrim
  unfold stripped
  rw [hTrim]
  simp

/- Something is left of a text exactly if it is filled. -/
theorem stripped_ne_nil_iff
    {cs : List Char} :
    ¬ stripped cs = [] ↔ IsFilled cs := by
  rw [stripped_eq_nil_iff, not_not]

/- A heading encloses one name at most. -/
theorem Encloses.unique
    {line name other : List Char}
    (hName : Encloses line name)
    (hOther : Encloses line other) :
    name = other := by
  unfold Encloses at hName hOther
  rw [hName] at hOther
  exact List.append_cancel_right (List.cons.inj hOther).2

/- What reading comes to for a heading closed around a name. -/
theorem Encloses.read_eq
    {line name : List Char}
    (hName : Encloses line name) :
    Heading.read line =
      if stripped name = [] then .error .unnamedHeading
      else .ok (String.ofList (stripped name)) := by
  have hText :
      Text.trimEnd Text.isWhiteSpace
          (line.takeWhile fun c => !isCommentMark c) =
        '[' :: (name ++ [']']) := hName
  unfold Heading.read
  simp only [hText]
  rw [List.getLast?_concat, List.dropLast_concat]
  rfl

/- Reading an open heading fails. -/
theorem read_eq_error_of_forall_not_encloses
    {line : List Char}
    (hOpen : ∀ name, ¬ Encloses line name) :
    Heading.read line = .error .unclosedHeading := by
  unfold Heading.read
  dsimp only
  split
  · next rest hText =>
      apply if_neg
      intro hLast
      rcases List.getLast?_eq_some_iff.mp hLast with
        ⟨name, rfl⟩
      exact hOpen name hText
  · rfl

/- A heading is read as the name that it has. -/
theorem read_heading_eq_ok_iff
    {line : List Char}
    {heading : String}
    (hHeading : IsHeading line) :
    Heading.read line = .ok heading ↔
      Names line heading := by
  by_cases hClosed : ∃ name, Encloses line name
  · rcases hClosed with ⟨name, hName⟩
    rw [hName.read_eq]
    constructor
    · intro hRead
      by_cases hEmpty : stripped name = []
      · rw [if_pos hEmpty] at hRead
        cases hRead
      · rw [if_neg hEmpty] at hRead
        exact ⟨hHeading, name, hName,
          stripped_ne_nil_iff.mp hEmpty,
          (Except.ok.inj hRead).symm⟩
    · rintro ⟨-, other, hOther, hFilled, rfl⟩
      have hSame := hName.unique hOther
      subst hSame
      exact if_neg (stripped_ne_nil_iff.mpr hFilled)
  · have hOpen : ∀ name, ¬ Encloses line name :=
      fun name h => hClosed ⟨name, h⟩
    rw [read_eq_error_of_forall_not_encloses hOpen]
    constructor
    · intro hRead
      cases hRead
    · rintro ⟨-, name, hName, -⟩
      exact absurd hName (hOpen name)

/- A heading has one name. -/
theorem Names.unique
    {line : List Char}
    {heading other : String}
    (hNames : Names line heading)
    (hOther : Names line other) :
    heading = other := by
  have hRead := (read_heading_eq_ok_iff hNames.1).mpr hNames
  rw [(read_heading_eq_ok_iff hNames.1).mpr hOther] at hRead
  exact (Except.ok.inj hRead).symm

end Grammar

end LayeredSettings

------------------------------------------------------------
-- Comments in Values
------------------------------------------------------------

namespace LayeredSettings

namespace Grammar

/-
  A character that starts a comment where it stands: at the
  start of a value, or directly after a blank.
-/
def OpensComment
    (before : List Char)
    (c : Char) : Prop :=
  isCommentMark c = true ∧
    ∀ b ∈ before.getLast?, Text.isBlank b = true

/- A text in which no comment starts. -/
def IsCommentFree
    (text : List Char) : Prop :=
  ∀ before c after,
    text = before ++ c :: after → ¬ OpensComment before c

/- A text before the first comment that starts in it. -/
def IsUncommented
    (text kept : List Char) : Prop :=
  IsCommentFree kept ∧
    (text = kept ∨
      ∃ c after,
        text = kept ++ c :: after ∧ OpensComment kept c)

/-
  Cutting a text that stands behind another text, of which
  the last character says whether a comment may start.
-/
theorem cutComment_behind
    (front text : List Char)
    {afterBlank : Bool}
    (hFront :
      afterBlank = true ↔
        ∀ b ∈ front.getLast?, Text.isBlank b = true) :
    (∀ before c after,
      cutComment afterBlank text = before ++ c :: after →
        ¬ OpensComment (front ++ before) c) ∧
      (text = cutComment afterBlank text ∨
        ∃ c after,
          text = cutComment afterBlank text ++ c :: after ∧
            OpensComment
              (front ++ cutComment afterBlank text) c) := by
  induction text generalizing front afterBlank with
  | nil => simp [cutComment]
  | cons c rest ih =>
      by_cases hOpens :
          (afterBlank && isCommentMark c) = true
      · have hCut :
            cutComment afterBlank (c :: rest) = [] :=
          if_pos hOpens
        rw [Bool.and_eq_true] at hOpens
        rw [hCut]
        refine ⟨by simp, Or.inr ⟨c, rest, rfl, hOpens.2, ?_⟩⟩
        rw [List.append_nil]
        exact hFront.mp hOpens.1
      · have hCut :
            cutComment afterBlank (c :: rest) =
              c :: cutComment (Text.isBlank c) rest :=
          if_neg hOpens
        have hBehind :
            Text.isBlank c = true ↔
              ∀ b ∈ (front ++ [c]).getLast?,
                Text.isBlank b = true := by
          simp
        have hRest := ih (front ++ [c]) hBehind
        rw [hCut]
        constructor
        · intro before d after hSplit
          cases before with
          | nil =>
              rcases List.cons.inj hSplit with ⟨rfl, -⟩
              rintro ⟨hMark, hBlank⟩
              rw [List.append_nil] at hBlank
              exact hOpens
                (by simp [hMark, hFront.mpr hBlank])
          | cons b before =>
              rcases List.cons.inj hSplit with ⟨rfl, hTail⟩
              have hNot := hRest.1 before d after hTail
              rwa [List.append_assoc] at hNot
        · rcases hRest.2 with hAll | hStop
          · exact Or.inl (congrArg (c :: ·) hAll)
          · rcases hStop with ⟨d, after, hText, hComment⟩
            rw [List.append_assoc] at hComment
            exact Or.inr
              ⟨d, after, congrArg (c :: ·) hText, hComment⟩

/- What is cut off a value is its first comment. -/
theorem isUncommented_cutComment
    (text : List Char) :
    IsUncommented text (cutComment true text) :=
  cutComment_behind [] text (by simp)

/- The shorter of two starts of a text ends where both do. -/
theorem IsUncommented.eq_of_isPrefix
    {text kept other : List Char}
    (hKept : IsUncommented text kept)
    (hOther : IsUncommented text other)
    (hPrefix : kept <+: other) :
    kept = other := by
  rcases hPrefix with ⟨more, hMore⟩
  cases more with
  | nil => rw [← hMore, List.append_nil]
  | cons d more =>
      have hText : ∃ rest, text = kept ++ d :: rest := by
        rcases hOther.2 with hAll | ⟨c, after, hSome, -⟩
        · exact ⟨more, by rw [hAll, hMore]⟩
        · exact
            ⟨more ++ c :: after, by
              rw [hSome, ← hMore]
              simp⟩
      rcases hText with ⟨rest, hText⟩
      rcases hKept.2 with hAll | ⟨c, after, hSome, hOpens⟩
      · rw [hAll] at hText
        exact absurd hText.symm (by simp)
      · rw [hSome] at hText
        have hSame := List.append_cancel_left hText
        rw [(List.cons.inj hSame).1] at hOpens
        exact absurd hOpens
          (hOther.1 kept d more hMore.symm)

/- A text has one start before its first comment. -/
theorem IsUncommented.unique
    {text kept other : List Char}
    (hKept : IsUncommented text kept)
    (hOther : IsUncommented text other) :
    kept = other := by
  have hPrefix :
      ∀ start, IsUncommented text start → start <+: text := by
    rintro start ⟨-, hAll | ⟨c, after, hSome, -⟩⟩
    · exact ⟨[], by rw [hAll, List.append_nil]⟩
    · exact ⟨c :: after, hSome.symm⟩
  rcases List.prefix_or_prefix_of_prefix
      (hPrefix kept hKept) (hPrefix other hOther) with
    hShort | hShort
  · exact hKept.eq_of_isPrefix hOther hShort
  · exact (hOther.eq_of_isPrefix hKept hShort).symm

end Grammar

end LayeredSettings

------------------------------------------------------------
-- Properties
------------------------------------------------------------

namespace LayeredSettings

namespace Grammar

/-
  A property line that gives a key the first line of a value:
  the key stands before the first equals sign, and the value
  between that and a comment, both without blanks around.
-/
def Assigns
    (line : List Char)
    (key value : String) : Prop :=
  IsProperty line ∧
    ∃ before after kept,
      line = before ++ '=' :: after ∧ '=' ∉ before ∧
        IsFilled before ∧ IsUncommented after kept ∧
          key = String.ofList (stripped before) ∧
            value = String.ofList (stripped kept)

/- A line has one part before its first equals sign. -/
theorem append_equals_inj
    {before other after rest : List Char}
    (hBefore : '=' ∉ before)
    (hOther : '=' ∉ other)
    (hLine : before ++ '=' :: after = other ++ '=' :: rest) :
    before = other ∧ after = rest := by
  have hFirst :
      Text.splitFirst '=' (before ++ '=' :: after) =
        some (before, after) :=
    Text.splitFirst_eq_some_iff.mpr ⟨hBefore, rfl⟩
  have hSecond :
      Text.splitFirst '=' (before ++ '=' :: after) =
        some (other, rest) :=
    Text.splitFirst_eq_some_iff.mpr ⟨hOther, hLine⟩
  rw [hFirst] at hSecond
  exact Prod.mk.inj (Option.some.inj hSecond)

/- What reading comes to for a line with an equals sign. -/
theorem read_append_equals
    {before after : List Char}
    (hBefore : '=' ∉ before) :
    PropertyLine.read (before ++ '=' :: after) =
      if stripped before = [] then .error .unnamedProperty
      else
        .ok
          ( String.ofList (stripped before),
            String.ofList
              (stripped (cutComment true after)) ) := by
  have hSplit :
      Text.splitFirst '=' (before ++ '=' :: after) =
        some (before, after) :=
    Text.splitFirst_eq_some_iff.mpr ⟨hBefore, rfl⟩
  unfold PropertyLine.read
  rw [hSplit]
  rfl

/- Reading a line without an equals sign fails. -/
theorem read_eq_error_of_not_mem
    {line : List Char}
    (hEquals : '=' ∉ line) :
    PropertyLine.read line = .error .noEqualsSign := by
  unfold PropertyLine.read
  rw [Text.splitFirst_eq_none_iff.mpr hEquals]

/- A property line is read as what it assigns. -/
theorem read_property_eq_ok_iff
    {line : List Char}
    {key value : String}
    (hProperty : IsProperty line) :
    PropertyLine.read line = .ok (key, value) ↔
      Assigns line key value := by
  by_cases hEquals : '=' ∈ line
  · rcases List.eq_append_cons_of_mem hEquals with
      ⟨before, after, rfl, hBefore⟩
    rw [read_append_equals hBefore]
    constructor
    · intro hRead
      by_cases hEmpty : stripped before = []
      · rw [if_pos hEmpty] at hRead
        cases hRead
      · rw [if_neg hEmpty] at hRead
        rcases Prod.mk.inj (Except.ok.inj hRead) with
          ⟨rfl, rfl⟩
        exact ⟨hProperty, before, after, _, rfl, hBefore,
          stripped_ne_nil_iff.mp hEmpty,
          isUncommented_cutComment after, rfl, rfl⟩
    · rintro ⟨-, other, rest, kept, hLine, hOther, hFilled,
        hKept, rfl, rfl⟩
      rcases append_equals_inj hBefore hOther hLine with
        ⟨rfl, rfl⟩
      rw [if_neg (stripped_ne_nil_iff.mpr hFilled),
        hKept.unique (isUncommented_cutComment after)]
  · rw [read_eq_error_of_not_mem hEquals]
    constructor
    · intro hRead
      cases hRead
    · rintro ⟨-, before, after, kept, rfl, -⟩
      exact absurd (by simp) hEquals

/- A property line gives one key one value. -/
theorem Assigns.unique
    {line : List Char}
    {key other value rest : String}
    (hAssigns : Assigns line key value)
    (hOther : Assigns line other rest) :
    key = other ∧ value = rest := by
  have hIff := @read_property_eq_ok_iff line
  have hRead := (hIff hAssigns.1).mpr hAssigns
  rw [(hIff hAssigns.1).mpr hOther] at hRead
  rcases Prod.mk.inj (Except.ok.inj hRead) with ⟨rfl, rfl⟩
  exact ⟨rfl, rfl⟩

end Grammar

end LayeredSettings
