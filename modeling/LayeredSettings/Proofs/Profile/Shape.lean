import LayeredSettings.Proofs.Profile.LoadOrder
import LayeredSettings.Proofs.Profile.Meaning
import LayeredSettings.Proofs.Text.Lines

/-
  The shape of everything that is loaded.

  Key definitions include:
    * `Grammar.IsBare`
    * `Grammar.HasValueShape`
    * `ProfileSet.HasShape`

  Key theorems include:
    * `Grammar.IsCommentFree.stripped`
    * `Grammar.Assigns.splitAll_continued`
    * `Grammar.Holds.hasValueShape`
    * `Canonical.isName_of_isIdentifier`
    * `ProfileSet.HasShape.mergeFile`
    * `Config.hasShape_of_loadProfiles`

  Names and keys are checked where sections are merged, but
  the lines of a value come from the reader.  So the shape of
  values is read off what the lines of a file say.
-/

------------------------------------------------------------
-- Lines of Values
------------------------------------------------------------

namespace LayeredSettings

namespace Grammar

/- A line without a blank at either end. -/
structure IsBare
    (line : List Char) : Prop where
  first : ∀ c ∈ line.head?, Text.isBlank c = false
  last : ∀ c ∈ line.getLast?, Text.isBlank c = false

/-
  A value of bare lines: no comment starts in its first line,
  and no further line is empty or starts as a comment does.
-/
def HasValueShape
    (value : String) : Prop :=
  ∃ first further,
    Text.splitAll '\n' value.toList = first :: further ∧
      (∀ line ∈ first :: further, IsBare line) ∧
        IsCommentFree first ∧
          ∀ line ∈ further,
            line ≠ [] ∧
              ∀ c ∈ line.head?, isCommentMark c = false

theorem isBare_stripped
    (cs : List Char) :
    IsBare (stripped cs) := by
  constructor
  · intro c hFirst
    exact Text.eq_false_of_mem_head?_trim hFirst
  · intro c hLast
    exact Text.eq_false_of_mem_getLast?_trim hLast

/- Stripping a text leaves characters of it. -/
theorem not_mem_stripped
    {c : Char}
    {cs : List Char}
    (hNot : c ∉ cs) :
    c ∉ stripped cs := by
  rcases Text.exists_eq_append_trim Text.isBlank cs with
    ⟨front, back, hText, _⟩
  intro hMem
  apply hNot
  rw [hText]
  exact
    List.mem_append_left back
      (List.mem_append_right front hMem)

/-
  No comment starts in a stripped text that did not start
  there before: what is stripped off in front is blank.
-/
theorem IsCommentFree.stripped
    {text : List Char}
    (hFree : IsCommentFree text) :
    IsCommentFree (stripped text) := by
  intro before c after hSplit hOpens
  rcases Text.exists_eq_append_trim Text.isBlank text with
    ⟨front, back, hText, hFront⟩
  have hTrim :
      Text.trim Text.isBlank text = before ++ c :: after :=
    hSplit
  apply hFree (front ++ before) c (after ++ back)
  · rw [hText, hTrim]
    simp
  · refine ⟨hOpens.1, ?_⟩
    intro b hLast
    rw [List.getLast?_append] at hLast
    cases hBefore : before.getLast? with
    | none =>
        rw [hBefore] at hLast
        exact hFront b (List.mem_of_getLast? hLast)
    | some d =>
        rw [hBefore] at hLast
        apply hOpens.2
        rw [hBefore]
        exact hLast

/- A continuation says something that is no comment. -/
theorem IsContinuation.stripped_start
    {line : List Char}
    (hContinuation : IsContinuation line) :
    stripped line ≠ [] ∧
      ∀ c ∈ (stripped line).head?,
        isCommentMark c = false := by
  have hNot : ¬ IsIgnored line := hContinuation.1
  rcases Text.exists_eq_append_trim Text.isBlank line with
    ⟨front, back, hText, hFront⟩
  constructor
  · intro hEmpty
    exact hNot (Or.inl (Text.trim_eq_nil_iff.mp hEmpty))
  · intro c hFirst
    rw [← Bool.not_eq_true]
    intro hMark
    apply hNot
    rcases List.head?_eq_some_iff.mp hFirst with
      ⟨rest, hRest⟩
    have hTrim :
        Text.trim Text.isBlank line = c :: rest := hRest
    right
    refine ⟨front, c, rest ++ back, ?_, hFront, hMark⟩
    rw [hText, hTrim]
    simp

/- A value has its first line and its further lines. -/
theorem toList_continued
    (first : String)
    (after : List (List Char)) :
    (continued first after).toList =
      first.toList ++
        ((furtherLines after).map stripped).flatMap
          fun line => '\n' :: line := by
  unfold continued
  induction furtherLines after generalizing first with
  | nil => simp
  | cons line rest ih =>
      rw [List.foldl_cons, ih]
      simp [String.toList_append]

variable {heading key value first : String}
variable {lines after : List (List Char)}
variable {line : List Char}
variable {c : Char}

/- What a line assigns has no character that it has not. -/
theorem Assigns.not_mem_value
    (hAssigns : Assigns line key value)
    (hNone : c ∉ line) :
    c ∉ value.toList := by
  rcases hAssigns with
    ⟨-, front, rest, kept, rfl, -, -, hKept, -, rfl⟩
  rw [String.toList_ofList]
  apply not_mem_stripped
  intro hMem
  apply hNone
  rcases hKept.2 with hAll | ⟨mark, comment, hSome, -⟩
  · simp [hAll, hMem]
  · simp [hSome, hMem]

/- The further lines of a value are among those after it. -/
theorem mem_of_mem_furtherLines
    (hMem : line ∈ furtherLines after) :
    line ∈ after :=
  (List.takeWhile_sublist _).mem (List.mem_filter.mp hMem).1

/- A value is split into its first and its further lines. -/
theorem Assigns.splitAll_continued
    (hAssigns : Assigns line key first)
    (hFeed : ∀ other ∈ line :: after, '\n' ∉ other) :
    Text.splitAll '\n' (continued first after).toList =
      first.toList :: (furtherLines after).map stripped := by
  have hFirst : '\n' ∉ first.toList :=
    hAssigns.not_mem_value (hFeed line (by simp))
  rw [toList_continued]
  apply Text.splitAll_append_flatMap hFirst
  intro part hPart
  rcases List.mem_map.mp hPart with ⟨other, hMem, rfl⟩
  have hAfter := mem_of_mem_furtherLines hMem
  exact not_mem_stripped (hFeed other (by simp [hAfter]))

/- What the lines of a text say has the shape of values. -/
theorem Holds.hasValueShape
    (hHolds : Holds heading key value lines)
    (hFeed : ∀ line ∈ lines, '\n' ∉ line) :
    HasValueShape value := by
  rcases hHolds with
    ⟨before, line, after, first, hLast, hAssigns, rfl⟩
  have hBlock : ∀ other ∈ line :: after, '\n' ∉ other := by
    intro other hMem
    apply hFeed
    rw [hLast.1]
    exact List.mem_append_right before hMem
  have hSplit := hAssigns.splitAll_continued hBlock
  rcases hAssigns with
    ⟨-, front, rest, kept, -, -, -, hKept, -, rfl⟩
  rw [String.toList_ofList] at hSplit
  refine
    ⟨stripped kept, (furtherLines after).map stripped,
      hSplit, ?_, hKept.1.stripped, ?_⟩
  · intro part hPart
    rw [← List.map_cons, List.mem_map] at hPart
    rcases hPart with ⟨other, -, rfl⟩
    exact isBare_stripped other
  · intro part hPart
    rcases List.mem_map.mp hPart with ⟨other, hMem, rfl⟩
    have hKind : IsContinuation other :=
      of_decide_eq_true (List.mem_filter.mp hMem).2
    exact hKind.stripped_start

end Grammar

/- Every value of a file that is read has this shape. -/
theorem Sections.hasValueShape_of_parse
    {path text heading key value : String}
    {sections : Sections}
    (hParse : parse path text = .ok sections)
    (hValue : value? sections heading key = some value) :
    Grammar.HasValueShape value := by
  have hHolds := holds_of_parse hParse hValue
  exact hHolds.hasValueShape fun _ hLine =>
    Text.not_mem_of_mem_lines hLine

end LayeredSettings

------------------------------------------------------------
-- Names and Keys
------------------------------------------------------------

namespace LayeredSettings

namespace Canonical

/- The characters of identifiers are among those of ASCII. -/
theorem toNat_lt_of_isIdentifierChar
    {c : Char}
    (hChar : Text.isIdentifierChar c = true) :
    c.toNat < 128 := by
  unfold Text.isIdentifierChar at hChar
  rcases (Bool.or_eq_true _ _).mp hChar with
    hLetter | hMark
  · simp only [Char.isAlphanum, Char.isAlpha, Char.isUpper,
      Char.isLower, Char.isDigit, Bool.or_eq_true,
      Bool.and_eq_true, decide_eq_true_eq, ge_iff_le,
      UInt32.le_iff_toNat_le] at hLetter
    rcases hLetter with
      (⟨_, hUpper⟩ | ⟨_, hLower⟩) | ⟨_, hDigit⟩
    · exact Nat.lt_of_le_of_lt hUpper (by decide)
    · exact Nat.lt_of_le_of_lt hLower (by decide)
    · exact Nat.lt_of_le_of_lt hDigit (by decide)
  · have hAll :
        ∀ d ∈ ['_', '-', '/', '.', '%', '@', ':', '+'],
          d.toNat < 128 := by
      simp
    exact hAll c (List.contains_iff_mem.mp hMark)

/- They are those of names, and in lower case those of keys. -/
theorem mem_of_isIdentifierChar
    {c : Char}
    (hChar : Text.isIdentifierChar c = true) :
    c ∈ capitals ++ keyCharacters ∧
      c.toLower ∈ keyCharacters := by
  have hAll :
      ∀ code < 128,
        Text.isIdentifierChar (Char.ofNat code) = true →
          Char.ofNat code ∈ capitals ++ keyCharacters ∧
            (Char.ofNat code).toLower ∈ keyCharacters := by
    decide +kernel
  have hSmall := toNat_lt_of_isIdentifierChar hChar
  rw [← Char.ofNat_toNat c] at hChar
  have hMem := hAll c.toNat hSmall hChar
  rwa [Char.ofNat_toNat] at hMem

theorem isName_of_isIdentifier
    {name : String}
    (hValid : Text.isIdentifier name = true) :
    IsName name := by
  unfold Text.isIdentifier at hValid
  rcases (Bool.and_eq_true _ _).mp hValid with
    ⟨hNonempty, hAll⟩
  constructor
  · simpa using hNonempty
  · intro c hMem
    exact
      (mem_of_isIdentifierChar
        (List.all_eq_true.mp hAll c hMem)).1

/- A key that is accepted is stored as a key. -/
theorem isKey_lowerCase
    {written : String}
    (hValid : Text.isIdentifier written = true) :
    IsKey (Text.lowerCase written) := by
  unfold Text.isIdentifier at hValid
  rcases (Bool.and_eq_true _ _).mp hValid with
    ⟨hNonempty, hAll⟩
  unfold IsKey Text.lowerCase
  rw [String.toList_ofList]
  constructor
  · simpa using hNonempty
  · intro c hMem
    rcases List.mem_map.mp hMem with ⟨d, hFound, rfl⟩
    exact
      (mem_of_isIdentifierChar
        (List.all_eq_true.mp hAll d hFound)).2

end Canonical

end LayeredSettings

------------------------------------------------------------
-- Loaded Sets
------------------------------------------------------------

namespace LayeredSettings

/- What a merge shows was given or was there before. -/
theorem Merge.IsViewAt.gift_or_kept
    {β : Type}
    {name : String}
    {view : ProfileSet → Option β}
    {gift : List (String × String) → Option β}
    (hView : IsViewAt name view gift)
    {base : ProfileSet}
    {kind : FileKind}
    {listing : List (String × List (String × String))}
    {b : β}
    (hSome :
      view (base.mergeFile kind listing).value = some b) :
    lastGift gift kind name (claims kind listing) listing =
        some b ∨
      view base = some b := by
  rw [hView.mergeFile_eq] at hSome
  rcases Option.or_eq_some_iff.mp hSome with
    hGift | ⟨_, hKept⟩
  · exact Or.inl hGift
  · right
    rw [Option.ite_none_left_eq_some] at hKept
    exact hKept.2

namespace ProfileSet

/-
  Each profile is stored under its name, each property under
  its key, and names, keys and values have their shapes.
-/
def HasShape
    (set : ProfileSet) : Prop :=
  ∀ name profile,
    set.profile? name = some profile →
      profile.name = name ∧
        Canonical.IsName name ∧
          ∀ key property,
            profile.properties.get? key = some property →
              property.key = key ∧
                Canonical.IsKey key ∧
                  Grammar.HasValueShape property.value

theorem hasShape_empty
    (selected : String) :
    (empty selected).HasShape := by
  intro name profile hProfile
  simp at hProfile

theorem HasShape.isCoherent
    {set : ProfileSet}
    (hSet : set.HasShape) :
    set.IsCoherent := by
  intro name profile hProfile
  rcases hSet name profile hProfile with
    ⟨hName, _, hProperties⟩
  refine ⟨hName, ?_⟩
  intro key property hProperty
  rcases hProperties key property hProperty with
    ⟨hKey, hValid, _⟩
  exact ⟨hKey, hValid.lowerCase_eq⟩

/-
  A merge of values with their shape keeps the shape, in
  whichever order the sections are merged.
-/
theorem HasShape.mergeFile
    {base : ProfileSet}
    {sections : Sections}
    {listing : List (String × List (String × String))}
    (hBase : base.HasShape)
    (hListing : sections.IsListedAs listing)
    (hValues :
      ∀ heading key value,
        Sections.value? sections heading key = some value →
          Grammar.HasValueShape value)
    (kind : FileKind) :
    (base.mergeFile kind listing).value.HasShape := by
  have hCoherent :=
    isCoherent_mergeFile hBase.isCoherent kind listing
  intro name profile hProfile
  rcases hCoherent name profile hProfile with
    ⟨hName, hStored⟩
  refine ⟨hName, ?_, ?_⟩
  · have hView :
        ((base.mergeFile kind listing).value.profile?
            name).map
          (fun _ => ()) = some () := by
      rw [hProfile]
      rfl
    rcases (Merge.isViewAt_profile name).gift_or_kept
        hView with hGift | hKept
    · rcases Merge.exists_of_lastGift_eq_some hListing
          hGift with ⟨entry, _, hContributes, _⟩
      exact Canonical.isName_of_isIdentifier
        hContributes.valid
    · rcases Option.map_eq_some_iff.mp hKept with
        ⟨old, hOld, _⟩
      exact (hBase name old hOld).2.1
  · intro key property hProperty
    have hView :
        (base.mergeFile kind listing).value.property? name
            key =
          some property := by
      unfold property?
      rw [hProfile]
      exact hProperty
    refine ⟨(hStored key property hProperty).1, ?_⟩
    rcases (Merge.isViewAt_property name key).gift_or_kept
        hView with hGift | hKept
    · rcases Merge.gives_of_lastGift_eq_some hListing
          hGift with ⟨_, hGives⟩
      rcases hGives with
        ⟨heading, properties, written, _, hSection, hValue,
          hValid, rfl⟩
      refine ⟨Canonical.isKey_lowerCase hValid, ?_⟩
      apply hValues heading written
      unfold Sections.value?
      rw [hSection]
      exact hValue
    · rcases Option.bind_eq_some_iff.mp hKept with
        ⟨old, hOld, hFound⟩
      exact ((hBase name old hOld).2.2 key property
        hFound).2

end ProfileSet

namespace Config

/-
  Whatever may be loaded has names and keys over their
  letters and values that the lines of a file can say.
-/
theorem hasShape_of_loadProfiles
    {config : Config}
    {host : Host}
    {loaded : ProfileSet}
    (hLoaded : config.MayLoad host loaded) :
    loaded.HasShape := by
  rcases hLoaded with ⟨order, hOrder⟩
  rcases exists_ofFiles_of_loadProfilesIn hOrder with
    ⟨files, selected, _, hSet⟩
  refine
    ProfileSet.kept_of_addFiles ?_
      (ProfileSet.hasShape_empty selected) hSet
  intro file sections hParse base hBase
  exact
    hBase.mergeFile (order.isListedAs file.kind sections)
      (fun _ _ _ => Sections.hasValueShape_of_parse hParse)
      file.kind

/- A config file with a mark in a value and in a comment. -/
def markedFile : Config :=
  { empty with
    files := .memory
      (Table.ofList
        [ ( Utf8.encode ".aws/config",
            Utf8.encode
              "[default]\nREGION = a#b # c\n  two ; d\n" ) ]) }

/- The profiles of that file. -/
def markedProfiles : ProfileSet where
  profiles := Table.ofList
    [ ( "default",
        ⟨"default", Table.ofList
          [("region", ⟨"region", "a#b\ntwo ; d"⟩)]⟩ ) ]
  selected := "default"

theorem hasShape_markedProfiles :
    (markedFile.loadProfiles Host.initial).outcome =
        .ok markedProfiles ∧
      markedProfiles.HasShape := by
  have hLoaded :
      (markedFile.loadProfiles Host.initial).outcome =
        .ok markedProfiles := by
    cbv
  exact
    ⟨hLoaded, hasShape_of_loadProfiles ⟨.written, hLoaded⟩⟩

end Config

end LayeredSettings
