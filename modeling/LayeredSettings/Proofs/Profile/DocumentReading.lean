import LayeredSettings.Proofs.Profile.Document
import LayeredSettings.Proofs.Profile.Reading
import LayeredSettings.Proofs.Profile.SectionUpdates

/-
  How profile files that are written are read.

  Key definitions include:
    * `Canonical.sectionsOf`
    * `Canonical.HasRead`

  Key theorems include:
    * `Canonical.reads_property`
    * `Canonical.Writes.reads`
    * `Canonical.Writes.parse_eq`

  However a listing is written, it is read as the sections
  that it has, in order.
-/

------------------------------------------------------------
-- Reading Values
------------------------------------------------------------

namespace LayeredSettings

namespace Canonical

open Grammar SectionReader

variable (reader : SectionReader)
variable {name key value : String}

/- The further lines of a value are read one by one. -/
theorem reads_further
    (name key value : String)
    {further written : List (List Char)}
    (hFurther : ∀ line ∈ further, IsFurther line)
    (hWritten : List.Forall₂ IsIndented further written) :
    Reads (reader.setProperty name key value) written
      (reader.setProperty name key
        (value ++ String.ofList
          (further.flatMap fun line => '\n' :: line))) := by
  induction hWritten generalizing value with
  | nil =>
      rw [List.flatMap_nil, String.ofList_nil,
        String.append_empty]
      exact .nil
  | @cons line indented rest others hIndented _ ih =>
      rcases isContinuation_of_isIndented
          (hFurther line (by simp)) hIndented with
        ⟨hContinuation, hStripped⟩
      have hStep :
          Step (reader.setProperty name key value) indented
            (reader.setProperty name key
              (value ++ "\n" ++ String.ofList line)) := by
        rw [← extendProperty_setProperty, ← hStripped]
        exact .continuation hContinuation rfl
      have hRest :=
        ih (value ++ "\n" ++ String.ofList line)
          fun other hOther => hFurther other (by simp [hOther])
      have hValue :
          value ++ "\n" ++ String.ofList line ++
              String.ofList
                (rest.flatMap fun line => '\n' :: line) =
            value ++ String.ofList
              ((line :: rest).flatMap
                fun line => '\n' :: line) := by
        apply String.toList_injective
        simp
      rw [hValue] at hRest
      exact .cons hStep hRest

/- The lines of a property set it in the current section. -/
theorem reads_property
    {reader : SectionReader}
    {property : Option String}
    {first : List Char}
    {further written : List (List Char)}
    (hCursor : reader.cursor = some ⟨name, property⟩)
    (hKey : IsKey key)
    (hValue : IsValue value)
    (hParts :
      Text.splitAll '\n' value.toList = first :: further)
    (hWritten : List.Forall₂ IsIndented further written) :
    Reads reader (propertyLine key first :: written)
      (reader.setProperty name key value) := by
  rcases hValue with
    ⟨start, others, hSame, hFirst, hComment, hFurther⟩
  rw [hParts] at hSame
  rcases List.cons.inj hSame with ⟨rfl, rfl⟩
  have hStep :
      Step reader (propertyLine key first)
        (reader.setProperty name key
          (String.ofList first)) :=
    .property (hKey.assigns_propertyLine hFirst hComment)
      hCursor
  have hRest :=
    reads_further reader name key (String.ofList first)
      hFurther hWritten
  have hWhole :
      String.ofList first ++ String.ofList
          (further.flatMap fun line => '\n' :: line) =
        value := by
    apply String.toList_injective
    rw [Text.eq_append_flatMap_of_splitAll hParts]
    simp
  rw [hWhole] at hRest
  exact .cons hStep hRest

end Canonical

end LayeredSettings

------------------------------------------------------------
-- Reading Listings
------------------------------------------------------------

namespace LayeredSettings

namespace Canonical

open SectionReader

/- The sections of a listing in a kind of file. -/
def sectionsOf
    (kind : FileKind)
    (listing : List (String × List (String × String))) :
    List (String × List (String × String)) :=
  listing.map fun entry => (heading kind entry.1, entry.2)

/-
  The reader has read some sections, and of the current
  section, which is new, some properties.
-/
structure HasRead
    (reader : SectionReader)
    (done : List (String × List (String × String)))
    (name : String)
    (properties : List (String × String)) : Prop where
  sections :
    reader.sections.toLists = done ++ [(name, properties)]
  cursor :
    ∃ property, reader.cursor = some ⟨name, property⟩

variable {reader : SectionReader}
variable {done : List (String × List (String × String))}
variable {name key value : String}
variable {properties : List (String × String)}

/- The sections are listed under their names. -/
theorem map_fst_toLists
    (sections : Sections) :
    sections.toLists.map Prod.fst = sections.keys := by
  unfold Sections.toLists Table.keys
  rw [List.map_map]
  rfl

/- A new section is the last one. -/
theorem hasRead_openSection
    (hDone : reader.sections.toLists = done)
    (hNew : name ∉ done.map Prod.fst) :
    HasRead (reader.openSection name) done name [] := by
  have hKeys : name ∉ reader.sections.keys := by
    rw [← map_fst_toLists, hDone]
    exact hNew
  have hNone : reader.sections.get? name = none := by
    rw [Table.mem_keys_iff] at hKeys
    simpa using hKeys
  constructor
  · unfold openSection sectionOrNew
    rw [hNone, ← hDone]
    unfold Sections.toLists Table.insert
    dsimp only
    rw [Entries.insert_of_not_mem hKeys]
    simp [Table.empty]
  · exact ⟨none, rfl⟩

/- A new property is the last one of the last section. -/
theorem HasRead.setProperty
    (hRead : HasRead reader done name properties)
    (hNew : name ∉ done.map Prod.fst)
    (hKey : key ∉ properties.map Prod.fst)
    (value : String) :
    HasRead (reader.setProperty name key value) done name
      (properties ++ [(key, value)]) := by
  have hSections := hRead.sections
  unfold Sections.toLists at hSections
  rcases List.map_eq_append_iff.mp hSections with
    ⟨front, back, hEntries, hFront, hBack⟩
  rcases List.map_eq_singleton_iff.mp hBack with
    ⟨⟨found, table⟩, rfl, hLast⟩
  rcases Prod.mk.inj hLast with ⟨rfl, rfl⟩
  have hOthers : found ∉ front.map Prod.fst := by
    rw [← hFront, List.map_map] at hNew
    exact hNew
  have hTable : reader.sections.get? found = some table := by
    rw [Table.get?_eq_some_iff_mem, hEntries]
    simp
  constructor
  · unfold SectionReader.setProperty sectionOrNew
    rw [hTable]
    unfold Sections.toLists Table.insert
    dsimp only
    rw [hEntries, Entries.insert_concat hOthers,
      List.map_append, hFront]
    simp [Entries.insert_of_not_mem hKey]
  · exact ⟨some key, rfl⟩

/- The properties of a profile are read one by one. -/
theorem WritesProperties.reads
    {rest : List (String × String)}
    {lines : List (List Char)}
    (hWrites : WritesProperties rest lines)
    (hRead : HasRead reader done name properties)
    (hNew : name ∉ done.map Prod.fst)
    (hNodup : ((properties ++ rest).map Prod.fst).Nodup)
    (hKeys : ∀ property ∈ rest, IsKey property.1)
    (hValues : ∀ property ∈ rest, IsValue property.2) :
    ∃ last,
      Reads reader lines last ∧
        HasRead last done name (properties ++ rest) := by
  induction hWrites generalizing reader properties with
  | nil =>
      rw [List.append_nil]
      exact ⟨reader, .nil, hRead⟩
  | @cons key value rest first further written lines hParts
      hWritten _ ih =>
      rcases hRead.cursor with ⟨property, hCursor⟩
      have hProperty :=
        reads_property hCursor (hKeys (key, value) (by simp))
          (hValues (key, value) (by simp)) hParts hWritten
      have hKey : key ∉ properties.map Prod.fst := by
        intro hMem
        rw [List.map_append] at hNodup
        exact (List.disjoint_of_nodup_append hNodup) hMem
          (by simp)
      have hNext := hRead.setProperty hNew hKey value
      rcases ih hNext (by simpa using hNodup)
          (fun other h => hKeys other (by simp [h]))
          (fun other h => hValues other (by simp [h])) with
        ⟨last, hReads, hLast⟩
      rw [List.append_assoc] at hLast
      exact ⟨last, hProperty.append hReads, hLast⟩

/- Headings of distinct profiles are distinct. -/
theorem heading_injective
    (kind : FileKind) :
    Function.Injective (heading kind) := by
  intro name other hSame
  cases kind with
  | credentials => exact hSame
  | config => exact (String.append_right_inj _).mp hSame

/- A listing is read as its sections, in order. -/
theorem Writes.reads
    {kind : FileKind}
    {listing : List (String × List (String × String))}
    {lines : List (List Char)}
    (hWrites : Writes kind listing lines)
    (hDone : reader.sections.toLists = done)
    (hNodup :
      ((done ++ sectionsOf kind listing).map Prod.fst).Nodup)
    (hEntries : ∀ entry ∈ listing, IsEntry entry) :
    ∃ last,
      Reads reader lines last ∧
        last.sections.toLists =
          done ++ sectionsOf kind listing := by
  induction hWrites generalizing reader done with
  | nil =>
      rw [sectionsOf, List.map_nil, List.append_nil]
      exact ⟨reader, .nil, hDone⟩
  | @cons name properties listing body lines hBody _ ih =>
      have hEntry := hEntries (name, properties) (by simp)
      have hNew : heading kind name ∉ done.map Prod.fst := by
        intro hMem
        rw [List.map_append] at hNodup
        exact (List.disjoint_of_nodup_append hNodup) hMem
          (by simp [sectionsOf])
      have hStep :
          Step reader (headingLine kind name)
            (reader.openSection (heading kind name)) :=
        .heading (hEntry.name.names_headingLine kind)
      rcases hBody.reads (hasRead_openSection hDone hNew) hNew
          hEntry.nodup hEntry.keys hEntry.values with
        ⟨middle, hMiddle, hSection⟩
      rcases ih hSection.sections
          (by simpa [sectionsOf] using hNodup)
          (fun entry h => hEntries entry (by simp [h])) with
        ⟨last, hReads, hLast⟩
      refine ⟨last, .cons hStep (hMiddle.append hReads), ?_⟩
      rw [hLast]
      simp [sectionsOf]

end Canonical

end LayeredSettings

------------------------------------------------------------
-- Reading Texts
------------------------------------------------------------

namespace LayeredSettings

namespace Canonical

/- A line that a text can have. -/
def IsLine
    (line : List Char) : Prop :=
  line ≠ [] ∧ '\n' ∉ line ∧ '\r' ∉ line

/- The heading line of a profile is one. -/
theorem IsName.isLine_headingLine
    {name : String}
    (hName : IsName name)
    (kind : FileKind) :
    IsLine (headingLine kind name) := by
  have hPlain := hName.plain_heading kind
  unfold headingLine
  refine ⟨by simp, ?_, ?_⟩
  · intro hMem
    simp at hMem
    exact (hPlain '\n' hMem).2 (by simp)
  · intro hMem
    simp at hMem
    exact (hPlain '\r' hMem).2 (by simp)

/- The line of a key and a line of a value is one. -/
theorem IsKey.isLine_propertyLine
    {key : String}
    {first : List Char}
    (hKey : IsKey key)
    (hFeed : '\n' ∉ first)
    (hReturn : '\r' ∉ first) :
    IsLine (propertyLine key first) := by
  have hPlain := hKey.isName.plain
  unfold propertyLine
  refine ⟨by simp, ?_, ?_⟩
  · intro hMem
    simp [hFeed] at hMem
    exact (hPlain '\n' hMem).2.2 (by simp)
  · intro hMem
    simp [hReturn] at hMem
    exact (hPlain '\r' hMem).2.2 (by simp)

/- A line of a value that is indented is one. -/
theorem isLine_of_isIndented
    {line written : List Char}
    (hWritten : IsIndented line written)
    (hFeed : '\n' ∉ line)
    (hReturn : '\r' ∉ line) :
    IsLine written := by
  rcases hWritten with ⟨blanks, hNonempty, hBlanks, rfl⟩
  have hOther :
      ∀ c, Text.isBlank c = false → c ∉ blanks := by
    intro c hNot hMem
    rw [hBlanks c hMem] at hNot
    cases hNot
  refine ⟨by simp [hNonempty], ?_, ?_⟩
  · rw [List.mem_append, not_or]
    exact ⟨hOther '\n' rfl, hFeed⟩
  · rw [List.mem_append, not_or]
    exact ⟨hOther '\r' rfl, hReturn⟩

/- Properties are written as lines. -/
theorem WritesProperties.isLine
    {properties : List (String × String)}
    {lines : List (List Char)}
    (hWrites : WritesProperties properties lines)
    (hKeys : ∀ property ∈ properties, IsKey property.1)
    (hValues :
      ∀ property ∈ properties, IsValue property.2) :
    ∀ line ∈ lines, IsLine line := by
  induction hWrites with
  | nil =>
      intro line hMem
      cases hMem
  | @cons key value properties first further written lines
      hParts hWritten _ ih =>
      have hFeed :
          ∀ part ∈ first :: further, '\n' ∉ part := by
        intro part hPart
        rw [← hParts] at hPart
        exact Text.not_mem_of_mem_splitAll hPart
      rcases hValues (key, value) (by simp) with
        ⟨start, others, hSame, hFirst, -, hFurther⟩
      rw [hParts] at hSame
      rcases List.cons.inj hSame with ⟨rfl, rfl⟩
      intro line hMem
      rcases List.mem_cons.mp hMem with rfl | hRest
      · exact (hKeys (key, value) (by simp)).isLine_propertyLine
          (hFeed first (by simp)) hFirst.no_return
      · rcases List.mem_append.mp hRest with hIn | hLater
        · have hFurtherOf :
              List.Forall₂ (flip IsIndented) written further :=
            hWritten.flip
          rcases exists_of_mem_forall₂ hFurtherOf hIn with
            ⟨found, hFound, hIndented⟩
          exact isLine_of_isIndented hIndented
            (hFeed found (by simp [hFound]))
            (hFurther found hFound).no_return
        · exact ih (fun other h => hKeys other (by simp [h]))
            (fun other h => hValues other (by simp [h]))
            line hLater

/- A listing is written as lines. -/
theorem Writes.isLine
    {kind : FileKind}
    {listing : List (String × List (String × String))}
    {lines : List (List Char)}
    (hWrites : Writes kind listing lines)
    (hEntries : ∀ entry ∈ listing, IsEntry entry) :
    ∀ line ∈ lines, IsLine line := by
  induction hWrites with
  | nil =>
      intro line hMem
      cases hMem
  | @cons name properties listing body lines hBody _ ih =>
      have hEntry := hEntries (name, properties) (by simp)
      intro line hMem
      rcases List.mem_cons.mp hMem with rfl | hRest
      · exact hEntry.name.isLine_headingLine kind
      · rcases List.mem_append.mp hRest with hIn | hLater
        · exact hBody.isLine hEntry.keys hEntry.values line hIn
        · exact ih
            (fun entry h => hEntries entry (by simp [h]))
            line hLater

/- A text that is written is read as its sections. -/
theorem Writes.parse_eq
    {kind : FileKind}
    {listing : List (String × List (String × String))}
    {lines : List (List Char)}
    {text : String}
    (hWrites : Writes kind listing lines)
    (hListing : IsListing listing)
    (hText : IsTextOf lines text)
    (path : String) :
    ∃ sections,
      Sections.parse path text = .ok sections ∧
        sections.toLists = sectionsOf kind listing := by
  have hLines := hWrites.isLine hListing.entries
  have hSame : Text.lines text.toList = lines := by
    apply Text.lines_unlines _ _ hText
    · intro line hMem
      exact (hLines line hMem).2
    · intro hMem
      exact (hLines [] hMem).1 rfl
  have hNodup :
      ((sectionsOf kind listing).map Prod.fst).Nodup := by
    have hNames :=
      hListing.nodup.map (heading_injective kind)
    rw [List.map_map] at hNames
    rw [sectionsOf, List.map_map]
    exact hNames
  have hInitial :
      SectionReader.initial.sections.toLists = [] := rfl
  rcases hWrites.reads hInitial hNodup hListing.entries with
    ⟨last, hReads, hLast⟩
  refine ⟨last.sections, ?_, hLast⟩
  unfold Sections.parse
  rw [hSame, hReads.readLines_eq 1]

end Canonical

end LayeredSettings
