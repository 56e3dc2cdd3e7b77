import LayeredSettings.Proofs.Profile.Reading
import LayeredSettings.Proofs.Profile.SectionUpdates

/-
  A profile file as its sections, one after the other, and
  what of it is read where some of them are left out.

  Key definitions include:
    * `Grammar.sectionsOf`
    * `SectionReader.ReadsSections`
    * `SectionReader.Restricts`

  Key theorems include:
    * `SectionReader.Restricts.openSection`,
      `SectionReader.Restricts.setProperty`,
      `SectionReader.Restricts.extendProperty`
    * `SectionReader.Reads.restrict`
    * `Sections.filter_entries_eq`

  A second reader follows the first one and skips the sections
  that are left out.  It always has the sections that the
  first one has, without those.  So these have no influence
  on the others, wherever they stand.
-/

------------------------------------------------------------
-- Entries of Some Keys
------------------------------------------------------------

namespace LayeredSettings

namespace Entries

variable {κ α : Type} [DecidableEq κ]

/- A key that is kept has the value that it had. -/
theorem get?_filter_of_pos
    (keep : κ → Bool)
    {k : κ}
    (hKeep : keep k = true)
    (es : List (κ × α)) :
    get? k (es.filter fun e => keep e.1) = get? k es := by
  induction es with
  | nil => rfl
  | cons e rest ih =>
      by_cases hKey : e.1 = k
      · simp [get?, hKey, hKeep]
      · by_cases hFirst : keep e.1 = true
        · simp [get?, hKey, hFirst, ih]
        · simp [get?, hKey, hFirst, ih]

/- A key that is kept is inserted where it was. -/
theorem filter_insert_of_pos
    {keep : κ → Bool}
    {k : κ}
    (hKeep : keep k = true)
    (a : α)
    (es : List (κ × α)) :
    ((insert k a es).filter fun e => keep e.1) =
      insert k a (es.filter fun e => keep e.1) := by
  induction es with
  | nil => simp [insert, hKeep]
  | cons e rest ih =>
      by_cases hKey : e.1 = k
      · simp [insert, hKey, hKeep]
      · by_cases hFirst : keep e.1 = true
        · simp [insert, hKey, hFirst, ih]
        · simp [insert, hKey, hFirst, ih]

/- The insertion of any other key is not seen. -/
theorem filter_insert_of_neg
    {keep : κ → Bool}
    {k : κ}
    (hKeep : keep k = false)
    (a : α)
    (es : List (κ × α)) :
    ((insert k a es).filter fun e => keep e.1) =
      es.filter fun e => keep e.1 := by
  induction es with
  | nil => simp [insert, hKeep]
  | cons e rest ih =>
      by_cases hKey : e.1 = k
      · simp [insert, hKey, hKeep]
      · by_cases hFirst : keep e.1 = true
        · simp [insert, hKey, hFirst, ih]
        · simp [insert, hKey, hFirst, ih]

end Entries

end LayeredSettings

------------------------------------------------------------
-- Sections of a Text
------------------------------------------------------------

namespace LayeredSettings

namespace Grammar

/- The lines up to the next heading. -/
def bodyOf
    (lines : List (List Char)) : List (List Char) :=
  lines.takeWhile fun line => ¬ IsHeading line

/-
  The sections of a file in the order in which they stand
  there: the name in each heading and the lines below it.
-/
def sectionsOf :
    List (List Char) → List (String × List (List Char))
| [] => []
| line :: rest =>
    if IsHeading line then
      match Heading.read line with
      | .ok heading => (heading, bodyOf rest) :: sectionsOf rest
      | .error _ => sectionsOf rest
    else sectionsOf rest

theorem bodyOf_cons_of_isHeading
    {line : List Char}
    (hHeading : IsHeading line)
    (rest : List (List Char)) :
    bodyOf (line :: rest) = [] := by
  simp [bodyOf, hHeading]

theorem bodyOf_cons_of_not
    {line : List Char}
    (hHeading : ¬ IsHeading line)
    (rest : List (List Char)) :
    bodyOf (line :: rest) = line :: bodyOf rest := by
  simp [bodyOf, hHeading]

theorem sectionsOf_cons_of_names
    {line : List Char}
    {heading : String}
    (hNames : Names line heading)
    (rest : List (List Char)) :
    sectionsOf (line :: rest) =
      (heading, bodyOf rest) :: sectionsOf rest := by
  rw [sectionsOf, if_pos hNames.1,
    (read_heading_eq_ok_iff hNames.1).mpr hNames]

theorem sectionsOf_cons_of_not
    {line : List Char}
    (hHeading : ¬ IsHeading line)
    (rest : List (List Char)) :
    sectionsOf (line :: rest) = sectionsOf rest := by
  rw [sectionsOf, if_neg hHeading]

end Grammar

namespace SectionReader

open Grammar

/- Sections that are opened and read one after the other. -/
inductive ReadsSections :
    SectionReader → List (String × List (List Char)) →
      SectionReader → Prop
    where
| nil
    {reader : SectionReader} :
    ReadsSections reader [] reader
| cons
    {reader next last : SectionReader}
    {heading : String}
    {body : List (List Char)}
    {rest : List (String × List (List Char))}
    (hBody : Reads (reader.openSection heading) body next)
    (hRest : ReadsSections next rest last) :
    ReadsSections reader ((heading, body) :: rest) last

/- Lines are read in one way. -/
theorem Reads.unique
    {reader last other : SectionReader}
    {lines : List (List Char)}
    (hReads : Reads reader lines last)
    (hOther : Reads reader lines other) :
    last = other := by
  have hLast := hReads.readLines_eq 0
  rw [hOther.readLines_eq 0] at hLast
  exact (Except.ok.inj hLast).symm

/- So are sections. -/
theorem ReadsSections.unique
    {reader last other : SectionReader}
    {sections : List (String × List (List Char))}
    (hReads : ReadsSections reader sections last)
    (hOther : ReadsSections reader sections other) :
    last = other := by
  induction hReads with
  | nil =>
      cases hOther
      rfl
  | cons hBody _ ih =>
      cases hOther with
      | cons hOtherBody hOtherRest =>
          have hNext := hBody.unique hOtherBody
          subst hNext
          exact ih hOtherRest

/- Lines that are read make a step each. -/
theorem reads_of_readLines_eq_ok
    {reader last : SectionReader}
    {number : Nat}
    {lines : List (List Char)}
    (hRead : reader.readLines number lines = .ok last) :
    Reads reader lines last := by
  have hAll :=
    invariant_of_readLines_eq_ok
      (I := fun before next => Reads reader before next)
      (fun _ _ _ _ hBefore hStep =>
        hBefore.append (.cons hStep .nil))
      (.nil : Reads reader [] reader) hRead
  exact hAll

end SectionReader

end LayeredSettings

------------------------------------------------------------
-- Leaving Sections Out
------------------------------------------------------------

namespace LayeredSettings

namespace SectionReader

open Grammar

variable {keep : String → Bool}
variable {reader small : SectionReader}
variable {heading : String}

/- A reader that has the sections of another that are kept. -/
def Restricts
    (keep : String → Bool)
    (reader small : SectionReader) : Prop :=
  small.sections.entries =
    reader.sections.entries.filter fun entry => keep entry.1

namespace Restricts

/- Sections that are kept are the same sections. -/
theorem get?_eq
    (hSmall : Restricts keep reader small)
    (hKeep : keep heading = true) :
    small.sections.get? heading =
      reader.sections.get? heading := by
  unfold Table.get?
  rw [show small.sections.entries = _ from hSmall]
  exact Entries.get?_filter_of_pos keep hKeep _

/- Both readers store a section that is kept. -/
theorem insert_of_pos
    (hSmall : Restricts keep reader small)
    (hKeep : keep heading = true)
    (properties : Table String String)
    (cursor other : Option Cursor) :
    Restricts keep
      ⟨reader.sections.insert heading properties, cursor⟩
      ⟨small.sections.insert heading properties, other⟩ := by
  refine Eq.trans ?_
    (Entries.filter_insert_of_pos hKeep properties
      reader.sections.entries).symm
  exact congrArg (Entries.insert heading properties) hSmall

/- The other sections are stored by the first reader alone. -/
theorem insert_of_neg
    (hSmall : Restricts keep reader small)
    (hKeep : keep heading = false)
    (properties : Table String String)
    (cursor : Option Cursor) :
    Restricts keep
      ⟨reader.sections.insert heading properties, cursor⟩
      small := by
  refine Eq.trans ?_
    (Entries.filter_insert_of_neg hKeep properties
      reader.sections.entries).symm
  exact hSmall

theorem sectionOrNew_eq
    (hSmall : Restricts keep reader small)
    (hKeep : keep heading = true) :
    small.sectionOrNew heading =
      reader.sectionOrNew heading := by
  unfold sectionOrNew
  rw [hSmall.get?_eq hKeep]

theorem openSection
    (hSmall : Restricts keep reader small)
    (hKeep : keep heading = true) :
    Restricts keep (reader.openSection heading)
      (small.openSection heading) := by
  unfold SectionReader.openSection
  rw [hSmall.sectionOrNew_eq hKeep]
  exact hSmall.insert_of_pos hKeep _ _ _

theorem setProperty
    (hSmall : Restricts keep reader small)
    (hKeep : keep heading = true)
    (key value : String) :
    Restricts keep (reader.setProperty heading key value)
      (small.setProperty heading key value) := by
  unfold SectionReader.setProperty
  rw [hSmall.sectionOrNew_eq hKeep]
  exact hSmall.insert_of_pos hKeep _ _ _

theorem extendProperty
    (hSmall : Restricts keep reader small)
    (hKeep : keep heading = true)
    (key text : String) :
    Restricts keep (reader.extendProperty heading key text)
      (small.extendProperty heading key text) := by
  unfold SectionReader.extendProperty
  rw [hSmall.get?_eq hKeep]
  cases reader.sections.get? heading with
  | none => exact hSmall
  | some properties =>
      dsimp only
      cases properties.get? key with
      | none => exact hSmall
      | some value => exact hSmall.insert_of_pos hKeep _ _ _

theorem extendProperty_of_neg
    (hSmall : Restricts keep reader small)
    (hKeep : keep heading = false)
    (key text : String) :
    Restricts keep (reader.extendProperty heading key text)
      small := by
  unfold SectionReader.extendProperty
  cases reader.sections.get? heading with
  | none => exact hSmall
  | some properties =>
      dsimp only
      cases properties.get? key with
      | none => exact hSmall
      | some value => exact hSmall.insert_of_neg hKeep _ _

end Restricts

/- Whether the current section is one that is kept. -/
def isInside
    (keep : String → Bool)
    (reader : SectionReader) : Bool :=
  reader.cursor.any fun cursor => keep cursor.heading

theorem isInside_eq
    {cursor : Cursor}
    (hCursor : reader.cursor = some cursor) :
    isInside keep reader = keep cursor.heading := by
  unfold isInside
  rw [hCursor]
  rfl

/-
  A reader that skips what is left out, and stands where the
  other one does unless that is skipped.
-/
structure Follows
    (keep : String → Bool)
    (reader small : SectionReader) : Prop where
  restricts : Restricts keep reader small
  cursor_eq :
    isInside keep reader = true →
      small.cursor = reader.cursor

/- The readers stay together at a heading. -/
theorem Follows.heading_of_pos
    (hFollows : Follows keep reader small)
    (hKeep : keep heading = true) :
    Follows keep (reader.openSection heading)
      (small.openSection heading) :=
  ⟨hFollows.restricts.openSection hKeep, fun _ => rfl⟩

/- A heading that is left out is for one of them only. -/
theorem Follows.heading_of_neg
    (hFollows : Follows keep reader small)
    (hKeep : keep heading = false) :
    Follows keep (reader.openSection heading) small := by
  constructor
  · exact hFollows.restricts.insert_of_neg hKeep _ _
  · intro hInside
    rw [show isInside keep (reader.openSection heading) =
      keep heading from rfl, hKeep] at hInside
    cases hInside

/- No other line leads out of a section or into one. -/
theorem isInside_eq_of_not_isHeading
    (keep : String → Bool)
    {next : SectionReader}
    {line : List Char}
    (hStep : Step reader line next)
    (hHeading : ¬ IsHeading line) :
    isInside keep next = isInside keep reader := by
  unfold isInside
  cases hStep with
  | ignored _ => rfl
  | heading hNames => exact absurd hNames.1 hHeading
  | continuation _ _ => rw [cursor_extendProperty]
  | property _ hCursor =>
      rw [hCursor]
      rfl

/- A heading that is read opens the section that it names. -/
theorem Step.exists_names
    {next : SectionReader}
    {line : List Char}
    (hStep : Step reader line next)
    (hHeading : IsHeading line) :
    ∃ heading,
      Names line heading ∧
        next = reader.openSection heading := by
  cases hStep with
  | ignored hIgnored =>
      exact absurd hIgnored hHeading.not_isIgnored
  | heading hNames => exact ⟨_, hNames, rfl⟩
  | continuation hContinuation _ =>
      exact absurd hContinuation hHeading.not_isContinuation
  | property hAssigns _ =>
      exact absurd hHeading hAssigns.1.2.1

/- Inside, both readers read the line. -/
theorem Follows.step_of_inside
    {next : SectionReader}
    {line : List Char}
    (hFollows : Follows keep reader small)
    (hInside : isInside keep reader = true)
    (hStep : Step reader line next)
    (hHeading : ¬ IsHeading line) :
    ∃ other,
      Step small line other ∧ Follows keep next other := by
  have hCursors := hFollows.cursor_eq hInside
  cases hStep with
  | ignored hIgnored =>
      exact ⟨small, .ignored hIgnored, hFollows⟩
  | heading hNames => exact absurd hNames.1 hHeading
  | continuation hContinuation hCursor =>
      have hKept := (isInside_eq hCursor).symm.trans hInside
      refine
        ⟨_, .continuation hContinuation
          (hCursors.trans hCursor),
          hFollows.restricts.extendProperty hKept _ _, ?_⟩
      intro _
      rw [cursor_extendProperty, cursor_extendProperty,
        hCursors]
  | property hAssigns hCursor =>
      have hKept := (isInside_eq hCursor).symm.trans hInside
      exact
        ⟨_, .property hAssigns (hCursors.trans hCursor),
          hFollows.restricts.setProperty hKept _ _,
          fun _ => rfl⟩

/- Outside, the line is for the first reader only. -/
theorem Follows.step_of_outside
    {next : SectionReader}
    {line : List Char}
    (hFollows : Follows keep reader small)
    (hOutside : isInside keep reader = false)
    (hStep : Step reader line next)
    (hHeading : ¬ IsHeading line) :
    Follows keep next small := by
  have hSame :=
    isInside_eq_of_not_isHeading keep hStep hHeading
  constructor
  · cases hStep with
    | ignored _ => exact hFollows.restricts
    | heading hNames => exact absurd hNames.1 hHeading
    | continuation _ hCursor =>
        have hLeft :=
          (isInside_eq hCursor).symm.trans hOutside
        exact
          hFollows.restricts.extendProperty_of_neg hLeft _ _
    | property _ hCursor =>
        have hLeft :=
          (isInside_eq hCursor).symm.trans hOutside
        exact hFollows.restricts.insert_of_neg hLeft _ _
  · intro hInside
    rw [hSame, hOutside] at hInside
    cases hInside

/- The sections that are kept, one after the other. -/
def keptSections
    (keep : String → Bool)
    (lines : List (List Char)) :
    List (String × List (List Char)) :=
  (sectionsOf lines).filter fun entry => keep entry.1

/-
  A reader that follows another one through all its lines
  reads the rest of the section that it stands in, if that
  is kept, and then the sections that are.
-/
theorem Reads.restrict
    {last : SectionReader}
    {lines : List (List Char)}
    (hReads : Reads reader lines last)
    (hFollows : Follows keep reader small) :
    ∃ next final,
      Reads small
          (if isInside keep reader then bodyOf lines else [])
          next ∧
        ReadsSections next (keptSections keep lines) final ∧
          Restricts keep last final := by
  induction hReads generalizing small with
  | nil =>
      refine ⟨small, small, ?_, .nil, hFollows.restricts⟩
      rw [show bodyOf [] = [] from rfl, ite_self]
      exact .nil
  | @cons reader next last line rest hStep _ ih =>
      by_cases hHeading : IsHeading line
      · rcases hStep.exists_names hHeading with
          ⟨heading, hNames, rfl⟩
        have hInside :
            isInside keep (reader.openSection heading) =
              keep heading := rfl
        unfold keptSections at ih ⊢
        rw [bodyOf_cons_of_isHeading hHeading, ite_self,
          sectionsOf_cons_of_names hNames]
        rw [hInside] at ih
        cases hKeep : keep heading with
        | true =>
            rw [hKeep, if_pos rfl] at ih
            rcases ih (hFollows.heading_of_pos hKeep) with
              ⟨after, final, hBody, hSections, hLast⟩
            rw [List.filter_cons_of_pos (by simpa using hKeep)]
            exact
              ⟨small, final, .nil, .cons hBody hSections,
                hLast⟩
        | false =>
            rw [hKeep] at ih
            rw [List.filter_cons_of_neg (by simpa using hKeep)]
            exact ih (hFollows.heading_of_neg hKeep)
      · have hSame :=
          isInside_eq_of_not_isHeading keep hStep
            hHeading
        unfold keptSections at ih ⊢
        rw [bodyOf_cons_of_not hHeading,
          sectionsOf_cons_of_not hHeading]
        rw [hSame] at ih
        cases hInside : isInside keep reader with
        | true =>
            rw [hInside] at ih
            rcases hFollows.step_of_inside hInside hStep
                hHeading with ⟨other, hOther, hNext⟩
            rcases ih hNext with
              ⟨after, final, hBody, hSections, hLast⟩
            exact
              ⟨after, final, .cons hOther hBody, hSections,
                hLast⟩
        | false =>
            rw [hInside] at ih
            exact ih (hFollows.step_of_outside hInside hStep
              hHeading)

end SectionReader

namespace Sections

open Grammar SectionReader

/- The sections of a file that are kept, as they are read. -/
theorem exists_readsSections_of_parse
    {path text : String}
    {sections : Sections}
    (hParse : parse path text = .ok sections)
    (keep : String → Bool) :
    ∃ final,
      ReadsSections initial
          (keptSections keep (Text.lines text.toList))
          final ∧
        final.sections.entries =
          sections.entries.filter fun entry =>
            keep entry.1 := by
  rcases exists_readLines_of_parse hParse with
    ⟨last, hRead, rfl⟩
  have hFollows : Follows keep initial initial :=
    ⟨rfl, fun _ => rfl⟩
  rcases (reads_of_readLines_eq_ok hRead).restrict
      hFollows with
    ⟨next, final, hBody, hSections, hLast⟩
  cases hBody
  exact ⟨final, hSections, hLast⟩

/-
  Files that have the same sections under some headings are
  read to the same sections under these headings.
-/
theorem filter_entries_eq
    {path place text other : String}
    {sections others : Sections}
    {keep : String → Bool}
    (hParse : parse path text = .ok sections)
    (hOther : parse place other = .ok others)
    (hSame :
      keptSections keep (Text.lines text.toList) =
        keptSections keep (Text.lines other.toList)) :
    (sections.entries.filter fun entry => keep entry.1) =
      others.entries.filter fun entry => keep entry.1 := by
  rcases exists_readsSections_of_parse hParse keep with
    ⟨final, hReads, hEntries⟩
  rcases exists_readsSections_of_parse hOther keep with
    ⟨last, hOtherReads, hOtherEntries⟩
  rw [hSame] at hReads
  have hFinal := hReads.unique hOtherReads
  rw [← hEntries, ← hOtherEntries, hFinal]

end Sections

end LayeredSettings
