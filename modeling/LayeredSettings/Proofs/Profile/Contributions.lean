import LayeredSettings.Proofs.Profile.Canonical

/-
  What the sections of a file contribute to profiles.

  Key definitions include:
    * `Sections.IsListedAs`
    * `Sections.Designates`, `Sections.Contributes`
    * `Sections.Gives`
    * `Sections.IsUnambiguous`, `Sections.SaysOnce`,
      `Sections.KeysAgree`
    * `ProfileSet.IsMerged`

  Key theorems include:
    * `Sections.IsListedAs.get?_of_mem`
    * `Sections.IsListedAs.mem_of_get?`
    * `Designation.afterKeyword_eq_some_iff`

  Contributions are described on the sections as a table, so
  the description knows no order and no merge.  A listing
  has the sections and their properties in an order.
-/

------------------------------------------------------------
-- Contributions
------------------------------------------------------------

namespace LayeredSettings

namespace Sections

/- A section that is listed with its properties. -/
def IsListedSection
    (listed : String × List (String × String))
    (entry : String × Table String String) : Prop :=
  listed.1 = entry.1 ∧ listed.2.Perm entry.2.entries

/- The sections in some order, each in some order. -/
def IsListedAs
    (sections : Sections)
    (listing : List (String × List (String × String))) :
    Prop :=
  ∃ entries : List (String × Table String String),
    entries.Perm sections.entries ∧
      List.Forall₂ IsListedSection listing entries

/-
  A heading that has the keyword, a space or a tab, and then
  the name of a profile, with white space around it or not.
-/
def IsPrefixed
    (heading name : String) : Prop :=
  ∃ blank rest,
    heading.toList = "profile".toList ++ blank :: rest ∧
      (blank = ' ' ∨ blank = '\t') ∧
        name.toList = Text.trim Text.isWhiteSpace rest

/- Some section gives the default profile with the keyword. -/
def PrefixesDefault
    (sections : Sections) : Prop :=
  ∃ heading ∈ sections.keys, IsPrefixed heading "default"

/-
  A heading that stands for a profile.  The bare heading of
  the default profile does so only if no section gives that
  profile with the keyword.
-/
def Designates
    (sections : Sections)
    (kind : FileKind)
    (heading name : String) : Prop :=
  match kind with
  | .credentials => heading = name
  | .config =>
      IsPrefixed heading name ∨
        heading = "default" ∧ name = "default" ∧
          ¬ sections.PrefixesDefault

/- A section of a file that contributes to a profile. -/
structure Contributes
    (sections : Sections)
    (kind : FileKind)
    (heading name : String) : Prop where
  listed : heading ∈ sections.keys
  valid : Text.isIdentifier name = true
  designates : sections.Designates kind heading name

/- A value that is contributed to a key of a profile. -/
def Gives
    (sections : Sections)
    (kind : FileKind)
    (name key value : String) : Prop :=
  ∃ heading properties written,
    sections.Contributes kind heading name ∧
      sections.get? heading = some properties ∧
        properties.get? written = some value ∧
          Text.isIdentifier written = true ∧
            Text.lowerCase written = key

/- No key is given two values. -/
def IsUnambiguous
    (sections : Sections)
    (kind : FileKind) : Prop :=
  ∀ name key first second,
    sections.Gives kind name key first →
      sections.Gives kind name key second →
        first = second

/- No key of a profile is given two values. -/
def IsUnambiguousFor
    (kind : FileKind)
    (name : String)
    (sections : Sections) : Prop :=
  ∀ key first second,
    sections.Gives kind name key first →
      sections.Gives kind name key second →
        first = second

/- A text in which no key of a profile is given two values. -/
def SaysOnce
    (kind : FileKind)
    (name text : String) : Prop :=
  ∀ path sections,
    parse path text = .ok sections →
      sections.IsUnambiguousFor kind name

/-
  All properties with one key have one value, under whatever
  headings they are.
-/
def KeysAgree
    (sections : Sections) : Prop :=
  ∀ entry ∈ sections.entries,
    ∀ other ∈ sections.entries,
      ∀ property ∈ entry.2.entries,
        ∀ given ∈ other.2.entries,
          Text.lowerCase property.1 =
              Text.lowerCase given.1 →
            property.2 = given.2

instance (sections : Sections) :
    Decidable sections.KeysAgree :=
  inferInstanceAs
    (Decidable
      (∀ entry ∈ sections.entries,
        ∀ other ∈ sections.entries,
          ∀ property ∈ entry.2.entries,
            ∀ given ∈ other.2.entries,
              Text.lowerCase property.1 =
                  Text.lowerCase given.1 →
                property.2 = given.2))

/- A file that drops what a profile had before. -/
def Supersedes
    (sections : Sections)
    (kind : FileKind)
    (name : String) : Prop :=
  kind = .config ∧ name = "default" ∧
    sections.PrefixesDefault

/- Keys that agree are given one value. -/
theorem KeysAgree.saysOnce
    {text : String}
    {sections : Sections}
    (hAgree : sections.KeysAgree)
    (hParse : ∀ path, parse path text = .ok sections)
    (kind : FileKind)
    (name : String) :
    SaysOnce kind name text := by
  intro path found hFound
  rw [hParse] at hFound
  cases hFound
  intro key first second hFirst hSecond
  rcases hFirst with
    ⟨heading, properties, written, -, hSection, hValue, -,
      hKey⟩
  rcases hSecond with
    ⟨other, more, given, -, hOther, hGiven, -, hSame⟩
  exact
    hAgree _
      ((sections.get?_eq_some_iff_mem _ _).mp hSection) _
      ((sections.get?_eq_some_iff_mem _ _).mp hOther) _
      ((properties.get?_eq_some_iff_mem _ _).mp hValue) _
      ((more.get?_eq_some_iff_mem _ _).mp hGiven)
      (hKey.trans hSame.symm)

end Sections

/-
  A set that has what sections contribute and, for all else,
  what there was before, less what the file supersedes.
-/
structure ProfileSet.IsMerged
    (base : ProfileSet)
    (kind : FileKind)
    (sections : Sections)
    (merged : ProfileSet) : Prop where
  selected : merged.selected = base.selected
  exists_iff :
    ∀ name,
      (merged.profile? name).isSome ↔
        (∃ heading,
          sections.Contributes kind heading name) ∨
        ¬ sections.Supersedes kind name ∧
          (base.profile? name).isSome
  given :
    ∀ name key value,
      sections.Gives kind name key value →
        merged.property? name key = some ⟨key, value⟩
  kept :
    ∀ name key,
      (∀ value, ¬ sections.Gives kind name key value) →
        ¬ sections.Supersedes kind name →
          merged.property? name key =
            base.property? name key
  dropped :
    ∀ name key,
      (∀ value, ¬ sections.Gives kind name key value) →
        sections.Supersedes kind name →
          merged.property? name key = none

end LayeredSettings

------------------------------------------------------------
-- Listings
------------------------------------------------------------

namespace LayeredSettings

/- The sections of a file as they are listed in it. -/
theorem Sections.isListedAs_toLists
    (sections : Sections) :
    sections.IsListedAs sections.toLists := by
  refine ⟨sections.entries, .refl _, ?_⟩
  unfold toLists
  rw [List.forall₂_map_left_iff]
  exact List.forall₂_same.mpr fun _ _ => ⟨rfl, .refl _⟩

namespace Sections.IsListedAs

variable {sections : Sections}
variable {listing : List (String × List (String × String))}

/- What is listed under a heading is in its section. -/
theorem get?_of_mem
    (hListing : sections.IsListedAs listing)
    {heading : String}
    {properties : List (String × String)}
    (hMem : (heading, properties) ∈ listing) :
    ∃ table,
      sections.get? heading = some table ∧
        properties.Perm table.entries := by
  rcases hListing with ⟨entries, hPerm, hListed⟩
  rcases Canonical.exists_of_mem_forall₂ hListed hMem with
    ⟨⟨name, table⟩, hFound, hName, hProperties⟩
  have hStored : (name, table) ∈ sections.entries :=
    hPerm.mem_iff.mp hFound
  refine ⟨table, ?_, hProperties⟩
  rw [show heading = name from hName]
  exact (sections.get?_eq_some_iff_mem name table).mpr
    hStored

/- Every section is listed under its heading. -/
theorem mem_of_get?
    (hListing : sections.IsListedAs listing)
    {heading : String}
    {table : Table String String}
    (hStored : sections.get? heading = some table) :
    ∃ properties,
      (heading, properties) ∈ listing ∧
        properties.Perm table.entries := by
  rcases hListing with ⟨entries, hPerm, hListed⟩
  have hEntry : (heading, table) ∈ entries :=
    hPerm.mem_iff.mpr
      ((sections.get?_eq_some_iff_mem heading table).mp
        hStored)
  rcases Canonical.exists_of_mem_forall₂ hListed.flip
      hEntry with
    ⟨⟨name, properties⟩, hMem, hName, hProperties⟩
  rw [show name = heading from hName] at hMem
  exact ⟨properties, hMem, hProperties⟩

/- A heading is listed exactly if it has a section. -/
theorem mem_keys_iff
    (hListing : sections.IsListedAs listing)
    (heading : String) :
    heading ∈ sections.keys ↔
      ∃ properties, (heading, properties) ∈ listing := by
  rw [sections.mem_keys_iff, Option.isSome_iff_exists]
  constructor
  · intro hSection
    rcases hSection with ⟨table, hStored⟩
    rcases hListing.mem_of_get? hStored with
      ⟨properties, hMem, -⟩
    exact ⟨properties, hMem⟩
  · intro hListed
    rcases hListed with ⟨properties, hMem⟩
    rcases hListing.get?_of_mem hMem with
      ⟨table, hStored, -⟩
    exact ⟨table, hStored⟩

end Sections.IsListedAs

end LayeredSettings

------------------------------------------------------------
-- Designations of Config Files
------------------------------------------------------------

namespace LayeredSettings

namespace Designation

open Sections

/- The name after the keyword is found as it is described. -/
theorem afterKeyword_eq_some_iff
    {heading name : String} :
    afterKeyword heading = some name ↔
      IsPrefixed heading name := by
  have hTrim (blank : Char) (rest : List Char)
      (hBlank : Text.isBlank blank = true) :
      Text.trim Text.isWhiteSpace (blank :: rest) =
        Text.trim Text.isWhiteSpace rest := by
    rw [← List.singleton_append]
    exact Text.trim_append_of_forall
      (List.forall_mem_singleton.mpr
        (Text.isWhiteSpace_of_isBlank hBlank))
  constructor
  · intro hFound
    unfold afterKeyword at hFound
    cases hAfter :
        Text.after? keyword.toList heading.toList with
    | none => simp [hAfter] at hFound
    | some found =>
        cases found with
        | nil => simp [hAfter] at hFound
        | cons blank rest =>
            by_cases hBlank : Text.isBlank blank = true
            · have hName :
                  String.ofList (Text.trim Text.isWhiteSpace
                    (blank :: rest)) = name := by
                simpa [hAfter, hBlank] using hFound
              refine
                ⟨blank, rest,
                  Text.after?_eq_some_iff.mp hAfter,
                  by simpa [Text.isBlank] using hBlank, ?_⟩
              rw [← hName, String.toList_ofList,
                hTrim blank rest hBlank]
            · simp [hAfter, hBlank] at hFound
  · intro hPrefixed
    rcases hPrefixed with
      ⟨blank, rest, hHeading, hEither, hName⟩
    have hBlank : Text.isBlank blank = true := by
      simpa [Text.isBlank] using hEither
    have hAfter :
        Text.after? keyword.toList heading.toList =
          some (blank :: rest) :=
      Text.after?_eq_some_iff.mpr hHeading
    unfold afterKeyword
    simp only [hAfter, hBlank, if_true]
    rw [hTrim blank rest hBlank, ← hName,
      String.ofList_toList]

/- The bare heading of the default profile has no keyword. -/
theorem not_isPrefixed_default
    (name : String) :
    ¬ IsPrefixed "default" name := by
  intro hPrefixed
  rcases hPrefixed with ⟨blank, rest, hHeading, -⟩
  exact absurd (List.cons.inj hHeading).1 (by decide)

theorem ofConfig_eq_bareDefault_iff
    {heading : String} :
    ofConfig heading = .bareDefault ↔
      heading = "default" := by
  unfold ofConfig
  by_cases hBare : heading = "default"
  · simp [hBare]
  · rw [if_neg hBare]
    cases afterKeyword heading with
    | none => simp [hBare]
    | some name =>
        by_cases hName : name = "default" <;>
          simp [hBare, hName]

theorem ofConfig_eq_prefixedDefault_iff
    {heading : String} :
    ofConfig heading = .prefixedDefault ↔
      IsPrefixed heading "default" := by
  unfold ofConfig
  by_cases hBare : heading = "default"
  · subst hBare
    simp [not_isPrefixed_default]
  · rw [if_neg hBare, ← afterKeyword_eq_some_iff]
    cases afterKeyword heading with
    | none => simp
    | some name =>
        by_cases hName : name = "default" <;> simp [hName]

theorem ofConfig_eq_named_iff
    {heading name : String} :
    ofConfig heading = .named name ↔
      IsPrefixed heading name ∧ name ≠ "default" := by
  unfold ofConfig
  by_cases hBare : heading = "default"
  · subst hBare
    simp [not_isPrefixed_default]
  · rw [if_neg hBare, ← afterKeyword_eq_some_iff]
    cases afterKeyword heading with
    | none => simp
    | some found =>
        by_cases hFound : found = "default"
        · subst hFound
          simp +contextual [eq_comm]
        · simp only [if_neg hFound, named.injEq,
            Option.some.injEq]
          constructor
          · intro hName
            subst hName
            exact ⟨rfl, hFound⟩
          · intro hBoth
            exact hBoth.1

theorem ofConfig_eq_nothing_iff
    {heading : String} :
    ofConfig heading = .nothing ↔
      heading ≠ "default" ∧
        ∀ name, ¬ IsPrefixed heading name := by
  unfold ofConfig
  by_cases hBare : heading = "default"
  · simp [hBare]
  · simp only [if_neg hBare, ← afterKeyword_eq_some_iff]
    cases afterKeyword heading with
    | none => simp [hBare]
    | some name =>
        by_cases hName : name = "default" <;> simp [hName]

end Designation

end LayeredSettings
