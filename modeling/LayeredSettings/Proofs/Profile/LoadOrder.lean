import LayeredSettings.Proofs.Profile.AnyOrder
import LayeredSettings.Proofs.Profile.Loading

/-
  Loads that go through the sections of their files in any
  order.

  Key definitions include:
    * `Enumeration.backwards`, `Enumeration.relisted`
    * `ProfileFile.ListedBy`
    * `ProfileSet.MatchesInKeys`, `ProfileSet.Matches`
    * `Config.MayLoad`, `Config.MayLoadAlone`,
      `Config.MayUse`
    * `Config.IsUnambiguous`

  Key theorems include:
    * `Enumeration.isListedAs`
    * `Enumeration.exists_list_eq`
    * `ProfileFile.exists_listedBy`
    * `ProfileSet.kept_of_addFiles`,
      `ProfileSet.related_of_addFiles`
    * `ProfileSet.MatchesInKeys.mergeFile`
    * `ProfileSet.IsMerged.matches`
    * `Config.loadProfilesIn_eq_error_iff`
    * `Config.MayLoad.matchesInKeys`
    * `Config.MayLoad.matches`

  Two loads of the same files need not go through them in the
  same order.  They fail alike, and otherwise they come to
  the same profiles with the same keys.  The values may
  differ, but only if some file gives a key two of them.
-/

------------------------------------------------------------
-- Listings of an Order
------------------------------------------------------------

namespace LayeredSettings

/- The headings of a listing are those of the sections. -/
theorem Sections.IsListedAs.headings_perm
    {sections : Sections}
    {listing : List (String × List (String × String))}
    (hListing : sections.IsListedAs listing) :
    (listing.map Prod.fst).Perm sections.keys := by
  rcases hListing with ⟨entries, hPerm, hListed⟩
  have hHeadings :
      listing.map Prod.fst = entries.map Prod.fst := by
    clear hPerm
    induction hListed with
    | nil => rfl
    | cons hHead _ ih =>
        rw [List.map_cons, List.map_cons, hHead.1, ih]
  rw [hHeadings]
  exact hPerm.map Prod.fst

namespace Enumeration

@[simp]
theorem list_written
    (kind : FileKind)
    (sections : Sections) :
    written.list kind sections = sections.toLists := rfl

/- An order lists the sections and their properties. -/
theorem isListedAs
    (order : Enumeration)
    (kind : FileKind)
    (sections : Sections) :
    sections.IsListedAs (order.list kind sections) := by
  -- a heading with the section that is stored under it
  let stored : String → String × Table String String :=
    fun heading =>
      (heading, (sections.get? heading).getD Table.empty)
  have hStored :
      sections.keys.map stored = sections.entries := by
    unfold Table.keys
    rw [List.map_map]
    conv_rhs => rw [← List.map_id sections.entries]
    apply List.map_congr_left
    intro entry hMem
    have hSection :=
      (sections.get?_eq_some_iff_mem _ _).mpr hMem
    simp [stored, hSection]
  refine
    ⟨((order.list kind sections).map Prod.fst).map stored,
      ?_, ?_⟩
  · rw [← hStored]
    exact (order.headings_perm kind sections).map stored
  · rw [List.map_map, List.forall₂_map_right_iff]
    apply List.forall₂_same.mpr
    intro entry hMem
    rcases order.properties_perm kind sections entry hMem with
      ⟨properties, hSection, hPerm⟩
    refine ⟨rfl, ?_⟩
    simpa [stored, hSection] using hPerm

/- The order of the files from the last line to the first. -/
def backwards : Enumeration where
  list _ sections :=
    (sections.toLists.map fun entry =>
      (entry.1, entry.2.reverse)).reverse
  headings_perm kind sections := by
    rw [List.map_reverse, List.map_map]
    exact
      (List.reverse_perm _).trans
        (written.headings_perm kind sections)
  properties_perm kind sections := by
    intro entry hMem
    rw [List.mem_reverse] at hMem
    rcases List.mem_map.mp hMem with ⟨given, hGiven, rfl⟩
    rcases written.properties_perm kind sections given
        hGiven with ⟨properties, hSection, hPerm⟩
    exact
      ⟨properties, hSection,
        (List.reverse_perm _).trans hPerm⟩

/- The order that lists the sections of one file in a way. -/
def relisted
    (order : Enumeration)
    (kind : FileKind)
    {sections : Sections}
    {listing : List (String × List (String × String))}
    (hListing : sections.IsListedAs listing) :
    Enumeration where
  list other found :=
    if other = kind ∧ found = sections then listing
    else order.list other found
  headings_perm other found := by
    by_cases hSame : other = kind ∧ found = sections
    · rw [if_pos hSame, hSame.2]
      exact hListing.headings_perm
    · rw [if_neg hSame]
      exact order.headings_perm other found
  properties_perm other found := by
    by_cases hSame : other = kind ∧ found = sections
    · rw [if_pos hSame, hSame.2]
      exact fun _ => hListing.get?_of_mem
    · rw [if_neg hSame]
      exact order.properties_perm other found

/- The two files of a load may be listed in any two ways. -/
theorem exists_list_eq
    {first second : Sections}
    {listing other : List (String × List (String × String))}
    (hConfig : first.IsListedAs listing)
    (hCredentials : second.IsListedAs other) :
    ∃ order : Enumeration,
      order.list .config first = listing ∧
        order.list .credentials second = other := by
  refine
    ⟨(written.relisted .config hConfig).relisted .credentials
      hCredentials, ?_, ?_⟩
  · simp [relisted]
  · simp [relisted]

end Enumeration

end LayeredSettings

------------------------------------------------------------
-- Files Added in Two Orders
------------------------------------------------------------

namespace LayeredSettings

/- Orders in which the listings of two files are related. -/
def ProfileFile.ListedBy
    (R :
      List (String × List (String × String)) →
        List (String × List (String × String)) → Prop)
    (left right : Enumeration)
    (file other : ProfileFile) : Prop :=
  ∀ sections found,
    Sections.parse file.path file.text = .ok sections →
      Sections.parse other.path other.text = .ok found →
        R (left.list file.kind sections)
          (right.list other.kind found)

/-
  If to each listing of one file there is a related listing
  of another, there is one to the listing of an order.
-/
theorem ProfileFile.exists_listedBy
    {R :
      List (String × List (String × String)) →
        List (String × List (String × String)) → Prop}
    {file other : ProfileFile}
    (hRelated :
      ∀ sections found listing,
        Sections.parse file.path file.text = .ok sections →
          Sections.parse other.path other.text = .ok found →
            sections.IsListedAs listing →
              ∃ given,
                found.IsListedAs given ∧ R listing given)
    (left : Enumeration) :
    ∃ found : Sections, ∃ given,
      found.IsListedAs given ∧
        ∀ right : Enumeration,
          right.list other.kind found = given →
            ListedBy R left right file other := by
  unfold ListedBy
  cases hSections : Sections.parse file.path file.text with
  | error error =>
      refine
        ⟨Table.empty, _, left.isListedAs file.kind _, ?_⟩
      intro right _ sections found hParse
      cases hParse
  | ok sections =>
      cases hFound :
          Sections.parse other.path other.text with
      | error error =>
          refine
            ⟨Table.empty, _, left.isListedAs file.kind _, ?_⟩
          intro right _ first second _ hParse
          cases hParse
      | ok found =>
          rcases hRelated sections found _ hSections hFound
              (left.isListedAs file.kind sections) with
            ⟨given, hGiven, hListings⟩
          refine ⟨found, given, hGiven, ?_⟩
          intro right hList first second hFirst hSecond
          cases hFirst
          cases hSecond
          rw [hList]
          exact hListings

namespace ProfileSet

open Sections

variable {base old set last : ProfileSet}
variable {first second : Enumeration}
variable {file : ProfileFile}
variable {files others : List ProfileFile}

/- A file that is added was parsed and merged. -/
theorem exists_mergeFile_of_addFiles_cons
    (hAdded :
      (base.addFiles first (file :: files)).outcome =
        .ok set) :
    ∃ sections,
      parse file.path file.text = .ok sections ∧
        ((base.mergeFile file.kind
          (first.list file.kind sections)).value.addFiles
            first files).outcome = .ok set := by
  rw [outcome_addFiles_cons, outcome_addFile] at hAdded
  cases hParse : parse file.path file.text with
  | error error =>
      rw [hParse] at hAdded
      cases hAdded
  | ok sections =>
      rw [hParse] at hAdded
      exact ⟨sections, rfl, hAdded⟩

/- Files fail with one error, whatever they are added to. -/
theorem addFiles_eq_error
    {error : LoadError}
    (hAdded :
      (base.addFiles first files).outcome = .error error)
    (old : ProfileSet)
    (second : Enumeration) :
    (old.addFiles second files).outcome = .error error := by
  induction files generalizing base old with
  | nil => cases hAdded
  | cons file rest ih =>
      rw [outcome_addFiles_cons, outcome_addFile]
        at hAdded ⊢
      cases hParse : parse file.path file.text with
      | error fault =>
          rw [hParse] at hAdded
          exact hAdded
      | ok sections =>
          rw [hParse] at hAdded
          exact ih hAdded _

/- What each file keeps is kept by all of them. -/
theorem kept_of_addFiles
    {P : ProfileSet → Prop}
    (hStep :
      ∀ (file : ProfileFile) (sections : Sections),
        parse file.path file.text = .ok sections →
          ∀ base : ProfileSet,
            P base →
              P (base.mergeFile file.kind
                (first.list file.kind sections)).value)
    (hBase : P base)
    (hAdded : (base.addFiles first files).outcome = .ok set) :
    P set := by
  induction files generalizing base with
  | nil =>
      cases hAdded
      exact hBase
  | cons file rest ih =>
      rcases exists_mergeFile_of_addFiles_cons hAdded with
        ⟨sections, hParse, hRest⟩
      exact ih (hStep file sections hParse base hBase) hRest

/- What files are merged to is coherent. -/
theorem isCoherent_of_ofFiles
    {selected : String}
    (hSet : (ofFiles first files selected).outcome = .ok set) :
    set.IsCoherent := by
  apply kept_of_addFiles _ (isCoherent_empty selected) hSet
  intro file sections _ base hBase
  exact isCoherent_mergeFile hBase _ _

/- No file has a say in which profile is selected. -/
theorem selected_of_ofFiles
    {selected : String}
    (hSet : (ofFiles first files selected).outcome = .ok set) :
    set.selected = selected := by
  apply
    kept_of_addFiles (P := fun set => set.selected = selected)
      _ rfl hSet
  intro file sections _ base hBase
  rw [selected_mergeFile, hBase]

/-
  What each pair of files keeps is kept by all of them, in
  whichever orders their sections are merged.
-/
theorem related_of_addFiles
    {R : ProfileSet → ProfileSet → Prop}
    {P : ProfileFile → ProfileFile → Prop}
    (hStep :
      ∀ file other,
        P file other →
          ∀ sections found,
            parse file.path file.text = .ok sections →
              parse other.path other.text = .ok found →
                ∀ base old,
                  R base old →
                    R
                      (base.mergeFile file.kind
                        (first.list file.kind
                          sections)).value
                      (old.mergeFile other.kind
                        (second.list other.kind
                          found)).value)
    (hFiles : List.Forall₂ P files others)
    (hBase : R base old)
    (hAdded : (base.addFiles first files).outcome = .ok set)
    (hOther : (old.addFiles second others).outcome = .ok last) :
    R set last := by
  induction hFiles generalizing base old with
  | nil =>
      cases hAdded
      cases hOther
      exact hBase
  | cons hFile _ ih =>
      rcases exists_mergeFile_of_addFiles_cons hAdded with
        ⟨sections, hParse, hRest⟩
      rcases exists_mergeFile_of_addFiles_cons hOther with
        ⟨found, hFound, hOtherRest⟩
      have hMerged :=
        hStep _ _ hFile sections found hParse hFound base old
          hBase
      exact ih hMerged hRest hOtherRest

/- So it is by the same files, in two orders. -/
theorem related_of_ofFiles
    {R : ProfileSet → ProfileSet → Prop}
    {selected : String}
    (hStep :
      ∀ file ∈ files,
        ∀ sections,
          parse file.path file.text = .ok sections →
            ∀ base old,
              R base old →
                R
                  (base.mergeFile file.kind
                    (first.list file.kind sections)).value
                  (old.mergeFile file.kind
                    (second.list file.kind sections)).value)
    (hEmpty : R (empty selected) (empty selected))
    (hSet : (ofFiles first files selected).outcome = .ok set)
    (hLast :
      (ofFiles second files selected).outcome = .ok last) :
    R set last := by
  apply
    related_of_addFiles
      (P := fun file other => file ∈ files ∧ file = other)
      _ _ hEmpty hSet hLast
  · rintro file _ ⟨hMem, rfl⟩ sections found hParse hFound
      base old hBase
    rw [hParse] at hFound
    cases hFound
    exact hStep file hMem sections hParse base old hBase
  · exact List.forall₂_same.mpr fun file hMem => ⟨hMem, rfl⟩

end ProfileSet

end LayeredSettings

------------------------------------------------------------
-- Sets That Match
------------------------------------------------------------

namespace LayeredSettings

namespace ProfileSet

variable {base old set other : ProfileSet}
variable {kind : FileKind}
variable {sections : Sections}

/- Sets of the same profiles with the same keys. -/
structure MatchesInKeys
    (set other : ProfileSet) : Prop where
  selected_eq : set.selected = other.selected
  exists_iff :
    ∀ name,
      (set.profile? name).isSome ↔
        (other.profile? name).isSome
  property_iff :
    ∀ name key,
      (set.property? name key).isSome ↔
        (other.property? name key).isSome

/- Sets that are the same, but for the order of things. -/
structure Matches
    (set other : ProfileSet) : Prop where
  selected_eq : set.selected = other.selected
  exists_iff :
    ∀ name,
      (set.profile? name).isSome ↔
        (other.profile? name).isSome
  property_eq :
    ∀ name key,
      set.property? name key = other.property? name key

theorem MatchesInKeys.refl
    (set : ProfileSet) :
    set.MatchesInKeys set :=
  ⟨rfl, fun _ => Iff.rfl, fun _ _ => Iff.rfl⟩

theorem Matches.refl
    (set : ProfileSet) :
    set.Matches set :=
  ⟨rfl, fun _ => Iff.rfl, fun _ _ => rfl⟩

/- A file gives the same keys in any two orders. -/
theorem MatchesInKeys.mergeFile
    {listing given : List (String × List (String × String))}
    (hBase : base.MatchesInKeys old)
    (hListing : sections.IsListedAs listing)
    (hGiven : sections.IsListedAs given) :
    (base.mergeFile kind listing).value.MatchesInKeys
      (old.mergeFile kind given).value := by
  constructor
  · rw [selected_mergeFile, selected_mergeFile,
      hBase.selected_eq]
  · intro name
    rw [isSome_profile?_mergeFile_iff base kind hListing,
      isSome_profile?_mergeFile_iff old kind hGiven,
      hBase.exists_iff]
  · intro name key
    rw [isSome_property?_mergeFile_iff base kind hListing,
      isSome_property?_mergeFile_iff old kind hGiven,
      hBase.property_iff]

/- What sections are merged to matches if the rest does. -/
theorem IsMerged.matches
    (hMerged : base.IsMerged kind sections set)
    (hOther : old.IsMerged kind sections other)
    (hBase : base.Matches old) :
    set.Matches other := by
  constructor
  · rw [hMerged.selected, hOther.selected, hBase.selected_eq]
  · intro name
    rw [hMerged.exists_iff, hOther.exists_iff,
      hBase.exists_iff]
  · intro name key
    by_cases hGiven :
        ∃ value, sections.Gives kind name key value
    · rcases hGiven with ⟨value, hGives⟩
      rw [hMerged.given name key value hGives,
        hOther.given name key value hGives]
    · have hNone := not_exists.mp hGiven
      by_cases hSupersedes : sections.Supersedes kind name
      · rw [hMerged.dropped name key hNone hSupersedes,
          hOther.dropped name key hNone hSupersedes]
      · rw [hMerged.kept name key hNone hSupersedes,
          hOther.kept name key hNone hSupersedes,
          hBase.property_eq]

variable {first second : Enumeration}
variable {files : List ProfileFile}
variable {selected : String}

/- Files come to sets that match in keys, in any orders. -/
theorem matchesInKeys_of_ofFiles
    (hSet : (ofFiles first files selected).outcome = .ok set)
    (hOther :
      (ofFiles second files selected).outcome = .ok other) :
    set.MatchesInKeys other := by
  apply related_of_ofFiles _ (.refl _) hSet hOther
  intro file _ sections _ base old hBase
  exact
    hBase.mergeFile (first.isListedAs file.kind sections)
      (second.isListedAs file.kind sections)

/- They match if no file gives a key two values. -/
theorem matches_of_ofFiles
    (hOnce :
      ∀ file ∈ files,
        ∀ name, Sections.SaysOnce file.kind name file.text)
    (hSet : (ofFiles first files selected).outcome = .ok set)
    (hOther :
      (ofFiles second files selected).outcome = .ok other) :
    set.Matches other := by
  apply related_of_ofFiles _ (.refl _) hSet hOther
  intro file hMem sections hParse base old hBase
  have hUnambiguous : sections.IsUnambiguous file.kind :=
    fun name => hOnce file hMem name _ _ hParse
  exact
    (isMerged_mergeFile base file.kind
      (first.isListedAs file.kind sections)
      hUnambiguous).matches
      (isMerged_mergeFile old file.kind
        (second.isListedAs file.kind sections) hUnambiguous)
      hBase

end ProfileSet

end LayeredSettings

------------------------------------------------------------
-- Loads in Any Order
------------------------------------------------------------

namespace LayeredSettings

namespace Config

variable {config : Config}
variable {host : Host}
variable {kind : FileKind}
variable {set other : ProfileSet}
variable {loaded : Config}

/- A set that a load may come to. -/
def MayLoad
    (config : Config)
    (host : Host)
    (set : ProfileSet) : Prop :=
  ∃ order,
    (config.loadProfilesIn order host).outcome = .ok set

/- A set that one of the files may load to on its own. -/
def MayLoadAlone
    (config : Config)
    (host : Host)
    (kind : FileKind)
    (set : ProfileSet) : Prop :=
  ∃ order,
    (config.loadAlone order host kind).outcome = .ok set

/- A config that may be in use after a load. -/
def MayUse
    (config : Config)
    (host : Host)
    (loaded : Config) : Prop :=
  ∃ order,
    (config.withLoadedProfilesIn order host).outcome =
      .ok loaded

/- No file of the config gives a key two values. -/
def IsUnambiguous
    (config : Config)
    (host : Host) : Prop :=
  ∀ files selected,
    (config.profileFiles host).outcome =
        .ok (files, selected) →
      ∀ file ∈ files,
        ∀ name, Sections.SaysOnce file.kind name file.text

/- Files in which keys agree are unambiguous. -/
theorem isUnambiguous_of_keysAgree
    (hAgree :
      ∀ files selected,
        (config.profileFiles host).outcome =
            .ok (files, selected) →
          ∀ file ∈ files,
            ∃ sections : Sections,
              (∀ path,
                Sections.parse path file.text =
                  .ok sections) ∧
                sections.KeysAgree) :
    config.IsUnambiguous host := by
  intro files selected hFiles file hMem name
  rcases hAgree files selected hFiles file hMem with
    ⟨sections, hParse, hKeys⟩
  exact hKeys.saysOnce hParse file.kind name

/- What is loaded is used. -/
theorem outcome_withLoadedProfilesIn
    (config : Config)
    (order : Enumeration)
    (host : Host) :
    (config.withLoadedProfilesIn order host).outcome =
      (config.loadProfilesIn order host).outcome.map
        config.withProfiles := by
  unfold withLoadedProfilesIn
  rw [Attempt.outcome_bind]
  cases (config.loadProfilesIn order host).outcome with
  | error error => rfl
  | ok set => rfl

theorem withLoadedProfilesIn_eq_ok_iff
    {order : Enumeration} :
    (config.withLoadedProfilesIn order host).outcome =
        .ok loaded ↔
      ∃ set,
        (config.loadProfilesIn order host).outcome =
            .ok set ∧
          loaded = config.withProfiles set := by
  rw [outcome_withLoadedProfilesIn]
  cases (config.loadProfilesIn order host).outcome with
  | error error => simp [Except.map]
  | ok set => simp [Except.map, eq_comm]

theorem mayUse_iff :
    config.MayUse host loaded ↔
      ∃ set,
        config.MayLoad host set ∧
          loaded = config.withProfiles set := by
  unfold MayUse MayLoad
  simp only [withLoadedProfilesIn_eq_ok_iff,
    ← exists_and_right]
  exact exists_comm

/- A set that is loaded comes from the files that are found. -/
theorem exists_ofFiles_of_loadProfilesIn
    {order : Enumeration}
    (hLoaded :
      (config.loadProfilesIn order host).outcome =
        .ok set) :
    ∃ files selected,
      (config.profileFiles host).outcome =
          .ok (files, selected) ∧
        (ProfileSet.ofFiles order files selected).outcome =
          .ok set := by
  rw [outcome_loadProfilesIn] at hLoaded
  cases hFiles : (config.profileFiles host).outcome with
  | error cause =>
      rw [hFiles] at hLoaded
      cases hLoaded
  | ok found =>
      rcases found with ⟨files, selected⟩
      rw [hFiles] at hLoaded
      exact ⟨files, selected, rfl, hLoaded⟩

/- So does a set that one of the files loads to. -/
theorem exists_ofFiles_of_loadAlone
    {order : Enumeration}
    (hLoaded :
      (config.loadAlone order host kind).outcome =
        .ok set) :
    ∃ files selected,
      (config.profileFiles host).outcome =
          .ok (files, selected) ∧
        (ProfileSet.ofFiles order
          (files.filter fun file => file.kind = kind)
            selected).outcome = .ok set := by
  rw [outcome_loadAlone] at hLoaded
  cases hFiles : (config.profileFiles host).outcome with
  | error cause =>
      rw [hFiles] at hLoaded
      cases hLoaded
  | ok found =>
      rcases found with ⟨files, selected⟩
      rw [hFiles] at hLoaded
      exact ⟨files, selected, rfl, hLoaded⟩

/- Loads fail with the same error in all orders. -/
theorem loadProfilesIn_eq_error_iff
    (first second : Enumeration)
    (error : LoadError) :
    (config.loadProfilesIn first host).outcome =
        .error error ↔
      (config.loadProfilesIn second host).outcome =
        .error error := by
  rw [outcome_loadProfilesIn, outcome_loadProfilesIn]
  cases (config.profileFiles host).outcome with
  | error cause => exact Iff.rfl
  | ok found =>
      constructor
      · intro hFirst
        exact ProfileSet.addFiles_eq_error hFirst _ second
      · intro hSecond
        exact ProfileSet.addFiles_eq_error hSecond _ first

/- What loads in one order loads in every order. -/
theorem MayLoad.exists_loadProfilesIn
    (hLoad : config.MayLoad host set)
    (order : Enumeration) :
    ∃ last,
      (config.loadProfilesIn order host).outcome =
        .ok last := by
  rcases hLoad with ⟨first, hFirst⟩
  cases hOutcome :
      (config.loadProfilesIn order host).outcome with
  | ok last => exact ⟨last, rfl⟩
  | error error =>
      rw [loadProfilesIn_eq_error_iff order first, hFirst]
        at hOutcome
      cases hOutcome

/- Two sets that may be loaded come from the same files. -/
theorem MayLoad.exists_ofFiles
    (hSet : config.MayLoad host set)
    (hOther : config.MayLoad host other) :
    ∃ files selected first second,
      (config.profileFiles host).outcome =
          .ok (files, selected) ∧
        (ProfileSet.ofFiles first files selected).outcome =
            .ok set ∧
          (ProfileSet.ofFiles second files
            selected).outcome = .ok other := by
  rcases hSet with ⟨first, hFirst⟩
  rcases hOther with ⟨second, hSecond⟩
  rcases exists_ofFiles_of_loadProfilesIn hFirst with
    ⟨files, selected, hFiles, hLoaded⟩
  rcases exists_ofFiles_of_loadProfilesIn hSecond with
    ⟨found, chosen, hFound, hLast⟩
  rw [hFiles] at hFound
  cases hFound
  exact
    ⟨files, selected, first, second, hFiles, hLoaded, hLast⟩

/- Loads come to the same profiles with the same keys. -/
theorem MayLoad.matchesInKeys
    (hSet : config.MayLoad host set)
    (hOther : config.MayLoad host other) :
    set.MatchesInKeys other := by
  rcases hSet.exists_ofFiles hOther with
    ⟨_, _, _, _, _, hFirst, hSecond⟩
  exact ProfileSet.matchesInKeys_of_ofFiles hFirst hSecond

/- They come to the same if no file gives a key two values. -/
theorem MayLoad.matches
    (hSet : config.MayLoad host set)
    (hOther : config.MayLoad host other)
    (hOnce : config.IsUnambiguous host) :
    set.Matches other := by
  rcases hSet.exists_ofFiles hOther with
    ⟨files, selected, _, _, hFiles, hFirst, hSecond⟩
  exact
    ProfileSet.matches_of_ofFiles (hOnce files selected hFiles)
      hFirst hSecond

/- Whatever is loaded is coherent. -/
theorem MayLoad.isCoherent
    (hSet : config.MayLoad host set) :
    set.IsCoherent := by
  rcases hSet.exists_ofFiles hSet with
    ⟨_, _, _, _, _, hLoaded, -⟩
  exact ProfileSet.isCoherent_of_ofFiles hLoaded

/- So do two sets that one of the files may load to. -/
theorem MayLoadAlone.exists_ofFiles
    (hSet : config.MayLoadAlone host kind set)
    (hOther : config.MayLoadAlone host kind other) :
    ∃ files selected first second,
      (config.profileFiles host).outcome =
          .ok (files, selected) ∧
        (ProfileSet.ofFiles first
          (files.filter fun file => file.kind = kind)
            selected).outcome = .ok set ∧
          (ProfileSet.ofFiles second
            (files.filter fun file => file.kind = kind)
              selected).outcome = .ok other := by
  rcases hSet with ⟨first, hFirst⟩
  rcases hOther with ⟨second, hSecond⟩
  rcases exists_ofFiles_of_loadAlone hFirst with
    ⟨files, selected, hFiles, hLoaded⟩
  rcases exists_ofFiles_of_loadAlone hSecond with
    ⟨found, chosen, hFound, hLast⟩
  rw [hFiles] at hFound
  cases hFound
  exact
    ⟨files, selected, first, second, hFiles, hLoaded, hLast⟩

/- One file on its own loads to coherent profiles. -/
theorem MayLoadAlone.isCoherent
    (hSet : config.MayLoadAlone host kind set) :
    set.IsCoherent := by
  rcases hSet.exists_ofFiles hSet with
    ⟨_, _, _, _, _, hLoaded, -⟩
  exact ProfileSet.isCoherent_of_ofFiles hLoaded

/- In every order it loads to the same keys. -/
theorem MayLoadAlone.matchesInKeys
    (hSet : config.MayLoadAlone host kind set)
    (hOther : config.MayLoadAlone host kind other) :
    set.MatchesInKeys other := by
  rcases hSet.exists_ofFiles hOther with
    ⟨_, _, _, _, _, hFirst, hSecond⟩
  exact ProfileSet.matchesInKeys_of_ofFiles hFirst hSecond

/- And to the same values, if no key is given two of them. -/
theorem MayLoadAlone.matches
    (hSet : config.MayLoadAlone host kind set)
    (hOther : config.MayLoadAlone host kind other)
    (hOnce : config.IsUnambiguous host) :
    set.Matches other := by
  rcases hSet.exists_ofFiles hOther with
    ⟨files, selected, _, _, hFiles, hFirst, hSecond⟩
  refine ProfileSet.matches_of_ofFiles ?_ hFirst hSecond
  intro file hMem
  exact hOnce files selected hFiles file
    (List.mem_of_mem_filter hMem)

end Config

end LayeredSettings
