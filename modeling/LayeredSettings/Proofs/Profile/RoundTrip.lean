import LayeredSettings.Proofs.Profile.DocumentReading
import LayeredSettings.Proofs.Profile.LoadOrder

/-
  Canonical profile sets that are written and loaded.

  Key theorems include:
    * `Canonical.value_addSection`
    * `Canonical.addSections_sectionsOf`
    * `Canonical.Writes.saysOnce`
    * `Config.loadProfiles_of_writes`

  The sections of a listing are merged one by one.  No name
  comes twice, so each section starts a profile of its own,
  and a claim of the default profile drops nothing.  Nor does
  a key come twice, so any other order loads to the same.
-/

------------------------------------------------------------
-- Designations
------------------------------------------------------------

namespace LayeredSettings

namespace Canonical

/- The heading of a profile has the name after the keyword. -/
theorem IsName.afterKeyword_heading
    {name : String}
    (hName : IsName name) :
    Designation.afterKeyword ("profile " ++ name) =
      some name := by
  have hAfter :
      Text.after? Designation.keyword.toList
          ("profile " ++ name).toList =
        some (' ' :: name.toList) := by
    rw [Text.after?_eq_some_iff, String.toList_append]
    rfl
  have hSpace :
      ∀ c ∈ name.toList, Text.isWhiteSpace c = false :=
    fun c hMem => (hName.plain c hMem).1
  have hTrim :
      Text.trim Text.isWhiteSpace (' ' :: name.toList) =
        name.toList := by
    rw [← List.singleton_append,
      Text.trim_append_of_forall
        (List.forall_mem_singleton.mpr rfl)]
    apply Text.trim_eq_self
    · intro c hFirst
      exact hSpace c (List.mem_of_head? hFirst)
    · intro c hLast
      exact hSpace c (List.mem_of_getLast? hLast)
  have hBlank : Text.isBlank ' ' = true := rfl
  unfold Designation.afterKeyword
  rw [hAfter]
  dsimp only
  rw [if_pos hBlank, hTrim, String.ofList_toList]

/- It is not the bare heading of the default profile. -/
theorem heading_config_ne_default
    (name : String) :
    "profile " ++ name ≠ "default" := by
  intro hSame
  have hChars := congrArg String.toList hSame
  rw [String.toList_append] at hChars
  exact absurd (List.cons.inj hChars).1 (by decide)

/- The heading of a profile designates that profile. -/
theorem IsName.designation_heading
    {name : String}
    (hName : IsName name)
    (kind : FileKind) :
    Designation.of kind (heading kind name) =
      if kind = .config ∧ name = "default" then
        .prefixedDefault
      else .named name := by
  cases kind with
  | credentials => rfl
  | config =>
      unfold Designation.of Designation.ofConfig heading
      dsimp only
      rw [if_neg (heading_config_ne_default name),
        hName.afterKeyword_heading]
      simp

/- A profile has contributions from its own heading only. -/
theorem IsName.eq_of_contributes
    {sections : Sections}
    {kind : FileKind}
    {name other : String}
    (hName : IsName name)
    (hContributes :
      sections.Contributes kind (heading kind name) other) :
    name = other := by
  have hDesignates := hContributes.designates
  cases kind with
  | credentials => exact hDesignates
  | config =>
      rcases hDesignates with hPrefixed | ⟨hBare, _⟩
      · have hFound :=
          Designation.afterKeyword_eq_some_iff.mpr hPrefixed
        exact
          Option.some.inj
            (hName.afterKeyword_heading.symm.trans hFound)
      · exact absurd hBare (heading_config_ne_default name)

end Canonical

end LayeredSettings

------------------------------------------------------------
-- Merging Listings
------------------------------------------------------------

namespace LayeredSettings

namespace Canonical

/- What a profile is given of a key that is listed once. -/
theorem givenProperty_eq
    {properties : List (String × String)}
    (hNodup : (properties.map Prod.fst).Nodup)
    (hKeys : ∀ property ∈ properties, IsKey property.1)
    (key : String) :
    Merge.givenProperty key properties =
      (Entries.get? key properties).map (Property.mk key) := by
  induction properties with
  | nil => rfl
  | cons property rest ih =>
      rcases property with ⟨written, value⟩
      have hKey := hKeys (written, value) (by simp)
      rw [List.map_cons, List.nodup_cons] at hNodup
      have hRest :=
        ih hNodup.2 fun other h => hKeys other (by simp [h])
      unfold Merge.givenProperty Entries.get?
      rw [hRest, hKey.lowerCase_eq]
      by_cases hSame : written = key
      · subst hSame
        have hNone : Entries.get? written rest = none := by
          rw [Entries.mem_keys_iff] at hNodup
          simpa using hNodup.1
        rw [hNone, if_pos rfl,
          if_pos ⟨hKey.isName.isIdentifier, rfl⟩]
        rfl
      · rw [if_neg hSame, if_neg (hSame ·.2), Option.or_none]

/- A claim drops nothing if there is no default profile. -/
theorem profile?_claimDefault
    {merge : Merge}
    (hDefault : merge.profiles.profile? "default" = none)
    (name : String) :
    merge.claimDefault.value.profiles.profile? name =
      merge.profiles.profile? name := by
  rw [Merge.value_claimDefault]
  split
  · rfl
  · rw [ProfileSet.profile?_remove]
    split
    · next hSame =>
        rw [← hSame, hDefault]
    · rfl

/-
  The section of a profile that is new contributes to it, and
  before that nothing changes.
-/
theorem value_addSection
    {kind : FileKind}
    {merge : Merge}
    {name : String}
    (hName : IsName name)
    (hNew : merge.profiles.profile? name = none)
    (properties : List (String × String)) :
    ∃ claimed : Merge,
      (∀ other,
        claimed.profiles.profile? other =
          merge.profiles.profile? other) ∧
        (merge.addSection kind (heading kind name)
            properties).value =
          (claimed.contribute name properties).value := by
  unfold Merge.addSection
  rw [hName.designation_heading kind]
  by_cases hDefault : kind = .config ∧ name = "default"
  · rw [if_pos hDefault]
    rcases hDefault with ⟨-, rfl⟩
    exact ⟨merge.claimDefault.value,
      profile?_claimDefault hNew, rfl⟩
  · rw [if_neg hDefault]
    exact ⟨merge, fun _ => rfl, rfl⟩

/- Sets with the same profiles have the same properties. -/
theorem property?_congr
    {set other : ProfileSet}
    (hSame : ∀ name, set.profile? name = other.profile? name)
    (name key : String) :
    set.property? name key = other.property? name key := by
  unfold ProfileSet.property?
  rw [hSame]

/- What the section of a new profile adds to a merge. -/
theorem addSection_heading
    {kind : FileKind}
    {merge : Merge}
    {entry : String × List (String × String)}
    (hEntry : IsEntry entry)
    (hNew : merge.profiles.profile? entry.1 = none) :
    let next :=
      (merge.addSection kind (heading kind entry.1)
        entry.2).value.profiles
    (∀ name,
      (next.profile? name).isSome ↔
        entry.1 = name ∨
          (merge.profiles.profile? name).isSome) ∧
    ∀ name key,
      next.value? name key =
        (if entry.1 = name then Entries.get? key entry.2
        else none).or (merge.profiles.value? name key) := by
  rcases value_addSection hEntry.name hNew entry.2 with
    ⟨claimed, hClaimed, hNext⟩
  have hValid := hEntry.name.isIdentifier
  dsimp only
  rw [hNext]
  constructor
  · intro name
    rw [Merge.isSome_profile?_contribute, hClaimed]
    simp [hValid]
  · intro name key
    unfold ProfileSet.value?
    rw [Merge.property?_contribute, property?_congr hClaimed]
    by_cases hSame : entry.1 = name
    · subst hSame
      have hNone :
          merge.profiles.property? entry.1 key = none := by
        unfold ProfileSet.property?
        rw [hNew]
        rfl
      rw [if_pos ⟨rfl, hValid⟩, if_pos rfl, hNone,
        Option.or_none, Option.map_none, Option.or_none,
        givenProperty_eq hEntry.nodup hEntry.keys,
        Option.map_map]
      exact Option.map_id'
    · rw [if_neg (hSame ·.1), if_neg hSame, Option.none_or,
        Option.none_or]

/- The first entry of a listing has the values of its name. -/
theorem listed?_cons
    (entry : String × List (String × String))
    (rest : List (String × List (String × String)))
    (name key : String) :
    listed? (entry :: rest) name key =
      if entry.1 = name then Entries.get? key entry.2
      else listed? rest name key := by
  unfold listed?
  rw [Entries.get?]
  split
  · rfl
  · rfl

/- A name that is not listed has no values. -/
theorem listed?_eq_none
    {listing : List (String × List (String × String))}
    {name : String}
    (hName : name ∉ listing.map Prod.fst)
    (key : String) :
    listed? listing name key = none := by
  rw [Entries.mem_keys_iff, Option.not_isSome_iff_eq_none]
    at hName
  unfold listed?
  rw [hName]
  rfl

/- A name stays new while another profile is added. -/
theorem profile?_addSection_eq_none
    {kind : FileKind}
    {merge : Merge}
    {entry : String × List (String × String)}
    {name : String}
    (hEntry : IsEntry entry)
    (hNew : merge.profiles.profile? entry.1 = none)
    (hName : merge.profiles.profile? name = none)
    (hOther : entry.1 ≠ name) :
    (merge.addSection kind (heading kind entry.1)
      entry.2).value.profiles.profile? name = none := by
  have hIff :=
    (@addSection_heading kind merge entry hEntry hNew).1 name
  rw [← Option.not_isSome_iff_eq_none, hIff, hName]
  simp [hOther]

/- The sections of a listing add what is listed. -/
theorem addSections_sectionsOf
    {kind : FileKind}
    {merge : Merge}
    {listing : List (String × List (String × String))}
    (hListing : IsListing listing)
    (hNew :
      ∀ name ∈ listing.map Prod.fst,
        merge.profiles.profile? name = none) :
    let last :=
      (Merge.addSections kind merge
        (sectionsOf kind listing)).value.profiles
    (∀ name,
      (last.profile? name).isSome ↔
        name ∈ listing.map Prod.fst ∨
          (merge.profiles.profile? name).isSome) ∧
    ∀ name key,
      last.value? name key =
        (listed? listing name key).or
          (merge.profiles.value? name key) := by
  induction listing generalizing merge with
  | nil =>
      constructor
      · intro name
        exact (or_iff_right (by simp)).symm
      · intro name key
        rfl
  | cons entry rest ih =>
      have hNodup := hListing.nodup
      rw [List.map_cons, List.nodup_cons] at hNodup
      have hRest : IsListing rest :=
        ⟨hNodup.2, fun other h =>
          hListing.entries other (by simp [h])⟩
      have hHead : IsEntry entry :=
        hListing.entries entry (by simp)
      have hAdded :=
        @addSection_heading kind merge entry hHead
          (hNew entry.1 (by simp))
      rcases hAdded with ⟨hNames, hValues⟩
      have hLater :
          ∀ name ∈ rest.map Prod.fst,
            (merge.addSection kind (heading kind entry.1)
              entry.2).value.profiles.profile? name =
                none := by
        intro name hMem
        apply profile?_addSection_eq_none hHead
        · exact hNew entry.1 (by simp)
        · exact hNew name (List.mem_cons_of_mem entry.1 hMem)
        · intro hSame
          rw [hSame] at hNodup
          exact hNodup.1 hMem
      rcases ih hRest hLater with ⟨hLastNames, hLastValues⟩
      constructor
      · intro name
        refine (hLastNames name).trans ?_
        rw [hNames name, List.map_cons, List.mem_cons,
          or_left_comm, ← or_assoc]
        exact or_congr_left (or_congr_left eq_comm)
      · intro name key
        refine (hLastValues name key).trans ?_
        rw [hValues name key, listed?_cons]
        by_cases hSame : entry.1 = name
        · subst hSame
          rw [listed?_eq_none hNodup.1 key, if_pos rfl,
            Option.none_or]
        · rw [if_neg hSame, if_neg hSame, Option.none_or]

end Canonical

end LayeredSettings

------------------------------------------------------------
-- Loading
------------------------------------------------------------

namespace LayeredSettings

open Canonical

/- An empty file has no sections. -/
theorem Sections.parse_empty
    (path : String) :
    ∃ sections,
      parse path "" = .ok sections ∧ sections.toLists = [] :=
  ⟨Table.empty, rfl, rfl⟩

/- A text that is written gives every key one value. -/
theorem Canonical.Writes.saysOnce
    {kind : FileKind}
    {listing : List (String × List (String × String))}
    {lines : List (List Char)}
    {text : String}
    (hWrites : Writes kind listing lines)
    (hListing : IsListing listing)
    (hText : IsTextOf lines text)
    (name : String) :
    Sections.SaysOnce kind name text := by
  intro path sections hParse
  rcases hWrites.parse_eq hListing hText path with
    ⟨found, hFound, hSections⟩
  rw [hParse] at hFound
  cases hFound
  -- a value is listed once under the name of its profile
  have hListed (key value : String)
      (hGives : sections.Gives kind name key value) :
      ∃ properties,
        (name, properties) ∈ listing ∧
          (key, value) ∈ properties := by
    rw [Merge.gives_iff sections.isListedAs_toLists,
      hSections] at hGives
    rcases hGives with
      ⟨_, hEntry, hContributes, written, hProperty, _, hKey⟩
    rcases List.mem_map.mp hEntry with ⟨entry, hMem, rfl⟩
    have hCanonical := hListing.entries entry hMem
    have hName := hCanonical.name.eq_of_contributes
      hContributes
    have hLower := (hCanonical.keys _ hProperty).lowerCase_eq
    rw [← hName, ← hKey, hLower]
    exact ⟨entry.2, hMem, hProperty⟩
  intro key first second hFirst hSecond
  rcases hListed key first hFirst with
    ⟨properties, hMem, hFirstMem⟩
  rcases hListed key second hSecond with
    ⟨others, hOther, hSecondMem⟩
  have hSame :=
    List.inj_on_of_nodup_map hListing.nodup hMem hOther rfl
  cases hSame
  have hNodup := (hListing.entries _ hMem).nodup
  have hPair :=
    List.inj_on_of_nodup_map hNodup hFirstMem hSecondMem rfl
  exact congrArg Prod.snd hPair

/- An empty text gives no key a value. -/
theorem Sections.saysOnce_empty
    (kind : FileKind)
    (name : String) :
    SaysOnce kind name "" := by
  have hAgree :
      KeysAgree (Table.empty : Sections) := by
    decide
  exact hAgree.saysOnce (fun _ => rfl) kind name

/- A set that matches has the same values. -/
theorem ProfileSet.Matches.hasSameValues
    {set other last : ProfileSet}
    (hMatches : set.Matches other)
    (hSame : other.HasSameValues last) :
    set.HasSameValues last := by
  constructor
  · intro name
    exact (hMatches.exists_iff name).trans (hSame.names name)
  · intro name key
    rw [← hSame.values name key]
    unfold ProfileSet.value?
    rw [hMatches.property_eq]

/- A listing that is merged alone gives what is listed. -/
theorem Canonical.hasSameValues_mergeFile
    {kind : FileKind}
    {set : ProfileSet}
    {listing : List (String × List (String × String))}
    (hCanonical : set.IsCanonical)
    (hListing : set.IsListedAs listing)
    (selected : String) :
    (((ProfileSet.empty selected).mergeFile kind
        (sectionsOf kind listing)).value).HasSameValues
      set := by
  have hNew :
      ∀ name ∈ listing.map Prod.fst,
        (ProfileSet.empty selected).profile? name = none :=
    fun name _ => ProfileSet.profile?_empty selected name
  have hMerged :=
    @addSections_sectionsOf kind
      ⟨ProfileSet.empty selected, false⟩ listing
      (hListing.isListing hCanonical) hNew
  constructor
  · intro name
    refine (hMerged.1 name).trans ?_
    rw [hListing.mem_iff]
    simp
  · intro name key
    refine (hMerged.2 name key).trans ?_
    rw [hListing.listed?_eq]
    exact Option.or_none

namespace Config

variable {config : Config}
variable {host : Host}
variable {kind : FileKind}
variable {set : ProfileSet}
variable {listing : List (String × List (String × String))}
variable {lines : List (List Char)}
variable {files : List ProfileFile}
variable {selected : String}

/- A set that is written is loaded in the order of its text. -/
theorem loadProfiles_written_of_writes
    (hCanonical : set.IsCanonical)
    (hListing : set.IsListedAs listing)
    (hWrites : Writes kind listing lines)
    (hFiles :
      (config.profileFiles host).outcome =
        .ok (files, selected))
    (hTexts :
      ∀ file ∈ files,
        if file.kind = kind then IsTextOf lines file.text
        else file.text = "") :
    ∃ loaded,
      (config.loadProfilesIn .written host).outcome =
          .ok loaded ∧
        loaded.selected = selected ∧
        loaded.HasSameValues set := by
  have hIsListing := hListing.isListing hCanonical
  have hValues :=
    @hasSameValues_mergeFile kind set listing hCanonical
      hListing selected
  have hSelected :=
    ProfileSet.selected_mergeFile
      (ProfileSet.empty selected) kind
      (sectionsOf kind listing)
  rcases eq_pair_of_profileFiles hFiles with
    ⟨configFile, credentialsFile, rfl, hConfig,
      hCredentials, -⟩
  have hConfigText := hTexts configFile (by simp)
  have hCredentialsText := hTexts credentialsFile (by simp)
  rw [hConfig] at hConfigText
  rw [hCredentials] at hCredentialsText
  rw [outcome_loadProfilesIn, hFiles]
  refine ⟨_, ?_, hSelected, hValues⟩
  cases kind with
  | config =>
      have hEmpty : credentialsFile.text = "" :=
        hCredentialsText
      rcases hWrites.parse_eq hIsListing hConfigText
          configFile.path with ⟨sections, hParse, hSections⟩
      rcases Sections.parse_empty credentialsFile.path with
        ⟨nothing, hNothing, hNone⟩
      rw [← hEmpty] at hNothing
      refine (ProfileSet.outcome_ofFiles_pair hParse hNothing
        .written selected).trans ?_
      rw [Enumeration.list_written, Enumeration.list_written,
        hConfig, hSections, hNone]
      rfl
  | credentials =>
      have hEmpty : configFile.text = "" := hConfigText
      rcases hWrites.parse_eq hIsListing hCredentialsText
          credentialsFile.path with
        ⟨sections, hParse, hSections⟩
      rcases Sections.parse_empty configFile.path with
        ⟨nothing, hNothing, hNone⟩
      rw [← hEmpty] at hNothing
      refine (ProfileSet.outcome_ofFiles_pair hNothing hParse
        .written selected).trans ?_
      rw [Enumeration.list_written, Enumeration.list_written,
        hCredentials, hSections, hNone]
      rfl

/-
  A canonical set that is written, its profiles and the
  properties of each in any order, is loaded as it was: from
  the one file of which the text is written while the other
  file is empty, and whatever order the load takes.
-/
theorem loadProfiles_of_writes
    (hCanonical : set.IsCanonical)
    (hListing : set.IsListedAs listing)
    (hWrites : Writes kind listing lines)
    (hFiles :
      (config.profileFiles host).outcome =
        .ok (files, selected))
    (hTexts :
      ∀ file ∈ files,
        if file.kind = kind then IsTextOf lines file.text
        else file.text = "")
    (order : Enumeration) :
    ∃ loaded,
      (config.loadProfilesIn order host).outcome =
          .ok loaded ∧
        loaded.selected = selected ∧
        loaded.IsCoherent ∧
        loaded.HasSameValues set := by
  have hIsListing := hListing.isListing hCanonical
  have hOnce : config.IsUnambiguous host := by
    intro found chosen hFound file hMem name
    rw [hFiles] at hFound
    cases hFound
    have hText := hTexts file hMem
    by_cases hKind : file.kind = kind
    · rw [if_pos hKind] at hText
      rw [hKind]
      exact hWrites.saysOnce hIsListing hText name
    · rw [if_neg hKind] at hText
      rw [hText]
      exact Sections.saysOnce_empty file.kind name
  rcases loadProfiles_written_of_writes hCanonical hListing
      hWrites hFiles hTexts with
    ⟨first, hFirst, hSelected, hValues⟩
  have hMayFirst : config.MayLoad host first :=
    ⟨.written, hFirst⟩
  rcases hMayFirst.exists_loadProfilesIn order with
    ⟨loaded, hLoaded⟩
  have hMay : config.MayLoad host loaded := ⟨order, hLoaded⟩
  have hMatches := hMay.matches hMayFirst hOnce
  exact
    ⟨loaded, hLoaded, hMatches.selected_eq.trans hSelected,
      hMay.isCoherent, hMatches.hasSameValues hValues⟩

/- A profile of which one value has two lines. -/
def twoProperties : ProfileSet where
  profiles := Table.ofList
    [ ( "a",
        ⟨"a", Table.ofList
          [ ("k", ⟨"k", "1#\n[2]"⟩),
            ("x", ⟨"x", ""⟩) ]⟩ ) ]
  selected := "default"

/- A config file with that profile. -/
def writtenFile : Config :=
  { empty with
    environment := .fixed
      (Table.ofList [("HOME", Utf8.encode "/home")])
    files := .memory
      (Table.ofList
        [ ( Utf8.encode "/home/.aws/config",
            Utf8.encode
              "[profile a]\nx = \nk = 1#\n\t [2]" ) ]) }

/- That profile can be written. -/
theorem isCanonical_twoProperties :
    twoProperties.IsCanonical := by
  have hFirst : IsValue "1#\n[2]" := by
    refine ⟨"1#".toList, ["[2]".toList], rfl, ?_, ?_, ?_⟩
    · exact ⟨by decide, by simp [Text.isBlank],
        by simp [Text.isBlank]⟩
    · exact (Grammar.isUncommented_cutComment "1#".toList).1
    · intro line hMem
      rw [List.mem_singleton.mp hMem]
      exact ⟨⟨by decide, by simp [Text.isBlank],
        by simp [Text.isBlank]⟩, by simp,
        by simp [isCommentMark]⟩
  have hSecond : IsValue "" := by
    refine ⟨[], [], rfl, ?_, ?_, by simp⟩
    · exact ⟨by simp, by simp, by simp⟩
    · exact (Grammar.isUncommented_cutComment []).1
  intro name profile hProfile
  have hEntry :=
    (twoProperties.profiles.get?_eq_some_iff_mem _ _).mp
      hProfile
  rcases List.mem_singleton.mp hEntry with ⟨rfl, rfl⟩
  refine ⟨⟨by simp, List.forall_mem_singleton.mpr ?_⟩, ?_⟩
  · decide
  intro key property hProperty
  have hStored :=
    (Table.get?_eq_some_iff_mem _ _ _).mp hProperty
  rcases List.mem_cons.mp hStored with hHead | hTail
  · rcases Prod.mk.inj hHead with ⟨rfl, rfl⟩
    refine ⟨⟨by simp, List.forall_mem_singleton.mpr ?_⟩,
      hFirst⟩
    decide
  · rcases Prod.mk.inj (List.mem_singleton.mp hTail) with
      ⟨rfl, rfl⟩
    refine ⟨⟨by simp, List.forall_mem_singleton.mpr ?_⟩,
      hSecond⟩
    decide

theorem loadProfiles_writtenFile :
    twoProperties.IsCanonical ∧
      ∀ order,
        ∃ loaded,
          (writtenFile.loadProfilesIn order
              Host.initial).outcome = .ok loaded ∧
            loaded.selected = "default" ∧
            loaded.IsCoherent ∧
            loaded.HasSameValues twoProperties := by
  have hListing :
      twoProperties.IsListedAs
        [("a", [("x", ""), ("k", "1#\n[2]")])] := by
    refine ⟨twoProperties.profiles.entries, .refl _, ?_⟩
    refine .cons ⟨rfl, ?_⟩ .nil
    exact .swap _ _ _
  have hWrites :
      Writes .config
        [("a", [("x", ""), ("k", "1#\n[2]")])]
        [ "[profile a]".toList, "x = ".toList,
          "k = 1#".toList, "\t [2]".toList ] := by
    have hIndented :
        IsIndented "[2]".toList "\t [2]".toList :=
      ⟨['\t', ' '], by simp, by simp [Text.isBlank], rfl⟩
    exact .cons
      (.cons rfl .nil
        (.cons rfl (.cons hIndented .nil) .nil))
      .nil
  have hFiles :
      (writtenFile.profileFiles Host.initial).outcome =
        .ok
          ( [ ⟨.config, "/home/.aws/config",
                "[profile a]\nx = \nk = 1#\n\t [2]"⟩,
              ⟨.credentials, "/home/.aws/credentials", ""⟩ ],
            "default" ) := by
    cbv
  refine ⟨isCanonical_twoProperties, ?_⟩
  apply loadProfiles_of_writes isCanonical_twoProperties
    hListing hWrites hFiles
  intro file hMem
  rcases List.mem_cons.mp hMem with rfl | hRest
  · exact Or.inr (by cbv)
  · rw [List.mem_singleton.mp hRest]
    rfl

end Config

end LayeredSettings
