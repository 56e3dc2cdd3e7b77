import LayeredSettings.Metadata.Resolve
import LayeredSettings.Proofs.Precedence
import LayeredSettings.Proofs.Profile.Confinement
import LayeredSettings.Proofs.Profile.Layering
import LayeredSettings.Region.Resolve
import LayeredSettings.Retry.Resolve

/-
  Whatever profiles are not selected have no say in what a
  config resolves.

  Key definitions include:
    * `ProfileFile.SaysSame`, `ProfileFile.TakenAlike`
    * `Config.ResolvesAs`
    * `Config.loadedFrom`, `Config.MayUseFrom`
    * `Sections.HeadingsAgree`

  Key theorems include:
    * `ProfileFile.SaysSame.exists_listing`
    * `ProfileSet.property?_congr_of_takenAlike`,
      `ProfileSet.property?_congr_of_saysOnce`
    * `ProfileSet.resolvesAs_of_property?_eq`
    * `Config.resolvesAs_of_loadedFrom`
    * `Config.exists_takenAlike`
    * `Config.confined_to_selected`
    * `Config.unconfined_spellings`

  Two storages are compared whose files have the same
  sections that count for the selected profile.  If a load
  of each of them takes these sections in the same order,
  the profile is the same after both, and the lookups of a
  config ask its profiles for nothing else.  To each order of
  the one load there is such an order of the other.  So the
  same may be resolved from both, and the same is resolved
  if no key of the profile is given two values.
-/

------------------------------------------------------------
-- Files That Say the Same
------------------------------------------------------------

namespace LayeredSettings

open Sections

namespace ProfileFile

variable {name : String}
variable {file other : ProfileFile}

/- Files of one kind with the same part for a profile. -/
structure SaysSame
    (name : String)
    (file other : ProfileFile) : Prop where
  kind_eq : file.kind = other.kind
  part_eq :
    partOf file.kind name file.text =
      partOf file.kind name other.text

/- Orders in which the sections of a profile come alike. -/
def TakenAlike
    (name : String)
    (left right : Enumeration)
    (file other : ProfileFile) : Prop :=
  ListedBy
    (fun listing given =>
      (listing.filter fun entry =>
          CountsFor file.kind name entry.1) =
        given.filter fun entry =>
          CountsFor file.kind name entry.1)
    left right file other

/- In the order of the files they come alike. -/
theorem SaysSame.takenAlike_written
    (hSame : file.SaysSame name other) :
    TakenAlike name .written .written file other := by
  intro sections found hParse hFound
  exact
    (agreeFor_of_partOf_eq hParse hFound
      hSame.part_eq).filter_toLists

/- They do so in some order of the other file to any order. -/
theorem SaysSame.exists_listing
    (hSame : file.SaysSame name other)
    (left : Enumeration) :
    ∃ found : Sections, ∃ given,
      found.IsListedAs given ∧
        ∀ right : Enumeration,
          right.list other.kind found = given →
            TakenAlike name left right file other := by
  apply exists_listedBy
  intro sections found listing hParse hFound hListing
  have hAgree :=
    agreeFor_of_partOf_eq hParse hFound hSame.part_eq
  exact hAgree.exists_listing hListing

end ProfileFile

namespace ProfileSet

open ProfileFile

variable {name key selected : String}
variable {set last : ProfileSet}
variable {first second : Enumeration}
variable {files others : List ProfileFile}

/-
  Files that say the same of a profile give it the same
  properties, in orders in which its sections come alike.
-/
theorem property?_congr_of_takenAlike
    (hSame :
      List.Forall₂
        (fun file other =>
          file.SaysSame name other ∧
            TakenAlike name first second file other)
        files others)
    (hSet : (ofFiles first files selected).outcome = .ok set)
    (hLast :
      (ofFiles second others selected).outcome = .ok last) :
    set.property? name key = last.property? name key := by
  apply
    related_of_addFiles
      (R := fun base old =>
        base.property? name key = old.property? name key)
      _ hSame rfl hSet hLast
  rintro file other ⟨hFile, hTaken⟩ sections found hParse
    hFound base old hBase
  rw [← hFile.kind_eq]
  have hListings := hTaken sections found hParse hFound
  rw [← hFile.kind_eq] at hListings
  exact
    (Merge.isViewAt_property name key).mergeFile_congr
      hListings hBase

/-
  They do so in any orders, if no key of the profile is
  given two values by one of the files.
-/
theorem property?_congr_of_saysOnce
    (hSame :
      List.Forall₂
        (fun file other =>
          file.SaysSame name other ∧
            SaysOnce file.kind name file.text)
        files others)
    (hSet : (ofFiles first files selected).outcome = .ok set)
    (hLast :
      (ofFiles second others selected).outcome = .ok last) :
    set.property? name key = last.property? name key := by
  apply
    related_of_addFiles
      (R := fun base old =>
        base.property? name key = old.property? name key)
      _ hSame rfl hSet hLast
  rintro file other ⟨hFile, hOnce⟩ sections found hParse
    hFound base old hBase
  rw [← hFile.kind_eq]
  exact
    property?_mergeFile_congr
      (first.isListedAs file.kind sections)
      (second.isListedAs file.kind found)
      (agreeFor_of_partOf_eq hParse hFound hFile.part_eq)
      (hOnce _ _ hParse) hBase

end ProfileSet

end LayeredSettings

------------------------------------------------------------
-- Configs That Resolve the Same
------------------------------------------------------------

namespace LayeredSettings

namespace Config

/-
  A config that resolves at a host what another config does
  elsewhere, with all that is reported on the way.
-/
structure ResolvesAs
    (config : Config)
    (host : Host)
    (other : Config)
    (elsewhere : Host) : Prop where
  setting :
    ∀ {α : Type} (setting : Setting α),
      config.resolve host setting =
        other.resolve elsewhere setting
  retry :
    config.resolveRetry host = other.resolveRetry elsewhere
  region :
    config.resolveRegion host = other.resolveRegion elsewhere
  metadata :
    config.resolveMetadata host =
      other.resolveMetadata elsewhere

/- Settings are resolved from a chain and a source alone. -/
theorem resolvesAs_of_chain_eq
    {config other : Config}
    {host elsewhere : Host}
    (hChain : config.chain = other.chain)
    (hSource : config.source host = other.source elsewhere) :
    config.ResolvesAs host other elsewhere := by
  have hResolve {α : Type} (setting : Setting α) :
      config.resolve host setting =
        other.resolve elsewhere setting := by
    unfold resolve
    rw [hChain, hSource]
  constructor
  · exact hResolve
  · unfold resolveRetry
    rw [hResolve, hResolve]
  · unfold resolveRegion
    rw [hResolve]
  · unfold resolveMetadata impliedEndpoint
    rw [hResolve, hResolve, hResolve]

/- A config that has profiles loaded from a storage. -/
def loadedWith
    (config : Config)
    (storage : Storage)
    (profiles : ProfileSet) : Config :=
  { config with
    files := storage.files
    profiles := some profiles }

/- Load profiles from a storage and use them. -/
def loadedFrom
    (config : Config)
    (order : Enumeration)
    (host : Host)
    (storage : Storage) : Attempt LoadError Config :=
  withLoadedProfilesIn { config with files := storage.files }
    order { host with disk := storage.disk }

/- A config that may be in use after such a load. -/
def MayUseFrom
    (config : Config)
    (host : Host)
    (storage : Storage)
    (loaded : Config) : Prop :=
  MayUse { config with files := storage.files }
    { host with disk := storage.disk } loaded

/- What is loaded is used. -/
theorem loadedFrom_eq_ok_iff
    {config loaded : Config}
    {order : Enumeration}
    {host : Host}
    {storage : Storage} :
    (config.loadedFrom order host storage).outcome =
        .ok loaded ↔
      ∃ set,
        (config.loadFrom order host storage).outcome =
            .ok set ∧
          loaded = config.loadedWith storage set :=
  withLoadedProfilesIn_eq_ok_iff

end Config

/-
  Sets that have the same properties under the same selected
  name are the same to a config that uses them.
-/
theorem ProfileSet.resolvesAs_of_property?_eq
    {set other : ProfileSet}
    (hSelected : set.selected = other.selected)
    (hProperty :
      ∀ key,
        set.property? set.selected key =
          other.property? set.selected key)
    (config : Config)
    (left right : Storage)
    (later : Host)
    (disk : Disk) :
    (config.loadedWith left set).ResolvesAs later
      (config.loadedWith right other)
      { later with disk := disk } := by
  have hGet : set.get = other.get := by
    funext key
    rw [get_eq_property?, get_eq_property?, ← hSelected,
      hProperty]
  have hLookup : Lookup.profile set = Lookup.profile other := by
    unfold Lookup.profile
    rw [hGet, hSelected]
  apply Config.resolvesAs_of_chain_eq
  · exact
      congrArg (fun lookup => Chain.standard ++ [lookup])
        hLookup
  · rfl

end LayeredSettings

------------------------------------------------------------
-- Confinement
------------------------------------------------------------

namespace LayeredSettings

namespace Config

open ProfileFile Sections

section

variable {config loaded other : Config}
variable {host : Host}
variable {left right : Storage}
variable {name : String}
variable {first second : Enumeration}
variable {files others : List ProfileFile}

/- What is loaded is what the files are merged to. -/
theorem exists_ofFiles_of_loadedFrom
    (hFiles :
      (profileFiles { config with files := left.files }
          { host with disk := left.disk }).outcome =
        .ok (files, name))
    (hLoaded :
      (config.loadedFrom first host left).outcome =
        .ok loaded) :
    ∃ set,
      (ProfileSet.ofFiles first files name).outcome =
          .ok set ∧
        loaded = config.loadedWith left set := by
  rcases loadedFrom_eq_ok_iff.mp hLoaded with
    ⟨set, hSet, hConfig⟩
  rw [loadFrom, outcome_loadProfilesIn, hFiles] at hSet
  exact ⟨set, hSet, hConfig⟩

/- All that matters is what the files give to a profile. -/
theorem resolvesAs_of_loadedFrom
    (hFiles :
      (profileFiles { config with files := left.files }
          { host with disk := left.disk }).outcome =
        .ok (files, name))
    (hOthers :
      (profileFiles { config with files := right.files }
          { host with disk := right.disk }).outcome =
        .ok (others, name))
    (hProperty :
      ∀ set last,
        (ProfileSet.ofFiles first files name).outcome =
            .ok set →
          (ProfileSet.ofFiles second others name).outcome =
              .ok last →
            ∀ key,
              set.property? name key =
                last.property? name key)
    (hLoaded :
      (config.loadedFrom first host left).outcome =
        .ok loaded)
    (hOther :
      (config.loadedFrom second host right).outcome =
        .ok other)
    (later : Host)
    (disk : Disk) :
    loaded.ResolvesAs later other
      { later with disk := disk } := by
  rcases exists_ofFiles_of_loadedFrom hFiles hLoaded with
    ⟨set, hSet, rfl⟩
  rcases exists_ofFiles_of_loadedFrom hOthers hOther with
    ⟨last, hLast, rfl⟩
  have hFirst := ProfileSet.selected_of_ofFiles hSet
  have hSecond := ProfileSet.selected_of_ofFiles hLast
  apply ProfileSet.resolvesAs_of_property?_eq
  · rw [hFirst, hSecond]
  · rw [hFirst]
    exact hProperty set last hSet hLast

/- Two files are taken alike in some order to any order. -/
theorem exists_takenAlike
    {configFile otherConfigFile : ProfileFile}
    {credentialsFile otherCredentialsFile : ProfileFile}
    (hConfig : configFile.SaysSame name otherConfigFile)
    (hCredentials :
      credentialsFile.SaysSame name otherCredentialsFile)
    (hKind : otherConfigFile.kind = .config)
    (hOtherKind : otherCredentialsFile.kind = .credentials)
    (first : Enumeration) :
    ∃ second,
      TakenAlike name first second configFile
          otherConfigFile ∧
        TakenAlike name first second credentialsFile
          otherCredentialsFile := by
  rcases hConfig.exists_listing first with
    ⟨sections, listing, hListing, hTaken⟩
  rcases hCredentials.exists_listing first with
    ⟨found, given, hGiven, hOtherTaken⟩
  rcases Enumeration.exists_list_eq hListing hGiven with
    ⟨second, hList, hOtherList⟩
  rw [hKind] at hTaken
  rw [hOtherKind] at hOtherTaken
  exact
    ⟨second, hTaken second hList,
      hOtherTaken second hOtherList⟩

end

/-
  Loads from two storages whose files have the same sections
  for the selected profile resolve everything alike, at any
  later host and whatever disk is there, if they take these
  sections in the same order.

  In all orders together the same may be resolved from both,
  and the same is resolved in any two orders, provided that
  none of the files gives a key of the profile two values,
  under two headings or in two spellings of the key.
-/
theorem confined_to_selected
    {config : Config}
    {host : Host}
    {left right : Storage}
    {name configText credentialsText : String}
    {otherConfigText otherCredentialsText : String}
    (hSelected :
      (config.selectedProfile host).outcome = .ok name)
    (hLeft :
      config.HasTexts host left configText credentialsText)
    (hRight :
      config.HasTexts host right otherConfigText
        otherCredentialsText)
    (hConfig :
      partOf .config name configText =
        partOf .config name otherConfigText)
    (hCredentials :
      partOf .credentials name credentialsText =
        partOf .credentials name otherCredentialsText) :
    (∀ first second loaded other,
      (∀ kind path,
        (config.filePath host kind).outcome = .ok path →
          TakenAlike name first second
            (config.readFrom host left kind path)
            (config.readFrom host right kind path)) →
      (config.loadedFrom first host left).outcome =
          .ok loaded →
        (config.loadedFrom second host right).outcome =
            .ok other →
          ∀ later disk,
            loaded.ResolvesAs later other
              { later with disk := disk }) ∧
    (∀ loaded,
      config.MayUseFrom host left loaded →
        (∃ other, config.MayUseFrom host right other) →
          ∃ other,
            config.MayUseFrom host right other ∧
              ∀ later disk,
                loaded.ResolvesAs later other
                  { later with disk := disk }) ∧
    (SaysOnce .config name configText →
      SaysOnce .credentials name credentialsText →
        ∀ loaded other,
          config.MayUseFrom host left loaded →
            config.MayUseFrom host right other →
              ∀ later disk,
                loaded.ResolvesAs later other
                  { later with disk := disk }) := by
  rcases hLeft.config_text with ⟨configPath, hPath, -⟩
  rcases hLeft.credentials_text with
    ⟨credentialsPath, hCredentialsPath, -⟩
  have hFiles :=
    outcome_profileFiles_of_hasTexts hPath hCredentialsPath
      hLeft
  have hOthers :=
    outcome_profileFiles_of_hasTexts hPath hCredentialsPath
      hRight
  rw [hSelected] at hFiles hOthers
  have hSameConfig (place : String) :
      SaysSame name ⟨.config, place, configText⟩
        ⟨.config, place, otherConfigText⟩ :=
    ⟨rfl, hConfig⟩
  have hSameCredentials (place : String) :
      SaysSame name ⟨.credentials, place, credentialsText⟩
        ⟨.credentials, place, otherCredentialsText⟩ :=
    ⟨rfl, hCredentials⟩
  refine ⟨?_, ?_, ?_⟩
  · intro first second loaded other hTaken
    have hTakenConfig := hTaken .config configPath hPath
    have hTakenCredentials :=
      hTaken .credentials credentialsPath hCredentialsPath
    rw [hLeft.config_text.readFrom_eq hPath,
      hRight.config_text.readFrom_eq hPath] at hTakenConfig
    rw [hLeft.credentials_text.readFrom_eq hCredentialsPath,
      hRight.credentials_text.readFrom_eq hCredentialsPath]
      at hTakenCredentials
    apply resolvesAs_of_loadedFrom hFiles hOthers
    intro set last hSet hLast key
    exact
      ProfileSet.property?_congr_of_takenAlike
        (.cons ⟨hSameConfig _, hTakenConfig⟩
          (.cons ⟨hSameCredentials _, hTakenCredentials⟩
            .nil))
        hSet hLast
  · rintro loaded ⟨first, hLoaded⟩ ⟨found, hFound⟩
    rcases exists_takenAlike
        (hSameConfig (config.placeOf host configPath))
        (hSameCredentials
          (config.placeOf host credentialsPath))
        rfl rfl first with
      ⟨second, hTakenConfig, hTakenCredentials⟩
    -- what loads in one order loads in this one
    rcases mayUse_iff.mp hFound with ⟨_, hMay, -⟩
    rcases hMay.exists_loadProfilesIn second with
      ⟨set, hSet⟩
    have hOther :
        (config.loadedFrom second host right).outcome =
          .ok (config.loadedWith right set) :=
      loadedFrom_eq_ok_iff.mpr ⟨set, hSet, rfl⟩
    refine ⟨_, ⟨second, hOther⟩, ?_⟩
    apply resolvesAs_of_loadedFrom hFiles hOthers _ hLoaded
      hOther
    intro set last hSet hLast key
    exact
      ProfileSet.property?_congr_of_takenAlike
        (.cons ⟨hSameConfig _, hTakenConfig⟩
          (.cons ⟨hSameCredentials _, hTakenCredentials⟩
            .nil))
        hSet hLast
  · rintro hOnce hCredentialsOnce loaded other
      ⟨first, hLoaded⟩ ⟨second, hOther⟩
    apply resolvesAs_of_loadedFrom hFiles hOthers _ hLoaded
      hOther
    intro set last hSet hLast key
    exact
      ProfileSet.property?_congr_of_saysOnce
        (.cons ⟨hSameConfig _, hOnce⟩
          (.cons ⟨hSameCredentials _, hCredentialsOnce⟩
            .nil))
        hSet hLast

/- A file with the default profile and one more. -/
def plainFile : String :=
  "[default]\nregion=a\n[profile b]\nregion=x"

/- The default profile between two other sections. -/
def crowdedFile : String :=
  "[profile c]\nregion=y\n[ default ]\nregion=a\n[d]\nA=1"

/- The sections of the first file. -/
def plainSections : Sections where
  entries :=
    [ ("default", Table.ofList [("region", "a")]),
      ("profile b", Table.ofList [("region", "x")]) ]
  nodup_keys := by decide

theorem saysOnce_plainFile :
    SaysOnce .config "default" plainFile := by
  intro path sections hParse
  have hSections :
      parse path plainFile = .ok plainSections := by
    cbv
  rw [hSections] at hParse
  cases hParse
  have hGiven (key value : String)
      (hGives :
        plainSections.Gives .config "default" key value) :
      value = "a" := by
    rcases hGives with
      ⟨heading, properties, written, hContributes, hSection,
        hValue, -, -⟩
    have hEntry :=
      (plainSections.get?_eq_some_iff_mem _ _).mp hSection
    rcases List.mem_pair.mp hEntry with hPair | hPair
    · cases hPair
      have hProperty :=
        (Table.get?_eq_some_iff_mem _ _ _).mp hValue
      cases List.mem_singleton.mp hProperty
      rfl
    · cases hPair
      exact absurd hContributes.countsFor (by decide)
  intro key first second hFirst hSecond
  rw [hGiven key first hFirst, hGiven key second hSecond]

/- A file without the profile says nothing of it. -/
theorem saysOnce_otherFile :
    SaysOnce .credentials "default" "[b]\nregion=y" := by
  intro path sections hParse
  have hSections :
      parse path "[b]\nregion=y" =
        .ok (Table.ofList
          [("b", Table.ofList [("region", "y")])]) := by
    cbv
  rw [hSections] at hParse
  cases hParse
  intro key first second hFirst
  rcases hFirst with ⟨heading, _, _, hContributes, _⟩
  have hHeading : heading = "default" :=
    hContributes.designates
  have hListed := hContributes.listed
  rw [hHeading] at hListed
  exact absurd hListed (by decide)

/- The profiles of the first file and its credentials. -/
def plainProfiles : ProfileSet where
  profiles := Table.ofList
    [ ( "default",
        ⟨"default",
          Table.ofList [("region", ⟨"region", "a"⟩)]⟩ ),
      ( "b",
        ⟨"b", Table.ofList [("region", ⟨"region", "y"⟩)]⟩ ) ]
  selected := "default"

/- The profiles of the second file. -/
def crowdedProfiles : ProfileSet where
  profiles := Table.ofList
    [ ( "c",
        ⟨"c",
          Table.ofList [("region", ⟨"region", "y"⟩)]⟩ ),
      ( "default",
        ⟨"default",
          Table.ofList [("region", ⟨"region", "a"⟩)]⟩ ) ]
  selected := "default"

theorem confined_to_selected_atHome :
    ∃ loaded other,
      (atHome.loadedFrom .written Host.initial
          (filesAtHome plainFile
            "[b]\nregion=y")).outcome = .ok loaded ∧
        (atHome.loadedFrom .written Host.initial
          (filesAtHome crowdedFile "")).outcome =
            .ok other ∧
        (loaded.resolveRegion Host.initial).outcome =
          .ok (some ⟨"a"⟩) ∧
        (∀ later, loaded.ResolvesAs later other later) ∧
        ∀ again,
          atHome.MayUseFrom Host.initial
              (filesAtHome crowdedFile "") again →
            ∀ later, loaded.ResolvesAs later again later := by
  have hSelected :
      (atHome.selectedProfile Host.initial).outcome =
        .ok "default" := by
    cbv
  have hLeft := hasTexts_filesAtHome plainFile "[b]\nregion=y"
  have hRight := hasTexts_filesAtHome crowdedFile ""
  have hConfig :
      partOf .config "default" plainFile =
        partOf .config "default" crowdedFile := by
    decide +kernel
  have hCredentials :
      partOf .credentials "default" "[b]\nregion=y" =
        partOf .credentials "default" "" := by
    decide +kernel
  have hConfined :=
    confined_to_selected hSelected hLeft hRight hConfig
      hCredentials
  have hTaken :
      ∀ kind path,
        (atHome.filePath Host.initial kind).outcome =
            .ok path →
          TakenAlike "default" .written .written
            (atHome.readFrom Host.initial
              (filesAtHome plainFile "[b]\nregion=y") kind
              path)
            (atHome.readFrom Host.initial
              (filesAtHome crowdedFile "") kind path) := by
    intro kind path hPath
    apply SaysSame.takenAlike_written
    cases kind with
    | config =>
        rw [hLeft.config_text.readFrom_eq hPath,
          hRight.config_text.readFrom_eq hPath]
        exact ⟨rfl, hConfig⟩
    | credentials =>
        rw [hLeft.credentials_text.readFrom_eq hPath,
          hRight.credentials_text.readFrom_eq hPath]
        exact ⟨rfl, hCredentials⟩
  have hLoaded :
      (atHome.loadedFrom .written Host.initial
          (filesAtHome plainFile
            "[b]\nregion=y")).outcome =
        .ok
          (atHome.loadedWith
            (filesAtHome plainFile "[b]\nregion=y")
            plainProfiles) := by
    refine loadedFrom_eq_ok_iff.mpr ⟨_, ?_, rfl⟩
    rw [outcome_loadFrom_filesAtHome]
    cbv
  have hOther :
      (atHome.loadedFrom .written Host.initial
          (filesAtHome crowdedFile "")).outcome =
        .ok
          (atHome.loadedWith (filesAtHome crowdedFile "")
            crowdedProfiles) := by
    refine loadedFrom_eq_ok_iff.mpr ⟨_, ?_, rfl⟩
    rw [outcome_loadFrom_filesAtHome]
    cbv
  have hSame :=
    hConfined.1 .written .written _ _ hTaken hLoaded hOther
  refine ⟨_, _, hLoaded, hOther, by cbv, ?_, ?_⟩
  · intro later
    exact hSame later later.disk
  · intro again hAgain later
    exact
      hConfined.2.2 saysOnce_plainFile saysOnce_otherFile _ _
        ⟨.written, hLoaded⟩ hAgain later later.disk

end Config

end LayeredSettings

------------------------------------------------------------
-- Spellings of One Key
------------------------------------------------------------

namespace LayeredSettings

namespace Sections

/- A heading has a value under some spelling of a key. -/
def HasUnder
    (sections : Sections)
    (heading key value : String) : Prop :=
  ∃ properties written,
    sections.get? heading = some properties ∧
      properties.get? written = some value ∧
        Text.lowerCase written = key

/-
  Headings of one profile that are spelled differently do
  not give a key two values.
-/
def HeadingsAgree
    (kind : FileKind)
    (name text : String) : Prop :=
  ∀ path sections,
    parse path text = .ok sections →
      ∀ first second,
        first ≠ second →
          CountsFor kind name first →
            CountsFor kind name second →
              ∀ key value other,
                sections.HasUnder first key value →
                  sections.HasUnder second key other →
                    value = other

/- They do so if one heading alone counts. -/
theorem headingsAgree_of_alone
    {kind : FileKind}
    {name text : String}
    {sections : Sections}
    (heading : String)
    (hParse : ∀ path, parse path text = .ok sections)
    (hAlone :
      ∀ other ∈ sections.keys,
        CountsFor kind name other → other = heading) :
    HeadingsAgree kind name text := by
  intro path found hFound first second hApart hFirst hSecond
    key value other hGiven hOther
  rw [hParse] at hFound
  cases hFound
  have hListed {heading key value : String}
      (hUnder : sections.HasUnder heading key value) :
      heading ∈ sections.keys := by
    rcases hUnder with ⟨properties, _, hSection, _⟩
    rw [Table.mem_keys_iff, hSection]
    rfl
  exact
    absurd
      ((hAlone first (hListed hGiven) hFirst).trans
        (hAlone second (hListed hOther) hSecond).symm)
      hApart

end Sections

namespace Config

open Sections

/- One section, and a key that is spelled in two ways. -/
def spelledTwice : String :=
  "[default]\nregion=a\nRegion=b"

/- The same section beside one of another profile. -/
def spelledTwiceBeside : String :=
  "[default]\nregion=a\nRegion=b\n[profile b]\nregion=x"

/- The profiles of the section, with one of the values. -/
def regionProfiles
    (region : String) : ProfileSet where
  profiles := Table.ofList
    [ ( "default",
        ⟨"default",
          Table.ofList [("region", ⟨"region", region⟩)]⟩ ) ]
  selected := "default"

/- The profiles of both sections, taken backwards. -/
def regionProfilesBeside : ProfileSet where
  profiles := Table.ofList
    [ ( "b",
        ⟨"b", Table.ofList [("region", ⟨"region", "x"⟩)]⟩ ),
      ( "default",
        ⟨"default",
          Table.ofList [("region", ⟨"region", "a"⟩)]⟩ ) ]
  selected := "default"

theorem headingsAgree_spelledTwice :
    HeadingsAgree .config "default" spelledTwice := by
  have hParse (path : String) :
      parse path spelledTwice =
        .ok (Table.ofList
          [ ( "default",
              Table.ofList
                [("region", "a"), ("Region", "b")] ) ]) := by
    cbv
  exact headingsAgree_of_alone "default" hParse (by decide)

theorem headingsAgree_spelledTwiceBeside :
    HeadingsAgree .config "default" spelledTwiceBeside := by
  have hParse (path : String) :
      parse path spelledTwiceBeside =
        .ok (Table.ofList
          [ ( "default",
              Table.ofList
                [("region", "a"), ("Region", "b")] ),
            ( "profile b",
              Table.ofList [("region", "x")] ) ]) := by
    cbv
  exact headingsAgree_of_alone "default" hParse (by decide)

theorem headingsAgree_empty :
    HeadingsAgree .credentials "default" "" := by
  have hParse (path : String) :
      parse path "" = .ok Table.empty := by
    cbv
  exact headingsAgree_of_alone "default" hParse (by decide)

/-
  Two files with one section for the selected profile, and
  one heading of it.  What is resolved from them need not be
  the same: the key has two spellings with a value each, and
  the order decides which of them is kept.
-/
theorem unconfined_spellings :
    (atHome.selectedProfile Host.initial).outcome =
        .ok "default" ∧
      atHome.HasTexts Host.initial
        (filesAtHome spelledTwice "") spelledTwice "" ∧
      atHome.HasTexts Host.initial
        (filesAtHome spelledTwiceBeside "")
        spelledTwiceBeside "" ∧
      partOf .config "default" spelledTwice =
        partOf .config "default" spelledTwiceBeside ∧
      HeadingsAgree .config "default" spelledTwice ∧
      HeadingsAgree .config "default" spelledTwiceBeside ∧
      HeadingsAgree .credentials "default" "" ∧
      ∃ loaded other,
        atHome.MayUseFrom Host.initial
            (filesAtHome spelledTwice "") loaded ∧
          atHome.MayUseFrom Host.initial
            (filesAtHome spelledTwiceBeside "") other ∧
          (loaded.resolveRegion Host.initial).outcome =
            .ok (some ⟨"b"⟩) ∧
          (other.resolveRegion Host.initial).outcome =
            .ok (some ⟨"a"⟩) := by
  have hLoaded :
      (atHome.loadedFrom .written Host.initial
          (filesAtHome spelledTwice "")).outcome =
        .ok
          (atHome.loadedWith (filesAtHome spelledTwice "")
            (regionProfiles "b")) := by
    refine loadedFrom_eq_ok_iff.mpr ⟨_, ?_, rfl⟩
    rw [outcome_loadFrom_filesAtHome]
    cbv
  have hOther :
      (atHome.loadedFrom .backwards Host.initial
          (filesAtHome spelledTwiceBeside "")).outcome =
        .ok
          (atHome.loadedWith
            (filesAtHome spelledTwiceBeside "")
            regionProfilesBeside) := by
    refine loadedFrom_eq_ok_iff.mpr ⟨_, ?_, rfl⟩
    rw [outcome_loadFrom_filesAtHome]
    cbv
  refine
    ⟨by cbv, hasTexts_filesAtHome _ _,
      hasTexts_filesAtHome _ _, by decide +kernel,
      headingsAgree_spelledTwice,
      headingsAgree_spelledTwiceBeside, headingsAgree_empty,
      _, _, ⟨.written, hLoaded⟩, ⟨.backwards, hOther⟩, ?_, ?_⟩
  · cbv
  · cbv

end Config

end LayeredSettings
