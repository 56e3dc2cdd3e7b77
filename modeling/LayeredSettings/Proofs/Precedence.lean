import LayeredSettings.Proofs.Profile.LoadOrder

/-
  The order of precedence of a config with loaded profiles.

  Key definitions include:
    * `ProfileSet.selectedValue`
    * `SourceLevel`
    * `SourceLevels.find`
    * `RawValue.verdict`

  Key theorems include:
    * `ProfileSet.IsOverlay.get_eq_or`
    * `SourceLevels.isSome_findIn_eq`,
      `SourceLevels.findIn_eq`
    * `Config.find_chain_of_loadsLayers`
    * `Config.isSome_find_eq_of_mayLoadAlone`,
      `Config.find_eq_of_mayLoadAlone`
    * `Config.resolve_withLoadedProfiles`

  The levels are described by what they show, without the
  lookups that search them: the two profile files are two
  levels, although their profiles are merged to one set.

  A file on its own need not be loaded in the order in which
  both files were.  The level that decides is the same even
  so, and the value is, if no file gives a key two values.
-/

------------------------------------------------------------
-- Levels
------------------------------------------------------------

namespace LayeredSettings

/-
  The value in the selected profile of the property whose
  key is equal to a key up to ASCII letter case.
-/
def ProfileSet.selectedValue
    (set : ProfileSet)
    (key : String) : Option String := do
  let profile ← set.profile? set.selected
  let entry ← profile.properties.entries.find? fun entry =>
    Text.equalIgnoringCase entry.1 key
  return entry.2.value

/- The levels above the fallback of a setting. -/
inductive SourceLevel where
  | systemProperty
  | environmentVariable
  | credentialsFile
  | configFile
  deriving DecidableEq, Repr

/- The levels in the order of their precedence. -/
def SourceLevel.order : List SourceLevel :=
  [ .systemProperty,
    .environmentVariable,
    .credentialsFile,
    .configFile ]

/-
  What the levels show: variables and properties, and the
  profiles that each of the two files loads to on its own.
-/
structure SourceLevels where
  source : Source
  credentials : ProfileSet
  configured : ProfileSet

namespace SourceLevels

/- What a setting has in a set of profiles. -/
def findIn
    (set : ProfileSet)
    (keys : SettingKeys) : Option RawValue :=
  match keys.profileKey with
  | none => none
  | some key =>
      match set.selectedValue key with
      | none => none
      | some value =>
          some ⟨value, key, .profile set.selected, true⟩

/-
  What a setting has at a level, with the key and the origin
  of that level.  A variable that is no UTF-8 is there, and
  is shown with replacements.
-/
def find
    (levels : SourceLevels)
    (keys : SettingKeys) : SourceLevel → Option RawValue
| .systemProperty =>
    match keys.systemProperty with
    | none => none
    | some key =>
        match levels.source.propertyOf key with
        | none => none
        | some value =>
            some ⟨value, key, .systemProperty, true⟩
| .environmentVariable =>
    match keys.environmentVariable with
    | none => none
    | some key =>
        match levels.source.variableOf key with
        | none => none
        | some bytes =>
            match Utf8.decode? bytes with
            | some value =>
                some ⟨value, key, .environmentVariable, true⟩
            | none =>
                some ⟨Utf8.lossy bytes, key,
                  .environmentVariable, false⟩
| .credentialsFile => findIn levels.credentials keys
| .configFile => findIn levels.configured keys

end SourceLevels

/-
  What a setting is, given what is found for it: the coerced
  value, or an error with the key, the value and the origin.
-/
def RawValue.verdict
    {α : Type}
    (raw : RawValue)
    (setting : Setting α) :
    Except InvalidValue (Option α) :=
  if raw.unicode then
    match setting.coerce raw.value with
    | .ok value => .ok (some value)
    | .error cause =>
        .error ⟨raw.key, raw.value, raw.origin, cause⟩
  else
    .error ⟨raw.key, raw.value, raw.origin,
      .notUnicode raw.value⟩

namespace SourceLevels

/- The first level that has a setting, and what it has. -/
structure IsFirst
    (levels : SourceLevels)
    (keys : SettingKeys)
    (level : SourceLevel)
    (raw : RawValue) : Prop where
  found : levels.find keys level = some raw
  none_above :
    ∃ above below,
      SourceLevel.order = above ++ level :: below ∧
        ∀ higher ∈ above, levels.find keys higher = none

/-
  A result that the first level with the setting decides, or
  the fallback if no level has it.
-/
structure Decide
    {α : Type}
    (levels : SourceLevels)
    (setting : Setting α)
    (result : Except InvalidValue (Option α)) :
    Prop where
  by_first :
    ∀ level raw,
      levels.IsFirst setting.keys level raw →
        result = raw.verdict setting
  by_fallback :
    (∀ level, levels.find setting.keys level = none) →
      result = .ok setting.fallback

end SourceLevels

/- Levels that show the same decide the same. -/
theorem SourceLevels.Decide.congr
    {α : Type}
    {levels other : SourceLevels}
    {setting : Setting α}
    {result : Except InvalidValue (Option α)}
    (hDecide : levels.Decide setting result)
    (hFind :
      ∀ level,
        other.find setting.keys level =
          levels.find setting.keys level) :
    other.Decide setting result := by
  constructor
  · intro level raw hFirst
    apply hDecide.by_first level raw
    constructor
    · rw [← hFind]
      exact hFirst.found
    · simp only [← hFind]
      exact hFirst.none_above
  · intro hNone
    apply hDecide.by_fallback
    intro level
    rw [← hFind]
    exact hNone level

/- A chain that finds a value concludes with its verdict. -/
theorem Chain.conclude_some
    {α : Type}
    (setting : Setting α)
    (raw : RawValue) :
    conclude setting (some raw) = raw.verdict setting := by
  unfold conclude RawValue.verdict RawValue.coerce
  by_cases hUnicode : raw.unicode = true
  · simp only [if_pos hUnicode]
    rfl
  · simp only [if_neg hUnicode]
    rfl

end LayeredSettings

------------------------------------------------------------
-- Chains as Levels
------------------------------------------------------------

namespace LayeredSettings

namespace ProfileSet

/- A key is asked for in lower case. -/
theorem get_eq_property?
    (set : ProfileSet)
    (key : String) :
    set.get key =
      (set.property? set.selected (Text.lowerCase key)).map
        Property.value := by
  unfold get property?
  cases set.profile? set.selected with
  | none => rfl
  | some profile => rfl

/- In a coherent set a key is compared up to letter case. -/
theorem IsCoherent.get_eq_selectedValue
    {set : ProfileSet}
    (hSet : set.IsCoherent)
    (key : String) :
    set.get key = set.selectedValue key := by
  unfold get selectedValue
  cases hProfile : set.profile? set.selected with
  | none => rfl
  | some profile =>
      have hCoherent := (hSet set.selected profile hProfile).2
      exact (hCoherent.get_eq key).trans Option.map_eq_bind

/- What is asked of sets that match in keys is in both. -/
theorem MatchesInKeys.isSome_get_eq
    {set other : ProfileSet}
    (hMatches : set.MatchesInKeys other)
    (key : String) :
    (set.get key).isSome = (other.get key).isSome := by
  rw [get_eq_property?, get_eq_property?, Option.isSome_map,
    Option.isSome_map, ← hMatches.selected_eq, Bool.eq_iff_iff]
  exact hMatches.property_iff set.selected _

/- Sets that match are asked alike. -/
theorem Matches.get_eq
    {set other : ProfileSet}
    (hMatches : set.Matches other)
    (key : String) :
    set.get key = other.get key := by
  rw [get_eq_property?, get_eq_property?,
    ← hMatches.selected_eq, hMatches.property_eq]

/- An overlay is asked like the upper set, then the lower. -/
theorem IsOverlay.get_eq_or
    {upper lower set : ProfileSet}
    (hOverlay : IsOverlay upper lower set)
    (hUpper : set.selected = upper.selected)
    (hLower : set.selected = lower.selected)
    (key : String) :
    set.get key = (upper.get key).or (lower.get key) := by
  rw [get_eq_property?, get_eq_property?, get_eq_property?,
    ← hUpper, ← hLower, hOverlay.property, Option.map_or]

end ProfileSet

namespace SourceLevels

variable {set other : ProfileSet}

/- Sets that match in keys have a setting, or neither has. -/
theorem isSome_findIn_eq
    (hSet : set.IsCoherent)
    (hOther : other.IsCoherent)
    (hMatches : set.MatchesInKeys other)
    (keys : SettingKeys) :
    (findIn set keys).isSome =
      (findIn other keys).isSome := by
  unfold findIn
  cases keys.profileKey with
  | none => rfl
  | some key =>
      have hGet := hMatches.isSome_get_eq key
      rw [hSet.get_eq_selectedValue,
        hOther.get_eq_selectedValue] at hGet
      dsimp only
      cases hFirst : set.selectedValue key with
      | none =>
          rw [hFirst, Option.isSome_none, eq_comm,
            Option.isSome_eq_false_iff,
            Option.isNone_iff_eq_none] at hGet
          rw [hGet]
      | some value =>
          rw [hFirst, Option.isSome_some, eq_comm,
            Option.isSome_iff_exists] at hGet
          rcases hGet with ⟨found, hSecond⟩
          rw [hSecond]
          rfl

/- Sets that match have the same for a setting. -/
theorem findIn_eq
    (hSet : set.IsCoherent)
    (hOther : other.IsCoherent)
    (hMatches : set.Matches other)
    (keys : SettingKeys) :
    findIn set keys = findIn other keys := by
  unfold findIn
  cases keys.profileKey with
  | none => rfl
  | some key =>
      have hGet := hMatches.get_eq key
      rw [hSet.get_eq_selectedValue,
        hOther.get_eq_selectedValue] at hGet
      dsimp only
      rw [hGet, hMatches.selected_eq]

end SourceLevels

namespace Lookup

/- A system property is what its level shows. -/
theorem find_systemProperty
    (levels : SourceLevels)
    (keys : SettingKeys) :
    systemProperty.find keys levels.source =
      levels.find keys .systemProperty := by
  unfold systemProperty SourceLevels.find
  cases hKey : keys.systemProperty with
  | none => simp [hKey]
  | some key =>
      cases hValue : levels.source.propertyOf key with
      | none => simp [hKey, hValue]
      | some value => simp [hKey, hValue, RawValue.ofText]

/- A variable is what its level shows, be it text or not. -/
theorem find_environmentVariable
    (levels : SourceLevels)
    (keys : SettingKeys) :
    environmentVariable.find keys levels.source =
      levels.find keys .environmentVariable := by
  unfold environmentVariable SourceLevels.find
  cases hKey : keys.environmentVariable with
  | none => simp [hKey]
  | some key =>
      cases hBytes : levels.source.variableOf key with
      | none => simp [hKey, hBytes]
      | some bytes =>
          cases hText : Utf8.decode? bytes with
          | none =>
              simp [hKey, hBytes, hText, RawValue.ofBytes]
          | some value =>
              simp [hKey, hBytes, hText, RawValue.ofBytes,
                RawValue.ofText]

/-
  What is found in an overlay is what is found in the upper
  set and, if that has nothing, in the lower set.
-/
theorem find_profile_of_isOverlay
    {upper lower set : ProfileSet}
    (hOverlay : ProfileSet.IsOverlay upper lower set)
    (hUpper : upper.IsCoherent)
    (hLower : lower.IsCoherent)
    (hUpperSelected : set.selected = upper.selected)
    (hLowerSelected : set.selected = lower.selected)
    (keys : SettingKeys)
    (source : Source) :
    (profile set).find keys source =
      (SourceLevels.findIn upper keys).or
        (SourceLevels.findIn lower keys) := by
  unfold profile SourceLevels.findIn
  cases hKey : keys.profileKey with
  | none => simp [hKey]
  | some key =>
      have hGet := hOverlay.get_eq_or hUpperSelected
        hLowerSelected key
      rw [hUpper.get_eq_selectedValue,
        hLower.get_eq_selectedValue] at hGet
      cases hFirst : upper.selectedValue key with
      | some value =>
          simp [hKey, hGet, hFirst, hUpperSelected,
            RawValue.ofText]
      | none =>
          cases hSecond : lower.selectedValue key with
          | some value =>
              simp [hKey, hGet, hFirst, hSecond,
                hLowerSelected, RawValue.ofText]
          | none => simp [hKey, hGet, hFirst, hSecond]

end Lookup

namespace Config

/- The sets of a layered load select the same profile. -/
theorem LoadsLayers.selected_eq
    {config : Config}
    {order : Enumeration}
    {host : Host}
    {credentials configured loaded set : ProfileSet}
    (hLayers :
      config.LoadsLayers order host credentials configured
        loaded)
    (hSet : set ∈ [credentials, configured, loaded]) :
    loaded.selected = set.selected := by
  have hLoaded := hLayers.selected loaded (by simp)
  rw [hLayers.selected set hSet] at hLoaded
  exact (Except.ok.inj hLoaded).symm

/-
  What the chain of a config finds is what the first level
  has that has anything.
-/
theorem find_chain_of_loadsLayers
    {config : Config}
    {order : Enumeration}
    {host : Host}
    {credentials configured loaded : ProfileSet}
    (hLayers :
      config.LoadsLayers order host credentials configured
        loaded)
    (keys : SettingKeys)
    (source : Source) :
    (config.withProfiles loaded).chain.find keys source =
      SourceLevel.order.findSome?
        (SourceLevels.find
          ⟨source, credentials, configured⟩ keys) := by
  have hProfile :=
    Lookup.find_profile_of_isOverlay hLayers.is_overlay
      (hLayers.coherent credentials (by simp))
      (hLayers.coherent configured (by simp))
      (hLayers.selected_eq (by simp))
      (hLayers.selected_eq (by simp)) keys source
  have hProperty :=
    Lookup.find_systemProperty
      ⟨source, credentials, configured⟩ keys
  have hVariable :=
    Lookup.find_environmentVariable
      ⟨source, credentials, configured⟩ keys
  have hChain :
      (config.withProfiles loaded).chain =
        [Lookup.systemProperty, Lookup.environmentVariable,
          Lookup.profile loaded] := rfl
  have hCredentials :
      SourceLevels.find ⟨source, credentials, configured⟩
          keys .credentialsFile =
        SourceLevels.findIn credentials keys := rfl
  have hConfigured :
      SourceLevels.find ⟨source, credentials, configured⟩
          keys .configFile =
        SourceLevels.findIn configured keys := rfl
  rw [hChain]
  unfold Chain.find SourceLevel.order
  simp only [List.findSome?_cons, List.findSome?_nil,
    hProperty, hVariable, hProfile, hCredentials,
    hConfigured]
  cases SourceLevels.findIn credentials keys with
  | none =>
      cases SourceLevels.findIn configured keys with
      | none => rfl
      | some raw => rfl
  | some raw => rfl

end Config

end LayeredSettings

------------------------------------------------------------
-- Precedence
------------------------------------------------------------

namespace LayeredSettings

namespace Config

/- Profiles and a host give a config's lookups their source. -/
theorem outcome_resolve
    {α : Type}
    (config : Config)
    (host : Host)
    (setting : Setting α) :
    (config.resolve host setting).outcome =
      Chain.conclude setting
        (config.chain.find setting.keys
          (config.source host)) :=
  Chain.value_run_resolve config.chain setting
    (config.source host)

/-
  A setting that a layered load gives to levels is decided by
  the first level that has it.
-/
theorem decide_resolve_of_loadsLayers
    {α : Type}
    {config : Config}
    {order : Enumeration}
    {host : Host}
    {credentials configured loaded : ProfileSet}
    (hLayers :
      config.LoadsLayers order host credentials configured
        loaded)
    (later : Host)
    (setting : Setting α) :
    SourceLevels.Decide
      ⟨config.source later, credentials, configured⟩ setting
      ((config.withProfiles loaded).resolve later
        setting).outcome := by
  have hFind :=
    find_chain_of_loadsLayers hLayers setting.keys
      (config.source later)
  have hSource :
      (config.withProfiles loaded).source later =
        config.source later := rfl
  constructor
  · intro level raw hFirst
    rcases hFirst.none_above with
      ⟨above, below, hOrder, hAbove⟩
    rw [outcome_resolve, hSource, hFind, hOrder,
      List.findSome?_append,
      List.findSome?_eq_none_iff.mpr hAbove,
      Option.none_or, List.findSome?_cons,
      hFirst.found, Chain.conclude_some]
  · intro hNone
    rw [outcome_resolve, hSource, hFind,
      List.findSome?_eq_none_iff.mpr
        fun level _ => hNone level]
    rfl

section

variable {config : Config}
variable {host : Host}
variable {upper lower credentials configured : ProfileSet}

/-
  What the files load to on their own has a setting at the
  same levels, in whichever orders they are loaded.
-/
theorem isSome_find_eq_of_mayLoadAlone
    (hUpper : config.MayLoadAlone host .credentials upper)
    (hLower : config.MayLoadAlone host .config lower)
    (hCredentials :
      config.MayLoadAlone host .credentials credentials)
    (hConfigured :
      config.MayLoadAlone host .config configured)
    (source : Source)
    (keys : SettingKeys)
    (level : SourceLevel) :
    (SourceLevels.find ⟨source, upper, lower⟩ keys
        level).isSome =
      (SourceLevels.find ⟨source, credentials, configured⟩
        keys level).isSome := by
  cases level with
  | systemProperty => rfl
  | environmentVariable => rfl
  | credentialsFile =>
      exact
        SourceLevels.isSome_findIn_eq hUpper.isCoherent
          hCredentials.isCoherent
          (hUpper.matchesInKeys hCredentials) keys
  | configFile =>
      exact
        SourceLevels.isSome_findIn_eq hLower.isCoherent
          hConfigured.isCoherent
          (hLower.matchesInKeys hConfigured) keys

/- It has the same there if no file gives a key two values. -/
theorem find_eq_of_mayLoadAlone
    (hUpper : config.MayLoadAlone host .credentials upper)
    (hLower : config.MayLoadAlone host .config lower)
    (hCredentials :
      config.MayLoadAlone host .credentials credentials)
    (hConfigured :
      config.MayLoadAlone host .config configured)
    (hOnce : config.IsUnambiguous host)
    (source : Source)
    (keys : SettingKeys)
    (level : SourceLevel) :
    SourceLevels.find ⟨source, upper, lower⟩ keys level =
      SourceLevels.find ⟨source, credentials, configured⟩
        keys level := by
  cases level with
  | systemProperty => rfl
  | environmentVariable => rfl
  | credentialsFile =>
      exact
        SourceLevels.findIn_eq hUpper.isCoherent
          hCredentials.isCoherent
          (hUpper.matches hCredentials hOnce) keys
  | configFile =>
      exact
        SourceLevels.findIn_eq hLower.isCoherent
          hConfigured.isCoherent
          (hLower.matches hConfigured hOnce) keys

end

/-
  A setting is decided by the first level that has it, and
  by nothing below that level: its value is coerced, and if
  that fails the error has the key, the value and the origin
  of that level.  The profiles are loaded at one moment and
  the setting is resolved at any other.

  The levels of the files are what each of them loads to on
  its own, in the order of the load.  In any other orders
  they have the setting at the same levels, and they decide
  it as well if no file gives a key two values.
-/
theorem resolve_withLoadedProfiles
    {α : Type}
    (config loaded : Config)
    (order : Enumeration)
    (host later : Host)
    (setting : Setting α)
    (hLoaded :
      (config.withLoadedProfilesIn order host).outcome =
        .ok loaded) :
    ∃ credentials configured,
      (config.loadAlone order host .credentials).outcome =
          .ok credentials ∧
        (config.loadAlone order host .config).outcome =
          .ok configured ∧
        (config.selectedProfile host).outcome =
          .ok credentials.selected ∧
        configured.selected = credentials.selected ∧
        SourceLevels.Decide
          ⟨config.source later, credentials, configured⟩
          setting
          (loaded.resolve later setting).outcome ∧
        ∀ upper lower,
          config.MayLoadAlone host .credentials upper →
            config.MayLoadAlone host .config lower →
              (∀ level,
                (SourceLevels.find
                  ⟨config.source later, upper, lower⟩
                  setting.keys level).isSome =
                (SourceLevels.find
                  ⟨config.source later, credentials,
                    configured⟩
                  setting.keys level).isSome) ∧
              (config.IsUnambiguous host →
                SourceLevels.Decide
                  ⟨config.source later, upper, lower⟩
                  setting
                  (loaded.resolve later
                    setting).outcome) := by
  rcases withLoadedProfilesIn_eq_ok_iff.mp hLoaded with
    ⟨set, hSet, rfl⟩
  rcases loadsLayers_of_loadProfilesIn hSet with
    ⟨credentials, configured, hLayers⟩
  have hUpper : set.selected = credentials.selected :=
    hLayers.selected_eq (by simp)
  have hLower : set.selected = configured.selected :=
    hLayers.selected_eq (by simp)
  have hDecide :=
    decide_resolve_of_loadsLayers hLayers later setting
  have hFirst :
      config.MayLoadAlone host .credentials credentials :=
    ⟨order, hLayers.loads_credentials⟩
  have hSecond :
      config.MayLoadAlone host .config configured :=
    ⟨order, hLayers.loads_configured⟩
  refine
    ⟨credentials, configured, hLayers.loads_credentials,
      hLayers.loads_configured,
      hLayers.selected credentials (by simp),
      hLower.symm.trans hUpper, hDecide, ?_⟩
  intro upper lower hAlone hOther
  constructor
  · intro level
    exact
      isSome_find_eq_of_mayLoadAlone hAlone hOther hFirst
        hSecond (config.source later) setting.keys level
  · intro hOnce
    apply hDecide.congr
    intro level
    exact
      find_eq_of_mayLoadAlone hAlone hOther hFirst hSecond
        hOnce (config.source later) setting.keys level

/-
  Both files give the default profile a region, and spell
  the key in two ways.
-/
def twoFiles : Config :=
  { empty with
    environment := .fixed
      (Table.ofList [("HOME", Utf8.encode "/home")])
    files := .memory
      (Table.ofList
        [ ( Utf8.encode "/home/.aws/config",
            Utf8.encode "[default]\nregion = one" ),
          ( Utf8.encode "/home/.aws/credentials",
            Utf8.encode "[default]\nREGION = two" ) ]) }

/- The profiles of both files. -/
def twoFilesProfiles : ProfileSet where
  profiles := Table.ofList
    [ ( "default",
        ⟨"default", Table.ofList
          [("region", ⟨"region", "two"⟩)]⟩ ) ]
  selected := "default"

theorem isUnambiguous_twoFiles :
    twoFiles.IsUnambiguous Host.initial := by
  apply isUnambiguous_of_keysAgree
  intro files selected hFiles file hMem
  have hFound :
      (twoFiles.profileFiles Host.initial).outcome =
        .ok
          ( [ ⟨.config, "/home/.aws/config",
                "[default]\nregion = one"⟩,
              ⟨.credentials, "/home/.aws/credentials",
                "[default]\nREGION = two"⟩ ],
            "default" ) := by
    cbv
  rw [hFound] at hFiles
  cases hFiles
  rcases List.mem_pair.mp hMem with rfl | rfl
  · exact
      ⟨Table.ofList
          [("default", Table.ofList [("region", "one")])],
        fun _ => by cbv, by decide⟩
  · exact
      ⟨Table.ofList
          [("default", Table.ofList [("REGION", "two")])],
        fun _ => by cbv, by decide⟩

theorem resolve_region_twoFiles :
    (twoFiles.withLoadedProfilesIn .written
        Host.initial).outcome =
        .ok (twoFiles.withProfiles twoFilesProfiles) ∧
      ((twoFiles.withProfiles twoFilesProfiles).resolve
        Host.initial Catalog.region).outcome =
          .ok (some ⟨"two"⟩) ∧
      ∀ upper lower,
        twoFiles.MayLoadAlone Host.initial .credentials
            upper →
          twoFiles.MayLoadAlone Host.initial .config
              lower →
            SourceLevels.Decide
              ⟨twoFiles.source Host.initial, upper, lower⟩
              Catalog.region
              ((twoFiles.withProfiles
                twoFilesProfiles).resolve Host.initial
                  Catalog.region).outcome := by
  have hLoaded :
      (twoFiles.withLoadedProfilesIn .written
          Host.initial).outcome =
        .ok (twoFiles.withProfiles twoFilesProfiles) := by
    cbv
  refine ⟨hLoaded, by cbv, ?_⟩
  intro upper lower hUpper hLower
  rcases resolve_withLoadedProfiles twoFiles _ .written
      Host.initial Host.initial Catalog.region hLoaded with
    ⟨_, _, _, _, _, _, _, hAny⟩
  exact
    (hAny upper lower hUpper hLower).2 isUnambiguous_twoFiles

end Config

end LayeredSettings
