import LayeredSettings.Proofs.Answers
import LayeredSettings.Proofs.Precedence

/-
  What a setting depends on, and that the settings of the
  catalog do not depend on one another.

  Key definitions include:
    * `Config.selectedProperty`
    * `Config.ShowsAlike`
    * `SettingKeys.AreApart`
    * `Config.DiffersOnlyIn`
    * `Config.ShowsAlikeBeyond`

  Key theorems include:
    * `Config.find_chain_eq_or`
    * `Config.ShowsAlike.outcome_resolve_eq`
    * `Catalog.areApart_of_ne`
    * `Config.ShowsAlikeBeyond.showsAlike`
    * `Config.settings_independent`

  A setting is read under three keys at most.  Configs that
  show the same under these keys resolve it alike, whether
  their profiles are loaded or not.  No two settings of the
  catalog share a key, so neither has a say in the other.
-/

------------------------------------------------------------
-- The Value of the Selected Profile
------------------------------------------------------------

namespace LayeredSettings

namespace Config

variable {config other : Config}
variable {host elsewhere : Host}
variable {keys : SettingKeys}

/-
  The name of the selected profile and the value that a key
  has there.  Without loaded profiles there is none.
-/
def selectedProperty
    (config : Config)
    (key : String) : Option (String × String) := do
  let profiles ← config.profiles
  let value ← profiles.get key
  return (profiles.selected, value)

/- What the selected profile has for a setting. -/
def profileHit
    (config : Config)
    (keys : SettingKeys) : Option RawValue := do
  let key ← keys.profileKey
  let (name, value) ← config.selectedProperty key
  return RawValue.ofText value key (.profile name)

/-
  Configs that show the same under the keys of a setting.
  The same value has to be in profiles of the same name.
-/
structure ShowsAlike
    (keys : SettingKeys)
    (config : Config)
    (host : Host)
    (other : Config)
    (elsewhere : Host) : Prop where
  source_agrees :
    (config.source host).AgreeOn (other.source elsewhere)
      keys
  profile_eq :
    ∀ key,
      keys.profileKey = some key →
        config.selectedProperty key =
          other.selectedProperty key

/- Profiles are asked after the standard lookups. -/
theorem find_chain_eq_or
    (config : Config)
    (keys : SettingKeys)
    (source : Source) :
    config.chain.find keys source =
      (Chain.standard.find keys source).or
        (config.profileHit keys) := by
  unfold chain profileHit selectedProperty
  cases config.profiles with
  | none =>
      cases keys.profileKey with
      | none => exact (Option.or_none).symm
      | some key => exact (Option.or_none).symm
  | some profiles =>
      have hLast :
          Chain.find [Lookup.profile profiles] keys source =
            (Lookup.profile profiles).find keys source := by
        unfold Chain.find
        rw [List.findSome?_cons, List.findSome?_nil]
        cases (Lookup.profile profiles).find keys source with
        | none => rfl
        | some raw => rfl
      unfold Chain.withProfile Chain.find
      rw [List.findSome?_append]
      congr 1
      refine hLast.trans ?_
      unfold Lookup.profile
      cases hKey : keys.profileKey with
      | none => simp [hKey]
      | some key =>
          cases hValue : profiles.get key with
          | none => simp [hKey, hValue]
          | some value => simp [hKey, hValue]

/- The standard lookups find the same in agreeing sources. -/
theorem find_standard_congr
    {source another : Source}
    (hAgree : source.AgreeOn another keys) :
    Chain.standard.find keys source =
      Chain.standard.find keys another := by
  rw [← Chain.value_load, ← Chain.value_load,
    Chain.load_congr
      (fun _ => Chain.readsKeysOnly_of_mem_standard) hAgree]

/- What a setting is depends on its keys alone. -/
theorem ShowsAlike.outcome_resolve_eq
    {α : Type}
    {setting : Setting α}
    (hAlike :
      ShowsAlike setting.keys config host other elsewhere) :
    (config.resolve host setting).outcome =
      (other.resolve elsewhere setting).outcome := by
  have hStandard :=
    find_standard_congr hAlike.source_agrees
  have hProfile :
      config.profileHit setting.keys =
        other.profileHit setting.keys := by
    unfold profileHit
    cases hKey : setting.keys.profileKey with
    | none => rfl
    | some key =>
        simp only [Option.bind_eq_bind, Option.bind_some,
          hAlike.profile_eq key hKey]
  rw [outcome_resolve, outcome_resolve, find_chain_eq_or,
    find_chain_eq_or, hStandard, hProfile]

/- Profiles without the key of a setting have no say in it. -/
theorem outcome_resolve_of_selectedProperty_eq_none
    {α : Type}
    {setting : Setting α}
    (hNone :
      ∀ key,
        setting.keys.profileKey = some key →
          config.selectedProperty key = none) :
    (config.resolve host setting).outcome =
      (Chain.standard.resolve setting
        (config.source host)).outcome := by
  have hProfile : config.profileHit setting.keys = none := by
    unfold profileHit
    cases hKey : setting.keys.profileKey with
    | none => rfl
    | some key =>
        simp only [Option.bind_eq_bind, Option.bind_some,
          hNone key hKey, Option.bind_none]
  rw [outcome_resolve, find_chain_eq_or, hProfile,
    Option.or_none]
  exact
    (Chain.value_run_resolve Chain.standard setting
      (config.source host)).symm

end Config

end LayeredSettings

------------------------------------------------------------
-- Keys of the Catalog
------------------------------------------------------------

namespace LayeredSettings

namespace SettingKeys

/-
  Keys of two settings that are read from different places.
  Profile keys are asked for in any letter case.
-/
def AreApart
    (keys other : SettingKeys) : Prop :=
  (∀ key ∈ keys.systemProperty,
    key ∉ other.systemProperty) ∧
  (∀ name ∈ keys.environmentVariable,
    name ∉ other.environmentVariable) ∧
  ∀ key ∈ keys.profileKey, ∀ name ∈ other.profileKey,
    Text.equalIgnoringCase key name = false

instance (keys other : SettingKeys) :
    Decidable (AreApart keys other) :=
  inferInstanceAs (Decidable (_ ∧ _ ∧ _))

theorem equalIgnoringCase_comm
    (s t : String) :
    Text.equalIgnoringCase s t =
      Text.equalIgnoringCase t s :=
  Bool.beq_comm

theorem AreApart.symm
    {keys other : SettingKeys}
    (hApart : keys.AreApart other) :
    other.AreApart keys := by
  refine ⟨?_, ?_, ?_⟩
  · intro key hOther hKey
    exact hApart.1 key hKey hOther
  · intro name hOther hName
    exact hApart.2.1 name hName hOther
  · intro name hName key hKey
    rw [equalIgnoringCase_comm]
    exact hApart.2.2 key hKey name hName

end SettingKeys

namespace Catalog

/- No two settings of the catalog are read from one place. -/
theorem areApart_of_ne
    {typed another : TypedSetting}
    (hMem : typed ∈ all)
    (hOther : another ∈ all)
    (hNe : typed ≠ another) :
    typed.keys.AreApart another.keys := by
  have hKeys :
      (all.map TypedSetting.keys).Pairwise
        SettingKeys.AreApart := by
    decide
  have hAll :
      all.Pairwise fun s t => s.keys.AreApart t.keys :=
    List.pairwise_map.mp hKeys
  have hSymm :
      Std.Symm fun s t : TypedSetting =>
        s.keys.AreApart t.keys :=
    ⟨fun _ _ hApart => hApart.symm⟩
  exact hAll.forall hMem hOther hNe

end Catalog

end LayeredSettings

------------------------------------------------------------
-- Changes of One Setting
------------------------------------------------------------

namespace LayeredSettings

/- Give a key a value, or remove it. -/
def Table.put
    {κ α : Type}
    [DecidableEq κ]
    (t : Table κ α)
    (k : κ) : Option α → Table κ α
| none => t.erase k
| some a => t.insert k a

theorem Table.get?_put_of_ne
    {κ α : Type}
    [DecidableEq κ]
    {t : Table κ α}
    {k l : κ}
    {a : Option α}
    (hNe : k ≠ l) :
    (t.put k a).get? l = t.get? l := by
  unfold put
  cases a with
  | none => rw [get?_erase, if_neg hNe]
  | some a => rw [get?_insert, if_neg hNe]

/- Change the property and the variable of a setting. -/
def Host.change
    (host : Host)
    (keys : SettingKeys)
    (property : Option String)
    (bytes : Option Bytes) : Host :=
  { host with
    properties :=
      match keys.systemProperty with
      | none => host.properties
      | some key => host.properties.put key property
    environment :=
      match keys.environmentVariable with
      | none => host.environment
      | some name => host.environment.put name bytes }

/- Change a setting in the selected profile. -/
def ProfileSet.change
    (set : ProfileSet)
    (keys : SettingKeys)
    (value : Option String) : ProfileSet :=
  match keys.profileKey with
  | none => set
  | some key =>
      let lower := Text.lowerCase key
      let profile := set.profileOrNew set.selected
      set.store set.selected
        { profile with
          properties := profile.properties.put lower
            (value.map (Property.mk lower)) }

namespace ProfileSet

theorem selected_change
    (set : ProfileSet)
    (keys : SettingKeys)
    (value : Option String) :
    (set.change keys value).selected = set.selected := by
  unfold change
  cases keys.profileKey with
  | none => rfl
  | some key => rfl

/- Only the key of the setting is given another value. -/
theorem get_change
    {set : ProfileSet}
    {keys : SettingKeys}
    {value : Option String}
    {key : String}
    (hKey :
      ∀ own ∈ keys.profileKey,
        Text.equalIgnoringCase own key = false) :
    (set.change keys value).get key = set.get key := by
  unfold change
  cases hOwn : keys.profileKey with
  | none => rfl
  | some own =>
      have hNe : Text.lowerCase own ≠ Text.lowerCase key :=
        ne_of_beq_false (hKey own hOwn)
      simp only [get, store, profile?, profileOrNew,
        Table.get?_insert, if_true, Option.bind_eq_bind,
        Option.bind_some, Profile.get,
        Table.get?_put_of_ne hNe]
      cases set.profiles.get? set.selected with
      | none => rfl
      | some profile => rfl

end ProfileSet

namespace Config

/-
  Configs with loaded profiles that show the same but for
  the property, the variable and the value in the selected
  profile of a setting.  A name with `=` may be answered by
  any variable, so no such name is compared.
-/
structure DiffersOnlyIn
    (keys : SettingKeys)
    (config : Config)
    (host : Host)
    (other : Config)
    (elsewhere : Host) : Prop where
  property_eq :
    ∀ key,
      keys.systemProperty ≠ some key →
        (config.source host).propertyOf key =
          (other.source elsewhere).propertyOf key
  variable_eq :
    ∀ name,
      '=' ∉ name.toList →
        keys.environmentVariable ≠ some name →
          (config.source host).variableOf name =
            (other.source elsewhere).variableOf name
  profile_eq :
    ∃ profiles changed,
      config.profiles = some profiles ∧
        other.profiles = some changed ∧
          profiles.selected = changed.selected ∧
            ∀ key,
              (∀ own ∈ keys.profileKey,
                Text.equalIgnoringCase own key = false) →
                profiles.get key = changed.get key

/- A change of one setting leaves all else as it was. -/
theorem differsOnlyIn_change
    (config : Config)
    (host : Host)
    (set : ProfileSet)
    (keys : SettingKeys)
    (property : Option String)
    (bytes : Option Bytes)
    (value : Option String) :
    DiffersOnlyIn keys (config.withProfiles set) host
      (config.withProfiles (set.change keys value))
      (host.change keys property bytes) := by
  constructor
  · intro key hKey
    cases hProperties : config.properties with
    | fixed table =>
        simp [source, withProfiles, Properties.current,
          hProperties]
    | live =>
        simp only [source, withProfiles, Properties.current,
          hProperties, Host.change]
        cases hOwn : keys.systemProperty with
        | none => rfl
        | some own =>
            have hNe : own ≠ key := by
              intro hEq
              exact hKey (hOwn.trans (congrArg some hEq))
            exact (Table.get?_put_of_ne hNe).symm
  · intro name hName hVariable
    cases hEnvironment : config.environment with
    | fixed table =>
        simp [source, withProfiles, Variables.lookup,
          hEnvironment]
    | live =>
        simp only [source, withProfiles, Variables.lookup,
          hEnvironment, Host.lookup_eq_get? hName,
          Host.change]
        cases hOwn : keys.environmentVariable with
        | none => rfl
        | some own =>
            have hNe : own ≠ name := by
              intro hEq
              exact hVariable
                (hOwn.trans (congrArg some hEq))
            exact (Table.get?_put_of_ne hNe).symm
  · refine
      ⟨set, set.change keys value, rfl, rfl,
        (set.selected_change keys value).symm, ?_⟩
    intro key hKey
    exact (ProfileSet.get_change hKey).symm

/-
  Configs that show the same but under the keys of a
  setting.  Their profiles may be loaded or not.
-/
structure ShowsAlikeBeyond
    (keys : SettingKeys)
    (config : Config)
    (host : Host)
    (other : Config)
    (elsewhere : Host) : Prop where
  property_eq :
    ∀ key,
      keys.systemProperty ≠ some key →
        (config.source host).propertyOf key =
          (other.source elsewhere).propertyOf key
  variable_eq :
    ∀ name,
      '=' ∉ name.toList →
        keys.environmentVariable ≠ some name →
          (config.source host).variableOf name =
            (other.source elsewhere).variableOf name
  profile_eq :
    ∀ key,
      (∀ own ∈ keys.profileKey,
        Text.equalIgnoringCase own key = false) →
        config.selectedProperty key =
          other.selectedProperty key

/- Beyond the keys of a setting the others are alike. -/
theorem ShowsAlikeBeyond.showsAlike
    {config other : Config}
    {host elsewhere : Host}
    {keys : SettingKeys}
    {another : TypedSetting}
    (hBeyond :
      ShowsAlikeBeyond keys config host other elsewhere)
    (hMem : another ∈ Catalog.all)
    (hApart : keys.AreApart another.keys) :
    ShowsAlike another.keys config host other elsewhere := by
  rcases hApart with ⟨hProperty, hVariable, hProfile⟩
  refine ⟨⟨?_, ?_⟩, ?_⟩
  · intro key hKey
    apply hBeyond.property_eq
    intro hOwn
    exact hProperty key hOwn hKey
  · intro name hName
    apply hBeyond.variable_eq
    · exact
        Catalog.not_mem_of_environmentVariable another hMem
          name hName
    · intro hOwn
      exact hVariable name hOwn hName
  · intro key hKey
    apply hBeyond.profile_eq
    intro own hOwn
    exact hProfile own hOwn key hKey

/- Loaded profiles are compared key by key. -/
theorem DiffersOnlyIn.showsAlikeBeyond
    {config other : Config}
    {host elsewhere : Host}
    {keys : SettingKeys}
    (hDiffers :
      DiffersOnlyIn keys config host other elsewhere) :
    ShowsAlikeBeyond keys config host other elsewhere := by
  rcases hDiffers.profile_eq with
    ⟨profiles, changed, hProfiles, hChanged, hSelected,
      hGet⟩
  refine
    ⟨hDiffers.property_eq, hDiffers.variable_eq, ?_⟩
  intro key hKey
  simp only [selectedProperty, hProfiles, hChanged,
    Option.bind_eq_bind, Option.bind_some, hGet key hKey,
    hSelected]

theorem DiffersOnlyIn.showsAlike
    {config other : Config}
    {host elsewhere : Host}
    {keys : SettingKeys}
    {another : TypedSetting}
    (hDiffers :
      DiffersOnlyIn keys config host other elsewhere)
    (hMem : another ∈ Catalog.all)
    (hApart : keys.AreApart another.keys) :
    ShowsAlike another.keys config host other elsewhere :=
  hDiffers.showsAlikeBeyond.showsAlike hMem hApart

end Config

end LayeredSettings

------------------------------------------------------------
-- Independence
------------------------------------------------------------

namespace LayeredSettings

namespace Config

/-
  A setting is what the places that it is read from make it,
  whatever else two configs have.  Without a value in the
  selected profile it is what it is without profiles.  So a
  setting of the catalog stays as it is when another one is
  changed in the places that this one is read from.
-/
theorem settings_independent
    (config other : Config)
    (host elsewhere : Host) :
    (∀ {α : Type} (setting : Setting α),
      ShowsAlike setting.keys config host other elsewhere →
        (config.resolve host setting).outcome =
          (other.resolve elsewhere setting).outcome) ∧
    (∀ {α : Type} (setting : Setting α),
      (∀ key,
        setting.keys.profileKey = some key →
          config.selectedProperty key = none) →
        (config.resolve host setting).outcome =
          (Chain.standard.resolve setting
            (config.source host)).outcome) ∧
    ∀ typed ∈ Catalog.all, ∀ another ∈ Catalog.all,
      typed ≠ another →
        DiffersOnlyIn typed.keys config host other
            elsewhere →
          (config.resolve host another.setting).outcome =
            (other.resolve elsewhere
              another.setting).outcome := by
  refine ⟨?_, ?_, ?_⟩
  · intro α setting hAlike
    exact hAlike.outcome_resolve_eq
  · intro α setting hNone
    exact outcome_resolve_of_selectedProperty_eq_none hNone
  · intro typed hTyped another hAnother hNe hDiffers
    have hApart : typed.keys.AreApart another.keys :=
      Catalog.areApart_of_ne hTyped hAnother hNe
    exact
      (hDiffers.showsAlike hAnother hApart).outcome_resolve_eq

/- A default profile with a region and a broken limit. -/
def regionAndLimit : ProfileSet where
  profiles := Table.ofList
    [ ( "default",
        ⟨"default", Table.ofList
          [ ("region", ⟨"region", "one"⟩),
            ("max_attempts", ⟨"max_attempts", "x"⟩) ]⟩ ) ]
  selected := "default"

/-
  The region leaves its profile and becomes a property, and
  its variable is no text.  The limit stays broken.
-/
theorem resolve_maxAttempts_changedRegion :
    (((live.withProfiles regionAndLimit).resolve
        Host.initial Catalog.region).outcome =
      .ok (some ⟨"one"⟩) ∧
    ((live.withProfiles
      (regionAndLimit.change Catalog.region.keys none)).resolve
        (Host.initial.change Catalog.region.keys
          (some "two") (some [0xFF]))
        Catalog.region).outcome =
      .ok (some ⟨"two"⟩)) ∧
    ((live.withProfiles regionAndLimit).resolve
        Host.initial Catalog.maxAttempts).outcome =
      ((live.withProfiles
        (regionAndLimit.change Catalog.region.keys
          none)).resolve
        (Host.initial.change Catalog.region.keys
          (some "two") (some [0xFF]))
        Catalog.maxAttempts).outcome := by
  refine ⟨⟨by cbv, by cbv⟩, ?_⟩
  exact
    (settings_independent _ _ _ _).2.2
      ⟨.region, Catalog.region⟩ (by simp [Catalog.all])
      ⟨.integer, Catalog.maxAttempts⟩ (by simp [Catalog.all])
      (by
        intro hEq
        exact absurd (congrArg TypedSetting.type hEq)
          (by decide))
      (differsOnlyIn_change live Host.initial regionAndLimit
        Catalog.region.keys (some "two") (some [0xFF]) none)

end Config

end LayeredSettings
