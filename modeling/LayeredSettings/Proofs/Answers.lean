import LayeredSettings.Metadata.Resolve
import LayeredSettings.Proofs.Profile.LoadOrder
import LayeredSettings.Region.Resolve
import LayeredSettings.Retry.Resolve
import Mathlib.Data.List.Basic

/-
  What a config answers, and what of its surroundings the
  answers depend on.

  Key definitions include:
    * `Source.AgreeOn`
    * `Lookup.ReadsKeysOnly`
    * `Config.ShowsAs`
    * `Config.AnswersAs`

  Key theorems include:
    * `Chain.load_congr`
    * `Config.readsKeysOnly_of_mem_chain`
    * `Catalog.not_mem_of_environmentVariable`
    * `Config.ShowsAs.loadProfilesIn_eq`
    * `Config.ShowsAs.answersAs`

  Answers are compared with all that they report on the way.
  The lookups of a config ask for nothing but the keys of
  the setting, so what else there is has no influence.
-/

------------------------------------------------------------
-- Lookups That Read Keys
------------------------------------------------------------

namespace LayeredSettings

/- Sources that show the same under the keys of a setting. -/
structure Source.AgreeOn
    (source other : Source)
    (keys : SettingKeys) : Prop where
  property_eq :
    ∀ key,
      keys.systemProperty = some key →
        source.propertyOf key = other.propertyOf key
  variable_eq :
    ∀ key,
      keys.environmentVariable = some key →
        source.variableOf key = other.variableOf key

/- A lookup that asks for the keys of a setting only. -/
def Lookup.ReadsKeysOnly
    (lookup : Lookup) : Prop :=
  ∀ keys source other,
    Source.AgreeOn source other keys →
      lookup.find keys source = lookup.find keys other

namespace Lookup

theorem readsKeysOnly_systemProperty :
    systemProperty.ReadsKeysOnly := by
  intro keys source other hAgree
  unfold systemProperty
  cases hKey : keys.systemProperty with
  | none => simp [hKey]
  | some key => simp [hKey, hAgree.property_eq key hKey]

theorem readsKeysOnly_environmentVariable :
    environmentVariable.ReadsKeysOnly := by
  intro keys source other hAgree
  unfold environmentVariable
  cases hKey : keys.environmentVariable with
  | none => simp [hKey]
  | some key => simp [hKey, hAgree.variable_eq key hKey]

theorem readsKeysOnly_profile
    (profiles : ProfileSet) :
    (profile profiles).ReadsKeysOnly := by
  intro keys source other _
  rfl

end Lookup

namespace Chain

/- Sources that agree on the keys are loaded from alike. -/
theorem load_congr
    {chain : Chain}
    (hChain : ∀ lookup ∈ chain, lookup.ReadsKeysOnly)
    {source other : Source}
    {keys : SettingKeys}
    (hAgree : source.AgreeOn other keys) :
    load keys source chain = load keys other chain := by
  induction chain with
  | nil => rfl
  | cons lookup rest ih =>
      have hFind :=
        hChain lookup (by simp) keys source other hAgree
      have hRest :=
        ih fun next hMem => hChain next (by simp [hMem])
      rw [load, load, hFind, hRest]

theorem resolve_congr
    {α : Type}
    {chain : Chain}
    (hChain : ∀ lookup ∈ chain, lookup.ReadsKeysOnly)
    {source other : Source}
    {setting : Setting α}
    (hAgree : source.AgreeOn other setting.keys) :
    chain.resolve setting source =
      chain.resolve setting other := by
  unfold resolve
  rw [load_congr hChain hAgree]

theorem readsKeysOnly_of_mem_standard
    {lookup : Lookup}
    (hMem : lookup ∈ standard) :
    lookup.ReadsKeysOnly := by
  rcases List.mem_pair.mp hMem with hFirst | hSecond
  · rw [hFirst]
    exact Lookup.readsKeysOnly_systemProperty
  · rw [hSecond]
    exact Lookup.readsKeysOnly_environmentVariable

end Chain

/- The lookups of a config read keys only. -/
theorem Config.readsKeysOnly_of_mem_chain
    (config : Config)
    {lookup : Lookup}
    (hMem : lookup ∈ config.chain) :
    lookup.ReadsKeysOnly := by
  unfold Config.chain at hMem
  cases hProfiles : config.profiles with
  | none =>
      rw [hProfiles] at hMem
      exact Chain.readsKeysOnly_of_mem_standard hMem
  | some profiles =>
      rw [hProfiles] at hMem
      rcases List.mem_append.mp hMem with hUsual | hLast
      · exact Chain.readsKeysOnly_of_mem_standard hUsual
      · rw [List.mem_singleton.mp hLast]
        exact Lookup.readsKeysOnly_profile profiles

/- No setting of the catalog asks for a name with `=`. -/
theorem Catalog.not_mem_of_environmentVariable :
    ∀ typed ∈ Catalog.all,
      ∀ name ∈ typed.keys.environmentVariable,
        '=' ∉ name.toList := by
  decide

end LayeredSettings

------------------------------------------------------------
-- Configs That Show the Same
------------------------------------------------------------

namespace LayeredSettings

namespace Config

variable {config other : Config}
variable {host elsewhere : Host}

/-
  A config that has what another has, and shows the same
  properties, files, and variables.  A host need not answer
  as a table does for names with `=`, so variables are the
  same under a name for which it does.
-/
structure ShowsAs
    (config : Config)
    (host : Host)
    (other : Config)
    (elsewhere : Host) : Prop where
  profiles_eq : config.profiles = other.profiles
  profileName_eq : config.profileName = other.profileName
  file_eq :
    ∀ path,
      config.fileAt host path = other.fileAt elsewhere path
  property_eq :
    ∀ key,
      (config.source host).propertyOf key =
        (other.source elsewhere).propertyOf key
  variable_eq :
    ∀ name,
      host.lookup name = host.environment.get? name →
        (config.source host).variableOf name =
          (other.source elsewhere).variableOf name

/-
  A config that answers at a host as another config does
  elsewhere: any setting under a name for which the host
  answers as a table does, and what is made of settings.
-/
structure AnswersAs
    (config : Config)
    (host : Host)
    (other : Config)
    (elsewhere : Host) : Prop where
  setting :
    ∀ {α : Type} (setting : Setting α),
      (∀ name,
        setting.keys.environmentVariable = some name →
          host.lookup name = host.environment.get? name) →
        config.resolve host setting =
          other.resolve elsewhere setting
  retry : config.resolveRetry host = other.resolveRetry elsewhere
  region :
    config.resolveRegion host = other.resolveRegion elsewhere
  metadata :
    config.resolveMetadata host =
      other.resolveMetadata elsewhere
  profiles :
    ∀ order,
      config.loadProfilesIn order host =
        other.loadProfilesIn order elsewhere
  loads :
    ∀ set,
      config.MayLoad host set ↔ other.MayLoad elsewhere set

namespace ShowsAs

/- The sources agree on keys that the host has as a table. -/
theorem agreeOn
    (hShows : config.ShowsAs host other elsewhere)
    {keys : SettingKeys}
    (hNames :
      ∀ name,
        keys.environmentVariable = some name →
          host.lookup name = host.environment.get? name) :
    (config.source host).AgreeOn (other.source elsewhere)
      keys := by
  constructor
  · intro key _
    exact hShows.property_eq key
  · intro name hKey
    exact hShows.variable_eq name (hNames name hKey)

theorem resolve_eq
    {α : Type}
    (hShows : config.ShowsAs host other elsewhere)
    {setting : Setting α}
    (hNames :
      ∀ name,
        setting.keys.environmentVariable = some name →
          host.lookup name = host.environment.get? name) :
    config.resolve host setting =
      other.resolve elsewhere setting := by
  have hChain : config.chain = other.chain := by
    unfold Config.chain
    rw [hShows.profiles_eq]
  unfold Config.resolve
  rw [← hChain]
  apply Chain.resolve_congr
  · intro lookup hMem
    exact config.readsKeysOnly_of_mem_chain hMem
  · exact hShows.agreeOn hNames

/- A host answers for a name of the catalog as a table. -/
theorem lookup_eq_of_mem_all
    {typed : TypedSetting}
    (hMem : typed ∈ Catalog.all)
    (name : String)
    (hName : typed.keys.environmentVariable = some name) :
    host.lookup name = host.environment.get? name :=
  Host.lookup_eq_get?
    (Catalog.not_mem_of_environmentVariable typed hMem name
      hName)

theorem resolveAlone_eq
    (hShows : config.ShowsAs host other elsewhere)
    {setting : Setting String}
    (hMem : ⟨.text, setting⟩ ∈ Catalog.all) :
    config.resolveAlone host setting =
      other.resolveAlone elsewhere setting := by
  apply Chain.resolve_congr
  · intro lookup
    exact Chain.readsKeysOnly_of_mem_standard
  · exact hShows.agreeOn (lookup_eq_of_mem_all hMem)

/- The home directory is under a name without `=`. -/
theorem expand_eq
    (hShows : config.ShowsAs host other elsewhere)
    (path : String) :
    HomePath.expand (config.source host) path =
      HomePath.expand (other.source elsewhere) path := by
  have hHome :
      (config.source host).textOf "HOME" =
        (other.source elsewhere).textOf "HOME" := by
    unfold Source.textOf
    rw [hShows.variable_eq "HOME"
      (Host.lookup_eq_get? (by decide))]
  unfold HomePath.expand HomePath.home?
  rw [hHome]

theorem read_eq
    (hShows : config.ShowsAs host other elsewhere)
    (kind : FileKind)
    (path : String) :
    ProfileFile.read config host kind path =
      ProfileFile.read other elsewhere kind path := by
  unfold ProfileFile.read ProfileFile.bytes
  simp only [hShows.expand_eq, hShows.file_eq]

theorem filePath_eq
    (hShows : config.ShowsAs host other elsewhere)
    (kind : FileKind) :
    config.filePath host kind =
      other.filePath elsewhere kind := by
  unfold Config.filePath
  cases kind with
  | config =>
      rw [hShows.resolveAlone_eq
        (by simp [ProfileFile.location, Catalog.all])]
  | credentials =>
      rw [hShows.resolveAlone_eq
        (by simp [ProfileFile.location, Catalog.all])]

theorem selectedProfile_eq
    (hShows : config.ShowsAs host other elsewhere) :
    config.selectedProfile host =
      other.selectedProfile elsewhere := by
  unfold Config.selectedProfile
  rw [hShows.profileName_eq,
    hShows.resolveAlone_eq (by simp [Catalog.all])]

theorem loadProfilesIn_eq
    (hShows : config.ShowsAs host other elsewhere)
    (order : Enumeration) :
    config.loadProfilesIn order host =
      other.loadProfilesIn order elsewhere := by
  unfold Config.loadProfilesIn Config.profileFiles
  simp only [hShows.filePath_eq, hShows.selectedProfile_eq,
    hShows.read_eq]

/- So in all orders together the same sets are loaded. -/
theorem mayLoad_iff
    (hShows : config.ShowsAs host other elsewhere)
    (set : ProfileSet) :
    config.MayLoad host set ↔ other.MayLoad elsewhere set := by
  unfold Config.MayLoad
  simp only [hShows.loadProfilesIn_eq]

/- What shows the same gives the same answers. -/
theorem answersAs
    (hShows : config.ShowsAs host other elsewhere) :
    config.AnswersAs host other elsewhere := by
  have hCatalog (typed : TypedSetting)
      (hMem : typed ∈ Catalog.all) :
      config.resolve host typed.setting =
        other.resolve elsewhere typed.setting :=
    hShows.resolve_eq (lookup_eq_of_mem_all hMem)
  have hMode :
      config.resolve host Catalog.retryMode =
        other.resolve elsewhere Catalog.retryMode :=
    hCatalog ⟨.retryMode, Catalog.retryMode⟩
      (by simp [Catalog.all])
  have hLimit :
      config.resolve host Catalog.maxAttempts =
        other.resolve elsewhere Catalog.maxAttempts :=
    hCatalog ⟨.integer, Catalog.maxAttempts⟩
      (by simp [Catalog.all])
  have hRegion :
      config.resolve host Catalog.region =
        other.resolve elsewhere Catalog.region :=
    hCatalog ⟨.region, Catalog.region⟩
      (by simp [Catalog.all])
  have hDisabled :
      config.resolve host Catalog.metadataDisabled =
        other.resolve elsewhere Catalog.metadataDisabled :=
    hCatalog ⟨.boolean, Catalog.metadataDisabled⟩
      (by simp [Catalog.all])
  have hEndpoint :
      config.resolve host Catalog.metadataEndpoint =
        other.resolve elsewhere Catalog.metadataEndpoint :=
    hCatalog ⟨.text, Catalog.metadataEndpoint⟩
      (by simp [Catalog.all])
  have hEndpointMode :
      config.resolve host Catalog.metadataEndpointMode =
        other.resolve elsewhere
          Catalog.metadataEndpointMode :=
    hCatalog ⟨.endpointMode, Catalog.metadataEndpointMode⟩
      (by simp [Catalog.all])
  constructor
  · intro α setting hNames
    exact hShows.resolve_eq hNames
  · unfold Config.resolveRetry
    rw [hMode, hLimit]
  · unfold Config.resolveRegion
    rw [hRegion]
  · unfold Config.resolveMetadata Config.impliedEndpoint
    rw [hDisabled, hEndpoint, hEndpointMode]
  · exact hShows.loadProfilesIn_eq
  · exact hShows.mayLoad_iff

end ShowsAs

end Config

end LayeredSettings
