import LayeredSettings.Proofs.Independence
import LayeredSettings.Proofs.Retries

/-
  What is resolved as the configuration of the metadata
  service, told from the values that are found for its three
  settings.

  Key definitions include:
    * `Chain.Settles`
    * `MetadataVerdict`
    * `Config.IsGiven`

  Key theorems include:
    * `Chain.conclude_eq_iff_settles`
    * `Config.outcome_resolveMetadata_eq_iff`
    * `Config.isSome_find_chain_iff`
    * `Config.outcome_resolveMetadata_of_find`
    * `Config.resolveMetadata_follows_verdict`

  An endpoint that is given anywhere keeps the mode from
  being looked for.  So what the mode is, and whether it is
  one at all, matters only if no endpoint is given.
-/

------------------------------------------------------------
-- Single Settings
------------------------------------------------------------

namespace LayeredSettings

namespace Chain

variable {α : Type}

/-
  What a setting comes to, given what is found for it: its
  fallback, the value that a text names, or an error that
  says why the text that is found names none.
-/
inductive Settles
    (fallback : Option α)
    (Names : String → α → Prop)
    (cause : String → CoercionError) :
    Option RawValue →
      Except InvalidValue (Option α) → Prop where
| absent : Settles fallback Names cause none (.ok fallback)
| named
    (raw : RawValue)
    (value : α)
    (is_unicode : raw.unicode = true)
    (names : Names raw.value value) :
    Settles fallback Names cause (some raw)
      (.ok (some value))
| garbled
    (raw : RawValue)
    (not_unicode : raw.unicode = false) :
    Settles fallback Names cause (some raw)
      (.error (.ofRaw raw (.notUnicode raw.value)))
| nameless
    (raw : RawValue)
    (is_unicode : raw.unicode = true)
    (names_none : ∀ value, ¬ Names raw.value value) :
    Settles fallback Names cause (some raw)
      (.error (.ofRaw raw (cause raw.value)))

variable {setting : Setting α}
variable {Names : String → α → Prop}
variable {cause : String → CoercionError}

/- A setting comes to what the names of its values say. -/
theorem conclude_eq_iff_settles
    (hOk :
      ∀ text value,
        setting.coerce text = .ok value ↔ Names text value)
    (hError :
      ∀ text,
        (∀ value, ¬ Names text value) →
          setting.coerce text = .error (cause text))
    {found : Option RawValue}
    {result : Except InvalidValue (Option α)} :
    conclude setting found = result ↔
      Settles setting.fallback Names cause found result := by
  constructor
  · rintro rfl
    cases found with
    | none => exact .absent
    | some raw =>
        cases hUnicode : raw.unicode with
        | false =>
            rw [conclude_of_not_unicode hUnicode]
            exact .garbled raw hUnicode
        | true =>
            cases hRead : setting.coerce raw.value with
            | ok value =>
                rw [conclude_of_ok hUnicode hRead]
                exact .named raw value hUnicode
                  ((hOk raw.value value).mp hRead)
            | error own =>
                have hNone (value : α) :
                    ¬ Names raw.value value := by
                  rw [← hOk, hRead]
                  simp
                rw [conclude_of_error hUnicode
                  (hError raw.value hNone)]
                exact .nameless raw hUnicode hNone
  · intro hSettles
    cases hSettles with
    | absent => rfl
    | named raw value is_unicode names =>
        exact conclude_of_ok is_unicode
          ((hOk raw.value value).mpr names)
    | garbled raw not_unicode =>
        exact conclude_of_not_unicode not_unicode
    | nameless raw is_unicode names_none =>
        exact conclude_of_error is_unicode
          (hError raw.value names_none)

/- With a fallback a setting that is valid has a value. -/
theorem Settles.exists_value
    {default : α}
    {found : Option RawValue}
    {value? : Option α}
    (hSettles :
      Settles (some default) Names cause found
        (.ok value?)) :
    ∃ value, value? = some value := by
  cases hSettles with
  | absent => exact ⟨default, rfl⟩
  | named raw value is_unicode names => exact ⟨value, rfl⟩

end Chain

end LayeredSettings

------------------------------------------------------------
-- Verdicts
------------------------------------------------------------

namespace LayeredSettings

/- The two texts that are truth values, in any case. -/
def NamesBoolean
    (text : String)
    (value : Bool) : Prop :=
  Text.lowerCase text = if value then "true" else "false"

/- The two texts that are endpoint modes, in any case. -/
def NamesEndpointMode
    (text : String) : EndpointMode → Prop
| .ipv4 => Text.lowerCase text = "ipv4"
| .ipv6 => Text.lowerCase text = "ipv6"

/- What it comes to whether the service is disabled. -/
abbrev SettlesDisabled :
    Option RawValue →
      Except InvalidValue (Option Bool) → Prop :=
  Chain.Settles (some false) NamesBoolean .notBoolean

/- What an endpoint comes to: any text is one. -/
abbrev SettlesEndpoint :
    Option RawValue →
      Except InvalidValue (Option String) → Prop :=
  Chain.Settles none (fun text value => value = text)
    .notUnicode

/- What an endpoint mode comes to. -/
abbrev SettlesEndpointMode :
    Option RawValue →
      Except InvalidValue (Option EndpointMode) → Prop :=
  Chain.Settles (some .ipv4) NamesEndpointMode
    fun text => .notEndpointMode ⟨text⟩

/-
  What the configuration of the metadata service comes to,
  given what is found for its three settings.
-/
inductive MetadataVerdict
    (disabled endpoint mode : Option RawValue) :
    Except InvalidValue MetadataConfig → Prop where
| disabledInvalid
    (e : InvalidValue)
    (disabled_is : SettlesDisabled disabled (.error e)) :
    MetadataVerdict disabled endpoint mode (.error e)
| endpointInvalid
    (b : Bool)
    (e : InvalidValue)
    (disabled_is : SettlesDisabled disabled (.ok (some b)))
    (endpoint_is : SettlesEndpoint endpoint (.error e)) :
    MetadataVerdict disabled endpoint mode (.error e)
| explicit
    (b : Bool)
    (text : String)
    (disabled_is : SettlesDisabled disabled (.ok (some b)))
    (endpoint_is :
      SettlesEndpoint endpoint (.ok (some text))) :
    MetadataVerdict disabled endpoint mode (.ok ⟨b, text⟩)
| modeInvalid
    (b : Bool)
    (e : InvalidValue)
    (disabled_is : SettlesDisabled disabled (.ok (some b)))
    (endpoint_is : SettlesEndpoint endpoint (.ok none))
    (mode_is : SettlesEndpointMode mode (.error e)) :
    MetadataVerdict disabled endpoint mode (.error e)
| implied
    (b : Bool)
    (m : EndpointMode)
    (disabled_is : SettlesDisabled disabled (.ok (some b)))
    (endpoint_is : SettlesEndpoint endpoint (.ok none))
    (mode_is : SettlesEndpointMode mode (.ok (some m))) :
    MetadataVerdict disabled endpoint mode
      (.ok ⟨b, m.endpoint⟩)

end LayeredSettings

------------------------------------------------------------
-- The Three Settings
------------------------------------------------------------

namespace LayeredSettings

namespace Coercion

/- A text is read as the truth value that it names. -/
theorem boolean_eq_ok_iff
    (text : String)
    (value : Bool) :
    boolean text = .ok value ↔ NamesBoolean text value := by
  have hTrue : Text.lowerCase "true" = "true" := by decide
  have hFalse : Text.lowerCase "false" = "false" := by decide
  unfold boolean NamesBoolean Text.equalIgnoringCase
  rw [hTrue, hFalse]
  by_cases hYes : Text.lowerCase text = "true"
  · cases value <;> simp [hYes]
  · by_cases hNo : Text.lowerCase text = "false"
    · cases value <;> simp [hNo]
    · cases value <;> simp [hYes, hNo]

theorem boolean_eq_error
    (text : String)
    (hNone : ∀ value, ¬ NamesBoolean text value) :
    boolean text = .error (.notBoolean text) := by
  cases hRead : boolean text with
  | ok value =>
      exact absurd ((boolean_eq_ok_iff text value).mp hRead)
        (hNone value)
  | error e =>
      unfold boolean at hRead
      split at hRead
      · cases hRead
      · split at hRead
        · cases hRead
        · exact hRead.symm

/- A text is read as the endpoint mode that it names. -/
theorem endpointMode_eq_ok_iff
    (text : String)
    (mode : EndpointMode) :
    endpointMode text = .ok mode ↔
      NamesEndpointMode text mode := by
  have hFour : Text.lowerCase "ipv4" = "ipv4" := by decide
  have hSix : Text.lowerCase "ipv6" = "ipv6" := by decide
  unfold endpointMode EndpointMode.ofName
    Text.equalIgnoringCase
  rw [hFour, hSix]
  by_cases hYes : Text.lowerCase text = "ipv4"
  · cases mode <;>
      simp [hYes, NamesEndpointMode, Except.mapError]
  · by_cases hNo : Text.lowerCase text = "ipv6"
    · cases mode <;>
        simp [hNo, NamesEndpointMode, Except.mapError]
    · cases mode <;>
        simp [hYes, hNo, NamesEndpointMode, Except.mapError]

theorem endpointMode_eq_error
    (text : String)
    (hNone : ∀ mode, ¬ NamesEndpointMode text mode) :
    endpointMode text = .error (.notEndpointMode ⟨text⟩) := by
  cases hRead : endpointMode text with
  | ok mode =>
      exact absurd
        ((endpointMode_eq_ok_iff text mode).mp hRead)
        (hNone mode)
  | error e =>
      unfold endpointMode EndpointMode.ofName at hRead
      split at hRead
      · cases hRead
      · split at hRead
        · cases hRead
        · cases hRead
          rfl

end Coercion

namespace Config

variable {config other : Config}
variable {host elsewhere : Host}

theorem outcome_metadataDisabled_eq_iff
    {result : Except InvalidValue (Option Bool)} :
    (config.resolve host Catalog.metadataDisabled).outcome =
        result ↔
      SettlesDisabled
        (config.chain.find Catalog.metadataDisabled.keys
          (config.source host))
        result := by
  rw [outcome_resolve]
  exact Chain.conclude_eq_iff_settles
    Coercion.boolean_eq_ok_iff Coercion.boolean_eq_error

theorem outcome_metadataEndpoint_eq_iff
    {result : Except InvalidValue (Option String)} :
    (config.resolve host Catalog.metadataEndpoint).outcome =
        result ↔
      SettlesEndpoint
        (config.chain.find Catalog.metadataEndpoint.keys
          (config.source host))
        result := by
  rw [outcome_resolve]
  apply Chain.conclude_eq_iff_settles
  · intro text value
    rw [eq_comm]
    exact Except.ok.injEq value text ▸ Iff.rfl
  · intro text hNone
    exact absurd rfl (hNone text)

theorem outcome_metadataEndpointMode_eq_iff
    {result : Except InvalidValue (Option EndpointMode)} :
    (config.resolve host
        Catalog.metadataEndpointMode).outcome = result ↔
      SettlesEndpointMode
        (config.chain.find Catalog.metadataEndpointMode.keys
          (config.source host))
        result := by
  rw [outcome_resolve]
  exact Chain.conclude_eq_iff_settles
    Coercion.endpointMode_eq_ok_iff
    Coercion.endpointMode_eq_error

/- The mode is asked for only if there is no endpoint. -/
theorem outcome_resolveMetadata
    (config : Config)
    (host : Host) :
    (config.resolveMetadata host).outcome =
      match (config.resolve host
          Catalog.metadataDisabled).outcome with
      | .error e => .error e
      | .ok disabled =>
          match (config.resolve host
              Catalog.metadataEndpoint).outcome with
          | .error e => .error e
          | .ok (some endpoint) =>
              .ok ⟨disabled.getD false, endpoint⟩
          | .ok none =>
              match (config.resolve host
                  Catalog.metadataEndpointMode).outcome with
              | .error e => .error e
              | .ok mode =>
                  .ok ⟨disabled.getD false,
                    (mode.getD .ipv4).endpoint⟩ := by
  unfold resolveMetadata impliedEndpoint
  simp only [Attempt.outcome_bind]
  cases (config.resolve host
      Catalog.metadataDisabled).outcome with
  | error e => rfl
  | ok disabled =>
      cases (config.resolve host
          Catalog.metadataEndpoint).outcome with
      | error e => rfl
      | ok endpoint? =>
          cases endpoint? with
          | some endpoint => rfl
          | none =>
              simp only [Attempt.outcome_bind]
              cases (config.resolve host
                  Catalog.metadataEndpointMode).outcome with
              | error e => rfl
              | ok mode => rfl

/- What a configuration comes to is a verdict on it. -/
theorem metadataVerdict_outcome
    (config : Config)
    (host : Host) :
    MetadataVerdict
      (config.chain.find Catalog.metadataDisabled.keys
        (config.source host))
      (config.chain.find Catalog.metadataEndpoint.keys
        (config.source host))
      (config.chain.find Catalog.metadataEndpointMode.keys
        (config.source host))
      (config.resolveMetadata host).outcome := by
  rw [outcome_resolveMetadata]
  cases hDisabled : (config.resolve host
      Catalog.metadataDisabled).outcome with
  | error e =>
      exact .disabledInvalid e
        (outcome_metadataDisabled_eq_iff.mp hDisabled)
  | ok disabled =>
      have hIs :=
        outcome_metadataDisabled_eq_iff.mp hDisabled
      rcases hIs.exists_value with ⟨b, rfl⟩
      cases hEndpoint : (config.resolve host
          Catalog.metadataEndpoint).outcome with
      | error e =>
          exact .endpointInvalid b e hIs
            (outcome_metadataEndpoint_eq_iff.mp hEndpoint)
      | ok endpoint? =>
          have hEndpointIs :=
            outcome_metadataEndpoint_eq_iff.mp hEndpoint
          cases endpoint? with
          | some endpoint =>
              exact .explicit b endpoint hIs hEndpointIs
          | none =>
              cases hMode : (config.resolve host
                  Catalog.metadataEndpointMode).outcome with
              | error e =>
                  exact .modeInvalid b e hIs hEndpointIs
                    (outcome_metadataEndpointMode_eq_iff.mp
                      hMode)
              | ok mode =>
                  have hModeIs :=
                    outcome_metadataEndpointMode_eq_iff.mp
                      hMode
                  rcases hModeIs.exists_value with ⟨m, rfl⟩
                  exact .implied b m hIs hEndpointIs hModeIs

/- A configuration has one verdict, which it comes to. -/
theorem outcome_resolveMetadata_eq_iff
    {result : Except InvalidValue MetadataConfig} :
    (config.resolveMetadata host).outcome = result ↔
      MetadataVerdict
        (config.chain.find Catalog.metadataDisabled.keys
          (config.source host))
        (config.chain.find Catalog.metadataEndpoint.keys
          (config.source host))
        (config.chain.find Catalog.metadataEndpointMode.keys
          (config.source host))
        result := by
  constructor
  · rintro rfl
    exact metadataVerdict_outcome config host
  · intro hVerdict
    rw [outcome_resolveMetadata]
    cases hVerdict with
    | disabledInvalid e disabled_is =>
        rw [outcome_metadataDisabled_eq_iff.mpr disabled_is]
    | endpointInvalid b e disabled_is endpoint_is =>
        rw [outcome_metadataDisabled_eq_iff.mpr disabled_is,
          outcome_metadataEndpoint_eq_iff.mpr endpoint_is]
    | explicit b text disabled_is endpoint_is =>
        rw [outcome_metadataDisabled_eq_iff.mpr disabled_is,
          outcome_metadataEndpoint_eq_iff.mpr endpoint_is]
        rfl
    | modeInvalid b e disabled_is endpoint_is mode_is =>
        rw [outcome_metadataDisabled_eq_iff.mpr disabled_is,
          outcome_metadataEndpoint_eq_iff.mpr endpoint_is,
          outcome_metadataEndpointMode_eq_iff.mpr mode_is]
    | implied b m disabled_is endpoint_is mode_is =>
        rw [outcome_metadataDisabled_eq_iff.mpr disabled_is,
          outcome_metadataEndpoint_eq_iff.mpr endpoint_is,
          outcome_metadataEndpointMode_eq_iff.mpr mode_is]
        rfl

end Config

end LayeredSettings

------------------------------------------------------------
-- Given Endpoints
------------------------------------------------------------

namespace LayeredSettings

namespace Config

variable {config other : Config}
variable {host elsewhere : Host}

/-
  There is something for a setting at some level, down to
  the selected profile: a text, be it empty, or bytes.
-/
def IsGiven
    (config : Config)
    (host : Host)
    (keys : SettingKeys) : Prop :=
  (∃ key ∈ keys.systemProperty,
    ((config.source host).propertyOf key).isSome) ∨
  (∃ name ∈ keys.environmentVariable,
    ((config.source host).variableOf name).isSome) ∨
  ∃ key ∈ keys.profileKey,
    (config.selectedProperty key).isSome

/- A level finds something if there is something to find. -/
theorem isSome_do_iff
    {α β γ : Type}
    {key? : Option α}
    {valueOf : α → Option β}
    {result : α → β → γ} :
    (do
      let key ← key?
      let value ← valueOf key
      return result key value).isSome ↔
        ∃ key ∈ key?, (valueOf key).isSome := by
  cases key? with
  | none => simp
  | some key =>
      cases hValue : valueOf key with
      | none => simp [hValue]
      | some value => simp [hValue]

/- A chain finds what is given at any level. -/
theorem isSome_find_chain_iff
    {keys : SettingKeys} :
    (config.chain.find keys (config.source host)).isSome ↔
      config.IsGiven host keys := by
  have hProperty :
      (Lookup.systemProperty.find keys
          (config.source host)).isSome ↔
        ∃ key ∈ keys.systemProperty,
          ((config.source host).propertyOf key).isSome :=
    isSome_do_iff
  have hVariable :
      (Lookup.environmentVariable.find keys
          (config.source host)).isSome ↔
        ∃ name ∈ keys.environmentVariable,
          ((config.source host).variableOf name).isSome :=
    isSome_do_iff
  have hProfile :
      (config.profileHit keys).isSome ↔
        ∃ key ∈ keys.profileKey,
          (config.selectedProperty key).isSome :=
    isSome_do_iff
  unfold IsGiven
  rw [find_chain_eq_or, Option.isSome_or, Bool.or_eq_true,
    ← hProperty, ← hVariable, ← hProfile, ← or_assoc]
  simp [Chain.find, Chain.standard, List.findSome?_isSome_iff]

/- An endpoint that is found comes to its text, if to any. -/
theorem endpoint_eq_of_find
    {raw : RawValue}
    (hFound :
      config.chain.find Catalog.metadataEndpoint.keys
        (config.source host) = some raw)
    {endpoint? : Option String}
    (hOk :
      (config.resolve host
        Catalog.metadataEndpoint).outcome =
          .ok endpoint?) :
    endpoint? = some raw.value := by
  have hIs := outcome_metadataEndpoint_eq_iff.mp hOk
  rw [hFound] at hIs
  cases hIs with
  | named raw text is_unicode names => rw [names]

/- Beside a given endpoint no mode makes a difference. -/
theorem outcome_resolveMetadata_of_find
    {raw : RawValue}
    (hFound :
      config.chain.find Catalog.metadataEndpoint.keys
        (config.source host) = some raw)
    (hBeyond :
      ShowsAlikeBeyond Catalog.metadataEndpointMode.keys
        config host other elsewhere) :
    (config.resolveMetadata host).outcome =
      (other.resolveMetadata elsewhere).outcome := by
  have hDisabled :
      ShowsAlike Catalog.metadataDisabled.keys config host
        other elsewhere :=
    @ShowsAlikeBeyond.showsAlike _ _ _ _ _
      ⟨.boolean, Catalog.metadataDisabled⟩ hBeyond
      (by simp [Catalog.all]) (by decide)
  have hEndpoint :
      ShowsAlike Catalog.metadataEndpoint.keys config host
        other elsewhere :=
    @ShowsAlikeBeyond.showsAlike _ _ _ _ _
      ⟨.text, Catalog.metadataEndpoint⟩ hBeyond
      (by simp [Catalog.all]) (by decide)
  rw [outcome_resolveMetadata, outcome_resolveMetadata,
    ← hDisabled.outcome_resolve_eq,
    ← hEndpoint.outcome_resolve_eq]
  cases (config.resolve host
      Catalog.metadataDisabled).outcome with
  | error e => rfl
  | ok disabled =>
      cases hOutcome : (config.resolve host
          Catalog.metadataEndpoint).outcome with
      | error e => rfl
      | ok endpoint? =>
          rw [endpoint_eq_of_find hFound hOutcome]

/- No profile says whether the service is disabled. -/
theorem outcome_metadataDisabled_withProfiles
    (profiles? : Option ProfileSet) :
    (({ config with profiles := profiles? } :
        Config).resolve host
          Catalog.metadataDisabled).outcome =
      (config.resolve host
        Catalog.metadataDisabled).outcome := by
  apply ShowsAlike.outcome_resolve_eq
  refine ⟨⟨?_, ?_⟩, ?_⟩
  · intro key _
    rfl
  · intro name _
    rfl
  · intro key hKey
    exact absurd hKey (by simp [Catalog.metadataDisabled])

/- An endpoint that is found is what is configured. -/
theorem endpoint_eq_of_ok
    {raw : RawValue}
    (hFound :
      config.chain.find Catalog.metadataEndpoint.keys
        (config.source host) = some raw)
    {metadata : MetadataConfig}
    (hOk :
      (config.resolveMetadata host).outcome =
        .ok metadata) :
    metadata.endpoint = raw.value := by
  cases outcome_resolveMetadata_eq_iff.mp hOk with
  | explicit b text disabled_is endpoint_is =>
      have hText :=
        endpoint_eq_of_find hFound
          (outcome_metadataEndpoint_eq_iff.mpr endpoint_is)
      exact Option.some.inj hText
  | implied b m disabled_is endpoint_is mode_is =>
      have hText :=
        endpoint_eq_of_find hFound
          (outcome_metadataEndpoint_eq_iff.mpr endpoint_is)
      exact absurd hText (by simp)

/- What is configured is as disabled as its setting says. -/
theorem outcome_metadataDisabled_of_ok
    {metadata : MetadataConfig}
    (hOk :
      (config.resolveMetadata host).outcome =
        .ok metadata) :
    (config.resolve host
      Catalog.metadataDisabled).outcome =
        .ok (some metadata.disabled) := by
  cases outcome_resolveMetadata_eq_iff.mp hOk with
  | explicit b text disabled_is endpoint_is =>
      exact outcome_metadataDisabled_eq_iff.mpr disabled_is
  | implied b m disabled_is endpoint_is mode_is =>
      exact outcome_metadataDisabled_eq_iff.mpr disabled_is

end Config

end LayeredSettings

------------------------------------------------------------
-- Resolution
------------------------------------------------------------

namespace LayeredSettings

namespace Config

/-
  The configuration of the metadata service is what its
  verdict says, and only that.  Where an endpoint is given
  it is the endpoint, whatever modes there are elsewhere,
  and profiles do not say whether the service is disabled.
-/
theorem resolveMetadata_follows_verdict
    (config : Config)
    (host : Host) :
    (∀ result,
      (config.resolveMetadata host).outcome = result ↔
        MetadataVerdict
          (config.chain.find Catalog.metadataDisabled.keys
            (config.source host))
          (config.chain.find Catalog.metadataEndpoint.keys
            (config.source host))
          (config.chain.find
            Catalog.metadataEndpointMode.keys
            (config.source host))
          result) ∧
    (config.IsGiven host Catalog.metadataEndpoint.keys ↔
      ∃ raw,
        config.chain.find Catalog.metadataEndpoint.keys
          (config.source host) = some raw) ∧
    (∀ raw,
      config.chain.find Catalog.metadataEndpoint.keys
          (config.source host) = some raw →
        (∀ metadata,
          (config.resolveMetadata host).outcome =
              .ok metadata →
            metadata.endpoint = raw.value) ∧
        ∀ other elsewhere,
          ShowsAlikeBeyond Catalog.metadataEndpointMode.keys
              config host other elsewhere →
            (config.resolveMetadata host).outcome =
              (other.resolveMetadata elsewhere).outcome) ∧
    (∀ metadata,
      (config.resolveMetadata host).outcome =
          .ok metadata →
        (config.resolve host
          Catalog.metadataDisabled).outcome =
            .ok (some metadata.disabled)) ∧
    ∀ profiles? : Option ProfileSet,
      (({ config with profiles := profiles? } :
          Config).resolve host
            Catalog.metadataDisabled).outcome =
        (config.resolve host
          Catalog.metadataDisabled).outcome := by
  refine
    ⟨fun result => outcome_resolveMetadata_eq_iff, ?_, ?_,
      ?_, outcome_metadataDisabled_withProfiles⟩
  · rw [← isSome_find_chain_iff, Option.isSome_iff_exists]
  · intro raw hFound
    constructor
    · intro metadata hOk
      exact endpoint_eq_of_ok hFound hOk
    · intro other elsewhere hBeyond
      exact outcome_resolveMetadata_of_find hFound hBeyond
  · intro metadata hOk
    exact outcome_metadataDisabled_of_ok hOk

/- A default profile with an empty endpoint. -/
def emptyEndpoint : ProfileSet where
  profiles := Table.ofList
    [ ( "default",
        ⟨"default", Table.ofList
          [ ( "ec2_metadata_service_endpoint",
              ⟨"ec2_metadata_service_endpoint", ""⟩ ) ]⟩ ) ]
  selected := "default"

/-
  The empty text is the endpoint.  A mode among the
  properties does not replace it, and neither does a broken
  one or one in the profile.
-/
theorem resolveMetadata_emptyEndpoint :
    ((live.withProfiles emptyEndpoint).chain.find
        Catalog.metadataEndpoint.keys
        ((live.withProfiles emptyEndpoint).source
          Host.initial) =
      some ⟨"", "ec2_metadata_service_endpoint",
        .profile "default", true⟩ ∧
      ((live.withProfiles emptyEndpoint).resolveMetadata
          Host.initial).outcome =
        .ok ⟨false, ""⟩) ∧
    ((live.withProfiles emptyEndpoint).resolveMetadata
        Host.initial).outcome =
      ((live.withProfiles
        (emptyEndpoint.change
          Catalog.metadataEndpointMode.keys
          (some "broken"))).resolveMetadata
        (Host.initial.change
          Catalog.metadataEndpointMode.keys
          (some "IPv6") (some [0xFF]))).outcome ∧
    ((live.withProfiles emptyEndpoint).resolve Host.initial
      Catalog.metadataDisabled).outcome =
        .ok (some false) := by
  have hFound :
      (live.withProfiles emptyEndpoint).chain.find
          Catalog.metadataEndpoint.keys
          ((live.withProfiles emptyEndpoint).source
            Host.initial) =
        some ⟨"", "ec2_metadata_service_endpoint",
          .profile "default", true⟩ := by
    cbv
  have hOk :
      ((live.withProfiles emptyEndpoint).resolveMetadata
          Host.initial).outcome =
        .ok ⟨false, ""⟩ := by
    cbv
  have hAll :=
    resolveMetadata_follows_verdict
      (live.withProfiles emptyEndpoint) Host.initial
  refine ⟨⟨hFound, hOk⟩, ?_, ?_⟩
  · apply (hAll.2.2.1 _ hFound).2
    exact
      (differsOnlyIn_change live Host.initial emptyEndpoint
        Catalog.metadataEndpointMode.keys (some "IPv6")
        (some [0xFF]) (some "broken")).showsAlikeBeyond
  · exact hAll.2.2.2.1 ⟨false, ""⟩ hOk

end Config

end LayeredSettings
