import LayeredSettings.Proofs.Answers
import LayeredSettings.Proofs.Profile.Secrecy

/-
  What the reports of a resolution disclose of the value of a
  text setting.

  Key definitions include:
    * `Lookup.IsBuiltIn`
    * `Source.SetAlike`
    * `RawValue.disclosed`
    * `Chain.report`

  Key theorems include:
    * `Lookup.IsBuiltIn.find_rel`
    * `Chain.load_alike`
    * `Chain.report_text_eq_iff`

  Two resolutions are compared that find other values at the
  same places.  No event that is modelled shows a value that
  is text.  A value that is none cannot be coerced, and the
  report of the error shows it with replacements.

  Of a lookup an event keeps the label, which is no more than
  its name.  What is left out is the rest of the lookup, with
  the values of its profiles, which traces show as well.  The
  lookups are the same here in both resolutions.
-/

------------------------------------------------------------
-- Values at the Same Places
------------------------------------------------------------

namespace LayeredSettings

/- The lookups that are no user's own. -/
inductive Lookup.IsBuiltIn : Lookup → Prop where
| systemProperty :
    IsBuiltIn Lookup.systemProperty
| environmentVariable :
    IsBuiltIn Lookup.environmentVariable
| profile
    (profiles : ProfileSet) :
    IsBuiltIn (Lookup.profile profiles)

/-
  Sources that have values under the same keys of a setting.
  A variable is text in both of them or in neither.
-/
structure Source.SetAlike
    (source other : Source)
    (keys : SettingKeys) : Prop where
  property_iff :
    ∀ key,
      keys.systemProperty = some key →
        ((source.propertyOf key).isSome ↔
          (other.propertyOf key).isSome)
  variable_rel :
    ∀ key,
      keys.environmentVariable = some key →
        Option.Rel
          (fun bytes given =>
            (Utf8.decode? bytes).isSome ↔
              (Utf8.decode? given).isSome)
          (source.variableOf key) (other.variableOf key)

namespace RawValue

/-
  Raw values that are found at the same place, of which both
  are Unicode or none is.  Only a variable may be none.
-/
structure SamePlace
    (raw other : RawValue) : Prop where
  key_eq : raw.key = other.key
  origin_eq : raw.origin = other.origin
  unicode_eq : raw.unicode = other.unicode
  is_variable :
    raw.unicode = false → raw.origin = .environmentVariable

/- What the error of a value that is not Unicode shows. -/
def disclosed
    (raw : RawValue) : Option String :=
  if raw.unicode then none else some raw.value

/- Both values are disclosed or none is. -/
theorem SamePlace.isSome_disclosed
    {raw given : RawValue}
    (hSame : raw.SamePlace given) :
    raw.disclosed.isSome = given.disclosed.isSome := by
  unfold disclosed
  rw [hSame.unicode_eq]
  cases given.unicode with
  | true => rfl
  | false => rfl

theorem samePlace_ofText
    (value given key : String)
    (origin : Origin) :
    SamePlace (ofText value key origin)
      (ofText given key origin) :=
  ⟨rfl, rfl, rfl, fun hNot => by cases hNot⟩

/- Variables that are text, or none of which is. -/
theorem samePlace_ofBytes
    {bytes given : Bytes}
    (hAlike :
      (Utf8.decode? bytes).isSome ↔
        (Utf8.decode? given).isSome)
    (key : String) :
    SamePlace (ofBytes bytes key .environmentVariable)
      (ofBytes given key .environmentVariable) := by
  unfold ofBytes
  cases hText : Utf8.decode? bytes with
  | some value =>
      rw [hText] at hAlike
      rcases Option.isSome_iff_exists.mp (hAlike.mp rfl) with
        ⟨text, hGiven⟩
      rw [hGiven]
      exact samePlace_ofText value text key _
  | none =>
      rw [hText] at hAlike
      have hGiven : Utf8.decode? given = none := by
        simpa using hAlike
      rw [hGiven]
      exact ⟨rfl, rfl, rfl, fun _ => rfl⟩

end RawValue

/- Lookups find values at the same places. -/
theorem Lookup.IsBuiltIn.find_rel
    {lookup : Lookup}
    {source other : Source}
    {keys : SettingKeys}
    (hBuiltIn : lookup.IsBuiltIn)
    (hAlike : source.SetAlike other keys) :
    Option.Rel RawValue.SamePlace (lookup.find keys source)
      (lookup.find keys other) := by
  cases hBuiltIn with
  | systemProperty =>
      unfold Lookup.systemProperty
      cases hKey : keys.systemProperty with
      | none => simp [hKey]
      | some key =>
          have hIff := hAlike.property_iff key hKey
          cases hValue : source.propertyOf key with
          | none =>
              have hOther : other.propertyOf key = none := by
                simpa [hValue] using hIff
              simp [hKey, hValue, hOther]
          | some value =>
              rw [hValue] at hIff
              rcases Option.isSome_iff_exists.mp
                  (hIff.mp rfl) with ⟨given, hOther⟩
              simpa [hKey, hValue, hOther] using
                Option.Rel.some
                  (RawValue.samePlace_ofText value given key
                    .systemProperty)
  | environmentVariable =>
      unfold Lookup.environmentVariable
      cases hKey : keys.environmentVariable with
      | none => simp [hKey]
      | some key =>
          have hRel := hAlike.variable_rel key hKey
          simp only [hKey, Option.bind_eq_bind,
            Option.bind_some]
          generalize source.variableOf key = found at hRel ⊢
          generalize other.variableOf key = sought at hRel ⊢
          cases hRel with
          | none => exact .none
          | some hBytes =>
              exact .some
                (RawValue.samePlace_ofBytes hBytes key)
  | profile profiles =>
      unfold Lookup.profile
      cases hKey : keys.profileKey with
      | none => simp [hKey]
      | some key =>
          cases hValue : profiles.get key with
          | none => simp [hKey, hValue]
          | some value =>
              simpa [hKey, hValue] using
                Option.Rel.some
                  (RawValue.samePlace_ofText value value key
                    (.profile profiles.selected))

end LayeredSettings

------------------------------------------------------------
-- Reports
------------------------------------------------------------

namespace LayeredSettings

namespace Chain

variable {chain : Chain}
variable {keys : SettingKeys}
variable {setting : Setting String}
variable {source other : Source}

/- What is reported while a setting is resolved, in words. -/
def report
    {α : Type}
    (chain : Chain)
    (setting : Setting α)
    (source : Source) : List Record :=
  (chain.resolve setting source).events.map Event.record

/- The same lookups are tried, with the same success. -/
theorem load_alike
    (hBuiltIn : ∀ lookup ∈ chain, lookup.IsBuiltIn)
    (hAlike : source.SetAlike other keys) :
    Logged.Alike (Option.Rel RawValue.SamePlace)
      (load keys source chain) (load keys other chain) := by
  induction chain with
  | nil => exact .pure .none
  | cons lookup rest ih =>
      have hRest :=
        ih fun next hMem => hBuiltIn next (by simp [hMem])
      have hFound :=
        (hBuiltIn lookup (by simp)).find_rel hAlike
      rw [load, load]
      generalize lookup.find keys source = found at hFound ⊢
      generalize lookup.find keys other = sought at hFound ⊢
      cases hFound with
      | none => exact .emit_bind _ hRest
      | some hSame => exact .emit_bind _ (.pure (.some hSame))

/- A resolution reports the lookups and its conclusion. -/
theorem events_resolve
    {α : Type}
    (chain : Chain)
    (setting : Setting α)
    (source : Source) :
    (chain.resolve setting source).events =
      (load setting.keys source chain).events ++
        [conclusion setting
          (chain.find setting.keys source)] := by
  unfold resolve Attempt.events ExceptT.run ExceptT.mk
  rw [Logged.events_bind, Logged.events_bind,
    Logged.events_emit, Logged.events_pure, value_load,
    List.append_nil]

/- A text setting is invalid if its value is not Unicode. -/
theorem conclusion_text
    (hText : setting.coerce = Coercion.text)
    (raw : RawValue) :
    conclusion setting (some raw) =
      match raw.disclosed with
      | none =>
          .settingResolved setting.name raw.origin raw.key
      | some value =>
          .settingInvalid setting.name raw.origin raw.key
            (.notUnicode value) := by
  obtain ⟨value, key, origin, unicode⟩ := raw
  unfold conclusion RawValue.coerce RawValue.disclosed
  simp only [hText]
  cases unicode with
  | true => rfl
  | false => rfl

/-
  The records of two conclusions are the same exactly if they
  disclose the same.
-/
theorem record_conclusion_eq_iff
    (hText : setting.coerce = Coercion.text)
    {found sought : Option RawValue}
    (hRel : Option.Rel RawValue.SamePlace found sought) :
    (conclusion setting found).record =
        (conclusion setting sought).record ↔
      found.bind RawValue.disclosed =
        sought.bind RawValue.disclosed := by
  cases hRel with
  | none => exact iff_of_true rfl rfl
  | @some raw given hSame =>
      have hBoth := hSame.isSome_disclosed
      rw [conclusion_text hText, conclusion_text hText,
        hSame.key_eq, hSame.origin_eq, Option.bind_some,
        Option.bind_some]
      cases hRaw : raw.disclosed with
      | none =>
          cases hGiven : given.disclosed with
          | none => exact iff_of_true rfl rfl
          | some value =>
              rw [hRaw, hGiven] at hBoth
              cases hBoth
      | some value =>
          cases hGiven : given.disclosed with
          | none =>
              rw [hRaw, hGiven] at hBoth
              cases hBoth
          | some text =>
              simp [Event.record, CoercionError.message]

/-
  Two resolutions of a text setting, from sources that have
  values at the same places.  If what is found is Unicode, or
  nothing is, they report the same records, whatever the
  values are.  In general they do so exactly if they disclose
  the same, and what is disclosed is a variable that is no
  UTF-8, as it is shown with replacements.
-/
theorem report_text_eq_iff
    (hBuiltIn : ∀ lookup ∈ chain, lookup.IsBuiltIn)
    (hText : setting.coerce = Coercion.text)
    (hAlike : source.SetAlike other setting.keys) :
    ((∀ raw,
        chain.find setting.keys source = some raw →
          raw.unicode = true) →
      chain.report setting source =
        chain.report setting other) ∧
    (chain.report setting source =
        chain.report setting other ↔
      (chain.find setting.keys source).bind
          RawValue.disclosed =
        (chain.find setting.keys other).bind
          RawValue.disclosed) ∧
    ∀ raw,
      chain.find setting.keys source = some raw →
        raw.unicode = false →
          raw.origin = .environmentVariable := by
  have hLoad := load_alike hBuiltIn hAlike
  have hRel := hLoad.related
  rw [value_load, value_load] at hRel
  have hReport :
      chain.report setting source =
          chain.report setting other ↔
        (chain.find setting.keys source).bind
            RawValue.disclosed =
          (chain.find setting.keys other).bind
            RawValue.disclosed := by
    unfold report
    rw [events_resolve, events_resolve, hLoad.events_eq,
      List.map_append, List.map_append,
      List.append_cancel_left_eq, List.map_singleton,
      List.map_singleton, List.singleton_inj,
      record_conclusion_eq_iff hText hRel]
  refine ⟨?_, hReport, ?_⟩
  · intro hUnicode
    rw [hReport]
    generalize chain.find setting.keys source = found
      at hRel hUnicode ⊢
    generalize chain.find setting.keys other = sought
      at hRel ⊢
    cases hRel with
    | none => rfl
    | @some raw given hSame =>
        have hRaw : raw.disclosed = none :=
          if_pos (hUnicode raw rfl)
        have hGiven := hSame.isSome_disclosed
        rw [hRaw] at hGiven
        have hNone : given.disclosed = none := by
          simpa using hGiven.symm
        rw [Option.bind_some, Option.bind_some, hRaw, hNone]
  · intro raw hFound hUnicode
    rw [hFound] at hRel
    generalize chain.find setting.keys other = sought
      at hRel
    cases hRel with
    | some hSame => exact hSame.is_variable hUnicode

/- A secret, and nothing else, is set in the environment. -/
def secretVariable
    (secret : Bytes) : Source where
  variableOf name :=
    if name = "AWS_SECRET_ACCESS_KEY" then some secret
    else none
  propertyOf _ := none
  texts := Table.empty
  properties := Table.empty

/- Two secrets that are both text or both not. -/
theorem setAlike_secretVariable
    {secret other : Bytes}
    (hText :
      (Utf8.decode? secret).isSome ↔
        (Utf8.decode? other).isSome) :
    (secretVariable secret).SetAlike (secretVariable other)
      Catalog.secretAccessKey.keys where
  property_iff key _ := Iff.rfl
  variable_rel key hKey := by
    cases hKey
    exact .some hText

theorem report_secretVariable_text :
    standard.report Catalog.secretAccessKey
        (secretVariable (Utf8.encode "one")) =
      standard.report Catalog.secretAccessKey
        (secretVariable (Utf8.encode "two")) := by
  have hBuiltIn :
      ∀ lookup ∈ standard, lookup.IsBuiltIn := by
    intro lookup hMem
    rcases List.mem_pair.mp hMem with rfl | rfl
    · exact .systemProperty
    · exact .environmentVariable
  have hAlike :
      (secretVariable (Utf8.encode "one")).SetAlike
        (secretVariable (Utf8.encode "two"))
        Catalog.secretAccessKey.keys :=
    setAlike_secretVariable (by decide)
  apply (report_text_eq_iff hBuiltIn rfl hAlike).1
  intro raw hFound
  cases hFound
  rfl

/-
  A secret that is no UTF-8 is reported: its letter stands in
  the error.
-/
theorem report_secretVariable_broken :
    (secretVariable [0x61, 0xFF]).SetAlike
        (secretVariable [0x62, 0xFF])
        Catalog.secretAccessKey.keys ∧
      standard.report Catalog.secretAccessKey
          (secretVariable [0x61, 0xFF]) ≠
        standard.report Catalog.secretAccessKey
          (secretVariable [0x62, 0xFF]) := by
  refine ⟨setAlike_secretVariable (by decide), ?_⟩
  decide

end Chain

end LayeredSettings
