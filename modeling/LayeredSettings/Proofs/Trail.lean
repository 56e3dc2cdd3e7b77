import LayeredSettings.Proofs.Disclosure
import LayeredSettings.Proofs.FirstFound

/-
  The trail of a resolution: which lookups it tries, in which
  order, and how it ends.

  Key definitions include:
    * `Lookup.trial`
    * `Chain.ending`

  Key theorems include:
    * `Chain.events_load_of_none`
    * `Chain.FindsFirst.events_load`
    * `Chain.report_follows_lookups`

  A lookup is reported when it is tried.  So the records show
  that the lookups are tried from the top, and that none is
  tried below the first that finds the setting.
-/

------------------------------------------------------------
-- Trials
------------------------------------------------------------

namespace LayeredSettings

/- The record of a lookup that is tried, and its success. -/
def Lookup.trial
    (lookup : Lookup)
    (setting : String)
    (found : Bool) : Record where
  level := .trace
  message := "checked source"
  fields :=
    [ ("setting", setting),
      ("lookup", lookup.label),
      ("found", if found then "true" else "false") ]

namespace Chain

variable {α : Type}
variable {chain above below : Chain}
variable {lookup : Lookup}
variable {keys : SettingKeys}
variable {source : Source}
variable {raw : RawValue}

/-
  The last record of a resolution: where the value is from,
  if one is found, and what is wrong with it, if anything.
-/
def ending
    (setting : Setting α) :
    Option RawValue →
      Except InvalidValue (Option α) → Record
| some raw, .ok _ =>
    { level := .debug
      message := "resolved setting"
      fields :=
        [ ("setting", setting.name),
          ("origin", raw.origin.text),
          ("key", raw.key) ] }
| some raw, .error e =>
    { level := .debug
      message := "invalid setting value"
      fields :=
        [ ("setting", setting.name),
          ("origin", raw.origin.text),
          ("key", raw.key),
          ("error", e.cause.message) ] }
| none, _ =>
    { level := .debug
      message := "setting not configured"
      fields :=
        [ ("setting", setting.name),
          ("has_default",
            if setting.fallback.isSome then "true"
            else "false") ] }

/- Lookups that find nothing are all tried in their order. -/
theorem events_load_of_none
    (hNone :
      ∀ lookup ∈ chain, lookup.find keys source = none) :
    (load keys source chain).events =
      chain.map fun lookup =>
        .sourceChecked keys.name lookup.label false := by
  induction chain with
  | nil => rfl
  | cons lookup rest ih =>
      have hFirst : lookup.find keys source = none :=
        hNone lookup List.mem_cons_self
      have hRest :=
        ih fun next hMem =>
          hNone next (List.mem_cons_of_mem lookup hMem)
      simp [load, hFirst, hRest]

/- Lookups are tried down to the first that finds a value. -/
theorem FindsFirst.events_load
    (hFirst :
      chain.FindsFirst keys source above lookup raw below) :
    (load keys source chain).events =
      (above.map fun higher =>
        .sourceChecked keys.name higher.label false) ++
        [.sourceChecked keys.name lookup.label true] := by
  have hAbove : above.find keys source = none :=
    List.findSome?_eq_none_iff.mpr hFirst.none_above
  have hLast :
      (load keys source [lookup]).events =
        [.sourceChecked keys.name lookup.label true] := by
    simp [load, hFirst.found]
  rw [hFirst.load_eq, load_append, Logged.events_bind,
    events_load_of_none hFirst.none_above, value_load,
    hAbove, hLast]

/- The last event says what is found and what it comes to. -/
theorem record_conclusion
    (setting : Setting α)
    (found : Option RawValue) :
    (conclusion setting found).record =
      ending setting found (conclude setting found) := by
  cases found with
  | none =>
      unfold conclusion ending Event.record
      cases setting.fallback.isSome <;> rfl
  | some raw =>
      cases hRead : raw.coerce setting.coerce with
      | ok value =>
          simp only [conclusion, conclude, hRead]
          rfl
      | error cause =>
          simp only [conclusion, conclude, hRead]
          rfl

/- A lookup that is tried is reported as such. -/
theorem record_sourceChecked
    (setting : String)
    (lookup : Lookup)
    (found : Bool) :
    (Event.sourceChecked setting lookup.label found).record =
      lookup.trial setting found := by
  cases found <;> rfl

/- What is found is coerced, or it is an error. -/
theorem FindsFirst.outcome_resolve
    {setting : Setting α}
    (hFirst :
      chain.FindsFirst setting.keys source above lookup raw
        below) :
    (∃ value,
        (chain.resolve setting source).outcome =
          .ok (some value)) ∨
      ∃ e, (chain.resolve setting source).outcome =
        .error e := by
  have hOutcome := value_run_resolve chain setting source
  rw [hFirst.find_eq, conclude] at hOutcome
  cases hRead : raw.coerce setting.coerce with
  | ok value =>
      rw [hRead] at hOutcome
      exact Or.inl ⟨value, hOutcome⟩
  | error cause =>
      rw [hRead] at hOutcome
      exact Or.inr ⟨_, hOutcome⟩

/- A report has the trials first and the ending last. -/
theorem report_eq
    (chain : Chain)
    (setting : Setting α)
    (source : Source) :
    chain.report setting source =
      (load setting.keys source chain).events.map
          Event.record ++
        [ending setting (chain.find setting.keys source)
          (chain.resolve setting source).outcome] := by
  have hOutcome := value_run_resolve chain setting source
  unfold report Attempt.outcome
  rw [events_resolve, List.map_append, List.map_singleton,
    record_conclusion, hOutcome]

end Chain

end LayeredSettings

------------------------------------------------------------
-- Reports
------------------------------------------------------------

namespace LayeredSettings

namespace Chain

/-
  A resolution reports the lookups that it tries and then how
  it ends.  It tries them in their order, down to the first
  that finds the setting, and all of them in vain if none
  does.  Whatever stands below that lookup is not tried: any
  other lookups might stand there.
-/
theorem report_follows_lookups
    {α : Type}
    (chain : Chain)
    (setting : Setting α)
    (source : Source) :
    ((∃ above lookup raw below,
        chain.FindsFirst setting.keys source above lookup
          raw below) ∨
      ∀ lookup ∈ chain,
        lookup.find setting.keys source = none) ∧
    (∀ above lookup raw below,
      chain.FindsFirst setting.keys source above lookup raw
          below →
        ((∃ value,
            (chain.resolve setting source).outcome =
              .ok (some value)) ∨
          ∃ e,
            (chain.resolve setting source).outcome =
              .error e) ∧
        chain.report setting source =
          above.map (·.trial setting.name false) ++
            [ lookup.trial setting.name true,
              ending setting (some raw)
                (chain.resolve setting source).outcome ] ∧
        ∀ others : Chain,
          (above ++ lookup :: others).resolve setting
              source =
            chain.resolve setting source) ∧
    ((∀ lookup ∈ chain,
        lookup.find setting.keys source = none) →
      chain.report setting source =
        chain.map (·.trial setting.name false) ++
          [ending setting none
            (chain.resolve setting source).outcome]) := by
  refine
    ⟨exists_findsFirst_or_forall_eq_none chain setting.keys
        source, ?_, ?_⟩
  · intro above lookup raw below hFirst
    refine ⟨hFirst.outcome_resolve, ?_, ?_⟩
    · rw [report_eq, hFirst.events_load, hFirst.find_eq,
        List.map_append, List.map_map, List.map_singleton,
        record_sourceChecked, List.append_assoc]
      simp only [Function.comp_def, record_sourceChecked]
      rfl
    · intro others
      rw [(hFirst.with_below others).resolve_eq
        setting.fallback]
      exact (hFirst.resolve_eq setting.fallback).symm
  · intro hNone
    have hFind : chain.find setting.keys source = none :=
      List.findSome?_eq_none_iff.mpr hNone
    rw [report_eq, events_load_of_none hNone, hFind,
      List.map_map]
    simp only [Function.comp_def, record_sourceChecked]
    rfl

/- A lookup of a user's own between the usual ones. -/
def withFixedLimit : Chain :=
  [ Lookup.systemProperty,
    Lookup.fixed (some "7"),
    Lookup.environmentVariable ]

theorem report_withFixedLimit :
    (withFixedLimit.FindsFirst Catalog.maxAttempts.keys
        (Config.empty.source Host.initial)
        [Lookup.systemProperty] (Lookup.fixed (some "7"))
        ⟨"7", "max attempts", .systemProperty, true⟩
        [Lookup.environmentVariable] ∧
      withFixedLimit.report Catalog.maxAttempts
          (Config.empty.source Host.initial) =
        [ Lookup.systemProperty.trial "max attempts" false,
          (Lookup.fixed (some "7")).trial "max attempts"
            true,
          ending Catalog.maxAttempts
            (some ⟨"7", "max attempts", .systemProperty,
              true⟩)
            (.ok (some 7)) ]) ∧
    (∀ lookup ∈ standard,
        lookup.find Catalog.maxAttempts.keys
          (Config.empty.source Host.initial) = none) ∧
      standard.report Catalog.maxAttempts
          (Config.empty.source Host.initial) =
        [ Lookup.systemProperty.trial "max attempts" false,
          Lookup.environmentVariable.trial "max attempts"
            false,
          ending Catalog.maxAttempts none (.ok none) ] := by
  have hFirst :
      withFixedLimit.FindsFirst Catalog.maxAttempts.keys
        (Config.empty.source Host.initial)
        [Lookup.systemProperty] (Lookup.fixed (some "7"))
        ⟨"7", "max attempts", .systemProperty, true⟩
        [Lookup.environmentVariable] := by
    refine ⟨rfl, ?_, rfl⟩
    intro higher hMem
    rw [List.mem_singleton.mp hMem]
    rfl
  have hNone :
      ∀ lookup ∈ standard,
        lookup.find Catalog.maxAttempts.keys
          (Config.empty.source Host.initial) = none := by
    intro lookup hMem
    rcases List.mem_pair.mp hMem with rfl | rfl
    · rfl
    · rfl
  have hFound :=
    (report_follows_lookups withFixedLimit
      Catalog.maxAttempts
      (Config.empty.source Host.initial)).2.1 _ _ _ _ hFirst
  have hAbsent :=
    (report_follows_lookups standard Catalog.maxAttempts
      (Config.empty.source Host.initial)).2.2 hNone
  exact ⟨⟨hFirst, hFound.2.1⟩, hNone, hAbsent⟩

end Chain

end LayeredSettings
