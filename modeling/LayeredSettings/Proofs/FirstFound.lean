import LayeredSettings.Proofs.Precedence

/-
  Chains of any lookups: the first one that finds a setting
  decides what the setting is.

  Key definitions include:
    * `Chain.FindsFirst`

  Key theorems include:
    * `Chain.load_append`
    * `Chain.exists_findsFirst_or_forall_eq_none`
    * `Chain.FindsFirst.load_eq`
    * `Chain.FindsFirst.resolve_eq`
    * `Chain.resolve_follows_first`

  Nothing is assumed of a lookup: it may search in any way,
  and it may stand in a chain more than once.  What a chain
  loads is compared with all that it reports, so equal loads
  have also tried the same lookups.
-/

------------------------------------------------------------
-- Chains in Parts
------------------------------------------------------------

namespace LayeredSettings

namespace Chain

variable {α : Type}
variable {chain above below : Chain}
variable {lookup : Lookup}
variable {keys : SettingKeys}
variable {source : Source}
variable {raw : RawValue}

/-
  The first lookup of a chain that finds a setting and what
  it finds, between the lookups above it and those below.
-/
structure FindsFirst
    (chain : Chain)
    (keys : SettingKeys)
    (source : Source)
    (above : Chain)
    (lookup : Lookup)
    (raw : RawValue)
    (below : Chain) : Prop where
  parts : chain = above ++ lookup :: below
  none_above :
    ∀ higher ∈ above, higher.find keys source = none
  found : lookup.find keys source = some raw

/- A chain goes on to its lower part if it found nothing. -/
theorem load_append
    (keys : SettingKeys)
    (source : Source)
    (upper lower : Chain) :
    load keys source (upper ++ lower) =
      load keys source upper >>= fun
        | some raw => pure (some raw)
        | none => load keys source lower := by
  induction upper with
  | nil => rfl
  | cons lookup rest ih =>
      rw [List.cons_append, load, load, bind_assoc]
      apply bind_congr
      intro _
      cases lookup.find keys source with
      | some raw => rw [pure_bind]
      | none => exact ih

/- What two parts load one after the other. -/
theorem value_load_append
    (keys : SettingKeys)
    (source : Source)
    (upper lower : Chain) :
    (load keys source (upper ++ lower)).value =
      match (load keys source upper).value with
      | some raw => some raw
      | none => (load keys source lower).value := by
  rw [load_append, Logged.value_bind]
  cases (load keys source upper).value with
  | some raw => rfl
  | none => rfl

/- A first lookup finds the setting, or no lookup does. -/
theorem exists_findsFirst_or_forall_eq_none
    (chain : Chain)
    (keys : SettingKeys)
    (source : Source) :
    (∃ above lookup raw below,
      chain.FindsFirst keys source above lookup raw below) ∨
      ∀ lookup ∈ chain, lookup.find keys source = none := by
  cases hFind : chain.find keys source with
  | some raw =>
      rcases List.findSome?_eq_some_iff.mp hFind with
        ⟨above, lookup, below, hParts, hFound, hAbove⟩
      exact Or.inl
        ⟨above, lookup, raw, below, hParts, hAbove, hFound⟩
  | none =>
      exact Or.inr (List.findSome?_eq_none_iff.mp hFind)

namespace FindsFirst

/- What is first found is what the chain finds. -/
theorem find_eq
    (hFirst :
      chain.FindsFirst keys source above lookup raw below) :
    chain.find keys source = some raw :=
  List.findSome?_eq_some_iff.mpr
    ⟨above, lookup, below, hFirst.parts, hFirst.found,
      hFirst.none_above⟩

/- With other lookups below the same is found first. -/
theorem with_below
    (hFirst :
      chain.FindsFirst keys source above lookup raw below)
    (others : Chain) :
    FindsFirst (above ++ lookup :: others) keys source
      above lookup raw others :=
  ⟨rfl, hFirst.none_above, hFirst.found⟩

/- Nothing below the first lookup is tried. -/
theorem load_eq
    (hFirst :
      chain.FindsFirst keys source above lookup raw below) :
    load keys source chain =
      load keys source (above ++ [lookup]) := by
  rw [hFirst.parts, load_append, load_append]
  apply bind_congr
  intro found
  cases found with
  | some raw => rfl
  | none => simp only [load, hFirst.found]

/-
  What a setting is comes from the first lookup alone, and
  the fallback has no part in it.
-/
theorem resolve_eq
    {setting : Setting α}
    (hFirst :
      chain.FindsFirst setting.keys source above lookup raw
        below)
    (fallback : Option α) :
    chain.resolve { setting with fallback } source =
      (above ++ [lookup]).resolve setting source := by
  have hFound :
      (load setting.keys source
        (above ++ [lookup])).value = some raw := by
    rw [value_load]
    exact (hFirst.with_below []).find_eq
  have hLoad :
      load setting.keys source (above ++ [lookup]) =
        ⟨some raw,
          (load setting.keys source
            (above ++ [lookup])).events⟩ := by
    rw [← hFound]
  unfold resolve
  rw [hFirst.load_eq, hLoad]
  rfl

end FindsFirst

end Chain

end LayeredSettings

------------------------------------------------------------
-- The First Lookup
------------------------------------------------------------

namespace LayeredSettings

namespace Chain

/-
  A chain of any lookups in any order follows the first one
  that finds the setting: what it finds is coerced, an error
  names it, and neither the lookups below nor the fallback
  are of any account.  The fallback holds if no lookup finds
  the setting.  A chain in two parts loads what the upper
  part does or, if that finds nothing, what the lower does.
-/
theorem resolve_follows_first
    {α : Type}
    (chain : Chain)
    (setting : Setting α)
    (source : Source) :
    ((∃ above lookup raw below,
        chain.FindsFirst setting.keys source above lookup
          raw below) ∨
      ∀ lookup ∈ chain,
        lookup.find setting.keys source = none) ∧
      (∀ above lookup raw below,
        chain.FindsFirst setting.keys source above lookup
          raw below →
        (chain.resolve setting source).outcome =
            raw.verdict setting ∧
          ∀ (others : Chain) (fallback : Option α),
            (above ++ lookup :: others).resolve
                { setting with fallback } source =
              chain.resolve setting source) ∧
      ((∀ lookup ∈ chain,
          lookup.find setting.keys source = none) →
        (chain.resolve setting source).outcome =
          .ok setting.fallback) ∧
      ∀ (keys : SettingKeys) (lower : Chain),
        (load keys source (chain ++ lower)).value =
          match (load keys source chain).value with
          | some raw => some raw
          | none => (load keys source lower).value := by
  refine
    ⟨exists_findsFirst_or_forall_eq_none chain setting.keys
        source, ?_, ?_, ?_⟩
  · intro above lookup raw below hFirst
    constructor
    · refine (value_run_resolve chain setting source).trans ?_
      rw [hFirst.find_eq, conclude_some]
    · intro others fallback
      rw [(hFirst.with_below others).resolve_eq fallback]
      exact (hFirst.resolve_eq setting.fallback).symm
  · intro hNone
    refine (value_run_resolve chain setting source).trans ?_
    unfold find
    rw [List.findSome?_eq_none_iff.mpr hNone]
    rfl
  · intro keys lower
    exact value_load_append keys source chain lower

/- The limit is set to a value that is no UTF-8. -/
def brokenLimit : Source where
  variableOf name :=
    if name = "AWS_MAX_ATTEMPTS" then some [0x35, 0xFF]
    else none
  propertyOf _ := none
  texts := Table.empty
  properties := Table.empty

theorem resolve_brokenLimit :
    FindsFirst
        [ Lookup.fixed none, Lookup.environmentVariable,
          Lookup.fixed (some "3") ]
        Catalog.maxAttempts.keys brokenLimit
        [Lookup.fixed none] Lookup.environmentVariable
        ⟨"5\uFFFD", "AWS_MAX_ATTEMPTS", .environmentVariable,
          false⟩
        [Lookup.fixed (some "3")] ∧
      (resolve
          [ Lookup.fixed none, Lookup.environmentVariable,
            Lookup.fixed (some "3") ]
          Catalog.maxAttempts brokenLimit).outcome =
        .error
          ⟨"AWS_MAX_ATTEMPTS", "5\uFFFD",
            .environmentVariable, .notUnicode "5\uFFFD"⟩ := by
  have hFirst :
      FindsFirst
        [ Lookup.fixed none, Lookup.environmentVariable,
          Lookup.fixed (some "3") ]
        Catalog.maxAttempts.keys brokenLimit
        [Lookup.fixed none] Lookup.environmentVariable
        ⟨"5\uFFFD", "AWS_MAX_ATTEMPTS", .environmentVariable,
          false⟩
        [Lookup.fixed (some "3")] := by
    refine ⟨rfl, ?_, ?_⟩
    · intro higher hMem
      rw [List.mem_singleton.mp hMem]
      rfl
    · cbv
  have hFollows :=
    (resolve_follows_first
      [ Lookup.fixed none, Lookup.environmentVariable,
        Lookup.fixed (some "3") ]
      Catalog.maxAttempts brokenLimit).2.1 _ _ _ _ hFirst
  exact ⟨hFirst, hFollows.1⟩

end Chain

end LayeredSettings
