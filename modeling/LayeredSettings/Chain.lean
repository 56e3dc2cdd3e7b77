import LayeredSettings.Lookup

/-
  This file resolves settings by chains of lookups.

  Key definitions include:
    * `Chain`
    * `Chain.find`
    * `Chain.load`
    * `Chain.conclude`
    * `Chain.resolve`

  Key theorems include:
    * `Chain.value_load`
    * `Chain.value_run_resolve`

  The first lookup that finds a setting decides its value.
  If that value is invalid, so is the setting: no later
  lookup and no fallback is tried in its place.
-/

namespace LayeredSettings

/- Lookups in the order of their precedence. -/
abbrev Chain :=
  List Lookup

namespace Chain

------------------------------------------------------------
-- Chains
------------------------------------------------------------

/- System properties, then environment variables. -/
def standard : Chain :=
  [Lookup.systemProperty, Lookup.environmentVariable]

/- The standard chain, then the selected profile. -/
def withProfile
    (profiles : ProfileSet) : Chain :=
  standard ++ [Lookup.profile profiles]

------------------------------------------------------------
-- Resolution
------------------------------------------------------------

/- The raw value of a setting. -/
def find
    (chain : Chain)
    (keys : SettingKeys)
    (source : Source) : Option RawValue :=
  chain.findSome? fun lookup => lookup.find keys source

/- Find a raw value and report the lookups tried. -/
def load
    (keys : SettingKeys)
    (source : Source) :
    Chain → Logged (Option RawValue)
| [] => return none
| lookup :: rest => do
    let found := lookup.find keys source
    Logged.emit
      (.sourceChecked keys.name lookup.label found.isSome)
    match found with
    | some raw => return some raw
    | none => load keys source rest

/- What a setting is, given what its chain finds. -/
def conclude
    {α : Type}
    (setting : Setting α) :
    Option RawValue → Except InvalidValue (Option α)
| none => .ok setting.fallback
| some raw =>
    match raw.coerce setting.coerce with
    | .ok value => .ok (some value)
    | .error cause => .error (.ofRaw raw cause)

/- The event that reports what a setting is. -/
def conclusion
    {α : Type}
    (setting : Setting α) :
    Option RawValue → Event
| none =>
    .settingAbsent setting.name setting.fallback.isSome
| some raw =>
    match raw.coerce setting.coerce with
    | .ok _ =>
        .settingResolved setting.name raw.origin raw.key
    | .error cause =>
        .settingInvalid setting.name raw.origin raw.key
          cause

/- Resolve a setting. -/
def resolve
    {α : Type}
    (chain : Chain)
    (setting : Setting α)
    (source : Source) :
    Attempt InvalidValue (Option α) :=
  ExceptT.mk do
    let found ← load setting.keys source chain
    Logged.emit (conclusion setting found)
    return conclude setting found

------------------------------------------------------------
-- Values
------------------------------------------------------------

/- Reporting has no influence on what is found. -/
@[simp]
theorem value_load
    (chain : Chain)
    (keys : SettingKeys)
    (source : Source) :
    (load keys source chain).value =
      chain.find keys source := by
  induction chain with
  | nil => rfl
  | cons lookup rest ih =>
      cases h : lookup.find keys source with
      | none =>
          simp only [load, h, Logged.value_bind, ih]
          simp [find, h]
      | some raw =>
          simp [load, find, h]

/- Reporting has no influence on what a setting is. -/
@[simp]
theorem value_run_resolve
    {α : Type}
    (chain : Chain)
    (setting : Setting α)
    (source : Source) :
    (chain.resolve setting source).run.value =
      conclude setting
        (chain.find setting.keys source) := by
  simp [resolve, ExceptT.run, ExceptT.mk]

end Chain

end LayeredSettings
