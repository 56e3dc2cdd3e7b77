import LayeredSettings.Proofs.Confinement
import LayeredSettings.Proofs.Profile.Obstacles

/-
  A load of profiles takes nothing from profiles that are
  loaded already.

  Key definitions include:
    * `Config.Selects`
    * `Config.ReloadsSame`

  Key theorems include:
    * `ProfileSet.Matches.resolvesAs`
    * `Config.loadProfilesIn_withProfiles`
    * `Config.selectedProfile_of_mayLoad`
    * `Config.reloadsSame`
    * `Config.reloads_apart`

  A second load in the order of the first is the first one
  again.  In another order it fails as little and comes to
  the same profiles with the same keys.  It need not come to
  the same values, if a file gives a key two of them.
-/

------------------------------------------------------------
-- Reloads
------------------------------------------------------------

namespace LayeredSettings

/- Sets that match are the same to a config in use. -/
theorem ProfileSet.Matches.resolvesAs
    {set other : ProfileSet}
    (hMatches : set.Matches other)
    (config : Config)
    (later : Host) :
    (config.withProfiles set).ResolvesAs later
      (config.withProfiles other) later :=
  resolvesAs_of_property?_eq hMatches.selected_eq
    (hMatches.property_eq set.selected) config
      ⟨config.files, later.disk⟩
        ⟨config.files, later.disk⟩ later later.disk

namespace Config

variable {config : Config}
variable {host : Host}
variable {set : ProfileSet}

/-
  The name that is selected: the one that overrides, or else
  the property, the variable, or what is usual.
-/
def Selects
    (config : Config)
    (host : Host)
    (selected : String) : Prop :=
  match config.profileName with
  | some name => selected = name
  | none =>
      (config.source host).Gives "aws.profile" "AWS_PROFILE"
        "default" selected

/-
  A load is the same with profiles and without, order by
  order, and so is what it may come to.  A second load never
  fails.  It changes nothing in the order of the first, and
  in other orders nothing but values, and no values if no
  file gives a key two of them.  The name is selected by the
  config alone.
-/
structure ReloadsSame
    (config : Config)
    (host : Host) : Prop where
  load_eq :
    ∀ order profiles,
      (config.withProfiles profiles).loadProfilesIn order
          host =
        config.loadProfilesIn order host
  mayLoad_iff :
    ∀ profiles set,
      (config.withProfiles profiles).MayLoad host set ↔
        config.MayLoad host set
  error_iff :
    ∀ first second profiles error,
      ((config.withProfiles profiles).loadProfilesIn first
          host).outcome = .error error ↔
        (config.loadProfilesIn second host).outcome =
          .error error
  reload_isOk :
    ∀ once,
      config.MayUse host once →
        ∀ order,
          ∃ twice,
            (once.withLoadedProfilesIn order host).outcome =
              .ok twice
  reload_eq :
    ∀ order once,
      (config.withLoadedProfilesIn order host).outcome =
          .ok once →
        (once.withLoadedProfilesIn order host).outcome =
          .ok once
  reload_matchesInKeys :
    ∀ once twice,
      config.MayLoad host once →
        (config.withProfiles once).MayLoad host twice →
          once.MatchesInKeys twice
  reload_matches :
    config.IsUnambiguous host →
      ∀ once twice,
        config.MayLoad host once →
          (config.withProfiles once).MayLoad host twice →
            once.Matches twice ∧
              ∀ later,
                (config.withProfiles once).ResolvesAs later
                  (config.withProfiles twice) later
  selects :
    ∀ set,
      config.MayLoad host set →
        config.Selects host set.selected
  selected_eq :
    ∀ (storage : Storage) set other,
      config.MayLoad host set →
        config.MayLoadFrom host storage other →
          other.selected = set.selected

/- The files are found without the profiles. -/
theorem profileFiles_withProfiles
    (config : Config)
    (host : Host)
    (profiles : ProfileSet) :
    (config.withProfiles profiles).profileFiles host =
      config.profileFiles host := rfl

/- So the load is the same, with all that it reports. -/
theorem loadProfilesIn_withProfiles
    (config : Config)
    (order : Enumeration)
    (host : Host)
    (profiles : ProfileSet) :
    (config.withProfiles profiles).loadProfilesIn order host =
      config.loadProfilesIn order host := by
  unfold loadProfilesIn
  rw [profileFiles_withProfiles]

theorem mayLoad_withProfiles_iff
    (profiles : ProfileSet) :
    (config.withProfiles profiles).MayLoad host set ↔
      config.MayLoad host set := by
  unfold MayLoad
  simp only [loadProfilesIn_withProfiles]

/- A load selects a name that no file has a say in. -/
theorem selectedProfile_of_mayLoad
    (hLoad : config.MayLoad host set) :
    (config.selectedProfile host).outcome =
      .ok set.selected := by
  rcases hLoad with ⟨order, hLoaded⟩
  rcases exists_ofFiles_of_loadProfilesIn hLoaded with
    ⟨files, selected, hFiles, hSet⟩
  rcases eq_pair_of_profileFiles hFiles with
    ⟨_, _, _, _, _, hSelected⟩
  rw [hSelected, ProfileSet.selected_of_ofFiles hSet]

/- The name is the one that the config selects. -/
theorem selectedProfile_eq_ok_iff
    {selected : String} :
    (config.selectedProfile host).outcome = .ok selected ↔
      config.Selects host selected := by
  unfold selectedProfile Selects
  cases config.profileName with
  | some name =>
      rw [Attempt.outcome_pure, Except.ok.injEq]
      exact eq_comm
  | none =>
      have hSetting := Catalog.isTextUnder_profile
      dsimp only
      rw [← resolveAlone_eq_ok_iff hSetting,
        Attempt.outcome_bind]
      rcases (config.source host).gives_or_garbles
          "aws.profile" "AWS_PROFILE" "default" with
        ⟨text, hGives⟩ | ⟨cause, hGarbles⟩
      · rw [outcome_resolveAlone_of_gives hSetting hGives]
        simp
      · rw [outcome_resolveAlone_of_garbles hSetting
          hGarbles]
        simp

/-
  Loads take nothing from the profiles that a config has: to
  load a second time changes nothing that the order of the
  sections does not change.
-/
theorem reloadsSame
    (config : Config)
    (host : Host) :
    config.ReloadsSame host := by
  constructor
  case load_eq =>
    intro order profiles
    exact loadProfilesIn_withProfiles config order host profiles
  case mayLoad_iff =>
    intro profiles set
    exact mayLoad_withProfiles_iff profiles
  case error_iff =>
    intro first second profiles error
    rw [loadProfilesIn_withProfiles]
    exact loadProfilesIn_eq_error_iff first second error
  case reload_isOk =>
    intro once hOnce order
    rcases mayUse_iff.mp hOnce with ⟨set, hSet, rfl⟩
    rcases hSet.exists_loadProfilesIn order with
      ⟨last, hLast⟩
    refine
      ⟨_, withLoadedProfilesIn_eq_ok_iff.mpr ⟨last, ?_, rfl⟩⟩
    rw [loadProfilesIn_withProfiles, hLast]
  case reload_eq =>
    intro order once hOnce
    rcases withLoadedProfilesIn_eq_ok_iff.mp hOnce with
      ⟨set, hSet, rfl⟩
    refine withLoadedProfilesIn_eq_ok_iff.mpr ⟨set, ?_, rfl⟩
    rw [loadProfilesIn_withProfiles, hSet]
  case reload_matchesInKeys =>
    intro once twice hFirst hSecond
    rw [mayLoad_withProfiles_iff] at hSecond
    exact hFirst.matchesInKeys hSecond
  case reload_matches =>
    intro hOnce once twice hFirst hSecond
    rw [mayLoad_withProfiles_iff] at hSecond
    have hMatches := hFirst.matches hSecond hOnce
    exact ⟨hMatches, hMatches.resolvesAs config⟩
  case selects =>
    intro set hLoad
    rw [← selectedProfile_eq_ok_iff]
    exact selectedProfile_of_mayLoad hLoad
  case selected_eq =>
    intro storage set other hLoad hOther
    have hSelected := selectedProfile_of_mayLoad hLoad
    have hSame := selectedProfile_of_mayLoad hOther
    have hBoth := hSame.symm.trans hSelected
    exact Except.ok.inj hBoth

/- A config with a file in which a key is spelled twice. -/
def spelledTwiceFile : Config :=
  { empty with
    files := .memory
      (Table.ofList
        [ ( Utf8.encode ".aws/config",
            Utf8.encode spelledTwice ) ]) }

/-
  A second load may change what is resolved: the key has two
  values, and each load keeps the one its order leads to.
-/
theorem reloads_apart :
    ∃ once twice,
      spelledTwiceFile.MayUse Host.initial once ∧
        once.MayUse Host.initial twice ∧
        (once.resolveRegion Host.initial).outcome =
          .ok (some ⟨"b"⟩) ∧
        (twice.resolveRegion Host.initial).outcome =
          .ok (some ⟨"a"⟩) := by
  have hOnce :
      (spelledTwiceFile.withLoadedProfilesIn .written
          Host.initial).outcome =
        .ok
          (spelledTwiceFile.withProfiles
            (regionProfiles "b")) := by
    cbv
  have hTwice :
      ((spelledTwiceFile.withProfiles
            (regionProfiles "b")).withLoadedProfilesIn
          .backwards Host.initial).outcome =
        .ok
          (spelledTwiceFile.withProfiles
            (regionProfiles "a")) := by
    cbv
  refine ⟨_, _, ⟨_, hOnce⟩, ⟨_, hTwice⟩, ?_, ?_⟩
  · cbv
  · cbv

/-
  A file that speaks of a profile, and a name that overrides
  a variable that is no text.
-/
def selfReferring : Config where
  environment := .fixed
    (Table.ofList [("AWS_PROFILE", [0xFF])])
  properties := .fixed
    (Table.ofList [("aws.configFile", "/c")])
  files := .memory
    (Table.ofList
      [ ( Utf8.encode "/c",
          Utf8.encode "[default]\naws_profile=b" ) ])
  profileName := some ""

/- The profile of that file, which is not selected. -/
def selfReferringProfiles : ProfileSet where
  profiles := Table.ofList
    [ ( "default",
        ⟨"default", Table.ofList
          [("aws_profile", ⟨"aws_profile", "b"⟩)]⟩ ) ]
  selected := ""

theorem reloadsSame_selfReferring :
    ∃ once,
      (selfReferring.withLoadedProfiles
          Host.initial).outcome = .ok once ∧
        (once.withLoadedProfiles Host.initial).outcome =
            .ok once ∧
          once.profiles = some selfReferringProfiles ∧
            selfReferring.Selects Host.initial "" := by
  have hSame := reloadsSame selfReferring Host.initial
  have hLoaded :
      (selfReferring.loadProfiles Host.initial).outcome =
        .ok selfReferringProfiles := by
    cbv
  have hOnce :
      (selfReferring.withLoadedProfiles
          Host.initial).outcome =
        .ok
          (selfReferring.withProfiles
            selfReferringProfiles) :=
    withLoadedProfilesIn_eq_ok_iff.mpr ⟨_, hLoaded, rfl⟩
  exact
    ⟨_, hOnce, hSame.reload_eq _ _ hOnce, rfl,
      hSame.selects _ ⟨.written, hLoaded⟩⟩

end Config

end LayeredSettings
