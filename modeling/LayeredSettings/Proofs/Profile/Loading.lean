import LayeredSettings.Proofs.Profile.Credentials

/-
  What loading profiles comes to, whatever it reports.

  Key definitions include:
    * `Config.loadAlone`
    * `Config.LoadsLayers`

  Key theorems include:
    * `ProfileSet.outcome_addFile`
    * `Config.eq_pair_of_profileFiles`
    * `Config.outcome_loadProfilesIn`
    * `Config.loadsLayers_of_loadProfilesIn`

  A load that succeeds is an overlay of what the two files
  load to on their own, in the same order: the credentials
  file lies over the config file.
-/

------------------------------------------------------------
-- Files
------------------------------------------------------------

namespace LayeredSettings

namespace ProfileSet

/- A file is merged if it can be parsed. -/
@[simp]
theorem outcome_addFile
    (set : ProfileSet)
    (order : Enumeration)
    (file : ProfileFile) :
    (set.addFile order file).outcome =
      match Sections.parse file.path file.text with
      | .error error => .error (.faultyFile error)
      | .ok sections =>
          .ok (set.mergeFile file.kind
            (order.list file.kind sections)).value := by
  unfold addFile
  cases Sections.parse file.path file.text with
  | error error => simp
  | ok sections => simp

@[simp]
theorem outcome_addFiles_nil
    (set : ProfileSet)
    (order : Enumeration) :
    (set.addFiles order []).outcome = .ok set := rfl

@[simp]
theorem outcome_addFiles_cons
    (set : ProfileSet)
    (order : Enumeration)
    (file : ProfileFile)
    (files : List ProfileFile) :
    (set.addFiles order (file :: files)).outcome =
      match (set.addFile order file).outcome with
      | .ok next => (next.addFiles order files).outcome
      | .error error => .error error := by
  rw [addFiles, Attempt.outcome_bind]
  cases (set.addFile order file).outcome with
  | ok next => rfl
  | error error => rfl

/- Two files that can be parsed are merged in order. -/
theorem outcome_ofFiles_pair
    {file next : ProfileFile}
    {first second : Sections}
    (hFirst :
      Sections.parse file.path file.text = .ok first)
    (hSecond :
      Sections.parse next.path next.text = .ok second)
    (order : Enumeration)
    (selected : String) :
    (ofFiles order [file, next] selected).outcome =
      .ok
        (((empty selected).mergeFile file.kind
          (order.list file.kind first)).value.mergeFile
            next.kind (order.list next.kind second)).value :=
    by
  unfold ofFiles
  rw [outcome_addFiles_cons, outcome_addFile, hFirst]
  dsimp only
  rw [outcome_addFiles_cons, outcome_addFile, hSecond]
  rfl

/- Two files that are loaded are parsed and merged. -/
theorem eq_mergeFile_of_ofFiles_pair
    {order : Enumeration}
    {file next : ProfileFile}
    {selected : String}
    {loaded : ProfileSet}
    (hLoaded :
      (ofFiles order [file, next] selected).outcome =
        .ok loaded) :
    ∃ first second,
      Sections.parse file.path file.text = .ok first ∧
        Sections.parse next.path next.text = .ok second ∧
          loaded =
            (((empty selected).mergeFile file.kind
              (order.list file.kind first)).value.mergeFile
                next.kind
                  (order.list next.kind second)).value := by
  unfold ofFiles at hLoaded
  rw [outcome_addFiles_cons, outcome_addFile] at hLoaded
  cases hFirst : Sections.parse file.path file.text with
  | error e => simp [hFirst] at hLoaded
  | ok first =>
      cases hSecond :
          Sections.parse next.path next.text with
      | error e => simp [hFirst, hSecond] at hLoaded
      | ok second =>
          rw [← outcome_addFile, ← outcome_addFiles_cons]
            at hLoaded
          have hPair :=
            outcome_ofFiles_pair hFirst hSecond order selected
          unfold ofFiles at hPair
          rw [hPair] at hLoaded
          exact ⟨first, second, rfl, rfl,
            (Except.ok.inj hLoaded).symm⟩

end ProfileSet

namespace Config

/- The files are the config file and the credentials file. -/
theorem eq_pair_of_profileFiles
    {config : Config}
    {host : Host}
    {files : List ProfileFile}
    {selected : String}
    (hFiles :
      (config.profileFiles host).outcome =
        .ok (files, selected)) :
    ∃ configFile credentialsFile,
      files = [configFile, credentialsFile] ∧
        configFile.kind = .config ∧
          credentialsFile.kind = .credentials ∧
            (config.selectedProfile host).outcome =
              .ok selected := by
  unfold profileFiles at hFiles
  rw [Attempt.outcome_bind] at hFiles
  cases hConfig : (config.filePath host .config).outcome with
  | error e => simp [hConfig] at hFiles
  | ok configPath =>
      rw [hConfig] at hFiles
      simp only [Attempt.outcome_bind] at hFiles
      cases hCredentials :
          (config.filePath host .credentials).outcome with
      | error e => simp [hCredentials] at hFiles
      | ok credentialsPath =>
          cases hSelected :
              (config.selectedProfile host).outcome with
          | error e =>
              simp [hCredentials, hSelected] at hFiles
          | ok name =>
              simp [hCredentials, hSelected] at hFiles
              rcases hFiles with ⟨hPair, rfl⟩
              exact ⟨_, _, hPair.symm, rfl, rfl, rfl⟩

end Config

end LayeredSettings

------------------------------------------------------------
-- Loads
------------------------------------------------------------

namespace LayeredSettings

namespace Config

/- Load the profiles of one kind of file on its own. -/
def loadAlone
    (config : Config)
    (order : Enumeration)
    (host : Host)
    (kind : FileKind) : Attempt LoadError ProfileSet := do
  let (files, selected) ←
    (config.profileFiles host).adapt LoadError.invalidSetting
  ProfileSet.ofFiles order
    (files.filter fun file => file.kind = kind) selected

/- A load succeeds if the files are found and parsed. -/
theorem outcome_loadProfilesIn
    (config : Config)
    (order : Enumeration)
    (host : Host) :
    (config.loadProfilesIn order host).outcome =
      match (config.profileFiles host).outcome with
      | .error cause => .error (.invalidSetting cause)
      | .ok (files, selected) =>
          (ProfileSet.ofFiles order files
            selected).outcome := by
  unfold loadProfilesIn
  rw [Attempt.outcome_bind, Attempt.outcome_adapt]
  cases (config.profileFiles host).outcome with
  | error cause => rfl
  | ok found =>
      rcases found with ⟨files, selected⟩
      simp only [Except.mapError, Attempt.outcome_bind]
      cases (ProfileSet.ofFiles order files
          selected).outcome with
      | error error => rfl
      | ok set =>
          by_cases h :
              (set.profile? selected).isNone = true
          · simp [h, Except.map]
          · simp [h]

theorem outcome_loadAlone
    (config : Config)
    (order : Enumeration)
    (host : Host)
    (kind : FileKind) :
    (config.loadAlone order host kind).outcome =
      match (config.profileFiles host).outcome with
      | .error cause => .error (.invalidSetting cause)
      | .ok (files, selected) =>
          (ProfileSet.ofFiles order
            (files.filter fun file => file.kind = kind)
              selected).outcome := by
  unfold loadAlone
  rw [Attempt.outcome_bind, Attempt.outcome_adapt]
  cases (config.profileFiles host).outcome with
  | error cause => rfl
  | ok found => rfl

/-
  What a config's two files load to on their own and what
  they load to together: the one lies over the other, and
  all three sets select the same profile.
-/
structure LoadsLayers
    (config : Config)
    (order : Enumeration)
    (host : Host)
    (credentials configured loaded : ProfileSet) :
    Prop where
  loads_credentials :
    (config.loadAlone order host .credentials).outcome =
      .ok credentials
  loads_configured :
    (config.loadAlone order host .config).outcome =
      .ok configured
  is_overlay :
    ProfileSet.IsOverlay credentials configured loaded
  coherent :
    ∀ set ∈ [credentials, configured, loaded],
      set.IsCoherent
  selected :
    ∀ set ∈ [credentials, configured, loaded],
      (config.selectedProfile host).outcome =
        .ok set.selected

/- If profiles are loaded, each file loads on its own. -/
theorem loadsLayers_of_loadProfilesIn
    {config : Config}
    {order : Enumeration}
    {host : Host}
    {loaded : ProfileSet}
    (hLoaded :
      (config.loadProfilesIn order host).outcome =
        .ok loaded) :
    ∃ credentials configured,
      config.LoadsLayers order host credentials configured
        loaded := by
  rw [outcome_loadProfilesIn] at hLoaded
  cases hFiles : (config.profileFiles host).outcome with
  | error cause => simp [hFiles] at hLoaded
  | ok found =>
      rcases found with ⟨files, selected⟩
      rcases eq_pair_of_profileFiles hFiles with
        ⟨configFile, credentialsFile, rfl, hConfig,
          hCredentials, hSelected⟩
      rw [hFiles] at hLoaded
      rcases ProfileSet.eq_mergeFile_of_ofFiles_pair
          hLoaded with
        ⟨first, second, hFirst, hSecond, hMerged⟩
      rw [hConfig, hCredentials] at hMerged
      have hEmpty := ProfileSet.isCoherent_empty selected
      have hUpper :=
        ProfileSet.isCoherent_mergeFile hEmpty
          .credentials (order.list .credentials second)
      have hLower :=
        ProfileSet.isCoherent_mergeFile hEmpty
          .config (order.list .config first)
      have hBoth :=
        ProfileSet.isCoherent_mergeFile hLower
          .credentials (order.list .credentials second)
      refine
        ⟨((ProfileSet.empty selected).mergeFile
            .credentials (order.list .credentials second)).value,
          ((ProfileSet.empty selected).mergeFile
            .config (order.list .config first)).value, ?_⟩
      subst hMerged
      constructor
      · rw [outcome_loadAlone, hFiles]
        simp [ProfileSet.ofFiles, hConfig, hCredentials,
          hSecond]
      · rw [outcome_loadAlone, hFiles]
        simp [ProfileSet.ofFiles, hConfig, hCredentials,
          hFirst]
      · exact ProfileSet.isOverlay_mergeFile_credentials
          _ selected (order.list .credentials second)
      · simp [hUpper, hLower, hBoth]
      · simp [ProfileSet.selected_mergeFile, hSelected,
          ProfileSet.empty]

end Config

end LayeredSettings
