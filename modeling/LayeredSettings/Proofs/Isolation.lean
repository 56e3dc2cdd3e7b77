import LayeredSettings.Proofs.Answers
import LayeredSettings.Proofs.Writes
import Mathlib

/-
  Live and frozen configs along a run of actions.

  Key definitions include:
    * `Config.standIn`
    * `Recipe.thenFrozen`
    * `Session.SeparatesViews`

  Key theorems include:
    * `Config.freeze_eq_standIn`
    * `Config.showsAs_standIn`
    * `Session.outcome_build_thenFrozen`
    * `Session.separatesViews`

  A config that is live answers as one that has the values
  written last in tables of its own.  Freezing makes such a
  config, so it goes on answering as before whatever happens
  to the host.
-/

------------------------------------------------------------
-- Configs With Tables of Their Own
------------------------------------------------------------

namespace LayeredSettings

namespace Config

/- Put tables in the place of the parts that are live. -/
def standIn
    (config : Config)
    (vars : Table String Bytes)
    (props : Table String String) : Config :=
  { config with
    environment :=
      match config.environment with
      | .live => .fixed vars
      | .fixed table => .fixed table
    properties :=
      match config.properties with
      | .live => .fixed props
      | .fixed table => .fixed table }

/- To freeze is to put in what the host has. -/
theorem freeze_eq_standIn
    (config : Config)
    (host : Host) :
    config.freeze host =
      config.standIn host.environment host.properties := by
  have hVariables :
      config.environment.freeze host =
        (config.standIn host.environment
          host.properties).environment := by
    unfold standIn
    cases config.environment with
    | live => rfl
    | fixed table => rfl
  have hProperties :
      config.properties.freeze host =
        (config.standIn host.environment
          host.properties).properties := by
    unfold standIn
    cases config.properties with
    | live => rfl
    | fixed table => rfl
  unfold freeze
  rw [hVariables, hProperties]
  rfl

/- Tables with what the host has show what it shows. -/
theorem showsAs_standIn
    {host elsewhere : Host}
    {vars : Table String Bytes}
    {props : Table String String}
    (config : Config)
    (hVariables : vars.Equivalent host.environment)
    (hProperties : props.Equivalent host.properties)
    (hDisk : elsewhere.disk = host.disk) :
    config.ShowsAs host (config.standIn vars props)
      elsewhere := by
  constructor
  · rfl
  · rfl
  · intro path
    unfold fileAt
    rw [hDisk]
    rfl
  · intro key
    unfold source standIn
    cases config.properties with
    | live => exact (hProperties key).symm
    | fixed table => rfl
  · intro name hName
    unfold source standIn
    cases config.environment with
    | live => exact hName.trans (hVariables name).symm
    | fixed table => rfl

end Config

end LayeredSettings

------------------------------------------------------------
-- Recipes That Freeze
------------------------------------------------------------

namespace LayeredSettings

/- The recipe with a freeze at the end. -/
def Recipe.thenFrozen
    (recipe : Recipe) : Recipe :=
  { recipe with
    amendments := recipe.amendments ++ [.freeze] }

/- Amendments are made one part after the other. -/
theorem Config.amendAll_append
    (config : Config)
    (host : Host)
    (changes more : List Amendment) :
    config.amendAll host (changes ++ more) =
      config.amendAll host changes >>= fun amended =>
        amended.amendAll host more := by
  induction changes generalizing config with
  | nil => simp [amendAll]
  | cons change rest ih =>
      rw [List.cons_append, amendAll, amendAll, bind_assoc]
      apply bind_congr
      intro amended
      exact ih amended

namespace Session

/- What can be built can be built and then frozen. -/
theorem outcome_build_thenFrozen
    {session : Session}
    {recipe : Recipe}
    {config : Config}
    (hBuilt : (session.build recipe).outcome = .ok config) :
    (session.build recipe.thenFrozen).outcome =
      .ok (config.freeze session.host) := by
  unfold build at hBuilt ⊢
  rw [show recipe.thenFrozen.base = recipe.base from rfl]
  cases hBase : session.base? recipe.base with
  | none =>
      rw [hBase] at hBuilt
      cases hBuilt
  | some start =>
      rw [hBase] at hBuilt
      dsimp only at hBuilt ⊢
      rw [Attempt.outcome_adapt] at hBuilt ⊢
      rw [Recipe.thenFrozen, Config.amendAll_append,
        Attempt.outcome_bind]
      cases hAmended :
          (start.amendAll session.host
            recipe.amendments).outcome with
      | error error =>
          rw [hAmended] at hBuilt
          cases hBuilt
      | ok amended =>
          rw [hAmended] at hBuilt
          cases hBuilt
          rfl

/- A copy is the config that is copied. -/
theorem outcome_build_copy
    {session : Session}
    {slot : String}
    {config : Config}
    (hSlot : session.configs.get? slot = some config) :
    (session.build ⟨.copy slot, []⟩).outcome =
      .ok config := by
  simp only [build, base?, hSlot]
  rfl

end Session

end LayeredSettings

------------------------------------------------------------
-- Views Along a Run
------------------------------------------------------------

namespace LayeredSettings

namespace Session

/-
  What holds after a run of actions.  The host has what was
  written last.  A config, whenever it was made, answers in
  its live parts as with tables that have what was written
  last.  A copy that is kept is the config that was copied.
  Clearing a property returns what a live config showed.  A
  frozen config that is kept answers as the config that was
  frozen did at that point.
-/
structure SeparatesViews
    (start : Session)
    (actions : List Action) : Prop where
  last_variables :
    HoldsLast Action.variableWrite? start.host.environment
      actions (start.after actions).host.environment
  last_properties :
    HoldsLast Action.propertyWrite? start.host.properties
      actions (start.after actions).host.properties
  live :
    ∀ (config : Config) vars props elsewhere,
      HoldsLast Action.variableWrite? start.host.environment
        actions vars →
      HoldsLast Action.propertyWrite? start.host.properties
        actions props →
      elsewhere.disk = start.host.disk →
        config.AnswersAs (start.after actions).host
          (config.standIn vars props) elsewhere
  copied :
    ∀ earlier later slot copy config,
      actions =
        earlier ++ .store copy ⟨.copy slot, []⟩ :: later →
      (start.after earlier).configs.get? slot =
        some config →
      (∀ recipe, .store copy recipe ∉ later) →
        (start.after actions).configs.get? copy = some config
  cleared :
    ∀ key (config : Config),
      config.properties = .live →
        ((start.after actions).perform
          (.clearProperty key)).value.1 =
            .cleared ((config.source
              (start.after actions).host).propertyOf key)
  frozen :
    ∀ earlier later slot (recipe : Recipe) config,
      actions =
        earlier ++ .store slot recipe.thenFrozen :: later →
      ((start.after earlier).build recipe).outcome =
        .ok config →
      (∀ other, .store slot other ∉ later) →
        ∃ kept,
          (start.after actions).configs.get? slot =
            some kept ∧
          config.AnswersAs (start.after earlier).host kept
            (start.after actions).host

/- Every run separates live views from frozen ones. -/
theorem separatesViews
    (start : Session)
    (actions : List Action) :
    start.SeparatesViews actions := by
  have hVariables :=
    tracks_environment.holdsLast start actions
  have hProperties :=
    tracks_properties.holdsLast start actions
  have hDisk := start.disk_after actions
  constructor
  · exact hVariables
  · exact hProperties
  · intro config vars props elsewhere hFirst hSecond hSame
    apply Config.ShowsAs.answersAs
    apply Config.showsAs_standIn
    · exact hFirst.equivalent hVariables
    · exact hSecond.equivalent hProperties
    · exact hSame.trans hDisk.symm
  · intro earlier later slot copy config hActions hSlot hKept
    rw [hActions, after_append]
    exact get?_configs_after_store _
      (outcome_build_copy hSlot) hKept
  · intro key config hLive
    unfold Config.source
    rw [hLive]
    rfl
  · intro earlier later slot recipe config hActions hBuilt
      hKept
    refine
      ⟨config.freeze (start.after earlier).host, ?_, ?_⟩
    · rw [hActions, after_append]
      exact get?_configs_after_store _
        (outcome_build_thenFrozen hBuilt) hKept
    · rw [Config.freeze_eq_standIn]
      apply Config.ShowsAs.answersAs
      apply Config.showsAs_standIn
      · exact fun _ => rfl
      · exact fun _ => rfl
      · exact hDisk.trans (start.disk_after earlier).symm

/-
  A live config and a copy of it, a frozen copy, and writes
  before and after, one of which is no UTF-8.
-/
def busyRun : List Action :=
  [ .setVariable "AWS_REGION" [0xFF],
    .setProperty "aws.retryMode" "adaptive",
    .store "first" ⟨.live, []⟩,
    .store "second" ⟨.copy "first", []⟩,
    .store "still" (Recipe.thenFrozen ⟨.copy "first", []⟩),
    .setVariable "AWS_REGION" (Utf8.encode "later"),
    .clearProperty "aws.retryMode" ]

theorem separatesViews_busyRun :
    ∃ kept,
      (initial.after busyRun).configs.get? "second" =
          some Config.live ∧
        (initial.after busyRun).configs.get? "still" =
          some kept ∧
        Config.live.AnswersAs
          (initial.after (busyRun.take 4)).host kept
          (initial.after busyRun).host ∧
        (kept.resolveRegion
          (initial.after busyRun).host).outcome =
            .error
              ⟨"AWS_REGION", "\uFFFD", .environmentVariable,
                .notUnicode "\uFFFD"⟩ := by
  have hViews := separatesViews initial busyRun
  have hCopied :
      (initial.after busyRun).configs.get? "second" =
        some Config.live := by
    apply hViews.copied (busyRun.take 3) (busyRun.drop 4)
      "first" "second"
    · rfl
    · rfl
    · intro recipe hMem
      simp [busyRun] at hMem
  have hFrozen :=
    hViews.frozen (busyRun.take 4) (busyRun.drop 5) "still"
      ⟨.copy "first", []⟩ Config.live rfl rfl
      (by intro recipe hMem; simp [busyRun] at hMem)
  rcases hFrozen with ⟨kept, hKept, hAnswers⟩
  refine ⟨kept, hCopied, hKept, hAnswers, ?_⟩
  rw [← hAnswers.region]
  cbv

end Session

end LayeredSettings
