import LayeredSettings.Proofs.Profile.History
import LayeredSettings.Session

/-
  Runs of actions: what is written to the host, and which
  configs are kept.

  Key definitions include:
    * `Action.variableWrite?`, `Action.propertyWrite?`
    * `WrittenLast`
    * `HoldsLast`
    * `Session.Tracks`

  Key theorems include:
    * `Session.after_append`
    * `Session.Tracks.holdsLast`
    * `Session.tracks_environment`
    * `Session.tracks_properties`
    * `Session.disk_after`
    * `Session.get?_configs_after`

  Variables and properties are written to by actions of
  their own, and tracked in the same way: one lemma says
  what an action does to a table of the host, and another
  what a run leaves there.
-/

------------------------------------------------------------
-- Last Writes
------------------------------------------------------------

namespace LayeredSettings

open Grammar

namespace Action

/- The variable that is set, or unset, to `none`. -/
def variableWrite? : Action → Option (String × Option Bytes)
| .setVariable name value => some (name, some value)
| .unsetVariable name => some (name, none)
| _ => none

/- The property that is set, or cleared, to `none`. -/
def propertyWrite? : Action → Option (String × Option String)
| .setProperty key value => some (key, some value)
| .clearProperty key => some (key, none)
| _ => none

end Action

variable {α : Type}

/-
  A value that was the last to be written under a name and
  was not cleared since, or that was there at the start and
  is untouched.
-/
def WrittenLast
    (write : Action → Option (String × Option α))
    (start : Table String α)
    (actions : List Action)
    (name : String)
    (value : α) : Prop :=
  Since (fun _ action => write action = some (name, some value))
      (fun action => ∃ new, write action = some (name, new))
      actions ∨
    start.get? name = some value ∧
      ∀ action ∈ actions, ∀ new,
        write action ≠ some (name, new)

/- A table that has for each name the value written last. -/
def HoldsLast
    (write : Action → Option (String × Option α))
    (start : Table String α)
    (actions : List Action)
    (table : Table String α) : Prop :=
  ∀ name value,
    table.get? name = some value ↔
      WrittenLast write start actions name value

/- Tables that hold the same last values are equivalent. -/
theorem HoldsLast.equivalent
    {write : Action → Option (String × Option α)}
    {start table other : Table String α}
    {actions : List Action}
    (hTable : HoldsLast write start actions table)
    (hOther : HoldsLast write start actions other) :
    table.Equivalent other := by
  intro name
  apply Option.ext
  intro value
  exact (hTable name value).trans (hOther name value).symm

/- What one more action makes of the last writes. -/
theorem writtenLast_concat_iff
    (write : Action → Option (String × Option α))
    (start : Table String α)
    (actions : List Action)
    (action : Action)
    (name : String)
    (value : α) :
    WrittenLast write start (actions ++ [action]) name value ↔
      write action = some (name, some value) ∨
        (∀ new, write action ≠ some (name, new)) ∧
          WrittenLast write start actions name value := by
  have hUntouched :
      (∀ other ∈ actions ++ [action], ∀ new,
        write other ≠ some (name, new)) ↔
        (∀ other ∈ actions, ∀ new,
          write other ≠ some (name, new)) ∧
          ∀ new, write action ≠ some (name, new) := by
    rw [List.forall_mem_append]
    exact and_congr_right' List.forall_mem_singleton
  unfold WrittenLast
  rw [since_concat_iff, hUntouched, not_exists]
  tauto

namespace Session

/-
  A table of a session in which an action changes what it
  writes and nothing else.
-/
def Tracks
    (view : Session → Table String α)
    (write : Action → Option (String × Option α)) : Prop :=
  ∀ session action name,
    (view (perform session action).value.2).get? name =
      match write action with
      | none => (view session).get? name
      | some (written, value) =>
          if written = name then value
          else (view session).get? name

/- Storing keeps a config that can be built. -/
theorem value_perform_store
    (session : Session)
    (slot : String)
    (recipe : Recipe) :
    (session.perform (.store slot recipe)).value =
      match (session.build recipe).outcome with
      | .error error => (.refused error, session)
      | .ok config =>
          (.stored config, session.keep slot config) := by
  unfold perform Attempt.outcome
  rw [Logged.value_bind]
  cases (session.build recipe).run.value with
  | error error => rfl
  | ok config => rfl

/- Storing leaves the host as it is. -/
theorem host_store
    (session : Session)
    (slot : String)
    (recipe : Recipe) :
    (session.perform (.store slot recipe)).value.2.host =
      session.host := by
  rw [value_perform_store]
  cases (session.build recipe).outcome with
  | error error => rfl
  | ok config => rfl

/- A run is its parts one after the other. -/
theorem after_append
    (session : Session)
    (actions more : List Action) :
    session.after (actions ++ more) =
      (session.after actions).after more := by
  induction actions generalizing session with
  | nil => rfl
  | cons action rest ih => exact ih _

/- A tracked table holds what was written last. -/
theorem Tracks.holdsLast
    {view : Session → Table String α}
    {write : Action → Option (String × Option α)}
    (hTracks : Tracks view write)
    (start : Session)
    (actions : List Action) :
    HoldsLast write (view start) actions
      (view (start.after actions)) := by
  intro name value
  induction actions using List.reverseRecOn with
  | nil => simp [WrittenLast, not_since_nil, after]
  | append_singleton actions action ih =>
      have hStep :
          start.after (actions ++ [action]) =
            ((start.after actions).perform action).value.2 :=
        after_append start actions [action]
      rw [writtenLast_concat_iff, ← ih, hStep, hTracks]
      cases hWrite : write action with
      | none => simp
      | some written =>
          obtain ⟨other, new⟩ := written
          by_cases hName : other = name
          · subst hName
            simp
          · simp [hName]

/- The environment has what was written last. -/
theorem tracks_environment :
    Tracks (fun session => session.host.environment)
      Action.variableWrite? := by
  intro session action name
  cases action with
  | setProperty key value => rfl
  | clearProperty key => rfl
  | setVariable written value =>
      exact Table.get?_insert _ written name value
  | unsetVariable written =>
      exact Table.get?_erase _ written name
  | store slot recipe =>
      dsimp only
      rw [host_store]
      rfl

/- The system properties are what was written last. -/
theorem tracks_properties :
    Tracks (fun session => session.host.properties)
      Action.propertyWrite? := by
  intro session action key
  cases action with
  | setProperty written value =>
      exact Table.get?_insert _ written key value
  | clearProperty written =>
      exact Table.get?_erase _ written key
  | setVariable name value => rfl
  | unsetVariable name => rfl
  | store slot recipe =>
      dsimp only
      rw [host_store]
      rfl

end Session

end LayeredSettings

------------------------------------------------------------
-- What a Run Keeps
------------------------------------------------------------

namespace LayeredSettings

namespace Session

/- No action writes to the disk. -/
theorem disk_perform
    (session : Session)
    (action : Action) :
    (session.perform action).value.2.host.disk =
      session.host.disk := by
  cases action with
  | setProperty key value => rfl
  | clearProperty key => rfl
  | setVariable name value => rfl
  | unsetVariable name => rfl
  | store slot recipe => rw [host_store]

theorem disk_after
    (session : Session)
    (actions : List Action) :
    (session.after actions).host.disk =
      session.host.disk := by
  induction actions generalizing session with
  | nil => rfl
  | cons action rest ih =>
      exact (ih _).trans (session.disk_perform action)

/- A config that is not stored anew is kept. -/
theorem get?_configs_perform
    (session : Session)
    {action : Action}
    {slot : String}
    (hOther : ∀ recipe, action ≠ .store slot recipe) :
    (session.perform action).value.2.configs.get? slot =
      session.configs.get? slot := by
  cases action with
  | setProperty key value => rfl
  | clearProperty key => rfl
  | setVariable name value => rfl
  | unsetVariable name => rfl
  | store name recipe =>
      have hName : name ≠ slot := by
        intro hSame
        exact hOther recipe (by rw [hSame])
      rw [value_perform_store]
      cases (session.build recipe).outcome with
      | error error => rfl
      | ok config =>
          exact (Table.get?_insert _ name slot config).trans
            (if_neg hName)

theorem get?_configs_after
    (session : Session)
    {actions : List Action}
    {slot : String}
    (hOther : ∀ recipe, .store slot recipe ∉ actions) :
    (session.after actions).configs.get? slot =
      session.configs.get? slot := by
  induction actions generalizing session with
  | nil => rfl
  | cons action rest ih =>
      have hFirst :
          ∀ recipe, action ≠ .store slot recipe := by
        intro recipe hSame
        exact hOther recipe (by simp [hSame])
      have hRest :
          ∀ recipe, .store slot recipe ∉ rest := by
        intro recipe hMem
        exact hOther recipe (by simp [hMem])
      exact (ih _ hRest).trans
        (session.get?_configs_perform hFirst)

/- A config that is stored and kept is there later. -/
theorem get?_configs_after_store
    (session : Session)
    {slot : String}
    {recipe : Recipe}
    {config : Config}
    {later : List Action}
    (hBuilt : (session.build recipe).outcome = .ok config)
    (hKept : ∀ recipe, .store slot recipe ∉ later) :
    (session.after
      (.store slot recipe :: later)).configs.get? slot =
        some config := by
  refine (get?_configs_after _ hKept).trans ?_
  rw [value_perform_store, hBuilt]
  exact (Table.get?_insert _ slot slot config).trans
    (if_pos rfl)

end Session

end LayeredSettings
