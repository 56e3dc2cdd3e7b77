import LayeredSettings.Proofs.Endpoints
import LayeredSettings.Proofs.Text.Vocabulary

/-
  Coercions that read values by their names: truth values,
  retry modes and endpoint modes.

  Key definitions include:
    * `Coercion.truthName`
    * `Coercion.ReadsNames`

  Key theorems include:
    * `Coercion.readsNames_of_isVocabulary`
    * `Coercion.named_values_read_by_name`

  The three coercions are written in three ways, but each of
  them reads a vocabulary.  So each reads the names of its
  values in any letter case and refuses every other text,
  however much that looks like a name.
-/

namespace LayeredSettings

namespace Coercion

------------------------------------------------------------
-- Coercions by Name
------------------------------------------------------------

/- The name of a truth value. -/
def truthName : Bool → String
| true => "true"
| false => "false"

/-
  A coercion that reads a text as the value of which it is
  the name in some letter case, and no other text at all.

  It does not matter in which order values are tried, and a
  text of which only the letter case is changed is read the
  same.  A text that lacks characters of a name, has more of
  them, or has one that is not of ASCII is not read.
-/
structure ReadsNames
    {α : Type}
    (coerce : Coercion α)
    (nameOf : α → String)
    (cause : String → CoercionError) : Prop where
  eq_ok_iff :
    ∀ text value,
      coerce text = .ok value ↔
        Text.lowerCase text = Text.lowerCase (nameOf value)
  eq_error_iff :
    ∀ text,
      coerce text = .error (cause text) ↔
        ∀ value,
          Text.lowerCase text ≠
            Text.lowerCase (nameOf value)
  shows_text :
    ∀ text, ∃ front back,
      (cause text).message = front ++ text ++ back
  reads_name : ∀ value, coerce (nameOf value) = .ok value
  unique :
    ∀ text a b,
      Text.lowerCase text = Text.lowerCase (nameOf a) →
        Text.lowerCase text = Text.lowerCase (nameOf b) →
          a = b
  any_order :
    ∀ candidates : List α,
      (∀ value, value ∈ candidates) →
        ∀ text,
          (candidates.find? fun value =>
              Text.equalIgnoringCase (nameOf value) text) =
            (coerce text).toOption
  any_case :
    ∀ text other,
      Text.IsCaseVariant text other →
        (coerce text).toOption = (coerce other).toOption
  no_part :
    ∀ text other a b,
      text.toList.Sublist other.toList →
        coerce text = .ok a →
          coerce other = .ok b → text = other
  only_ascii :
    ∀ text value, coerce text = .ok value →
      Text.IsASCII text

/- A result has a value exactly if it is that value. -/
theorem toOption_eq_some_iff
    {ε α : Type}
    {result : Except ε α}
    {value : α} :
    result.toOption = some value ↔ result = .ok value := by
  cases result with
  | error e => simp [Except.toOption]
  | ok own => simp [Except.toOption]

/-
  A coercion that reads a vocabulary and reports all other
  texts reads names and nothing else.
-/
theorem readsNames_of_isVocabulary
    {α : Type}
    {coerce : Coercion α}
    {nameOf : α → String}
    {cause : String → CoercionError}
    (hNames : Text.IsVocabulary nameOf)
    (hOk :
      ∀ text value,
        coerce text = .ok value ↔
          Text.lowerCase text =
            Text.lowerCase (nameOf value))
    (hError :
      ∀ text,
        (∀ value,
          Text.lowerCase text ≠
            Text.lowerCase (nameOf value)) →
          coerce text = .error (cause text))
    (hShows :
      ∀ text, ∃ front back,
        (cause text).message = front ++ text ++ back) :
    ReadsNames coerce nameOf cause where
  eq_ok_iff := hOk
  eq_error_iff text := by
    constructor
    · intro hRefused value hName
      rw [(hOk text value).mpr hName] at hRefused
      cases hRefused
    · exact hError text
  shows_text := hShows
  reads_name value := (hOk (nameOf value) value).mpr rfl
  unique text a b hFirst hSecond :=
    hNames.eq_of_lowerCase_eq hFirst hSecond
  any_order candidates hAll text := by
    apply Option.ext
    intro value
    rw [hNames.find?_eq_some_iff hAll, toOption_eq_some_iff,
      hOk]
  any_case text other hVariant := by
    apply Option.ext
    intro value
    rw [toOption_eq_some_iff, toOption_eq_some_iff, hOk, hOk,
      Text.isCaseVariant_iff.mp hVariant]
  no_part text other a b hSub hFirst hSecond :=
    hNames.eq_of_sublist_texts hSub ((hOk text a).mp hFirst)
      ((hOk other b).mp hSecond)
  only_ascii text value hRead :=
    Text.isASCII_of_lowerCase_eq ((hOk text value).mp hRead)
      (hNames.is_ascii value)

------------------------------------------------------------
-- The Names
------------------------------------------------------------

/- No name of a value is hidden in that of another. -/
theorem isVocabulary_truthName :
    Text.IsVocabulary truthName where
  is_ascii := by decide
  eq_of_sublist := by decide

theorem isVocabulary_endpointMode :
    Text.IsVocabulary EndpointMode.name where
  is_ascii mode := by
    cases mode <;> decide
  eq_of_sublist mode other := by
    cases mode <;> cases other <;> decide

/- The texts that are truth values are the two names. -/
theorem namesBoolean_iff
    {text : String}
    {value : Bool} :
    NamesBoolean text value ↔
      Text.lowerCase text =
        Text.lowerCase (truthName value) := by
  have hTrue : Text.lowerCase "true" = "true" := by decide
  have hFalse : Text.lowerCase "false" = "false" := by decide
  cases value with
  | true =>
      rw [truthName, hTrue]
      rfl
  | false =>
      rw [truthName, hFalse]
      rfl

/- The texts that are endpoint modes are their names. -/
theorem namesEndpointMode_iff
    {text : String}
    {mode : EndpointMode} :
    NamesEndpointMode text mode ↔
      Text.lowerCase text = Text.lowerCase mode.name := by
  have hFour : Text.lowerCase "IPv4" = "ipv4" := by decide
  have hSix : Text.lowerCase "IPv6" = "ipv6" := by decide
  cases mode with
  | ipv4 =>
      rw [EndpointMode.name, hFour]
      rfl
  | ipv6 =>
      rw [EndpointMode.name, hSix]
      rfl

------------------------------------------------------------
-- The Three Coercions
------------------------------------------------------------

theorem readsNames_boolean :
    ReadsNames boolean truthName .notBoolean := by
  apply readsNames_of_isVocabulary isVocabulary_truthName
  · intro text value
    rw [boolean_eq_ok_iff, namesBoolean_iff]
  · intro text hNone
    apply boolean_eq_error
    intro value hNames
    exact hNone value (namesBoolean_iff.mp hNames)
  · intro text
    exact ⟨"`", _, String.append_assoc⟩

/- The coercion reads a mode where the mode is read. -/
theorem retryMode_eq_ok_iff
    {text : String}
    {mode : RetryMode} :
    retryMode text = .ok mode ↔
      RetryMode.ofName text = .ok mode := by
  unfold retryMode
  cases RetryMode.ofName text with
  | ok own => simp [Except.mapError]
  | error e => simp [Except.mapError]

/- The coercion refuses a text that is not read so. -/
theorem retryMode_eq_error_iff
    {text : String}
    {e : UnknownRetryMode} :
    retryMode text = .error (.notRetryMode e) ↔
      RetryMode.ofName text = .error e := by
  unfold retryMode
  cases RetryMode.ofName text with
  | ok own => simp [Except.mapError]
  | error own => simp [Except.mapError]

theorem readsNames_retryMode :
    ReadsNames retryMode RetryMode.name
      fun text => .notRetryMode ⟨text⟩ := by
  apply readsNames_of_isVocabulary RetryMode.isVocabulary_name
  · intro text mode
    rw [retryMode_eq_ok_iff, RetryMode.ofName_eq_ok_iff,
      RetryMode.lowerCase_name]
  · intro text hNone
    simp only [RetryMode.lowerCase_name] at hNone
    rw [retryMode_eq_error_iff]
    exact RetryMode.ofName_eq_error hNone
  · intro text
    exact ⟨"`", _, String.append_assoc⟩

theorem readsNames_endpointMode :
    ReadsNames endpointMode EndpointMode.name
      fun text => .notEndpointMode ⟨text⟩ := by
  apply readsNames_of_isVocabulary isVocabulary_endpointMode
  · intro text mode
    rw [endpointMode_eq_ok_iff, namesEndpointMode_iff]
  · intro text hNone
    apply endpointMode_eq_error
    intro mode hNames
    exact hNone mode (namesEndpointMode_iff.mp hNames)
  · intro text
    exact ⟨"`", _, String.append_assoc⟩

/-
  Truth values, retry modes and endpoint modes are read by
  their names in any letter case, and every other text is
  refused with an error that shows it.  For retry modes the
  coercion and the reader of modes agree on every text.
-/
theorem named_values_read_by_name :
    ReadsNames boolean truthName .notBoolean ∧
    ReadsNames retryMode RetryMode.name
      (fun text => .notRetryMode ⟨text⟩) ∧
    ReadsNames endpointMode EndpointMode.name
      (fun text => .notEndpointMode ⟨text⟩) ∧
    ∀ text,
      (∀ mode,
        RetryMode.ofName text = .ok mode ↔
          retryMode text = .ok mode) ∧
      ∀ e,
        RetryMode.ofName text = .error e ↔
          retryMode text = .error (.notRetryMode e) := by
  refine
    ⟨readsNames_boolean, readsNames_retryMode,
      readsNames_endpointMode, ?_⟩
  intro text
  constructor
  · intro mode
    exact retryMode_eq_ok_iff.symm
  · intro e
    exact retryMode_eq_error_iff.symm

/- The long s is no letter of ASCII, so it is no s. -/
example :
    boolean "fAlSe" = .ok false ∧
      boolean "falſe" = .error (.notBoolean "falſe") := by
  decide

end Coercion

end LayeredSettings
