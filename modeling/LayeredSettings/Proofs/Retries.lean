import LayeredSettings.Proofs.Decimal
import LayeredSettings.Proofs.Precedence
import LayeredSettings.Proofs.Text.Vocabulary
import LayeredSettings.Retry.Resolve

/-
  What is resolved as the retry configuration, told from the
  values that are found for the mode and for the limit.

  Key definitions include:
    * `RawValue.NamesMode`, `RawValue.IsInteger`
    * `RawValue.GivesMode`, `RawValue.GivesLimit`
    * `RetryVerdict`

  Key theorems include:
    * `RetryMode.ofName_eq_ok_iff`
    * `RawValue.isInteger_iff`
    * `RetryVerdict.exists_verdict`
    * `RetryVerdict.outcome_eq`
    * `Config.outcome_resolveRetry_eq_iff`
    * `Config.resolveRetry_follows_verdict`

  Of all that may be wrong the first thing is reported: the
  mode, then the text of the limit, then its range.
-/

------------------------------------------------------------
-- Verdicts
------------------------------------------------------------

namespace LayeredSettings

namespace RawValue

/- A value that is the name of a mode in any letter case. -/
structure NamesMode
    (raw : RawValue)
    (mode : RetryMode) : Prop where
  is_unicode : raw.unicode = true
  name_eq : Text.lowerCase raw.value = mode.name

/- A value that denotes an integer of 64 bits. -/
structure IsInteger
    (raw : RawValue)
    (n : Int) : Prop where
  is_unicode : raw.unicode = true
  denotes : Decimal.Denotes raw.value.toList n
  least_le : -2 ^ 63 ≤ n
  le_greatest : n ≤ 2 ^ 63 - 1

/- The mode that a value gives, or its absence. -/
def GivesMode : Option RawValue → RetryMode → Prop
| none, mode => mode = .standard
| some raw, mode => raw.NamesMode mode

/- The limit that a value gives, or its absence. -/
def GivesLimit : Option RawValue → UInt32 → Prop
| none, attempts => attempts = 3
| some raw, attempts =>
    raw.IsInteger attempts.toNat ∧ 1 ≤ attempts.toNat

/- The error that names a value and what is wrong with it. -/
def invalidBy
    (raw : RawValue)
    (cause : CoercionError) : RetryError :=
  .invalidValue ⟨raw.key, raw.value, raw.origin, cause⟩

end RawValue

/-
  What a retry configuration comes to, given what is found
  for its mode and for its limit.
-/
inductive RetryVerdict
    (mode limit : Option RawValue) :
    Except RetryError RetryConfig → Prop where
| garbledMode
    (raw : RawValue)
    (found : mode = some raw)
    (not_unicode : raw.unicode = false) :
    RetryVerdict mode limit
      (.error (raw.invalidBy (.notUnicode raw.value)))
| unknownMode
    (raw : RawValue)
    (found : mode = some raw)
    (is_unicode : raw.unicode = true)
    (nameless : ∀ m, ¬ raw.NamesMode m) :
    RetryVerdict mode limit
      (.error (raw.invalidBy (.notRetryMode ⟨raw.value⟩)))
| garbledLimit
    (m : RetryMode)
    (raw : RawValue)
    (given : RawValue.GivesMode mode m)
    (found : limit = some raw)
    (not_unicode : raw.unicode = false) :
    RetryVerdict mode limit
      (.error (raw.invalidBy (.notUnicode raw.value)))
| faultyLimit
    (m : RetryMode)
    (raw : RawValue)
    (fault : Decimal.Fault)
    (given : RawValue.GivesMode mode m)
    (found : limit = some raw)
    (is_unicode : raw.unicode = true)
    (not_integer : ∀ n, ¬ raw.IsInteger n)
    (has_fault :
      Decimal.Bounds.HasFault ⟨-2 ^ 63, 2 ^ 63 - 1⟩
        raw.value.toList fault) :
    RetryVerdict mode limit
      (.error (raw.invalidBy (.notInteger raw.value fault)))
| limitOutOfRange
    (m : RetryMode)
    (raw : RawValue)
    (n : Int)
    (given : RawValue.GivesMode mode m)
    (found : limit = some raw)
    (is_integer : raw.IsInteger n)
    (out_of_range : n < 1 ∨ 4294967295 < n) :
    RetryVerdict mode limit (.error (.invalidMaxAttempts n))
| settled
    (m : RetryMode)
    (attempts : UInt32)
    (given_mode : RawValue.GivesMode mode m)
    (given_limit : RawValue.GivesLimit limit attempts) :
    RetryVerdict mode limit (.ok ⟨m, attempts⟩)

end LayeredSettings

------------------------------------------------------------
-- Modes
------------------------------------------------------------

namespace LayeredSettings

namespace RetryMode

/- Every mode is one that is listed. -/
theorem mem_all
    (mode : RetryMode) :
    mode ∈ all := by
  cases mode <;> decide

/- Names are written in lower case. -/
theorem lowerCase_name
    (mode : RetryMode) :
    Text.lowerCase mode.name = mode.name := by
  cases mode <;> decide

/- No name of a mode is hidden in that of another. -/
theorem isVocabulary_name :
    Text.IsVocabulary name where
  is_ascii mode := by
    cases mode <;> decide
  eq_of_sublist mode other := by
    cases mode <;> cases other <;> decide

/- A text is read as the mode whose name it is. -/
theorem ofName_eq_ok_iff
    {text : String}
    {mode : RetryMode} :
    ofName text = .ok mode ↔
      Text.lowerCase text = mode.name := by
  rw [← lowerCase_name,
    ← isVocabulary_name.find?_eq_some_iff mem_all]
  unfold ofName
  cases all.find? fun mode =>
      Text.equalIgnoringCase mode.name text with
  | none => simp
  | some found => simp

/- A text that names no mode is reported as it is. -/
theorem ofName_eq_error
    {text : String}
    (hNameless :
      ∀ mode : RetryMode,
        Text.lowerCase text ≠ mode.name) :
    ofName text = .error ⟨text⟩ := by
  cases hName : ofName text with
  | ok mode =>
      exact absurd (ofName_eq_ok_iff.mp hName)
        (hNameless mode)
  | error e =>
      unfold ofName at hName
      split at hName
      · cases hName
      · exact hName.symm

end RetryMode

end LayeredSettings

------------------------------------------------------------
-- Limits
------------------------------------------------------------

namespace LayeredSettings

namespace RetryConfig

/- A limit of one attempt or more is kept as it is. -/
theorem attempts_toNat
    {attempts : UInt32}
    (hOne : 1 ≤ attempts.toNat) :
    RetryConfig.attempts attempts.toNat = .ok attempts := by
  have hBound := attempts.toNat_lt
  unfold RetryConfig.attempts
  rw [if_pos ⟨by omega, by omega⟩, Int.toNat_natCast,
    UInt32.ofNat_toNat]

/- A limit out of range is reported as it is. -/
theorem attempts_eq_error
    {n : Int}
    (hRange : n < 1 ∨ 4294967295 < n) :
    RetryConfig.attempts n =
      .error (.invalidMaxAttempts n) :=
  if_neg (by omega)

end RetryConfig

------------------------------------------------------------
-- Conclusions
------------------------------------------------------------

namespace Chain

variable {α : Type}
variable {setting : Setting α}
variable {raw : RawValue}

/- A text that is coerced is the setting's value. -/
theorem conclude_of_ok
    (hUnicode : raw.unicode = true)
    {value : α}
    (hCoerce : setting.coerce raw.value = .ok value) :
    conclude setting (some raw) = .ok (some value) := by
  rw [conclude_some, RawValue.verdict, if_pos hUnicode,
    hCoerce]

/- A text that is not coerced is an invalid value. -/
theorem conclude_of_error
    (hUnicode : raw.unicode = true)
    {cause : CoercionError}
    (hCoerce : setting.coerce raw.value = .error cause) :
    conclude setting (some raw) =
      .error ⟨raw.key, raw.value, raw.origin, cause⟩ := by
  rw [conclude_some, RawValue.verdict, if_pos hUnicode,
    hCoerce]

/- What is no text is an invalid value of any setting. -/
theorem conclude_of_not_unicode
    (hUnicode : raw.unicode = false) :
    conclude setting (some raw) =
      .error ⟨raw.key, raw.value, raw.origin,
        .notUnicode raw.value⟩ := by
  rw [conclude_some, RawValue.verdict,
    if_neg (by simp [hUnicode])]

end Chain

namespace RawValue

variable {found : Option RawValue}

/- A mode that is given is the mode of the configuration. -/
theorem GivesMode.conclude_eq
    {mode : RetryMode}
    (hMode : GivesMode found mode) :
    ∃ given,
      Chain.conclude Catalog.retryMode found = .ok given ∧
        given.getD RetryConfig.standard.mode = mode := by
  cases found with
  | none => exact ⟨none, rfl, hMode.symm⟩
  | some raw =>
      have hCoerce :
          Coercion.retryMode raw.value = .ok mode := by
        unfold Coercion.retryMode
        rw [RetryMode.ofName_eq_ok_iff.mpr hMode.name_eq]
        rfl
      exact ⟨some mode,
        Chain.conclude_of_ok hMode.is_unicode hCoerce, rfl⟩

/- A text is an integer exactly if it is coerced to it. -/
theorem isInteger_iff
    {raw : RawValue}
    (hUnicode : raw.unicode = true)
    {n : Int} :
    raw.IsInteger n ↔
      Coercion.integer raw.value = .ok n := by
  rw [Coercion.integer_eq_ok_iff]
  constructor
  · intro hInteger
    exact ⟨hInteger.denotes, hInteger.least_le,
      hInteger.le_greatest⟩
  · rintro ⟨hDenotes, hLeast, hGreatest⟩
    exact ⟨hUnicode, hDenotes, hLeast, hGreatest⟩

/- An integer is what its setting comes to. -/
theorem IsInteger.conclude_eq
    {raw : RawValue}
    {n : Int}
    (hInteger : raw.IsInteger n) :
    Chain.conclude Catalog.maxAttempts (some raw) =
      .ok (some n) :=
  Chain.conclude_of_ok hInteger.is_unicode
    ((isInteger_iff hInteger.is_unicode).mp hInteger)

/- An integer of the right range gives a limit. -/
theorem IsInteger.exists_givesLimit
    {raw : RawValue}
    {n : Int}
    (hInteger : raw.IsInteger n)
    (hRange : ¬ (n < 1 ∨ 4294967295 < n)) :
    ∃ attempts, GivesLimit (some raw) attempts := by
  have hKept :
      ((UInt32.ofNat n.toNat).toNat : Int) = n := by
    rw [UInt32.toNat_ofNat']
    omega
  refine ⟨UInt32.ofNat n.toNat, ?_, by omega⟩
  rwa [hKept]

/- A limit that is given is that of the configuration. -/
theorem GivesLimit.conclude_eq
    {attempts : UInt32}
    (hLimit : GivesLimit found attempts) :
    ∃ limit given,
      Chain.conclude Catalog.maxAttempts found =
          .ok limit ∧
        limit.mapM RetryConfig.attempts = .ok given ∧
          given.getD RetryConfig.standard.maxAttempts =
            attempts := by
  cases found with
  | none => exact ⟨none, none, rfl, rfl, hLimit.symm⟩
  | some raw =>
      refine
        ⟨some attempts.toNat, some attempts,
          hLimit.1.conclude_eq, ?_, rfl⟩
      rw [Option.mapM_some,
        RetryConfig.attempts_toNat hLimit.2]
      rfl

end RawValue

/-
  The configuration is put together from what each of the
  two settings comes to, the mode first.
-/
theorem Config.outcome_resolveRetry
    (config : Config)
    (host : Host) :
    (config.resolveRetry host).outcome =
      match Chain.conclude Catalog.retryMode
          (config.chain.find Catalog.retryMode.keys
            (config.source host)) with
      | .error cause => .error (.invalidValue cause)
      | .ok mode =>
          match Chain.conclude Catalog.maxAttempts
              (config.chain.find Catalog.maxAttempts.keys
                (config.source host)) with
          | .error cause => .error (.invalidValue cause)
          | .ok limit =>
              (limit.mapM RetryConfig.attempts).map
                (RetryConfig.ofSettings mode) := by
  have hPure (x : Except RetryError (Option UInt32)) :
      Attempt.outcome (ExceptT.mk (pure x)) = x := rfl
  unfold resolveRetry
  simp only [Attempt.outcome_bind, Attempt.outcome_adapt,
    outcome_resolve, hPure]
  cases Chain.conclude Catalog.retryMode
      (config.chain.find Catalog.retryMode.keys
        (config.source host)) with
  | error cause => rfl
  | ok mode =>
      cases Chain.conclude Catalog.maxAttempts
          (config.chain.find Catalog.maxAttempts.keys
            (config.source host)) with
      | error cause => rfl
      | ok limit =>
          simp only [Except.mapError]
          cases limit.mapM RetryConfig.attempts with
          | error cause => rfl
          | ok attempts => rfl

------------------------------------------------------------
-- Configurations
------------------------------------------------------------

namespace RetryVerdict

variable {mode limit : Option RawValue}

/- A mode is given, or its value decides the verdict. -/
theorem givesMode_or_exists
    (mode limit : Option RawValue) :
    (∃ m, RawValue.GivesMode mode m) ∨
      ∃ result, RetryVerdict mode limit result := by
  cases mode with
  | none => exact Or.inl ⟨.standard, rfl⟩
  | some raw =>
      cases hUnicode : raw.unicode with
      | false =>
          exact Or.inr ⟨_, garbledMode raw rfl hUnicode⟩
      | true =>
          by_cases hNames : ∃ m, raw.NamesMode m
          · exact Or.inl hNames
          · exact Or.inr
              ⟨_, unknownMode raw rfl hUnicode
                (not_exists.mp hNames)⟩

/- With a mode the value of the limit decides the verdict. -/
theorem exists_of_givesMode
    {m : RetryMode}
    (hMode : RawValue.GivesMode mode m)
    (limit : Option RawValue) :
    ∃ result, RetryVerdict mode limit result := by
  cases limit with
  | none => exact ⟨_, settled m 3 hMode rfl⟩
  | some raw =>
      cases hUnicode : raw.unicode with
      | false =>
          exact ⟨_, garbledLimit m raw hMode rfl hUnicode⟩
      | true =>
          have hInteger (n : Int) :=
            @RawValue.isInteger_iff raw hUnicode n
          cases hRead : Coercion.integer raw.value with
          | error cause =>
              rcases Coercion.integer_eq_error_iff.mp hRead
                with ⟨fault, -, hFault⟩
              have hNot (n : Int) : ¬ raw.IsInteger n := by
                simp [hInteger, hRead]
              exact ⟨_, faultyLimit m raw fault hMode rfl
                hUnicode hNot hFault⟩
          | ok n =>
              have hThis := (hInteger n).mpr hRead
              by_cases hRange : n < 1 ∨ 4294967295 < n
              · exact ⟨_, limitOutOfRange m raw n hMode rfl
                  hThis hRange⟩
              · rcases hThis.exists_givesLimit hRange with
                  ⟨attempts, hLimit⟩
                exact ⟨_, settled m attempts hMode hLimit⟩

/- Whatever is found, there is a verdict on it. -/
theorem exists_verdict
    (mode limit : Option RawValue) :
    ∃ result, RetryVerdict mode limit result := by
  rcases givesMode_or_exists mode limit with
    ⟨m, hMode⟩ | hVerdict
  · exact exists_of_givesMode hMode limit
  · exact hVerdict

/- A configuration comes to what its verdict says. -/
theorem outcome_eq
    {config : Config}
    {host : Host}
    {result : Except RetryError RetryConfig}
    (hVerdict :
      RetryVerdict
        (config.chain.find Catalog.retryMode.keys
          (config.source host))
        (config.chain.find Catalog.maxAttempts.keys
          (config.source host))
        result) :
    (config.resolveRetry host).outcome = result := by
  rw [config.outcome_resolveRetry]
  generalize config.chain.find Catalog.retryMode.keys
    (config.source host) = mode at hVerdict ⊢
  generalize config.chain.find Catalog.maxAttempts.keys
    (config.source host) = limit at hVerdict ⊢
  cases hVerdict with
  | garbledMode raw found not_unicode =>
      rw [found, Chain.conclude_of_not_unicode not_unicode]
      rfl
  | unknownMode raw found is_unicode nameless =>
      have hCoerce :
          Coercion.retryMode raw.value =
            .error (.notRetryMode ⟨raw.value⟩) := by
        unfold Coercion.retryMode
        rw [RetryMode.ofName_eq_error
          fun m hName => nameless m ⟨is_unicode, hName⟩]
        rfl
      rw [found, Chain.conclude_of_error is_unicode hCoerce]
      rfl
  | garbledLimit m raw given found not_unicode =>
      rcases given.conclude_eq with ⟨mode, hMode, -⟩
      rw [hMode, found,
        Chain.conclude_of_not_unicode not_unicode]
      rfl
  | faultyLimit m raw fault given found is_unicode
      not_integer has_fault =>
      rcases given.conclude_eq with ⟨mode, hMode, -⟩
      have hCoerce :
          Coercion.integer raw.value =
            .error (.notInteger raw.value fault) :=
        Coercion.integer_eq_error_iff.mpr
          ⟨fault, rfl, has_fault⟩
      rw [hMode, found,
        Chain.conclude_of_error is_unicode hCoerce]
      rfl
  | limitOutOfRange m raw n given found is_integer
      out_of_range =>
      rcases given.conclude_eq with ⟨mode, hMode, -⟩
      rw [hMode, found, is_integer.conclude_eq]
      simp only [Option.mapM_some,
        RetryConfig.attempts_eq_error out_of_range]
      rfl
  | settled m attempts given_mode given_limit =>
      rcases given_mode.conclude_eq with
        ⟨mode, hMode, rfl⟩
      rcases given_limit.conclude_eq with
        ⟨limit, given, hLimit, hGiven, rfl⟩
      rw [hMode, hLimit]
      simp only [hGiven]
      rfl

/- A configuration allows for one attempt at least. -/
theorem one_le_maxAttempts
    {retry : RetryConfig}
    (hVerdict : RetryVerdict mode limit (.ok retry)) :
    1 ≤ retry.maxAttempts.toNat := by
  cases hVerdict with
  | settled m attempts given_mode given_limit =>
      cases limit with
      | none =>
          subst given_limit
          exact show 1 ≤ 3 by decide
      | some raw => exact given_limit.2

end RetryVerdict

------------------------------------------------------------
-- Resolution
------------------------------------------------------------

namespace Config

/- A configuration has one verdict, which it comes to. -/
theorem outcome_resolveRetry_eq_iff
    {config : Config}
    {host : Host}
    {result : Except RetryError RetryConfig} :
    (config.resolveRetry host).outcome = result ↔
      RetryVerdict
        (config.chain.find Catalog.retryMode.keys
          (config.source host))
        (config.chain.find Catalog.maxAttempts.keys
          (config.source host))
        result := by
  constructor
  · rintro rfl
    rcases RetryVerdict.exists_verdict
        (config.chain.find Catalog.retryMode.keys
          (config.source host))
        (config.chain.find Catalog.maxAttempts.keys
          (config.source host)) with
      ⟨result, hResult⟩
    rwa [hResult.outcome_eq]
  · exact RetryVerdict.outcome_eq

/- A mode among the properties, a limit in a profile. -/
def scattered
    (mode limit : String) : Config :=
  { empty with
    properties := .fixed
      (Table.ofList [("aws.retryMode", mode)])
    profiles := some
      { profiles := Table.ofList
          [ ( "default",
              ⟨"default", Table.ofList
                [ ( "max_attempts",
                    ⟨"max_attempts", limit⟩ ) ]⟩ ) ]
        selected := "default" } }

/-
  The retry configuration is what its verdict says, and only
  that.  So it allows for at least one attempt and at most as
  many as 32 bits can count.  The mode and the limit may come
  from different places, whatever they are.
-/
theorem resolveRetry_follows_verdict
    (config : Config)
    (host : Host) :
    (∀ result,
      (config.resolveRetry host).outcome = result ↔
        RetryVerdict
          (config.chain.find Catalog.retryMode.keys
            (config.source host))
          (config.chain.find Catalog.maxAttempts.keys
            (config.source host))
          result) ∧
    (∀ retry,
      (config.resolveRetry host).outcome = .ok retry →
        1 ≤ retry.maxAttempts.toNat ∧
          retry.maxAttempts.toNat ≤ 2 ^ 32 - 1) ∧
    ∀ mode limit : String,
      (scattered mode limit).chain.find
            Catalog.retryMode.keys
            ((scattered mode limit).source host) =
          some ⟨mode, "aws.retryMode", .systemProperty,
            true⟩ ∧
        (scattered mode limit).chain.find
            Catalog.maxAttempts.keys
            ((scattered mode limit).source host) =
          some ⟨limit, "max_attempts", .profile "default",
            true⟩ := by
  refine
    ⟨fun result => outcome_resolveRetry_eq_iff, ?_, ?_⟩
  · intro retry hRetry
    have hVerdict := outcome_resolveRetry_eq_iff.mp hRetry
    have hBound := retry.maxAttempts.toNat_lt
    exact ⟨hVerdict.one_le_maxAttempts, by omega⟩
  · intro mode limit
    constructor
    · rfl
    · rfl

theorem resolveRetry_scattered :
    ((scattered "Legacy" "+007").resolveRetry
          Host.initial).outcome =
        .ok ⟨.legacy, 7⟩ ∧
      1 ≤ (7 : UInt32).toNat ∧
        (7 : UInt32).toNat ≤ 2 ^ 32 - 1 := by
  have hRetry :
      ((scattered "Legacy" "+007").resolveRetry
          Host.initial).outcome =
        .ok ⟨.legacy, 7⟩ := by
    cbv
  exact ⟨hRetry,
    (resolveRetry_follows_verdict
      (scattered "Legacy" "+007")
      Host.initial).2.1 ⟨.legacy, 7⟩ hRetry⟩

end Config

end LayeredSettings
