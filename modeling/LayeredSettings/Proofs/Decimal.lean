import LayeredSettings.Setting.Coercion
import Mathlib

/-
  Which texts are integers, and what is wrong with the
  others.

  Key definitions include:
    * `Decimal.Sign`
    * `Decimal.Denotes`
    * `Decimal.leadingValue`

  Key theorems include:
    * `Decimal.readDigits_eq`
    * `Decimal.read_eq`
    * `Decimal.denotes_toString`
    * `Coercion.integer_reads_decimal`

  The reader adds one digit at a time and stops at the first
  problem.  Digits never bring a value nearer to zero, so a
  value that is once out of bounds is so with all digits of
  its run, and the problem is known from the exact value.
-/

------------------------------------------------------------
-- Integers in Base 10
------------------------------------------------------------

namespace LayeredSettings

namespace Decimal

/- The sign before the digits of an integer, if any. -/
inductive Sign where
  | absent
  | plus
  | minus
  deriving DecidableEq, Repr

namespace Sign

/- How a sign is written. -/
def text : Sign → List Char
| .absent => []
| .plus => ['+']
| .minus => ['-']

/- The integer that a sign makes of a magnitude. -/
def apply
    (sign : Sign)
    (magnitude : Nat) : Int :=
  match sign with
  | .minus => -magnitude
  | _ => magnitude

/- Whether digits are subtracted. -/
def isNegative
    (sign : Sign) : Bool :=
  sign = .minus

end Sign

/-
  A text that is one sign at most and one digit at least
  denotes the value of the digits with that sign.  There may
  be zeros in front, and any number of digits.
-/
def Denotes
    (cs : List Char)
    (n : Int) : Prop :=
  ∃ (sign : Sign) (digits : List Char),
    cs = sign.text ++ digits ∧
      digits ≠ [] ∧
      (∀ c ∈ digits, c.isDigit = true) ∧
      n = sign.apply (Nat.ofDigitChars 10 digits 0)

/- The sign at the start of a text. -/
def signOf : List Char → Sign
| '+' :: _ => .plus
| '-' :: _ => .minus
| _ => .absent

/- A text without the sign at its start. -/
def unsigned : List Char → List Char
| '+' :: rest => rest
| '-' :: rest => rest
| cs => cs

/- The longest run of digits right after the sign. -/
def leadingDigits
    (cs : List Char) : List Char :=
  (unsigned cs).takeWhile Char.isDigit

/- The value of this run, zero if it is empty. -/
def leadingValue
    (cs : List Char) : Int :=
  (signOf cs).apply
    (Nat.ofDigitChars 10 (leadingDigits cs) 0)

/- The integers between two bounds. -/
def Bounds.Admits
    (bounds : Bounds)
    (n : Int) : Prop :=
  bounds.least ≤ n ∧ n ≤ bounds.greatest

instance
    (bounds : Bounds)
    (n : Int) : Decidable (bounds.Admits n) :=
  inferInstanceAs (Decidable (_ ∧ _))

/-
  What is wrong with a text.  An overflow is one of the run
  of digits, whatever follows that.  All else that denotes
  nothing has an invalid digit, a lone sign too.
-/
def Bounds.HasFault
    (bounds : Bounds)
    (cs : List Char) : Fault → Prop
| .empty => cs = []
| .tooLarge => bounds.greatest < leadingValue cs
| .tooSmall => leadingValue cs < bounds.least
| .invalidDigit =>
    cs ≠ [] ∧
      bounds.Admits (leadingValue cs) ∧
      ∀ n, ¬ Denotes cs n

/- Whether a text is a run of digits after its sign. -/
def isWhole
    (cs : List Char) : Bool :=
  !(unsigned cs).isEmpty && (unsigned cs).all Char.isDigit

/-
  What becomes of the exact value of a run of digits, which
  is the complete number or is not.
-/
def Bounds.judge
    (bounds : Bounds)
    (complete : Bool)
    (n : Int) : Except Fault Int :=
  if n < bounds.least then .error .tooSmall
  else if bounds.greatest < n then .error .tooLarge
  else if complete then .ok n
  else .error .invalidDigit

end Decimal

end LayeredSettings

------------------------------------------------------------
-- Digits
------------------------------------------------------------

namespace LayeredSettings

namespace Decimal

variable {bounds : Bounds}
variable {sign : Sign}
variable {cs digits : List Char}

/- A digit has the value of its place after `0`. -/
theorem digit?_of_isDigit
    {c : Char}
    (hDigit : c.isDigit = true) :
    digit? c = some (c.toNat - '0'.toNat) :=
  if_pos hDigit

/- Other characters have no value. -/
theorem digit?_of_not
    {c : Char}
    (hOther : ¬ c.isDigit = true) :
    digit? c = none :=
  if_neg hOther

/- Digits never make a value smaller. -/
theorem le_ofDigitChars
    (digits : List Char)
    (value : Nat) :
    value ≤ Nat.ofDigitChars 10 digits value := by
  induction digits generalizing value with
  | nil => exact Nat.le_refl value
  | cons c rest ih =>
      rw [Nat.ofDigitChars_cons]
      have hRest := ih (10 * value + (c.toNat - '0'.toNat))
      omega

/- The next digit is added, or subtracted after a minus. -/
theorem Sign.apply_next
    (sign : Sign)
    (value d : Nat) :
    sign.apply (10 * value + d) =
      if sign.isNegative then sign.apply value * 10 - d
      else sign.apply value * 10 + d := by
  cases sign <;> simp [apply, isNegative] <;> omega

/- What is too small stays so with a greater magnitude. -/
theorem Sign.apply_lt_least
    (hZero : bounds.Admits 0)
    {value more : Nat}
    (hMore : value ≤ more)
    (hSmall : sign.apply value < bounds.least) :
    sign.apply more < bounds.least := by
  have hLeast := hZero.1
  cases sign <;> simp only [apply] at hSmall ⊢ <;> omega

/- What is too large stays so with a greater magnitude. -/
theorem Sign.greatest_lt_apply
    (hZero : bounds.Admits 0)
    {value more : Nat}
    (hMore : value ≤ more)
    (hLarge : bounds.greatest < sign.apply value) :
    bounds.greatest < sign.apply more := by
  have hGreatest := hZero.2
  cases sign <;> simp only [apply] at hLarge ⊢ <;> omega

/- A value within the bounds is judged by what follows. -/
theorem Bounds.judge_of_admits
    {n : Int}
    (hAdmits : bounds.Admits n)
    (complete : Bool) :
    bounds.judge complete n =
      if complete then .ok n else .error .invalidDigit := by
  unfold judge
  rw [if_neg (Int.not_lt.mpr hAdmits.1),
    if_neg (Int.not_lt.mpr hAdmits.2)]

/-
  What comes of the digits after a value, told from the
  exact value of their run and from what follows it.
-/
theorem readDigits_eq
    (hZero : bounds.Admits 0)
    (sign : Sign)
    (value : Nat)
    (hValue : bounds.Admits (sign.apply value))
    (cs : List Char) :
    readDigits bounds sign.isNegative (sign.apply value)
        cs =
      bounds.judge (cs.all Char.isDigit)
        (sign.apply
          (Nat.ofDigitChars 10 (cs.takeWhile Char.isDigit)
            value)) := by
  induction cs generalizing value with
  | nil => exact (bounds.judge_of_admits hValue true).symm
  | cons c rest ih =>
      by_cases hDigit : c.isDigit = true
      · rw [readDigits, digit?_of_isDigit hDigit]
        simp only [← Sign.apply_next]
        rw [List.takeWhile_cons_of_pos hDigit,
          Nat.ofDigitChars_cons, List.all_cons, hDigit,
          Bool.true_and]
        have hMore :=
          le_ofDigitChars (rest.takeWhile Char.isDigit)
            (10 * value + (c.toNat - '0'.toNat))
        split_ifs with hSmall hLarge
        · -- too small at once, so too small in the end
          exact (if_pos
            (sign.apply_lt_least hZero hMore hSmall)).symm
        · have hEnd :=
            sign.greatest_lt_apply hZero hMore hLarge
          have hOrder := Int.le_trans hZero.1 hZero.2
          unfold Bounds.judge
          rw [if_neg (by omega), if_pos hEnd]
        · exact ih _
            ⟨Int.not_lt.mp hSmall, Int.not_lt.mp hLarge⟩
      · rw [readDigits, digit?_of_not hDigit,
          List.takeWhile_cons_of_neg hDigit, List.all_cons,
          Bool.eq_false_iff.mpr hDigit]
        exact (bounds.judge_of_admits hValue false).symm

------------------------------------------------------------
-- Signs
------------------------------------------------------------

/- A text is its sign and what comes after that. -/
theorem text_signOf_append
    (cs : List Char) :
    (signOf cs).text ++ unsigned cs = cs := by
  unfold signOf unsigned
  split <;> rfl

/- A text that starts otherwise has no sign. -/
theorem signOf_of_other
    {c : Char}
    (hPlus : c ≠ '+')
    (hMinus : c ≠ '-')
    (rest : List Char) :
    signOf (c :: rest) = .absent ∧
      unsigned (c :: rest) = c :: rest := by
  simp [signOf, unsigned, hPlus, hMinus]

/- A sign before digits is the sign of the text. -/
theorem signOf_append
    (sign : Sign)
    (hDigits : ∀ c ∈ digits, c.isDigit = true)
    (hNonempty : digits ≠ []) :
    signOf (sign.text ++ digits) = sign ∧
      unsigned (sign.text ++ digits) = digits := by
  cases sign with
  | plus => exact ⟨rfl, rfl⟩
  | minus => exact ⟨rfl, rfl⟩
  | absent =>
      cases digits with
      | nil => exact absurd rfl hNonempty
      | cons c rest =>
          have hDigit : c.isDigit = true :=
            hDigits c List.mem_cons_self
          have hPlus : c ≠ '+' := by
            rintro rfl
            exact absurd hDigit (by decide)
          have hMinus : c ≠ '-' := by
            rintro rfl
            exact absurd hDigit (by decide)
          exact signOf_of_other hPlus hMinus rest

/- A text is read by its sign, unless it is empty. -/
theorem read_of_ne_nil
    (bounds : Bounds)
    (hText : cs ≠ []) :
    read bounds cs =
      readMagnitude bounds (signOf cs).isNegative
        (unsigned cs) := by
  unfold read
  split
  · exact absurd rfl hText
  · rfl
  · rfl
  · rename_i c rest hPlus hMinus
    rcases signOf_of_other hPlus hMinus rest with
      ⟨hSign, hUnsigned⟩
    rw [hSign, hUnsigned]
    rfl

/-
  What comes of a text that is not empty, told from the
  exact value of the digits right after its sign.
-/
theorem read_eq
    (hZero : bounds.Admits 0)
    (hText : cs ≠ []) :
    read bounds cs =
      bounds.judge (isWhole cs) (leadingValue cs) := by
  have hStart : (signOf cs).apply 0 = 0 := by
    cases signOf cs <;> rfl
  rw [read_of_ne_nil bounds hText]
  unfold isWhole leadingValue leadingDigits
  cases hDigits : unsigned cs with
  | nil =>
      have hJudged := bounds.judge_of_admits hZero false
      rw [← hStart] at hJudged
      exact hJudged.symm
  | cons c rest =>
      have hRead :=
        readDigits_eq hZero (signOf cs) 0
          (by rwa [hStart]) (c :: rest)
      rw [hStart] at hRead
      exact hRead

/- What a text denotes is the value of its only digits. -/
theorem denotes_iff
    {n : Int} :
    Denotes cs n ↔
      isWhole cs = true ∧ n = leadingValue cs := by
  unfold isWhole leadingValue leadingDigits
  constructor
  · rintro ⟨sign, digits, rfl, hSome, hDigits, hValue⟩
    rcases signOf_append sign hDigits hSome with
      ⟨hSign, hUnsigned⟩
    have hRun : digits.takeWhile Char.isDigit = digits :=
      List.takeWhile_eq_self_iff.mpr hDigits
    rw [hSign, hUnsigned, hRun]
    refine ⟨?_, hValue⟩
    simpa [hSome] using hDigits
  · rintro ⟨hWhole, hValue⟩
    simp only [Bool.and_eq_true, Bool.not_eq_true',
      List.isEmpty_eq_false_iff, List.all_eq_true]
      at hWhole
    have hRun :
        (unsigned cs).takeWhile Char.isDigit =
          unsigned cs :=
      List.takeWhile_eq_self_iff.mpr hWhole.2
    rw [hRun] at hValue
    exact ⟨signOf cs, unsigned cs,
      (text_signOf_append cs).symm, hWhole.1, hWhole.2,
      hValue⟩

/- The decimal rendering of an integer denotes it. -/
theorem denotes_toString
    (n : Int) :
    Denotes (toString n).toList n := by
  have hDigits (m : Nat) :
      ∀ c ∈ Nat.toDigits 10 m, c.isDigit = true := by
    intro c hMem
    exact Nat.isDigit_of_mem_toDigits (by decide)
      (by decide) hMem
  rw [Int.toString_eq_repr, Int.repr_eq_if]
  by_cases hSign : 0 ≤ n
  · refine
      ⟨.absent, Nat.toDigits 10 n.toNat, ?_,
        Nat.toDigits_ne_nil, hDigits n.toNat, ?_⟩
    · rw [if_pos hSign, Nat.toList_repr]
      rfl
    · rw [Nat.ofDigitChars_toDigits (by decide) (by decide)]
      exact (Int.toNat_of_nonneg hSign).symm
  · refine
      ⟨.minus, Nat.toDigits 10 (-n).toNat, ?_,
        Nat.toDigits_ne_nil, hDigits (-n).toNat, ?_⟩
    · rw [if_neg hSign, String.toList_append,
        Nat.toList_repr]
      rfl
    · rw [Nat.ofDigitChars_toDigits (by decide) (by decide)]
      simp only [Sign.apply]
      omega

------------------------------------------------------------
-- Results
------------------------------------------------------------

/- A whole number in bounds is the one that is accepted. -/
theorem Bounds.judge_eq_ok_iff
    {complete : Bool}
    {n m : Int} :
    bounds.judge complete n = .ok m ↔
      complete = true ∧ m = n ∧ bounds.Admits n := by
  unfold judge Admits
  split_ifs with hSmall hLarge hComplete
  · simp only [false_iff]
    omega
  · simp only [false_iff]
    omega
  · simp only [Except.ok.injEq, hComplete, true_and]
    omega
  · simp [hComplete]

/- An integer is read if it is denoted and is in bounds. -/
theorem read_eq_ok_iff
    (hZero : bounds.Admits 0)
    {n : Int} :
    read bounds cs = .ok n ↔
      Denotes cs n ∧ bounds.Admits n := by
  rw [denotes_iff]
  by_cases hText : cs = []
  · subst hText
    simp [read, isWhole, unsigned]
  · rw [read_eq hZero hText, Bounds.judge_eq_ok_iff]
    constructor
    · rintro ⟨hWhole, rfl, hAdmits⟩
      exact ⟨⟨hWhole, rfl⟩, hAdmits⟩
    · rintro ⟨⟨hWhole, rfl⟩, hAdmits⟩
      exact ⟨hWhole, rfl, hAdmits⟩

/- A text that is not empty is judged by its fault. -/
theorem Bounds.judge_eq_error_iff
    (hZero : bounds.Admits 0)
    (hText : cs ≠ [])
    {fault : Fault} :
    bounds.judge (isWhole cs) (leadingValue cs) =
        .error fault ↔
      bounds.HasFault cs fault := by
  have hOrder := Int.le_trans hZero.1 hZero.2
  have hNothing :
      (∀ n, ¬ Denotes cs n) ↔ isWhole cs = false := by
    simp [denotes_iff]
  unfold judge
  split_ifs with hSmall hLarge hWhole
  · cases fault <;> simp [HasFault, Admits, hText] <;> omega
  · cases fault <;> simp [HasFault, Admits, hText] <;> omega
  · cases fault <;>
      simp [HasFault, hNothing, hText, hWhole] <;> omega
  · cases fault <;>
      simp [HasFault, Admits, hNothing, hText, hWhole] <;>
      omega

/- Every other text is refused with the fault that it has. -/
theorem read_eq_error_iff
    (hZero : bounds.Admits 0)
    {fault : Fault} :
    read bounds cs = .error fault ↔
      bounds.HasFault cs fault := by
  by_cases hText : cs = []
  · subst hText
    have hValue : leadingValue [] = 0 := rfl
    cases fault with
    | empty => simp [read, Bounds.HasFault]
    | invalidDigit => simp [read, Bounds.HasFault]
    | tooLarge =>
        simp [read, Bounds.HasFault, hValue, hZero.2]
    | tooSmall =>
        simp [read, Bounds.HasFault, hValue, hZero.1]
  · rw [read_eq hZero hText,
      Bounds.judge_eq_error_iff hZero hText]

end Decimal

end LayeredSettings

------------------------------------------------------------
-- Integers of 64 Bits
------------------------------------------------------------

namespace LayeredSettings

namespace Coercion

/- An accepted text is read as the integer that it denotes. -/
theorem integer_eq_ok_iff
    {text : String}
    {n : Int} :
    integer text = .ok n ↔
      Decimal.Denotes text.toList n ∧
        Decimal.Bounds.signed64.Admits n := by
  have hZero : Decimal.Bounds.signed64.Admits 0 := by
    decide
  rw [← Decimal.read_eq_ok_iff hZero]
  unfold integer
  cases Decimal.read .signed64 text.toList with
  | ok m => simp [Except.mapError]
  | error fault => simp [Except.mapError]

/- A refusal has the whole text and the fault of that. -/
theorem integer_eq_error_iff
    {text : String}
    {cause : CoercionError} :
    integer text = .error cause ↔
      ∃ fault,
        cause = .notInteger text fault ∧
          Decimal.Bounds.signed64.HasFault text.toList
            fault := by
  have hZero : Decimal.Bounds.signed64.Admits 0 := by
    decide
  simp only [← Decimal.read_eq_error_iff hZero]
  unfold integer
  cases Decimal.read .signed64 text.toList with
  | ok m => simp [Except.mapError]
  | error fault => simp [Except.mapError, eq_comm]

/-
  A text is coerced to an integer exactly if it denotes one
  of 64 bits, so each of these is coerced from its rendering.
  Any other text is refused, and the error has the text and
  its fault: that it is empty, that the run of digits after
  its sign is out of bounds on one side, or, in all remaining
  cases, an invalid digit.
-/
theorem integer_reads_decimal
    (text : String) :
    (∀ n,
      integer text = .ok n ↔
        Decimal.Denotes text.toList n ∧
          -2 ^ 63 ≤ n ∧ n ≤ 2 ^ 63 - 1) ∧
    (∀ n : Int,
      -2 ^ 63 ≤ n →
        n ≤ 2 ^ 63 - 1 →
          integer (toString n) = .ok n) ∧
    ∀ cause,
      integer text = .error cause ↔
        ∃ fault,
          cause = .notInteger text fault ∧
            Decimal.Bounds.HasFault ⟨-2 ^ 63, 2 ^ 63 - 1⟩
              text.toList fault := by
  refine ⟨fun n => integer_eq_ok_iff, ?_, ?_⟩
  · intro n hLeast hGreatest
    exact integer_eq_ok_iff.mpr
      ⟨Decimal.denotes_toString n, hLeast, hGreatest⟩
  · intro cause
    exact integer_eq_error_iff

theorem integer_leastRendered :
    (-2 ^ 63 : Int) ≤ -2 ^ 63 ∧
      (-2 ^ 63 : Int) ≤ 2 ^ 63 - 1 ∧
      integer (toString (-2 ^ 63 : Int)) = .ok (-2 ^ 63) :=
  ⟨by decide, by decide,
    (integer_reads_decimal "").2.1 (-2 ^ 63) (by decide)
      (by decide)⟩

/- The run of digits overflows before the letter is met. -/
example :
    integer "-9223372036854775809x" =
      .error
        (.notInteger "-9223372036854775809x" .tooSmall) := by
  decide

end Coercion

end LayeredSettings
