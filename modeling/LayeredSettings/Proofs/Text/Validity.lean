import LayeredSettings.Proofs.Text.Decoding
import Mathlib.Algebra.Group.Nat.Defs
import Mathlib.Tactic.SplitIfs

/-
  Bytes are decoded only if they are the bytes of a text.

  Key definitions include:
    * `Utf8.Segment.bytes`
    * `Utf8.Pending.IsStart`
    * `Utf8.AccountsFor`

  Key theorems include:
    * `Utf8.accountsFor_lead`
    * `Utf8.Pending.IsStart.accountsFor_next`
    * `Utf8.accountsFor_step`
    * `Utf8.flatMap_bytes_segments`
    * `Utf8.decode_eq_ok_iff`
    * `Utf8.decode?_eq_some_iff`

  The segments of bytes put together are these bytes again,
  so nothing is lost or made up on the way.  What carries
  over from byte to byte is that the bytes of a pending
  character are the start of each character it can become.
-/

namespace LayeredSettings

namespace Utf8

------------------------------------------------------------
-- Bytes of a Character
------------------------------------------------------------

/- The bytes that a segment is made of. -/
def Segment.bytes : Segment → Bytes
| .char c => String.utf8EncodeChar c
| .malformed bytes => bytes
| .truncated bytes => bytes

/- The last bytes of a code, which have six bits of it each. -/
def trail
    (code : Nat) : Nat → Bytes
| 0 => []
| n + 1 =>
    UInt8.ofNat (code / 64 ^ n % 64 + 0x80) ::
      trail code n

theorem toNat_charOfNat
    {code : Nat}
    (hValid : code.isValidChar) :
    (Char.ofNat code).val.toNat = code := by
  unfold Char.ofNat
  rw [dif_pos hValid]
  rfl

theorem utf8EncodeChar_of_one
    {code : Nat}
    (hCode : code < 0x80) :
    String.utf8EncodeChar (Char.ofNat code) =
      [UInt8.ofNat code] := by
  unfold String.utf8EncodeChar
  rw [toNat_charOfNat (Or.inl (by omega))]
  dsimp only
  rw [if_pos (by omega)]

theorem utf8EncodeChar_of_two
    {code : Nat}
    (hLow : 0x80 ≤ code)
    (hHigh : code < 0x800) :
    String.utf8EncodeChar (Char.ofNat code) =
      UInt8.ofNat (code / 64 + 0xC0) :: trail code 1 := by
  unfold String.utf8EncodeChar
  rw [toNat_charOfNat (Or.inl (by omega))]
  dsimp only
  rw [if_neg (by omega), if_pos (by omega),
    Nat.mod_eq_of_lt (by omega)]
  simp [trail]

theorem utf8EncodeChar_of_three
    {code : Nat}
    (hLow : 0x800 ≤ code)
    (hHigh : code < 0x10000)
    (hScalar : code < 0xD800 ∨ 0xDFFF < code) :
    String.utf8EncodeChar (Char.ofNat code) =
      UInt8.ofNat (code / 4096 + 0xE0) :: trail code 2 := by
  unfold String.utf8EncodeChar
  rw [toNat_charOfNat
    (hScalar.imp_right fun hAbove => ⟨hAbove, by omega⟩)]
  dsimp only
  rw [if_neg (by omega), if_neg (by omega),
    if_pos (by omega),
    Nat.mod_eq_of_lt (by omega : code / 4096 < 16)]
  simp [trail]

theorem utf8EncodeChar_of_four
    {code : Nat}
    (hLow : 0x10000 ≤ code)
    (hHigh : code < 0x110000) :
    String.utf8EncodeChar (Char.ofNat code) =
      UInt8.ofNat (code / 262144 + 0xF0) ::
        trail code 3 := by
  unfold String.utf8EncodeChar
  rw [toNat_charOfNat (Or.inr ⟨by omega, hHigh⟩)]
  dsimp only
  rw [if_neg (by omega), if_neg (by omega),
    if_neg (by omega),
    Nat.mod_eq_of_lt (by omega : code / 262144 < 8)]
  simp [trail]

------------------------------------------------------------
-- Starts of Characters
------------------------------------------------------------

/-
  A pending character whose bytes are the start of those of
  every code that it can become.
-/
structure Pending.IsStart
    (p : Pending) : Prop where
  missing_pos : 0 < p.missing
  low_ge : 0x80 ≤ p.low
  high_le : p.high ≤ 0xBF
  completes :
    ∀ code,
      code / 64 ^ p.missing = p.code →
        p.low ≤ code / 64 ^ (p.missing - 1) % 64 + 0x80 →
          code / 64 ^ (p.missing - 1) % 64 + 0x80 ≤
              p.high →
            String.utf8EncodeChar (Char.ofNat code) =
              p.seen ++ trail code p.missing

/- The bytes that are read and in no segment yet. -/
def unfinished : Option Pending → Bytes
| none => []
| some p => p.seen

/-
  A step after which nothing is lost of the bytes that were
  read, and what is pending is the start of a character.
-/
structure AccountsFor
    (read : Bytes)
    (result : List Segment × Option Pending) : Prop where
  bytes_eq :
    result.1.flatMap Segment.bytes ++ unfinished result.2 =
      read
  is_start : ∀ p ∈ result.2, p.IsStart

/- A byte that is a segment of its own. -/
theorem accountsFor_segment
    {segment : Segment}
    {byte : UInt8}
    (hBytes : segment.bytes = [byte]) :
    AccountsFor [byte] ([segment], none) := by
  constructor
  · rw [List.flatMap_singleton, hBytes]
    rfl
  · intro p hMem
    cases hMem

/-
  A lead byte that starts a character: the base that is
  taken from it is part of the first byte of every code.
-/
theorem accountsFor_start
    {byte : UInt8}
    {base missing low high : Nat}
    (hMissing : 0 < missing)
    (hLow : 0x80 ≤ low)
    (hHigh : high ≤ 0xBF)
    (hBase : base ≤ byte.toNat)
    (hEncode :
      ∀ code,
        code / 64 ^ missing + base = byte.toNat →
          low ≤ code / 64 ^ (missing - 1) % 64 + 0x80 →
            code / 64 ^ (missing - 1) % 64 + 0x80 ≤ high →
              String.utf8EncodeChar (Char.ofNat code) =
                UInt8.ofNat (code / 64 ^ missing + base) ::
                  trail code missing) :
    AccountsFor [byte]
      ( [],
        some
          ⟨byte.toNat - base, [byte], missing, low, high⟩ ) := by
  constructor
  · rfl
  · intro p hMem
    rw [← Option.some.inj hMem]
    refine ⟨hMissing, hLow, hHigh, ?_⟩
    intro code hCode hAbove hBelow
    have hByte :
        code / 64 ^ missing + base = byte.toNat := by
      dsimp only at hCode
      omega
    rw [hEncode code hByte hAbove hBelow, hByte,
      UInt8.ofNat_toNat]
    rfl

/-
  A lead byte is a segment or starts a character.  The range
  of the second byte keeps the codes within those that have
  as many bytes.
-/
theorem accountsFor_lead
    (byte : UInt8) :
    AccountsFor [byte] (lead byte) := by
  unfold lead
  dsimp only
  split_ifs with hOne hTail hTwo hLeast hSurrogate hThree
    hLeastFour hFour hGreatest
  · apply accountsFor_segment
    rw [Segment.bytes, utf8EncodeChar_of_one hOne,
      UInt8.ofNat_toNat]
  · exact accountsFor_segment rfl
  · apply accountsFor_start (by decide) (by decide)
      (by decide) (by omega)
    intro code hByte _ _
    exact utf8EncodeChar_of_two (by omega) (by omega)
  · apply accountsFor_start (by decide) (by decide)
      (by decide) (by omega)
    intro code hByte hAbove _
    exact utf8EncodeChar_of_three (by omega) (by omega)
      (by omega)
  · apply accountsFor_start (by decide) (by decide)
      (by decide) (by omega)
    intro code hByte _ hBelow
    exact utf8EncodeChar_of_three (by omega) (by omega)
      (by omega)
  · apply accountsFor_start (by decide) (by decide)
      (by decide) (by omega)
    intro code hByte _ _
    exact utf8EncodeChar_of_three (by omega) (by omega)
      (by omega)
  · apply accountsFor_start (by decide) (by decide)
      (by decide) (by omega)
    intro code hByte hAbove _
    exact utf8EncodeChar_of_four (by omega) (by omega)
  · apply accountsFor_start (by decide) (by decide)
      (by decide) (by omega)
    intro code hByte _ _
    exact utf8EncodeChar_of_four (by omega) (by omega)
  · apply accountsFor_start (by decide) (by decide)
      (by decide) (by omega)
    intro code hByte _ hBelow
    exact utf8EncodeChar_of_four (by omega) (by omega)
  · exact accountsFor_segment rfl

namespace Pending.IsStart

variable {p : Pending}
variable {byte : UInt8}

/- A byte in range is the next byte of the codes it fits. -/
theorem encode_of_next
    (hStart : p.IsStart)
    (hLow : p.low ≤ byte.toNat)
    (hHigh : byte.toNat ≤ p.high)
    (code : Nat)
    (hCode :
      code / 64 ^ (p.missing - 1) =
        p.code * 64 + (byte.toNat - 0x80)) :
    String.utf8EncodeChar (Char.ofNat code) =
      p.seen ++ byte :: trail code (p.missing - 1) := by
  have hSucc : p.missing = p.missing - 1 + 1 :=
    (Nat.sub_add_cancel hStart.missing_pos).symm
  have hAbove := hStart.low_ge
  have hBelow := hStart.high_le
  have hBits :
      code / 64 ^ (p.missing - 1) % 64 + 0x80 =
        byte.toNat := by
    omega
  have hFront : code / 64 ^ p.missing = p.code := by
    rw [hSucc, Nat.pow_succ, ← Nat.div_div_eq_div_mul,
      hCode]
    omega
  rw [hStart.completes code hFront (by omega) (by omega)]
  congr 1
  rw [hSucc, trail, hBits, UInt8.ofNat_toNat,
    Nat.add_sub_cancel]

/- A byte inside a character ends it, or is seen, or leads. -/
theorem accountsFor_next
    (hStart : p.IsStart)
    (byte : UInt8) :
    AccountsFor (p.seen ++ [byte]) (p.next byte) := by
  unfold next
  dsimp only
  have hPos := hStart.missing_pos
  split_ifs with hRange hLast
  · have hMissing : p.missing - 1 = 0 := by omega
    have hEncode :=
      hStart.encode_of_next hRange.1 hRange.2
        (p.code * 64 + (byte.toNat - 0x80))
        (by rw [hMissing]; simp)
    rw [hMissing] at hEncode
    constructor
    · simpa [unfinished, Segment.bytes, trail]
        using hEncode
    · intro q hMem
      cases hMem
  · constructor
    · rfl
    · intro q hMem
      rw [← Option.some.inj hMem]
      refine ⟨?_, Nat.le_refl _, Nat.le_refl _, ?_⟩
      · dsimp only
        omega
      · intro code hCode _ _
        rw [hStart.encode_of_next hRange.1 hRange.2 code hCode,
          List.append_assoc]
        rfl
  · have hLead := accountsFor_lead byte
    constructor
    · have hBytes := hLead.bytes_eq
      rw [List.flatMap_cons, List.append_assoc, hBytes]
      rfl
    · exact hLead.is_start

end Pending.IsStart

------------------------------------------------------------
-- Decoding
------------------------------------------------------------

/- A byte is accounted for in every state. -/
theorem accountsFor_step
    (state : Option Pending)
    (hState : ∀ p ∈ state, p.IsStart)
    (byte : UInt8) :
    AccountsFor (unfinished state ++ [byte])
      (step state byte) := by
  cases state with
  | none => exact accountsFor_lead byte
  | some p => exact (hState p rfl).accountsFor_next byte

/- Nothing is lost on the way through bytes. -/
theorem flatMap_bytes_segmentsFrom
    (state : Option Pending)
    (hState : ∀ p ∈ state, p.IsStart)
    (bytes : Bytes) :
    (segmentsFrom state bytes).flatMap Segment.bytes =
      unfinished state ++ bytes := by
  induction bytes generalizing state with
  | nil =>
      cases state with
      | none => rfl
      | some p => simp [segmentsFrom, Segment.bytes, unfinished]
  | cons byte rest ih =>
      have hStep := accountsFor_step state hState byte
      rw [segmentsFrom, List.flatMap_append,
        ih _ hStep.is_start, ← List.append_assoc,
        hStep.bytes_eq, List.append_assoc]
      rfl

/- The segments of bytes put together are the bytes. -/
theorem flatMap_bytes_segments
    (bytes : Bytes) :
    (segments bytes).flatMap Segment.bytes = bytes :=
  flatMap_bytes_segmentsFrom none
    (fun _ hMem => nomatch hMem) bytes

/- Segments without a fault are characters. -/
theorem eq_map_char_of_charsFrom
    {i : Nat}
    {segments : List Segment}
    {chars : List Char}
    (hChars : charsFrom i segments = .ok chars) :
    segments = chars.map .char := by
  induction segments generalizing i chars with
  | nil =>
      rw [← Except.ok.inj hChars]
      rfl
  | cons segment rest ih =>
      cases segment with
      | malformed bytes => cases hChars
      | truncated bytes => cases hChars
      | char c =>
          unfold charsFrom at hChars
          cases hRest : charsFrom (i + c.utf8Size) rest with
          | error fault =>
              rw [hRest] at hChars
              cases hChars
          | ok others =>
              rw [hRest] at hChars
              rw [← Except.ok.inj hChars, ih hRest]
              rfl

/- Bytes are decoded to the text that they encode. -/
theorem decode_eq_ok_iff
    {bytes : Bytes}
    {text : String} :
    decode bytes = .ok text ↔ bytes = encode text := by
  constructor
  · intro hDecode
    unfold decode at hDecode
    cases hChars : charsFrom 0 (segments bytes) with
    | error fault =>
        rw [hChars] at hDecode
        cases hDecode
    | ok chars =>
        rw [hChars] at hDecode
        have hText : String.ofList chars = text :=
          Except.ok.inj hDecode
        have hBytes := flatMap_bytes_segments bytes
        rw [eq_map_char_of_charsFrom hChars,
          List.flatMap_map] at hBytes
        rw [← hBytes, ← hText, encode, String.toList_ofList]
        rfl
  · intro hBytes
    rw [hBytes]
    exact decode_encode text

theorem decode?_eq_some_iff
    {bytes : Bytes}
    {text : String} :
    decode? bytes = some text ↔ bytes = encode text := by
  rw [← decode_eq_ok_iff]
  unfold decode?
  cases decode bytes with
  | error fault => simp [Except.toOption]
  | ok other => simp [Except.toOption]

/- Only bytes that encode no text are shown with faults. -/
theorem decode?_eq_none_iff
    {bytes : Bytes} :
    decode? bytes = none ↔
      ∀ text, bytes ≠ encode text := by
  unfold decode?
  constructor
  · intro hNone text hBytes
    rw [hBytes, decode_encode] at hNone
    cases hNone
  · intro hNot
    cases hDecode : decode bytes with
    | error fault => rfl
    | ok text =>
        exact absurd (decode_eq_ok_iff.mp hDecode)
          (hNot text)

end Utf8

end LayeredSettings
