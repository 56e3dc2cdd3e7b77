import LayeredSettings.Text.Utf8

/-
  The text that was encoded is decoded again.

  Key theorems include:
    * `Utf8.exists_lead_of_three`
    * `Utf8.exists_lead_of_four`
    * `Utf8.segments_utf8EncodeChar_append`
    * `Utf8.segments_encode`
    * `Utf8.decode_encode`
    * `Utf8.encode_injective`

  The reader is followed through the bytes of one character.
  That it accepts the second byte is what the narrow ranges
  after some lead bytes are about: the code is not one that
  fewer bytes encode, and it is no surrogate.
-/

namespace LayeredSettings

namespace Utf8

------------------------------------------------------------
-- Bytes Inside a Character
------------------------------------------------------------

namespace Pending

/- The last byte of a character ends it. -/
theorem next_last
    {p : Pending}
    {bits : Nat}
    (hMissing : p.missing = 1)
    (hBits : bits < 64)
    (hLow : p.low ≤ bits + 128)
    (hHigh : bits + 128 ≤ p.high) :
    p.next (UInt8.ofNat (bits + 128)) =
      ([.char (Char.ofNat (p.code * 64 + bits))], none) := by
  have hByte :
      (UInt8.ofNat (bits + 128)).toNat = bits + 128 :=
    UInt8.toNat_ofNat_of_lt'
      (show bits + 128 < 256 by omega)
  unfold next
  simp only [hByte]
  rw [if_pos ⟨hLow, hHigh⟩, if_pos (by omega),
    Nat.add_sub_cancel]

/- Any other byte of a character is one more that is seen. -/
theorem next_inner
    {p : Pending}
    {bits : Nat}
    (hMissing : 1 < p.missing)
    (hBits : bits < 64)
    (hLow : p.low ≤ bits + 128)
    (hHigh : bits + 128 ≤ p.high) :
    p.next (UInt8.ofNat (bits + 128)) =
      ( [],
        some
          ⟨p.code * 64 + bits,
            p.seen ++ [UInt8.ofNat (bits + 128)],
            p.missing - 1, 0x80, 0xBF⟩ ) := by
  have hByte :
      (UInt8.ofNat (bits + 128)).toNat = bits + 128 :=
    UInt8.toNat_ofNat_of_lt'
      (show bits + 128 < 256 by omega)
  unfold next
  simp only [hByte]
  rw [if_pos ⟨hLow, hHigh⟩, if_neg (by omega),
    Nat.add_sub_cancel]

end Pending

------------------------------------------------------------
-- Lead Bytes
------------------------------------------------------------

/- A code below 0x80 is its own byte. -/
theorem lead_of_one
    {code : Nat}
    (hCode : code < 0x80) :
    lead (UInt8.ofNat code) =
      ([.char (Char.ofNat code)], none) := by
  have hByte : (UInt8.ofNat code).toNat = code :=
    UInt8.toNat_ofNat_of_lt'
      (show code < 256 by omega)
  unfold lead
  simp only [hByte]
  rw [if_pos hCode]

/- The lead byte of a code that has two bytes. -/
theorem lead_of_two
    {code : Nat}
    (hLow : 0x80 ≤ code)
    (hHigh : code < 0x800) :
    lead (UInt8.ofNat (code / 64 + 0xC0)) =
      ( [],
        some ⟨code / 64, [UInt8.ofNat (code / 64 + 0xC0)], 1,
          0x80, 0xBF⟩ ) := by
  have hByte :
      (UInt8.ofNat (code / 64 + 0xC0)).toNat =
        code / 64 + 0xC0 :=
    UInt8.toNat_ofNat_of_lt'
      (show code / 64 + 0xC0 < 256 by omega)
  unfold lead
  simp only [hByte]
  rw [if_neg (by omega), if_neg (by omega),
    if_pos (by omega), Nat.add_sub_cancel]

/-
  The lead byte of a code that has three bytes, which takes
  its second byte.
-/
theorem exists_lead_of_three
    {code : Nat}
    (hLow : 0x800 ≤ code)
    (hHigh : code < 0x10000)
    (hScalar : code < 0xD800 ∨ 0xDFFF < code) :
    ∃ low high,
      lead (UInt8.ofNat (code / 4096 + 0xE0)) =
          ( [],
            some ⟨code / 4096,
              [UInt8.ofNat (code / 4096 + 0xE0)], 2, low,
              high⟩ ) ∧
        low ≤ code / 64 % 64 + 128 ∧
        code / 64 % 64 + 128 ≤ high := by
  have hByte :
      (UInt8.ofNat (code / 4096 + 0xE0)).toNat =
        code / 4096 + 0xE0 :=
    UInt8.toNat_ofNat_of_lt'
      (show code / 4096 + 0xE0 < 256 by omega)
  unfold lead
  simp only [hByte, Nat.add_sub_cancel]
  rw [if_neg (by omega), if_neg (by omega),
    if_neg (by omega)]
  by_cases hFirst : code / 4096 + 0xE0 = 0xE0
  · rw [if_pos hFirst]
    exact ⟨0xA0, 0xBF, rfl, by omega, by omega⟩
  rw [if_neg hFirst]
  by_cases hSurrogate : code / 4096 + 0xE0 = 0xED
  · rw [if_pos hSurrogate]
    exact ⟨0x80, 0x9F, rfl, by omega, by omega⟩
  rw [if_neg hSurrogate, if_pos (by omega)]
  exact ⟨0x80, 0xBF, rfl, by omega, by omega⟩

/-
  The lead byte of a code that has four bytes, which takes
  its second byte.
-/
theorem exists_lead_of_four
    {code : Nat}
    (hLow : 0x10000 ≤ code)
    (hHigh : code < 0x110000) :
    ∃ low high,
      lead (UInt8.ofNat (code / 262144 + 0xF0)) =
          ( [],
            some ⟨code / 262144,
              [UInt8.ofNat (code / 262144 + 0xF0)], 3, low,
              high⟩ ) ∧
        low ≤ code / 4096 % 64 + 128 ∧
        code / 4096 % 64 + 128 ≤ high := by
  have hByte :
      (UInt8.ofNat (code / 262144 + 0xF0)).toNat =
        code / 262144 + 0xF0 :=
    UInt8.toNat_ofNat_of_lt'
      (show code / 262144 + 0xF0 < 256 by omega)
  unfold lead
  simp only [hByte, Nat.add_sub_cancel]
  rw [if_neg (by omega), if_neg (by omega),
    if_neg (by omega), if_neg (by omega), if_neg (by omega),
    if_neg (by omega)]
  by_cases hFirst : code / 262144 + 0xF0 = 0xF0
  · rw [if_pos hFirst]
    exact ⟨0x90, 0xBF, rfl, by omega, by omega⟩
  rw [if_neg hFirst]
  by_cases hInner : code / 262144 + 0xF0 < 0xF4
  · rw [if_pos hInner]
    exact ⟨0x80, 0xBF, rfl, by omega, by omega⟩
  rw [if_neg hInner, if_pos (by omega)]
  exact ⟨0x80, 0x8F, rfl, by omega, by omega⟩

------------------------------------------------------------
-- Characters
------------------------------------------------------------

/- A lead byte is read before those that follow it. -/
theorem segmentsFrom_of_lead
    {next : Option Pending}
    {byte : UInt8}
    {found : List Segment}
    (hLead : lead byte = (found, next))
    (rest : Bytes) :
    segmentsFrom none (byte :: rest) =
      found ++ segmentsFrom next rest := by
  have hStep : step none byte = (found, next) := hLead
  rw [segmentsFrom, hStep]

/- So is any other byte of a character. -/
theorem segmentsFrom_of_next
    {p : Pending}
    {next : Option Pending}
    {byte : UInt8}
    {found : List Segment}
    (hNext : p.next byte = (found, next))
    (rest : Bytes) :
    segmentsFrom (some p) (byte :: rest) =
      found ++ segmentsFrom next rest := by
  have hStep : step (some p) byte = (found, next) := hNext
  rw [segmentsFrom, hStep]

/- A code that has one byte is read as its character. -/
theorem segments_of_one
    {code : Nat}
    (hCode : code < 0x80)
    (rest : Bytes) :
    segments (UInt8.ofNat code :: rest) =
      .char (Char.ofNat code) :: segments rest :=
  segmentsFrom_of_lead (lead_of_one hCode) rest

/- A code that has two bytes is read as its character. -/
theorem segments_of_two
    {code : Nat}
    (hLow : 0x80 ≤ code)
    (hHigh : code < 0x800)
    (rest : Bytes) :
    segments
        (UInt8.ofNat (code / 64 + 0xC0) ::
          UInt8.ofNat (code % 64 + 0x80) :: rest) =
      .char (Char.ofNat code) :: segments rest := by
  unfold segments
  rw [segmentsFrom_of_lead (lead_of_two hLow hHigh),
    segmentsFrom_of_next (Pending.next_last rfl
      (Nat.mod_lt code (by decide)) (by simp)
      (by simp; omega))]
  rw [Nat.div_add_mod']
  rfl

/- A code that has three bytes is read as its character. -/
theorem segments_of_three
    {code : Nat}
    (hLow : 0x800 ≤ code)
    (hHigh : code < 0x10000)
    (hScalar : code < 0xD800 ∨ 0xDFFF < code)
    (rest : Bytes) :
    segments
        (UInt8.ofNat (code / 4096 + 0xE0) ::
          UInt8.ofNat (code / 64 % 64 + 0x80) ::
            UInt8.ofNat (code % 64 + 0x80) :: rest) =
      .char (Char.ofNat code) :: segments rest := by
  rcases exists_lead_of_three hLow hHigh hScalar with
    ⟨low, high, hLead, hAbove, hBelow⟩
  have hCode :
      (code / 4096 * 64 + code / 64 % 64) * 64 + code % 64 =
        code := by
    omega
  unfold segments
  rw [segmentsFrom_of_lead hLead,
    segmentsFrom_of_next (Pending.next_inner
      (by simp) (Nat.mod_lt _ (by decide)) hAbove hBelow),
    segmentsFrom_of_next (Pending.next_last rfl
      (Nat.mod_lt code (by decide)) (by simp)
      (by simp; omega)),
    hCode]
  rfl

/- A code that has four bytes is read as its character. -/
theorem segments_of_four
    {code : Nat}
    (hLow : 0x10000 ≤ code)
    (hHigh : code < 0x110000)
    (rest : Bytes) :
    segments
        (UInt8.ofNat (code / 262144 + 0xF0) ::
          UInt8.ofNat (code / 4096 % 64 + 0x80) ::
            UInt8.ofNat (code / 64 % 64 + 0x80) ::
              UInt8.ofNat (code % 64 + 0x80) :: rest) =
      .char (Char.ofNat code) :: segments rest := by
  rcases exists_lead_of_four hLow hHigh with
    ⟨low, high, hLead, hAbove, hBelow⟩
  have hCode :
      ((code / 262144 * 64 + code / 4096 % 64) * 64 +
          code / 64 % 64) * 64 + code % 64 =
        code := by
    omega
  unfold segments
  rw [segmentsFrom_of_lead hLead,
    segmentsFrom_of_next (Pending.next_inner
      (by simp) (Nat.mod_lt _ (by decide)) hAbove hBelow),
    segmentsFrom_of_next (Pending.next_inner
      (by simp) (Nat.mod_lt _ (by decide)) (by simp)
      (by simp; omega)),
    segmentsFrom_of_next (Pending.next_last rfl
      (Nat.mod_lt code (by decide)) (by simp)
      (by simp; omega)),
    hCode]
  rfl

/- The bytes of a character are read as this character. -/
theorem segments_utf8EncodeChar_append
    (c : Char)
    (rest : Bytes) :
    segments (String.utf8EncodeChar c ++ rest) =
      .char c :: segments rest := by
  have hValid : c.toNat.isValidChar := c.valid
  have hMax : c.toNat < 0x110000 := by
    unfold Nat.isValidChar at hValid
    omega
  have hBack :
      Segment.char c = .char (Char.ofNat c.toNat) := by
    rw [Char.ofNat_toNat]
  rw [hBack]
  unfold String.utf8EncodeChar
  rw [show c.val.toNat = c.toNat from rfl]
  dsimp only
  by_cases hOne : c.toNat ≤ 0x7F
  · rw [if_pos hOne]
    exact segments_of_one (by omega) rest
  by_cases hTwo : c.toNat ≤ 0x7FF
  · rw [if_neg hOne, if_pos hTwo,
      Nat.mod_eq_of_lt (by omega)]
    exact segments_of_two (by omega) (by omega) rest
  by_cases hThree : c.toNat ≤ 0xFFFF
  · rw [if_neg hOne, if_neg hTwo, if_pos hThree,
      Nat.mod_eq_of_lt (by omega)]
    apply segments_of_three (by omega) (by omega) _ rest
    unfold Nat.isValidChar at hValid
    omega
  · rw [if_neg hOne, if_neg hTwo, if_neg hThree,
      Nat.mod_eq_of_lt (by omega)]
    exact segments_of_four (by omega) hMax rest

------------------------------------------------------------
-- Texts
------------------------------------------------------------

/- The bytes of a text are read as its characters. -/
theorem segments_encode
    (s : String) :
    segments (encode s) = s.toList.map .char := by
  unfold encode
  induction s.toList with
  | nil => rfl
  | cons c rest ih =>
      rw [List.flatMap_cons, segments_utf8EncodeChar_append,
        ih]
      rfl

/- Characters have no fault. -/
theorem charsFrom_map_char
    (i : Nat)
    (chars : List Char) :
    charsFrom i (chars.map .char) = .ok chars := by
  induction chars generalizing i with
  | nil => rfl
  | cons c rest ih =>
      rw [List.map_cons]
      unfold charsFrom
      rw [ih]
      rfl

/- What was encoded is decoded. -/
theorem decode_encode
    (s : String) :
    decode (encode s) = .ok s := by
  unfold decode
  rw [segments_encode, charsFrom_map_char]
  exact congrArg Except.ok (String.ofList_toList)

/- Texts are told apart by their bytes. -/
theorem encode_injective :
    Function.Injective encode := by
  intro s t hSame
  have hDecoded := decode_encode s
  rw [hSame, decode_encode] at hDecoded
  exact (Except.ok.inj hDecoded).symm

end Utf8

end LayeredSettings
