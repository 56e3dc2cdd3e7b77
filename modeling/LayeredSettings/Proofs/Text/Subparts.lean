import LayeredSettings.Origin
import LayeredSettings.Proofs.Text.Validity
import LayeredSettings.Setting.Catalog
import Mathlib

/-
  What is shown of bytes, be they text or not.

  Key definitions include:
    * `Utf8.IsBeginning`
    * `Utf8.IsMaximalSubpart`
    * `Utf8.ShownAs`
    * `Utf8.Pending.IsReached`
    * `RawValue.StandsFor`

  Key theorems include:
    * `Utf8.not_isBeginning_of_malformed`
    * `Utf8.shownAs_shownFrom`
    * `Utf8.ShownAs.unique`
    * `Utf8.lossy_eq_iff`
    * `Utf8.lossy_append_encode_append`
    * `RawValue.ofBytes_standsFor`

  Maximal subparts are described by the bytes of texts alone,
  without the ranges of the reader.  That a subpart is the
  start of a text holds by completing it.  That no longer one
  is needs no ranges either: a reader that has reported a
  fault cannot be in the middle of a text, because a text is
  read as its characters.
-/

------------------------------------------------------------
-- Maximal Subparts
------------------------------------------------------------

namespace LayeredSettings

namespace Utf8

/- The start of the bytes of some text. -/
def IsBeginning
    (bytes : Bytes) : Prop :=
  ∃ text, bytes <+: encode text

/-
  A maximal subpart at the front of bytes: the longest part
  that is the start of a text or, if no text starts with the
  first byte, that byte.
-/
inductive IsMaximalSubpart
    (bytes : Bytes) : Bytes → Prop where
| beginning
    (part : Bytes)
    (nonempty : part ≠ [])
    (at_front : part <+: bytes)
    (begins : IsBeginning part)
    (longest :
      ∀ longer,
        longer <+: bytes →
          IsBeginning longer →
            longer.length ≤ part.length) :
    IsMaximalSubpart bytes part
| single
    (byte : UInt8)
    (at_front : [byte] <+: bytes)
    (begins_nothing : ¬ IsBeginning [byte]) :
    IsMaximalSubpart bytes [byte]

/-
  The characters that show bytes.  A whole character shows
  itself.  Where none starts, a replacement character shows
  one maximal subpart.
-/
inductive ShownAs : Bytes → List Char → Prop where
| nil : ShownAs [] []
| character
    (c : Char)
    {rest : Bytes}
    {chars : List Char}
    (after : ShownAs rest chars) :
    ShownAs (String.utf8EncodeChar c ++ rest) (c :: chars)
| subpart
    (part : Bytes)
    {rest : Bytes}
    {chars : List Char}
    (no_character :
      ∀ c, ¬ String.utf8EncodeChar c <+: part ++ rest)
    (maximal : IsMaximalSubpart (part ++ rest) part)
    (after : ShownAs rest chars) :
    ShownAs (part ++ rest) (replacement :: chars)

/- Bytes have one maximal subpart at their front. -/
theorem IsMaximalSubpart.unique
    {bytes part other : Bytes}
    (hPart : IsMaximalSubpart bytes part)
    (hOther : IsMaximalSubpart bytes other) :
    part = other := by
  -- no beginning starts with a byte that begins nothing
  have hNot {part : Bytes} {byte : UInt8}
      (hNonempty : part ≠ [])
      (hFront : part <+: bytes)
      (hBegins : IsBeginning part)
      (hByte : [byte] <+: bytes) :
      IsBeginning [byte] := by
    have hShort : [byte] <+: part :=
      List.prefix_of_prefix_length_le hByte hFront
        (List.length_pos_iff.mpr hNonempty)
    rcases hBegins with ⟨text, hText⟩
    exact ⟨text, hShort.trans hText⟩
  cases hPart with
  | beginning _ nonempty at_front begins longest =>
      cases hOther with
      | beginning _ _ other_front other_begins
          other_longest =>
          have hBelow := longest other other_front other_begins
          have hAbove := other_longest part at_front begins
          exact
            (List.prefix_of_prefix_length_le at_front
              other_front hAbove).eq_of_length
                (Nat.le_antisymm hAbove hBelow)
      | single byte other_front begins_nothing =>
          exact absurd
            (hNot nonempty at_front begins other_front)
            begins_nothing
  | single byte at_front begins_nothing =>
      cases hOther with
      | beginning _ nonempty other_front begins _ =>
          exact absurd
            (hNot nonempty other_front begins at_front)
            begins_nothing
      | single other other_front _ =>
          exact
            (List.prefix_of_prefix_length_le at_front
              other_front (Nat.le_refl _)).eq_of_length rfl

------------------------------------------------------------
-- The Reader at a Fault
------------------------------------------------------------

/- The reader takes what starts with a character as such. -/
theorem not_prefix_of_segments_eq
    {bytes : Bytes}
    {fault : Segment}
    {after : List Segment}
    (hSegments : segments bytes = fault :: after)
    (hFault : ∀ c, fault ≠ .char c)
    (c : Char) :
    ¬ String.utf8EncodeChar c <+: bytes := by
  rintro ⟨rest, rfl⟩
  rw [segments_utf8EncodeChar_append] at hSegments
  exact hFault c (List.cons.inj hSegments).1.symm

/-
  Bytes that are read as a fault, whatever comes after them,
  are not the start of a text.
-/
theorem not_isBeginning_of_malformed
    {bytes part : Bytes}
    (hFault :
      ∀ more, ∃ after,
        segments (bytes ++ more) = .malformed part :: after) :
    ¬ IsBeginning bytes := by
  rintro ⟨text, more, hText⟩
  rcases hFault more with ⟨after, hAfter⟩
  rw [hText, segments_encode] at hAfter
  cases hChars : text.toList with
  | nil => simp [hChars] at hAfter
  | cons c chars => simp [hChars] at hAfter

/- What a byte between characters may come to. -/
inductive LeadsTo
    (byte : UInt8) :
    List Segment × Option Pending → Prop where
| character
    (c : Char) :
    LeadsTo byte ([.char c], none)
| fault : LeadsTo byte ([.malformed [byte]], none)
| start
    (p : Pending)
    (seen : p.seen = [byte])
    (low_le_high : p.low ≤ p.high) :
    LeadsTo byte ([], some p)

/- What a byte inside a character may come to. -/
inductive Pending.PassesTo
    (p : Pending)
    (byte : UInt8) :
    List Segment × Option Pending → Prop where
| character
    (c : Char) :
    PassesTo p byte ([.char c], none)
| further
    (q : Pending)
    (seen : q.seen = p.seen ++ [byte])
    (low_le_high : q.low ≤ q.high) :
    PassesTo p byte ([], some q)
| fault :
    PassesTo p byte
      (.malformed p.seen :: (lead byte).1, (lead byte).2)

theorem leadsTo_lead
    (byte : UInt8) :
    LeadsTo byte (lead byte) := by
  have hStart
      (code missing low high : Nat)
      (hOpen : low ≤ high) :
      LeadsTo byte
        ([], some ⟨code, [byte], missing, low, high⟩) :=
    .start _ rfl hOpen
  unfold lead
  dsimp only
  split_ifs
  · exact .character _
  · exact .fault
  · exact hStart _ 1 0x80 0xBF (by decide)
  · exact hStart _ 2 0xA0 0xBF (by decide)
  · exact hStart _ 2 0x80 0x9F (by decide)
  · exact hStart _ 2 0x80 0xBF (by decide)
  · exact hStart _ 3 0x90 0xBF (by decide)
  · exact hStart _ 3 0x80 0xBF (by decide)
  · exact hStart _ 3 0x80 0x8F (by decide)
  · exact .fault

theorem Pending.passesTo_next
    (p : Pending)
    (byte : UInt8) :
    p.PassesTo byte (p.next byte) := by
  unfold next
  dsimp only
  split_ifs
  · exact .character _
  · exact .further _ rfl (show 0x80 ≤ 0xBF by decide)
  · exact .fault

/-
  A pending character that the reader has come to from its
  start, without a report on the way.
-/
structure Pending.IsReached
    (p : Pending) : Prop where
  is_start : p.IsStart
  low_le_high : p.low ≤ p.high
  segments_eq :
    ∀ more,
      segments (p.seen ++ more) = segmentsFrom (some p) more

namespace Pending.IsReached

variable {p q : Pending}
variable {byte : UInt8}

theorem of_lead
    (hLead : lead byte = ([], some p))
    (hSeen : p.seen = [byte])
    (hOpen : p.low ≤ p.high) :
    p.IsReached := by
  refine ⟨?_, hOpen, ?_⟩
  · have hStart := (accountsFor_lead byte).is_start
    rw [hLead] at hStart
    exact hStart p rfl
  · intro more
    rw [hSeen]
    exact segmentsFrom_of_lead hLead more

theorem of_next
    (hReached : p.IsReached)
    (hNext : p.next byte = ([], some q))
    (hSeen : q.seen = p.seen ++ [byte])
    (hOpen : q.low ≤ q.high) :
    q.IsReached := by
  refine ⟨?_, hOpen, ?_⟩
  · have hStart :=
      (hReached.is_start.accountsFor_next byte).is_start
    rw [hNext] at hStart
    exact hStart q rfl
  · intro more
    rw [hSeen, List.append_assoc, List.singleton_append,
      hReached.segments_eq]
    exact segmentsFrom_of_next hNext more

/- A byte was read on the way to a pending character. -/
theorem seen_ne_nil
    (hReached : p.IsReached) :
    p.seen ≠ [] := by
  intro hNil
  have hSegments := hReached.segments_eq []
  rw [hNil] at hSegments
  cases hSegments

/-
  What was seen of a character can be completed: the next
  byte is the least that is in range, and all bits after it
  are zero.
-/
theorem isBeginning
    (hReached : p.IsReached) :
    IsBeginning p.seen := by
  have hStart := hReached.is_start
  have hOpen := hReached.low_le_high
  have hAbove := hStart.low_ge
  have hBelow := hStart.high_le
  have hSucc : p.missing = p.missing - 1 + 1 :=
    (Nat.sub_add_cancel hStart.missing_pos).symm
  have hLast :
      (p.code * 64 + (p.low - 0x80)) *
            64 ^ (p.missing - 1) / 64 ^ (p.missing - 1) =
        p.code * 64 + (p.low - 0x80) :=
    Nat.mul_div_cancel _ (Nat.pow_pos (by decide))
  have hFront :
      (p.code * 64 + (p.low - 0x80)) *
            64 ^ (p.missing - 1) / 64 ^ p.missing =
        p.code := by
    rw [hSucc, Nat.pow_succ, Nat.add_sub_cancel,
      ← Nat.div_div_eq_div_mul, hLast]
    omega
  have hBytes :=
    hStart.completes _ hFront
      (by rw [hLast]; omega) (by rw [hLast]; omega)
  have hText (c : Char) :
      encode (String.ofList [c]) = String.utf8EncodeChar c := by
    rw [encode, String.toList_ofList, List.flatMap_singleton]
  rw [← hText] at hBytes
  exact ⟨_, _, hBytes.symm⟩

/- The bytes seen before a fault are a maximal subpart. -/
theorem isMaximalSubpart
    (hReached : p.IsReached)
    (rest : Bytes)
    (hFault :
      ∀ byte ∈ rest.head?,
        p.next byte =
          (.malformed p.seen :: (lead byte).1,
            (lead byte).2)) :
    IsMaximalSubpart (p.seen ++ rest) p.seen := by
  apply IsMaximalSubpart.beginning
  · exact hReached.seen_ne_nil
  · exact List.prefix_append _ _
  · exact hReached.isBeginning
  intro longer hFront hBegins
  by_contra hLonger
  have hSeen : p.seen <+: longer :=
    List.prefix_of_prefix_length_le
      (List.prefix_append _ _) hFront (by omega)
  rcases hSeen with ⟨further, rfl⟩
  cases further with
  | nil => simp at hLonger
  | cons byte further =>
      have hRest :=
        (List.prefix_append_right_inj p.seen).mp hFront
      rcases hRest with ⟨others, rfl⟩
      have hNext := hFault byte rfl
      have hNot :
          ¬ IsBeginning (p.seen ++ byte :: further) := by
        apply not_isBeginning_of_malformed
        intro more
        rw [List.append_assoc, hReached.segments_eq,
          List.cons_append, segmentsFrom_of_next hNext]
        exact ⟨_, rfl⟩
      exact hNot hBegins

end Pending.IsReached

------------------------------------------------------------
-- Shown Bytes
------------------------------------------------------------

/- The characters that the reader shows for bytes. -/
def shownFrom
    (state : Option Pending)
    (bytes : Bytes) : List Char :=
  (segmentsFrom state bytes).map Segment.shown

/- A byte between characters, with what follows it. -/
theorem shownAs_lead
    {byte : UInt8}
    {rest : Bytes}
    (hRest : ShownAs rest (shownFrom none rest))
    (hPending :
      ∀ p : Pending,
        p.IsReached →
          ShownAs (p.seen ++ rest) (shownFrom (some p) rest)) :
    ShownAs (byte :: rest) (shownFrom none (byte :: rest)) := by
  have hBytes := (accountsFor_lead byte).bytes_eq
  have hResult := leadsTo_lead byte
  generalize hLead : lead byte = result at hBytes hResult
  have hSegments (more : Bytes) :=
    segmentsFrom_of_lead hLead more
  cases hResult with
  | character c =>
      have hChar : String.utf8EncodeChar c = [byte] := by
        simpa [Segment.bytes, unfinished] using hBytes
      have hShown := ShownAs.character c hRest
      rw [hChar] at hShown
      rw [shownFrom, hSegments]
      exact hShown
  | fault =>
      have hSingle :
          IsMaximalSubpart ([byte] ++ rest) [byte] := by
        apply IsMaximalSubpart.single
        · exact List.prefix_append _ _
        · apply not_isBeginning_of_malformed
          intro more
          exact ⟨_, hSegments more⟩
      rw [shownFrom, hSegments]
      exact ShownAs.subpart [byte]
        (not_prefix_of_segments_eq (hSegments rest)
          fun _ => Segment.noConfusion)
        hSingle hRest
  | start p seen low_le_high =>
      have hShown :=
        hPending p (.of_lead hLead seen low_le_high)
      rw [seen] at hShown
      rw [shownFrom, hSegments]
      exact hShown

/-
  The reader shows bytes by their characters and maximal
  subparts, from the start and from any pending character.
-/
theorem shownAs_shownFrom
    (bytes : Bytes) :
    ShownAs bytes (shownFrom none bytes) ∧
      ∀ p : Pending,
        p.IsReached →
          ShownAs (p.seen ++ bytes)
            (shownFrom (some p) bytes) := by
  -- a byte out of range is read twice, so both states stand
  -- in one induction
  induction bytes with
  | nil =>
      refine ⟨.nil, ?_⟩
      intro p hReached
      have hSegments := hReached.segments_eq []
      exact ShownAs.subpart p.seen
        (not_prefix_of_segments_eq hSegments
          fun _ => Segment.noConfusion)
        (hReached.isMaximalSubpart [] (by simp)) .nil
  | cons byte rest ih =>
      have hLead :
          ShownAs (byte :: rest)
            (shownFrom none (byte :: rest)) :=
        shownAs_lead ih.1 ih.2
      refine ⟨hLead, ?_⟩
      intro p hReached
      have hSegments := hReached.segments_eq (byte :: rest)
      have hBytes :=
        (hReached.is_start.accountsFor_next byte).bytes_eq
      have hResult := p.passesTo_next byte
      generalize hNext : p.next byte = result
        at hBytes hResult
      rw [segmentsFrom_of_next hNext] at hSegments
      rw [shownFrom, segmentsFrom_of_next hNext]
      cases hResult with
      | character c =>
          have hChar :
              String.utf8EncodeChar c = p.seen ++ [byte] := by
            simpa [Segment.bytes, unfinished] using hBytes
          have hShown := ShownAs.character c ih.1
          rw [hChar, List.append_assoc] at hShown
          exact hShown
      | further q seen low_le_high =>
          have hShown :=
            ih.2 q (hReached.of_next hNext seen low_le_high)
          rw [seen, List.append_assoc] at hShown
          exact hShown
      | fault =>
          refine ShownAs.subpart p.seen
            (not_prefix_of_segments_eq hSegments
              fun _ => Segment.noConfusion)
            (hReached.isMaximalSubpart _ ?_) hLead
          intro other hOther
          rw [← Option.some.inj hOther]
          exact hNext

theorem IsMaximalSubpart.ne_nil
    {bytes part : Bytes}
    (hPart : IsMaximalSubpart bytes part) :
    part ≠ [] := by
  cases hPart with
  | beginning _ nonempty => exact nonempty
  | single byte => exact List.cons_ne_nil byte []

theorem utf8EncodeChar_ne_nil
    (c : Char) :
    String.utf8EncodeChar c ≠ [] := by
  intro hNil
  have hSegments := segments_utf8EncodeChar_append c []
  rw [hNil] at hSegments
  cases hSegments

namespace ShownAs

variable {bytes rest : Bytes}
variable {chars others : List Char}

theorem eq_nil
    (hShown : ShownAs [] chars) :
    chars = [] := by
  generalize hBytes : [] = bytes at hShown
  cases hShown with
  | nil => rfl
  | character c _ =>
      exact absurd (List.append_eq_nil_iff.mp hBytes.symm).1
        (utf8EncodeChar_ne_nil c)
  | subpart part _ maximal _ =>
      exact absurd (List.append_eq_nil_iff.mp hBytes.symm).1
        maximal.ne_nil

/- Bytes that start with a character show it first. -/
theorem exists_of_character
    {c : Char}
    (hShown :
      ShownAs (String.utf8EncodeChar c ++ rest) chars) :
    ∃ after, chars = c :: after ∧ ShownAs rest after := by
  have hRead := segments_utf8EncodeChar_append c rest
  generalize hBytes :
    String.utf8EncodeChar c ++ rest = bytes at hShown hRead
  cases hShown with
  | nil => cases hRead
  | character d after =>
      rw [segments_utf8EncodeChar_append] at hRead
      have hSame : d = c :=
        Segment.char.inj (List.cons.inj hRead).1
      subst hSame
      have hRest := List.append_cancel_left hBytes
      exact ⟨_, rfl, hRest ▸ after⟩
  | subpart part no_character _ _ =>
      exact absurd ⟨rest, hBytes⟩ (no_character c)

/- Bytes that start with a subpart show a replacement. -/
theorem exists_of_subpart
    {part : Bytes}
    (hNone :
      ∀ c, ¬ String.utf8EncodeChar c <+: part ++ rest)
    (hPart : IsMaximalSubpart (part ++ rest) part)
    (hShown : ShownAs (part ++ rest) chars) :
    ∃ after,
      chars = replacement :: after ∧ ShownAs rest after := by
  generalize hBytes : part ++ rest = bytes
    at hNone hPart hShown
  cases hShown with
  | nil =>
      exact absurd (List.append_eq_nil_iff.mp hBytes).1
        hPart.ne_nil
  | character c _ =>
      exact absurd (List.prefix_append _ _) (hNone c)
  | subpart other _ maximal after =>
      have hSame := hPart.unique maximal
      subst hSame
      have hRest := List.append_cancel_left hBytes
      exact ⟨_, rfl, hRest ▸ after⟩

/- Bytes are shown in one way only. -/
theorem unique
    (hShown : ShownAs bytes chars)
    (hOther : ShownAs bytes others) :
    others = chars := by
  induction hShown generalizing others with
  | nil => exact hOther.eq_nil
  | character c _ ih =>
      rcases hOther.exists_of_character with
        ⟨after, rfl, hAfter⟩
      rw [ih hAfter]
  | subpart part no_character maximal _ ih =>
      rcases hOther.exists_of_subpart no_character maximal
        with ⟨after, rfl, hAfter⟩
      rw [ih hAfter]

end ShownAs

/- The shown characters are those of the description. -/
theorem lossy_eq_iff
    {bytes : Bytes}
    {chars : List Char} :
    lossy bytes = String.ofList chars ↔
      ShownAs bytes chars := by
  have hReader := (shownAs_shownFrom bytes).1
  constructor
  · intro hLossy
    have hChars : shownFrom none bytes = chars :=
      String.ofList_injective hLossy
    rwa [hChars] at hReader
  · intro hShown
    exact congrArg String.ofList (hShown.unique hReader)

------------------------------------------------------------
-- Text Inside Bytes
------------------------------------------------------------

/- A character starts with no byte that goes on another. -/
theorem exists_utf8EncodeChar_eq_cons
    (c : Char) :
    ∃ byte rest,
      String.utf8EncodeChar c = byte :: rest ∧
        (byte.toNat < 0x80 ∨ 0xBF < byte.toNat) := by
  have hSegments := segments_utf8EncodeChar_append c []
  cases hBytes : String.utf8EncodeChar c with
  | nil => exact absurd hBytes (utf8EncodeChar_ne_nil c)
  | cons byte rest =>
      refine ⟨byte, rest, rfl, ?_⟩
      by_contra hInner
      have hLead : lead byte = ([.malformed [byte]], none) := by
        unfold lead
        dsimp only
        rw [if_neg (by omega), if_pos (by omega)]
      rw [hBytes, List.append_nil, segments,
        segmentsFrom_of_lead hLead] at hSegments
      cases hSegments

/-
  A byte that starts a character is read between characters.
  If it cuts one off, what is shown is the same as if that
  one had been cut off by the end.
-/
theorem shownFrom_append
    {byte : UInt8}
    (hFirst : byte.toNat < 0x80 ∨ 0xBF < byte.toNat)
    (state : Option Pending)
    (hState : ∀ p ∈ state, p.IsStart)
    (before after : Bytes) :
    shownFrom state (before ++ byte :: after) =
      shownFrom state before ++
        shownFrom none (byte :: after) := by
  induction before generalizing state with
  | nil =>
      cases state with
      | none => rfl
      | some p =>
          have hStart := hState p rfl
          have hLow := hStart.low_ge
          have hHigh := hStart.high_le
          have hNext :
              p.next byte =
                (.malformed p.seen :: (lead byte).1,
                  (lead byte).2) := by
            unfold Pending.next
            dsimp only
            rw [if_neg (by omega)]
          rw [List.nil_append, shownFrom,
            segmentsFrom_of_next hNext]
          rfl
  | cons first rest ih =>
      have hStep := accountsFor_step state hState first
      have hRest := ih _ hStep.is_start
      unfold shownFrom at hRest ⊢
      rw [List.cons_append, segmentsFrom, segmentsFrom,
        List.map_append, List.map_append, hRest,
        List.append_assoc]

/- A text is shown as it is, and so is what follows it. -/
theorem shownFrom_encode_append
    (text : String)
    (after : Bytes) :
    shownFrom none (encode text ++ after) =
      text.toList ++ shownFrom none after := by
  unfold encode
  induction text.toList with
  | nil => rfl
  | cons c rest ih =>
      have hChar :=
        segments_utf8EncodeChar_append c
          (rest.flatMap String.utf8EncodeChar ++ after)
      unfold segments at hChar
      rw [shownFrom, List.flatMap_cons, List.append_assoc,
        hChar, List.map_cons, List.cons_append, ← ih]
      rfl

/- The bytes of a text start with a byte of this kind too. -/
theorem exists_encode_eq_cons
    {text : String}
    (hText : text ≠ "") :
    ∃ byte rest,
      encode text = byte :: rest ∧
        (byte.toNat < 0x80 ∨ 0xBF < byte.toNat) := by
  cases hChars : text.toList with
  | nil =>
      exact absurd (String.toList_eq_nil_iff.mp hChars) hText
  | cons c chars =>
      rcases exists_utf8EncodeChar_eq_cons c with
        ⟨byte, rest, hBytes, hFirst⟩
      refine
        ⟨byte, rest ++ chars.flatMap String.utf8EncodeChar,
          ?_, hFirst⟩
      rw [encode, hChars, List.flatMap_cons, hBytes,
        List.cons_append]

/-
  A text that is not empty is shown wherever it stands, and
  what is shown around it does not depend on it.
-/
theorem lossy_append_encode_append
    {text : String}
    (hText : text ≠ "")
    (before after : Bytes) :
    lossy (before ++ encode text ++ after) =
      lossy before ++ text ++ lossy after := by
  have hShown :
      shownFrom none (before ++ encode text ++ after) =
        shownFrom none before ++ text.toList ++
          shownFrom none after := by
    rcases exists_encode_eq_cons hText with
      ⟨byte, rest, hBytes, hFirst⟩
    rw [List.append_assoc, hBytes, List.cons_append,
      shownFrom_append hFirst none (fun _ h => nomatch h),
      ← List.cons_append, ← hBytes,
      shownFrom_encode_append, List.append_assoc]
  change
    String.ofList (shownFrom none _) =
      String.ofList (shownFrom none before) ++ text ++
        String.ofList (shownFrom none after)
  rw [hShown, String.ofList_append, String.ofList_append,
    String.ofList_toList]

/- Segments that are not all characters show a replacement. -/
theorem replacement_mem_of_charsFrom
    {i : Nat}
    {segments : List Segment}
    (hFault : ∀ chars, charsFrom i segments ≠ .ok chars) :
    replacement ∈ segments.map Segment.shown := by
  induction segments generalizing i with
  | nil => exact absurd rfl (hFault [])
  | cons segment rest ih =>
      cases segment with
      | malformed part => exact List.mem_cons_self
      | truncated part => exact List.mem_cons_self
      | char c =>
          apply List.mem_cons_of_mem
          apply @ih (i + c.utf8Size)
          intro chars hChars
          apply hFault (c :: chars)
          rw [charsFrom, hChars]
          rfl

/- Bytes that are no text show a replacement. -/
theorem replacement_mem_lossy
    {bytes : Bytes}
    (hNone : decode? bytes = none) :
    replacement ∈ (lossy bytes).toList := by
  rw [lossy, String.toList_ofList]
  apply @replacement_mem_of_charsFrom 0
  intro chars hChars
  rw [decode?, decode, hChars] at hNone
  cases hNone

end Utf8

end LayeredSettings

------------------------------------------------------------
-- Raw Values
------------------------------------------------------------

namespace LayeredSettings

namespace RawValue

open Utf8

/-
  A raw value that stands for bytes.  It is marked as text
  exactly if the bytes encode one, and is that text.  If not,
  it shows a replacement and coerces to nothing.
-/
structure StandsFor
    (raw : RawValue)
    (bytes : Bytes) : Prop where
  unicode_iff :
    raw.unicode = true ↔ ∃ text, bytes = encode text
  value_eq :
    ∀ text, bytes = encode text → raw.value = text
  is_replaced :
    raw.unicode = false →
      replacement ∈ raw.value.toList
  is_refused :
    raw.unicode = false →
      ∀ {α : Type} (setting : Setting α),
        raw.coerce setting.coerce =
          .error (.notUnicode raw.value)
  shown_iff :
    ∀ chars,
      raw.value = String.ofList chars ↔
        ShownAs bytes chars

/- Text is shown as it is, so every value is what is shown. -/
theorem value_ofBytes
    (bytes : Bytes)
    (key : String)
    (origin : Origin) :
    (ofBytes bytes key origin).value = lossy bytes := by
  unfold ofBytes
  cases hText : decode? bytes with
  | none => rfl
  | some text =>
      have hShown :
          Segment.shown ∘ Segment.char = id := rfl
      rw [decode?_eq_some_iff.mp hText, lossy,
        segments_encode, List.map_map, hShown, List.map_id,
        String.ofList_toList]
      rfl

/- Only bytes of a text are marked as one. -/
theorem unicode_ofBytes
    (bytes : Bytes)
    (key : String)
    (origin : Origin) :
    (ofBytes bytes key origin).unicode =
      (decode? bytes).isSome := by
  unfold ofBytes
  cases decode? bytes with
  | none => rfl
  | some text => rfl

/-
  A raw value that is found as bytes stands for them, and a
  text among the bytes is shown in its place: no byte before
  or after it changes what is shown of it, and it does not
  change what is shown of them.
-/
theorem ofBytes_standsFor
    (key : String)
    (origin : Origin) :
    (∀ bytes, (ofBytes bytes key origin).StandsFor bytes) ∧
      ∀ before text after,
        text ≠ "" →
          (ofBytes (before ++ encode text ++ after) key
              origin).value =
            (ofBytes before key origin).value ++ text ++
              (ofBytes after key origin).value := by
  constructor
  · intro bytes
    constructor
    · rw [unicode_ofBytes, Option.isSome_iff_exists]
      simp only [decode?_eq_some_iff]
    · intro text hText
      rw [ofBytes, decode?_eq_some_iff.mpr hText]
      rfl
    · intro hNot
      rw [unicode_ofBytes, Option.isSome_eq_false_iff,
        Option.isNone_iff_eq_none] at hNot
      rw [value_ofBytes]
      exact replacement_mem_lossy hNot
    · intro hNot α setting
      exact if_neg (by simp [hNot])
    · intro chars
      rw [value_ofBytes]
      exact lossy_eq_iff
  · intro before text after hText
    rw [value_ofBytes, value_ofBytes, value_ofBytes]
    exact lossy_append_encode_append hText before after

/-
  A text after a character that is cut off and before a byte
  that starts none.
-/
def brokenBytes : Bytes :=
  [0x61, 0xE2, 0x82] ++ encode "é" ++ [0xAC]

theorem ofBytes_standsFor_brokenBytes :
    ("é" ≠ "" ∧
      (ofBytes brokenBytes "K" .environmentVariable).value =
        "a\uFFFD" ++ "é" ++ "\uFFFD") ∧
    (ofBytes brokenBytes "K"
        .environmentVariable).unicode = false ∧
      (ofBytes brokenBytes "K" .environmentVariable).coerce
          Catalog.maxAttempts.coerce =
        .error (.notUnicode "a\uFFFDé\uFFFD") := by
  have hText : "é" ≠ "" := by decide
  have hNot :
      (ofBytes brokenBytes "K"
        .environmentVariable).unicode = false := by
    cbv
  have hStands :=
    ofBytes_standsFor "K" .environmentVariable
  refine ⟨⟨hText, ?_⟩, hNot, ?_⟩
  · exact hStands.2 [0x61, 0xE2, 0x82] "é" [0xAC] hText
  · exact
      (hStands.1 brokenBytes).is_refused hNot
        Catalog.maxAttempts

end RawValue

end LayeredSettings
