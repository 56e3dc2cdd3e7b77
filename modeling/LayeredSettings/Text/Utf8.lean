/-
  This file reads bytes as UTF-8.

  Key definitions include:
    * `Bytes`
    * `Utf8.Segment`
    * `Utf8.Pending`
    * `Utf8.segments`
    * `Utf8.encode`
    * `Utf8.decode`
    * `Utf8.lossy`
    * `Utf8.Fault.message`

  The reader takes one byte at a time.  It cuts the bytes
  into characters and maximal subparts: the longest starts
  of well-formed characters, or single bytes that start no
  character.  Text is decoded if there is no subpart, and
  is shown with one replacement character for each subpart.
-/

namespace LayeredSettings

/- A sequence of bytes. -/
abbrev Bytes :=
  List UInt8

namespace Utf8

------------------------------------------------------------
-- Segments
------------------------------------------------------------

/-
  A piece of a byte sequence: a well-formed character, or a
  maximal subpart of an ill-formed sequence.  A subpart that
  the end of the bytes cuts off is `truncated`.
-/
inductive Segment where
  | char (c : Char)
  | malformed (bytes : Bytes)
  | truncated (bytes : Bytes)
  deriving DecidableEq, Repr

/-
  The start of a character: the bits of the bytes read, the
  bytes themselves, the number of bytes that are missing,
  and the range of the next byte.
-/
structure Pending where
  code : Nat
  seen : Bytes
  missing : Nat
  low : Nat
  high : Nat
  deriving DecidableEq, Repr

/-
  Read a byte between characters.  The narrow ranges after
  0xE0, 0xED, 0xF0 and 0xF4 rule out overlong forms, the
  surrogates, and what lies above U+10FFFF.
-/
def lead
    (byte : UInt8) : List Segment × Option Pending :=
  let b := byte.toNat
  if b < 0x80 then ([.char (Char.ofNat b)], none)
  else if b < 0xC2 then ([.malformed [byte]], none)
  else if b < 0xE0 then
    ([], some ⟨b - 0xC0, [byte], 1, 0x80, 0xBF⟩)
  else if b = 0xE0 then
    ([], some ⟨b - 0xE0, [byte], 2, 0xA0, 0xBF⟩)
  else if b = 0xED then
    ([], some ⟨b - 0xE0, [byte], 2, 0x80, 0x9F⟩)
  else if b < 0xF0 then
    ([], some ⟨b - 0xE0, [byte], 2, 0x80, 0xBF⟩)
  else if b = 0xF0 then
    ([], some ⟨b - 0xF0, [byte], 3, 0x90, 0xBF⟩)
  else if b < 0xF4 then
    ([], some ⟨b - 0xF0, [byte], 3, 0x80, 0xBF⟩)
  else if b = 0xF4 then
    ([], some ⟨b - 0xF0, [byte], 3, 0x80, 0x8F⟩)
  else ([.malformed [byte]], none)

/-
  Read a byte inside a character.  A byte out of range ends
  the subpart before it and is read again as a lead byte.
-/
def Pending.next
    (p : Pending)
    (byte : UInt8) : List Segment × Option Pending :=
  let b := byte.toNat
  if p.low ≤ b ∧ b ≤ p.high then
    let code := p.code * 64 + (b - 0x80)
    if p.missing ≤ 1 then
      ([.char (Char.ofNat code)], none)
    else
      let seen := p.seen ++ [byte]
      ([], some ⟨code, seen, p.missing - 1, 0x80, 0xBF⟩)
  else
    let (segments, pending) := lead byte
    (.malformed p.seen :: segments, pending)

/- Read a byte in any state. -/
def step
    (state : Option Pending)
    (byte : UInt8) : List Segment × Option Pending :=
  match state with
  | none => lead byte
  | some p => p.next byte

/- The segments of the bytes that follow a state. -/
def segmentsFrom :
    Option Pending → Bytes → List Segment
| none, [] => []
| some p, [] => [.truncated p.seen]
| state, byte :: rest =>
    (step state byte).1 ++
      segmentsFrom (step state byte).2 rest

/- The segments of a byte sequence. -/
def segments
    (bytes : Bytes) : List Segment :=
  segmentsFrom none bytes

------------------------------------------------------------
-- Encoding and Decoding
------------------------------------------------------------

/- The UTF-8 form of a text. -/
def encode
    (s : String) : Bytes :=
  s.toList.flatMap String.utf8EncodeChar

/-
  What makes bytes no text: the index of the first subpart
  and, unless the bytes end in it, its length.
-/
structure Fault where
  index : Nat
  length : Option Nat
  deriving DecidableEq, Repr

/- The wording of a fault. -/
def Fault.message
    (fault : Fault) : String :=
  match fault.length with
  | some n =>
      s!"invalid utf-8 sequence of {n} bytes from index "
        ++ toString fault.index
  | none =>
      "incomplete utf-8 byte sequence from index "
        ++ toString fault.index

/- The characters of segments, or the first fault. -/
def charsFrom :
    Nat → List Segment → Except Fault (List Char)
| _, [] => .ok []
| i, .char c :: rest =>
    (charsFrom (i + c.utf8Size) rest).map (c :: ·)
| i, .malformed seen :: _ => .error ⟨i, some seen.length⟩
| i, .truncated _ :: _ => .error ⟨i, none⟩

/- The text of which the bytes are the UTF-8 form. -/
def decode
    (bytes : Bytes) : Except Fault String :=
  (charsFrom 0 (segments bytes)).map String.ofList

/- The text of the bytes, if they are UTF-8. -/
def decode?
    (bytes : Bytes) : Option String :=
  (decode bytes).toOption

/- The character that stands for a subpart. -/
def replacement : Char :=
  '\uFFFD'

/- The character shown for a segment. -/
def Segment.shown : Segment → Char
| .char c => c
| .malformed _ => replacement
| .truncated _ => replacement

/- The bytes as text, with replacements for subparts. -/
def lossy
    (bytes : Bytes) : String :=
  String.ofList ((segments bytes).map Segment.shown)

end Utf8

end LayeredSettings
