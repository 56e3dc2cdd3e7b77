import LayeredSettings.Text.Unprinted
import LayeredSettings.Text.Utf8

/-
  This file defines the quoted form of texts and bytes, in
  which summaries show names and values.

  Key definitions include:
    * `quotedChar`
    * `quoted`
    * `quotedSegment`
    * `quotedBytes`
    * `optional`
    * `record`

  A quote and a backslash are written with a backslash, and
  so are all characters that are not printed as themselves:
  a few by a letter, the others by their code points.  The
  bytes that belong to no character are written one by one.
-/

namespace LayeredSettings

namespace Text

------------------------------------------------------------
-- Texts
------------------------------------------------------------

/- A code point in hexadecimal digits. -/
def hexadecimal
    (n : Nat) : String :=
  String.ofList (Nat.toDigits 16 n)

/- The characters that stand for one inside quotes. -/
def quotedChar
    (c : Char) : String :=
  if c = '"' then "\\\""
  else if c = '\\' then "\\\\"
  else if c = '\n' then "\\n"
  else if c = '\t' then "\\t"
  else if c = '\r' then "\\r"
  else if c = '\x00' then "\\0"
  else if isUnprinted c then
    "\\u\x7b" ++ hexadecimal c.toNat ++ "\x7d"
  else c.toString

/- A text between quotes. -/
def quoted
    (s : String) : String :=
  "\"" ++ String.join (s.toList.map quotedChar) ++ "\""

------------------------------------------------------------
-- Bytes
------------------------------------------------------------

/- The characters that stand for a byte of no character. -/
def quotedByte
    (byte : UInt8) : String :=
  let digit n := (Nat.digitChar n).toUpper
  let b := byte.toNat
  "\\x" ++ String.ofList [digit (b / 16), digit (b % 16)]

/- The characters that stand for a segment. -/
def quotedSegment : Utf8.Segment → String
| .char c => quotedChar c
| .malformed bytes => String.join (bytes.map quotedByte)
| .truncated bytes => String.join (bytes.map quotedByte)

/- Bytes between quotes. -/
def quotedBytes
    (bytes : Bytes) : String :=
  "\"" ++
    String.join
      ((Utf8.segments bytes).map quotedSegment) ++
    "\""

------------------------------------------------------------
-- Structures
------------------------------------------------------------

/- The form of a value that may be absent. -/
def optional : Option String → String
| none => "None"
| some shown => "Some(" ++ shown ++ ")"

/- The form of named fields. -/
def record
    (name : String)
    (fields : List (String × String)) : String :=
  name ++ " \x7b " ++
    ", ".intercalate
      (fields.map fun f => f.1 ++ ": " ++ f.2) ++
    " \x7d"

/- The form of a list of shown values. -/
def bracketed
    (shown : List String) : String :=
  "[" ++ ", ".intercalate shown ++ "]"

end Text

end LayeredSettings
