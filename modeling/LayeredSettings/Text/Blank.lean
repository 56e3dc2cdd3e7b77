import LayeredSettings.Text.Ranges

/-
  This file defines the two classes of blank characters of
  profile files, and trimming.

  Key definitions include:
    * `isBlank`
    * `isWhiteSpace`
    * `trimStart`
    * `trimEnd`
    * `trim`

  Key theorems include:
    * `isWhiteSpace_of_isBlank`

  A blank is a space or a tab.  White space is the Unicode
  property of that name.  Only section headings are trimmed
  of white space; all else is trimmed of blanks.
-/

namespace LayeredSettings

namespace Text

------------------------------------------------------------
-- Character Classes
------------------------------------------------------------

/- A space or a tab. -/
def isBlank
    (c : Char) : Bool :=
  c = ' ' || c = '\t'

/- The Unicode property White_Space. -/
def whiteSpaceRanges : Ranges :=
  [ (0x0009, 0x000D),
    (0x0020, 0x0020),
    (0x0085, 0x0085),
    (0x00A0, 0x00A0),
    (0x1680, 0x1680),
    (0x2000, 0x200A),
    (0x2028, 0x2029),
    (0x202F, 0x202F),
    (0x205F, 0x205F),
    (0x3000, 0x3000) ]

/- Whether a character has the property White_Space. -/
def isWhiteSpace
    (c : Char) : Bool :=
  whiteSpaceRanges.covers c.toNat

/- Blanks are white space. -/
theorem isWhiteSpace_of_isBlank
    {c : Char}
    (h : isBlank c = true) :
    isWhiteSpace c = true := by
  simp only [isBlank, Bool.or_eq_true,
    decide_eq_true_eq] at h
  rcases h with rfl | rfl <;> decide

------------------------------------------------------------
-- Trimming
------------------------------------------------------------

/- Drop the leading characters of a class. -/
def trimStart
    (p : Char → Bool)
    (cs : List Char) : List Char :=
  cs.dropWhile p

/- Drop the trailing characters of a class. -/
def trimEnd
    (p : Char → Bool)
    (cs : List Char) : List Char :=
  (cs.reverse.dropWhile p).reverse

/- Drop the leading and trailing characters of a class. -/
def trim
    (p : Char → Bool)
    (cs : List Char) : List Char :=
  trimEnd p (trimStart p cs)

end Text

end LayeredSettings
