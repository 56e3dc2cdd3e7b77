/-
  This file defines ASCII letter case and the identifiers of
  profiles and properties.

  Key definitions include:
    * `lowerCase`
    * `equalIgnoringCase`
    * `isIdentifierChar`
    * `isIdentifier`

  Only the letters A to Z have another case here.  The long
  s and the Kelvin sign are not letters of ASCII, so they
  are equal to nothing but themselves.
-/

namespace LayeredSettings

namespace Text

------------------------------------------------------------
-- Letter Case
------------------------------------------------------------

/- The text with A to Z replaced by a to z. -/
def lowerCase
    (s : String) : String :=
  String.ofList (s.toList.map Char.toLower)

/- Equality of texts up to the case of ASCII letters. -/
def equalIgnoringCase
    (s t : String) : Bool :=
  lowerCase s == lowerCase t

------------------------------------------------------------
-- Identifiers
------------------------------------------------------------

/- The characters of identifiers. -/
def isIdentifierChar
    (c : Char) : Bool :=
  c.isAlphanum ||
    ['_', '-', '/', '.', '%', '@', ':', '+'].contains c

/- Profile names and property keys that are accepted. -/
def isIdentifier
    (s : String) : Bool :=
  !s.toList.isEmpty && s.toList.all isIdentifierChar

end Text

end LayeredSettings
