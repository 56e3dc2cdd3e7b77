/-
  This file reads bounded integers in base 10.

  Key definitions include:
    * `Decimal.Fault`
    * `Decimal.Bounds`
    * `Decimal.readDigits`
    * `Decimal.read`

  An integer is one sign at most and digits after it.  They
  are read from left to right and the first problem decides:
  a character that is no digit, or a value out of bounds.
-/

namespace LayeredSettings

namespace Decimal

/- What keeps a text from being an integer in bounds. -/
inductive Fault where
  | empty
  | invalidDigit
  | tooLarge
  | tooSmall
  deriving DecidableEq, Repr

/- The wording of a fault. -/
def Fault.message : Fault → String
| .empty => "cannot parse integer from empty string"
| .invalidDigit => "invalid digit found in string"
| .tooLarge => "number too large to fit in target type"
| .tooSmall => "number too small to fit in target type"

/- The least and the greatest integer that is accepted. -/
structure Bounds where
  least : Int
  greatest : Int

/- The integers of 64 bits. -/
def Bounds.signed64 : Bounds :=
  ⟨-0x8000000000000000, 0x7FFFFFFFFFFFFFFF⟩

/- The value of an ASCII digit. -/
def digit?
    (c : Char) : Option Nat :=
  if c.isDigit then some (c.toNat - '0'.toNat)
  else none

/-
  Append digits to a value.  With `negative` the digits are
  subtracted, so the least integer needs no larger range.
-/
def readDigits
    (bounds : Bounds)
    (negative : Bool) :
    Int → List Char → Except Fault Int
| value, [] => .ok value
| value, c :: rest =>
    match digit? c with
    | none => .error .invalidDigit
    | some d =>
        let next :=
          if negative then value * 10 - d
          else value * 10 + d
        if next < bounds.least then .error .tooSmall
        else if bounds.greatest < next then
          .error .tooLarge
        else readDigits bounds negative next rest

/- Read digits, of which there has to be one. -/
def readMagnitude
    (bounds : Bounds)
    (negative : Bool) : List Char → Except Fault Int
| [] => .error .invalidDigit
| c :: rest => readDigits bounds negative 0 (c :: rest)

/- Read one sign at most and digits. -/
def read
    (bounds : Bounds) : List Char → Except Fault Int
| [] => .error .empty
| '+' :: rest => readMagnitude bounds false rest
| '-' :: rest => readMagnitude bounds true rest
| c :: rest => readMagnitude bounds false (c :: rest)

end Decimal

end LayeredSettings
