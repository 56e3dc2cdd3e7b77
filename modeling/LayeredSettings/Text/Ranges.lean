/-
  This file defines sets of code points by their ranges.

  Key definitions include:
    * `Ranges`
    * `Ranges.covers`

  Ranges stand in ascending order and apart.  The first one
  that does not end before a code point then decides
  whether the code point is in the set.
-/

namespace LayeredSettings

namespace Text

/- Ranges of code points, ends included. -/
abbrev Ranges :=
  List (Nat × Nat)

namespace Ranges

/- Whether a code point is in one of the ranges. -/
def covers : Ranges → Nat → Bool
| [], _ => false
| (low, high) :: rest, n =>
    if n ≤ high then low ≤ n else covers rest n

end Ranges

end Text

end LayeredSettings
