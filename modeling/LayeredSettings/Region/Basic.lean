/-
  This file defines regions.

  Key definitions include:
    * `Region`

  Any text names a region, the empty text included.  Whether
  the region exists is for its user to find out.
-/

namespace LayeredSettings

/- A region is known by its name. -/
structure Region where
  name : String
  deriving DecidableEq, Repr, Inhabited

end LayeredSettings
