import LayeredSettings.Config
import LayeredSettings.Setting.Catalog

/-
  This file resolves the region.

  Key definitions include:
    * `Config.resolveRegion`

  There is no fallback: a region that is not configured is
  for the caller to deal with.
-/

namespace LayeredSettings

/- The event that reports a region. -/
def Region.conclusion : Option Region → Event
| some region => .regionResolved region
| none => .regionAbsent

/- Resolve the region. -/
def Config.resolveRegion
    (config : Config)
    (host : Host) :
    Attempt InvalidValue (Option Region) := do
  let region ← config.resolve host Catalog.region
  Logged.emit (Region.conclusion region)
  return region

end LayeredSettings
