import LayeredSettings.Event.Basic

/-
  This file lists events in a canonical order.

  Key definitions include:
    * `Event.listing`

  Sections and properties are merged in no particular order.
  So each run of merge events that are listed side by side
  is sorted, and everything else keeps its place.
-/

namespace LayeredSettings

namespace Record

/- The text of a field, empty if there is no such field. -/
def field
    (r : Record)
    (name : String) : String :=
  (r.fields.lookup name).getD ""

/- What the records of merge events are sorted by. -/
def sortKey
    (r : Record) : List String :=
  [ r.message,
    r.field "profile",
    r.field "key",
    r.field "name" ]

end Record

namespace Event

/- Events that are listed up to a level. -/
def isListed
    (level : Level)
    (e : Event) : Bool :=
  e.record.level.rank ≤ level.rank

/- The records of a run, sorted if it is one of merges. -/
def sortedRun
    (run : List Event) : List Record :=
  let records := run.map Event.record
  if run.all Event.ofMerge then
    records.mergeSort fun r s =>
      !decide (s.sortKey < r.sortKey)
  else records

/- The records of events up to a level. -/
def listing
    (level : Level)
    (events : List Event) : List Record :=
  let runs := (events.filter (isListed level)).splitBy
    fun d e => d.ofMerge == e.ofMerge
  runs.flatMap sortedRun

end Event

end LayeredSettings
