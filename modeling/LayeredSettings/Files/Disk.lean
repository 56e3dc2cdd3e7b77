import LayeredSettings.Table
import LayeredSettings.Text.Line
import LayeredSettings.Text.Utf8

/-
  This file defines the disk of a machine and how a path is
  followed on it.

  Key definitions include:
    * `ReadError`
    * `Disk`
    * `Disk.locate`
    * `Disk.read`
    * `Disk.bare`

  A path is followed part by part.  Every part is taken from
  a directory, so a path that goes on after a file fails as
  it does for a directory that is missing.  Long paths are
  refused as a whole, and long names where they are met.
-/

namespace LayeredSettings

------------------------------------------------------------
-- Errors
------------------------------------------------------------

/- Why a file cannot be read. -/
inductive ReadError where
  | notFound
  | isDirectory
  | notDirectory
  | nameTooLong
  | nulInPath
  deriving DecidableEq, Repr

/- The wording of a read error. -/
def ReadError.message : ReadError → String
| .notFound => "No such file or directory (os error 2)"
| .isDirectory => "Is a directory (os error 21)"
| .notDirectory => "Not a directory (os error 20)"
| .nameTooLong => "File name too long (os error 36)"
| .nulInPath =>
    "file name contained an unexpected NUL byte"

------------------------------------------------------------
-- Disks
------------------------------------------------------------

/- What stands at a place of a disk. -/
inductive Node where
  | directory
  | file (contents : Bytes)
  deriving DecidableEq, Repr

/- The parts of a path from the root. -/
abbrev Place :=
  List Bytes

/-
  The nodes of a disk by place, the root included, and the
  place from which relative paths start.
-/
structure Disk where
  nodes : Table Place Node
  working : Place

namespace Disk

/- The directory at a place. -/
def requireDirectory
    (disk : Disk)
    (place : Place) : Except ReadError Unit :=
  match disk.nodes.get? place with
  | none => .error .notFound
  | some (.file _) => .error .notDirectory
  | some .directory => .ok ()

/- The number of bytes that a path may have. -/
def maxPathLength : Nat :=
  4095

/- The number of bytes that a name may have. -/
def maxNameLength : Nat :=
  255

/-
  Follow the parts of a path.  An empty part and `.` stay in
  the directory, and `..` leaves it but for the root.
-/
def locate
    (disk : Disk)
    (place : Place) :
    List Bytes → Except ReadError Place
| [] => .ok place
| part :: rest => do
    disk.requireDirectory place
    if part = [] ∨ part = Utf8.encode "." then
      disk.locate place rest
    else if part = Utf8.encode ".." then
      disk.locate place.dropLast rest
    else if maxNameLength < part.length then
      throw .nameTooLong
    else disk.locate (place ++ [part]) rest

/- Read the file at a path. -/
def read
    (disk : Disk)
    (path : Bytes) : Except ReadError Bytes := do
  if 0 ∈ path then throw .nulInPath
  if path = [] then throw .notFound
  if maxPathLength < path.length then throw .nameTooLong
  let start :=
    if path.head? = some 0x2F then [] else disk.working
  let place ←
    disk.locate start (Text.splitAll 0x2F path)
  match disk.nodes.get? place with
  | none => throw .notFound
  | some .directory => throw .isDirectory
  | some (.file contents) => pure contents

/-
  A disk with no file but the null device, which reads as
  empty.  The working directory is that for temporary files.
-/
def bare : Disk :=
  let dev := Utf8.encode "dev"
  let null := Utf8.encode "null"
  let tmp := Utf8.encode "tmp"
  { nodes := Table.ofList
      [ ([], .directory),
        ([dev], .directory),
        ([dev, null], .file []),
        ([tmp], .directory) ]
    working := [tmp] }

end Disk

end LayeredSettings
