import LayeredSettings.Files.Disk
import LayeredSettings.Text.Quoted

/-
  This file defines where profile files are read from.

  Key definitions include:
    * `FileKind`
    * `Files`
    * `Files.read`
    * `Files.shown`

  Files in memory are looked up by the exact bytes of their
  paths; no path is cleaned before.
-/

namespace LayeredSettings

/- The two kinds of profile files. -/
inductive FileKind where
  | config
  | credentials
  deriving DecidableEq, Repr

/- The disk of the machine, or files by path. -/
inductive Files where
  | disk
  | memory (files : Table Bytes Bytes)

namespace Files

/- Read the file at a path. -/
def read
    (files : Files)
    (disk : Disk)
    (path : Bytes) : Except ReadError Bytes :=
  match files with
  | .disk => disk.read path
  | .memory files =>
      match files.get? path with
      | some contents => .ok contents
      | none => .error .notFound

/- A summary, which shows paths and no contents. -/
def shown : Files → String
| .disk => "Fs::Real"
| .memory files =>
    Text.record "Fs::Fake"
      [ ("files", Text.bracketed
          (files.keys.map Text.quotedBytes)) ]

end Files

end LayeredSettings
