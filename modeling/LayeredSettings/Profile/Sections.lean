import LayeredSettings.Profile.Line
import LayeredSettings.Table

/-
  This file reads profile files as sections.

  Key definitions include:
    * `Sections`
    * `SectionReader`
    * `SectionReader.readLine`
    * `SectionReader.readLines`
    * `ProfileParseError`
    * `Sections.parse`

  The reader keeps the sections read so far and a cursor: the
  current section and, in it, the property read last.  Names
  and keys are kept as they are written.
-/

namespace LayeredSettings

/- Values by key, by the name of the section. -/
abbrev Sections :=
  Table String (Table String String)

------------------------------------------------------------
-- The Reader
------------------------------------------------------------

/- The current section and its property read last. -/
structure Cursor where
  heading : String
  property : Option String
  deriving DecidableEq, Repr

/- What is read so far, and where the reader stands. -/
structure SectionReader where
  sections : Sections
  cursor : Option Cursor
  deriving DecidableEq

namespace SectionReader

/- The reader at the start of a file. -/
def initial : SectionReader where
  sections := Table.empty
  cursor := none

/- The section with a name, new if there is none yet. -/
def sectionOrNew
    (reader : SectionReader)
    (heading : String) : Table String String :=
  (reader.sections.get? heading).getD Table.empty

/- Open a section, which may have been open before. -/
def openSection
    (reader : SectionReader)
    (heading : String) : SectionReader where
  sections := reader.sections.insert heading
    (reader.sectionOrNew heading)
  cursor := some ⟨heading, none⟩

/- Give a key of a section a value. -/
def setProperty
    (reader : SectionReader)
    (heading key value : String) : SectionReader where
  sections := reader.sections.insert heading
    ((reader.sectionOrNew heading).insert key value)
  cursor := some ⟨heading, some key⟩

/-
  Continue the value of a key of a section.  If there is no
  such value nothing is continued.
-/
def extendProperty
    (reader : SectionReader)
    (heading key text : String) : SectionReader :=
  match reader.sections.get? heading with
  | none => reader
  | some properties =>
      match properties.get? key with
      | none => reader
      | some value =>
          { reader with
            sections := reader.sections.insert heading
              (properties.insert key
                (value ++ "\n" ++ text)) }

/- Read a heading. -/
def readHeading
    (reader : SectionReader)
    (line : List Char) :
    Except LineFault SectionReader := do
  return reader.openSection (← Heading.read line)

/- Read a property, which stands in a section. -/
def readProperty
    (reader : SectionReader)
    (line : List Char) :
    Except LineFault SectionReader :=
  match reader.cursor with
  | none => .error .beforeHeading
  | some cursor => do
      let (key, value) ← PropertyLine.read line
      return reader.setProperty cursor.heading key value

/- Read a continuation, which stands after a property. -/
def readContinuation
    (reader : SectionReader)
    (line : List Char) :
    Except LineFault SectionReader :=
  match reader.cursor with
  | none => .error .beforeHeading
  | some ⟨_, none⟩ => .error .beforeProperty
  | some ⟨heading, some key⟩ =>
      .ok (reader.extendProperty heading key
        (Continuation.read line))

/- Read a line. -/
def readLine
    (reader : SectionReader)
    (line : List Char) :
    Except LineFault SectionReader :=
  match LineShape.of line with
  | .ignored => .ok reader
  | .heading => reader.readHeading line
  | .continuation => reader.readContinuation line
  | .property => reader.readProperty line

/-
  Read lines, of which the first has the given number.  The
  error is that of the first faulty line, with its number.
-/
def readLines
    (reader : SectionReader)
    (number : Nat) :
    List (List Char) →
      Except (Nat × LineFault) SectionReader
| [] => .ok reader
| line :: rest =>
    match reader.readLine line with
    | .ok next => next.readLines (number + 1) rest
    | .error fault => .error (number, fault)

end SectionReader

------------------------------------------------------------
-- Files
------------------------------------------------------------

/- The first fault of a file and its line, from 1. -/
structure ProfileParseError where
  path : String
  line : Nat
  fault : LineFault
  deriving DecidableEq, Repr

/- The wording of a parse error. -/
def ProfileParseError.message
    (e : ProfileParseError) : String :=
  "error parsing " ++ e.path ++ " on line " ++
    toString e.line ++ ":\n  " ++ e.fault.message

namespace Sections

/- The sections of a file with a path and a text. -/
def parse
    (path text : String) :
    Except ProfileParseError Sections :=
  match SectionReader.initial.readLines 1
      (Text.lines text.toList) with
  | .ok reader => .ok reader.sections
  | .error (line, fault) => .error ⟨path, line, fault⟩

/- The sections and their properties as lists. -/
def toLists
    (sections : Sections) :
    List (String × List (String × String)) :=
  sections.entries.map fun (heading, properties) =>
    (heading, properties.entries)

end Sections

end LayeredSettings
