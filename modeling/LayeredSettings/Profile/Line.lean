import LayeredSettings.Text.Blank
import LayeredSettings.Text.Line

/-
  This file defines the lines of profile files.

  Key definitions include:
    * `LineFault`
    * `LineShape`
    * `LineShape.of`
    * `Heading.read`
    * `PropertyLine.read`
    * `Continuation.read`

  The shape of a line depends on its first characters alone.
  What a line says depends on the line alone; only whether
  it may stand where it stands depends on the lines before.
-/

namespace LayeredSettings

------------------------------------------------------------
-- Faults
------------------------------------------------------------

/- What is wrong with a line. -/
inductive LineFault where
  | unclosedHeading
  | unnamedHeading
  | beforeHeading
  | beforeProperty
  | noEqualsSign
  | unnamedProperty
  deriving DecidableEq, Repr

/- The wording of a fault. -/
def LineFault.message : LineFault → String
| .unclosedHeading =>
    "profile definition must end with ']'"
| .unnamedHeading => "profile name must not be empty"
| .beforeHeading => "expected a profile definition"
| .beforeProperty =>
    "expected a property definition, " ++
      "found a property continuation"
| .noEqualsSign =>
    "expected an '=' sign defining a property"
| .unnamedProperty => "property did not have a name"

------------------------------------------------------------
-- Shapes
------------------------------------------------------------

/- The characters that start comments. -/
def isCommentMark
    (c : Char) : Bool :=
  c = '#' || c = ';'

/- What a line is, judged by how it starts. -/
inductive LineShape where
  | ignored
  | heading
  | continuation
  | property
  deriving DecidableEq, Repr

/- A line of blanks, or a comment after blanks. -/
def isIgnored
    (line : List Char) : Bool :=
  match Text.trimStart Text.isBlank line with
  | [] => true
  | c :: _ => isCommentMark c

/- The shape of a line. -/
def LineShape.of
    (line : List Char) : LineShape :=
  if isIgnored line then .ignored
  else
    match line with
    | [] => .ignored
    | c :: _ =>
        if c = '[' then .heading
        else if Text.isBlank c then .continuation
        else .property

------------------------------------------------------------
-- Headings
------------------------------------------------------------

/-
  The name in a heading.  A comment ends the line wherever
  it starts, and white space before it is of no account.
  The closing bracket is never the opening one.
-/
def Heading.read
    (line : List Char) : Except LineFault String :=
  let heading := Text.trimEnd Text.isWhiteSpace
    (line.takeWhile fun c => !isCommentMark c)
  match heading with
  | '[' :: rest =>
      if rest.getLast? = some ']' then
        let name := Text.trim Text.isBlank rest.dropLast
        if name = [] then .error .unnamedHeading
        else .ok (String.ofList name)
      else .error .unclosedHeading
  | _ => .error .unclosedHeading

------------------------------------------------------------
-- Properties
------------------------------------------------------------

/-
  Cut a value before its comment.  A comment starts at the
  start of the value or after a blank, nowhere else.
-/
def cutComment
    (afterBlank : Bool) : List Char → List Char
| [] => []
| c :: rest =>
    if afterBlank && isCommentMark c then []
    else c :: cutComment (Text.isBlank c) rest

/- The key and the first line of the value. -/
def PropertyLine.read
    (line : List Char) :
    Except LineFault (String × String) :=
  match Text.splitFirst '=' line with
  | none => .error .noEqualsSign
  | some (before, after) =>
      let key := Text.trim Text.isBlank before
      if key = [] then .error .unnamedProperty
      else
        let value :=
          Text.trim Text.isBlank (cutComment true after)
        .ok (String.ofList key, String.ofList value)

/- A further line of a value; it has no comments. -/
def Continuation.read
    (line : List Char) : String :=
  String.ofList (Text.trim Text.isBlank line)

end LayeredSettings
