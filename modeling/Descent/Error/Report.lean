import Descent.Document
import Descent.Error.Basic
import Descent.Text.Indent

/-!
# Reports of failures

A report writes a failure, with all that is nested in it, in one of three
formats.

* `text` is a tree of lines.  What is nested stands behind a margin below its
  heading, and the two branches of an alternative are numbered.
* `simple` is one line.  A region is named before a colon, branches stand in
  parentheses with a bar between them.
* `json` is the written form of a document with the fields of the failure.

Where a failure shows unread input, a report may cut the excerpt short.
-/

namespace Descent

/-! ## Settings -/

/-- The layout of a report. -/
inductive ReportFormat where
  | text
  | simple
  | json
  deriving DecidableEq

namespace ReportFormat

/-- The formats in their order. -/
def all : List ReportFormat := [text, simple, json]

/-- The constant that stands for the format. -/
def name : ReportFormat → String
  | text => "TEXT"
  | simple => "SIMPLE"
  | json => "JSON"

/-- The value of the format in data. -/
def value : ReportFormat → String
  | text => "text"
  | simple => "simple"
  | json => "json"

/-- The format that a value stands for. -/
def ofValue? (text : String) : Option ReportFormat := all.find? (·.value == text)

end ReportFormat

/-- How failures are reported. -/
structure Report where
  /-- The layout. -/
  format : ReportFormat := .text
  /-- The most characters of unread input to show, if they are limited.  A
  negative limit takes that many characters off the end. -/
  excerpt : Option Int := none

namespace Report

/-- The limit of an excerpt when none is given. -/
def defaultExcerpt : Int := 100

/-- The width of the margin of one level. -/
def indentWidth : Nat := Text.margin.length

/-- Unread input as a report shows it. -/
def cut (r : Report) (unread : String) : String :=
  match r.excerpt with
  | none => unread
  | some limit =>
      let chars := unread.toList
      if limit < chars.length then
        let kept := if 0 ≤ limit then limit else chars.length + limit
        String.ofList (chars.take kept.toNat) ++ "..."
      else unread

/-! ## Formats -/

/-- The report as a tree of lines. -/
def renderText (r : Report) : ParseError → String
  | .context label error =>
      "- " ++ (ParseError.context label error).message ++ ":\n" ++ Text.indent (r.renderText error)
  | .either first second =>
      (ParseError.either first second).message ++ ":\n" ++
        Text.indent ("1. " ++ r.renderText first ++ "\n" ++ "2. " ++ r.renderText second)
  | .incomplete stopped => "Incomplete Parse - Remaining: \n" ++ r.cut stopped.remaining
  | error => error.message

/-- The report on one line. -/
def renderSimple (r : Report) : ParseError → String
  | .context label error => label ++ ": " ++ r.renderSimple error
  | .either first second => "(" ++ r.renderSimple first ++ " | " ++ r.renderSimple second ++ ")"
  | .incomplete stopped =>
      "INCOMPLETE_PARSE: Incomplete Parse at line " ++ toString stopped.lineColumn.1 ++
        ", column " ++ toString stopped.lineColumn.2 ++ " - Remaining: " ++
        Text.quoted (r.cut stopped.remaining)
  | error => error.code.name ++ ": " ++ error.message

/-- The fields of every failure: its code and a message. -/
def header (code : ErrorCode) (message : String) : List (String × Document) :=
  [("code", .text code.name), ("code_value", .number code.value), ("message", .text message)]

/-- The document of a failure.  What is nested in it are nested documents. -/
def document (r : Report) : ParseError → Document
  | .context label error =>
      .object (header .contextual (ParseError.context label error).message ++
        [("context", .text label), ("error", r.document error)])
  | .either first second =>
      .object (header .either (ParseError.either first second).message ++
        [("first", r.document first), ("second", r.document second)])
  | .incomplete stopped =>
      .object (header .incompleteParse "Incomplete Parse" ++
        [("remaining", .text (r.cut stopped.remaining)), ("offset", .number stopped.pos),
          ("line", .number stopped.lineColumn.1), ("column", .number stopped.lineColumn.2)])
  | error => .object (header error.code error.message)

/-! ### The formats of failures that nest others or show input -/

section Equations

variable (r : Report) (label : String) (error first second : ParseError) (stopped : Cursor)

theorem renderText_context :
    r.renderText (.context label error) =
      "- " ++ (ParseError.context label error).message ++ ":\n" ++
        Text.indent (r.renderText error) := rfl

theorem renderText_either :
    r.renderText (.either first second) =
      (ParseError.either first second).message ++ ":\n" ++
        Text.indent ("1. " ++ r.renderText first ++ "\n" ++ "2. " ++ r.renderText second) := rfl

theorem renderText_incomplete :
    r.renderText (.incomplete stopped) =
      "Incomplete Parse - Remaining: \n" ++ r.cut stopped.remaining := rfl

theorem renderSimple_context :
    r.renderSimple (.context label error) = label ++ ": " ++ r.renderSimple error := rfl

theorem renderSimple_either :
    r.renderSimple (.either first second) =
      "(" ++ r.renderSimple first ++ " | " ++ r.renderSimple second ++ ")" := rfl

theorem renderSimple_incomplete :
    r.renderSimple (.incomplete stopped) =
      "INCOMPLETE_PARSE: Incomplete Parse at line " ++ toString stopped.lineColumn.1 ++
        ", column " ++ toString stopped.lineColumn.2 ++ " - Remaining: " ++
        Text.quoted (r.cut stopped.remaining) := rfl

theorem document_context :
    r.document (.context label error) =
      .object (header .contextual (ParseError.context label error).message ++
        [("context", .text label), ("error", r.document error)]) := rfl

theorem document_either :
    r.document (.either first second) =
      .object (header .either (ParseError.either first second).message ++
        [("first", r.document first), ("second", r.document second)]) := rfl

theorem document_incomplete :
    r.document (.incomplete stopped) =
      .object (header .incompleteParse "Incomplete Parse" ++
        [("remaining", .text (r.cut stopped.remaining)), ("offset", .number stopped.pos),
          ("line", .number stopped.lineColumn.1), ("column", .number stopped.lineColumn.2)]) := rfl

end Equations

/-! ## Reports -/

/-- The report of a failure. -/
def render (r : Report) (error : ParseError) : String :=
  match r.format with
  | .text => r.renderText error
  | .simple => r.renderSimple error
  | .json => String.ofList (r.document error).render

/-- The reports of several failures, a blank line between them. -/
def renderAll (r : Report) (errors : List ParseError) : String :=
  "\n\n".intercalate (errors.map r.render)

end Report

/-- A failure as a tree of lines, with all unread input. -/
def ParseError.explain (error : ParseError) : String := ({} : Report).render error

end Descent
