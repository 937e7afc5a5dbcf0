import StructuralTyping.Fault
import StructuralTyping.Syntax.Encode

/-! # Diagnostics

What a check reports: a failure and the file that it is in. -/

namespace StructuralTyping

/-- A failure with the file it was found in. -/
structure Diagnostic where
  file : String
  failure : Failure

/-- A place in a file as a document. -/
def Span.locationToJson (file : String) (s : Span) : Json :=
  .record
    [("file", .ofString file), ("line", .ofUInt32 s.line), ("column", .ofUInt32 s.column),
      ("start", .ofUInt64 s.start), ("end", .ofUInt64 s.stop)]

namespace Diagnostic

/-- The phase that diagnostics and events name. -/
def phase : Json := .ofString "typeCheck"

/-- The sentence that a reader of the diagnostic sees. -/
def message (d : Diagnostic) : String := d.failure.fault.message

/-- The file, line and column of a diagnostic. -/
def place (d : Diagnostic) : String :=
  let s := d.failure.span
  d.file ++ ":" ++ s.line.toNat.repr ++ ":" ++ s.column.toNat.repr

/-- A diagnostic on one line. -/
def plain (d : Diagnostic) : String := d.place ++ ": " ++ d.message

/-- The members of a diagnostic as a document. -/
def members (d : Diagnostic) : List (String × Json) :=
  [("message", .ofString d.message), ("location", d.failure.span.locationToJson d.file),
    ("phase", phase)]

/-- A diagnostic as a record. -/
def toJson (d : Diagnostic) : Json := .record d.members

end Diagnostic

end StructuralTyping
