import StructuralTyping.Report

/-! # Log records

The journal of a check as log records: a level, a message and named values. -/

namespace StructuralTyping

/-- How detailed a record of the log is. -/
inductive LogLevel where
  | span
  | info
  | debug
  | trace
deriving DecidableEq

/-- The level as the log shows it. -/
def LogLevel.name : LogLevel → String
  | .span => "SPAN"
  | .info => "INFO"
  | .debug => "DEBUG"
  | .trace => "TRACE"

/-- A line of the log: a fixed message with named values. -/
structure LogRecord where
  level : LogLevel
  message : String
  values : List (String × String)

namespace Span

/-- The values that say where something shows. -/
def logValues (s : Span) : List (String × String) :=
  [("line", s.line.toNat.repr), ("column", s.column.toNat.repr)]

end Span

/-- A list of names between brackets, each quoted. -/
def quotedList (names : List String) : String :=
  "[" ++ ", ".intercalate (names.map Text.quoted) ++ "]"

namespace Event

/-- The lines of the log that an event leaves. -/
def records : Event → List LogRecord
  | .selfReference span symbol =>
    [⟨.trace, "self reference retargeted",
      [("name", SelfReference.name), ("symbol", symbol.display)] ++ span.logValues⟩]
  | .bindings span kind names =>
    [⟨.trace, "bindings",
      [("kind", kind.display), ("mutable", if kind.isMutable then "true" else "false"),
        ("names", quotedList names)] ++ span.logValues⟩]
  | .finished program table =>
    ⟨.debug, "type table dump", [("file", program.file), ("types", table.size.repr)]⟩ ::
      table.toList.map fun (id, ty) => ⟨.trace, "type", [("id", id.display), ("ty", ty.display)]⟩

end Event

namespace Entry

/-- The lines of the log that an entry of the journal leaves. -/
def records : Entry → List LogRecord
  | .event e => e.records
  | .bound name ty => [⟨.trace, "bind", [("name", name), ("ty", ty.display)]⟩]
  | .aliased name ty => [⟨.trace, "type alias", [("alias", name), ("ty", ty.display)]⟩]
  | .rebound name ty => [⟨.trace, "rebind", [("name", name), ("ty", ty.display)]⟩]
  | .surveyStopped method fault => [⟨.trace, fault.message, [("method", method)]⟩]
  | .selfTyped symbol ty =>
    [⟨.trace, "self type", [("self_symbol", symbol.display), ("ty", ty.display)]⟩]
  | .failed failure => [⟨.debug, failure.fault.message, failure.span.logValues⟩]

end Entry

namespace Report

/-- The log of a check: it opens with the file and closes with the counts. -/
def log (r : Report) : List LogRecord :=
  ⟨.span, "check_program", [("file", r.program.file)]⟩ :: r.journal.flatMap Entry.records ++
    [⟨.info, "checked",
      [("file", r.program.file), ("types", r.table.size.repr),
        ("diagnostics", r.diagnostics.length.repr)]⟩]

end Report

end StructuralTyping
