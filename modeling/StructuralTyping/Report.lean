import StructuralTyping.Json.Printer
import StructuralTyping.Session
import StructuralTyping.Ty.Encode

/-! # Reports

The results of checking one program, and the documents and log records made of them. -/

namespace StructuralTyping

/-- All types in the order of their numbers. -/
def TypeTable.toJson (t : TypeTable) : Json := .ofList Ty.toJson t.entries.toList

namespace Event

/-- The name of the kind of an event. -/
def kind : Event → String
  | .selfReference _ _ => "self_retarget"
  | .bindings _ _ _ => "binding_mutability"
  | .finished _ _ => "type_table_dump"

/-- Where an event shows; the end of a check is nowhere in particular. -/
def span? : Event → Option Span
  | .selfReference span _ => some span
  | .bindings span _ _ => some span
  | .finished _ _ => none

/-- What an event says, with the tree and the table in numbers only. -/
def summary : Event → Json
  | .selfReference _ symbol =>
    .record [("name", .ofString SelfReference.name), ("symbol", symbol.toJson)]
  | .bindings _ kind names =>
    .record
      [("kind", kind.toJson), ("mutable", .bool kind.isMutable),
        ("names", .ofList .ofString names)]
  | .finished program table =>
    .record [("statements", .ofNat program.body.length), ("types", .ofNat table.size)]

/-- An event as a record, without a location if it has none. -/
def toJson (file : String) (e : Event) : Json :=
  let location := match e.span? with
    | some span => [("location", span.locationToJson file)]
    | none => []
  .record
    ([("phase", Diagnostic.phase), ("kind", .ofString e.kind)] ++ location ++
      [("data", e.summary)])

end Event

/-- The results of checking one program. -/
structure Report where
  program : Program
  table : TypeTable
  diagnostics : List Diagnostic
  journal : List Entry

namespace Report

/-- Checks a program on its own. -/
def ofProgram (p : Program) : Report :=
  let (program, session) := Session.check p {}
  { program
    table := session.table
    diagnostics := session.diagnostics.toList
    journal := session.journal }

/-- Whether any diagnostic was issued. -/
def hasErrors (r : Report) : Bool := !r.diagnostics.isEmpty

/-- The events of the journal in order, without what only the log shows. -/
def events (r : Report) : List Event := r.journal.filterMap Entry.event?

/-- The event at the end of the check. -/
def finished? (r : Report) : Option Event :=
  r.events.reverse.find? fun
    | .finished _ _ => true
    | _ => false

/-- The checked program, the table and the diagnostics in one document. -/
def toJson (r : Report) : Json :=
  .record
    [("program", r.program.toJson), ("type_table", r.table.toJson),
      ("diagnostics", .ofList Diagnostic.toJson r.diagnostics)]

/-- The document as text. -/
def document (r : Report) : String := r.toJson.pretty

end Report

end StructuralTyping
