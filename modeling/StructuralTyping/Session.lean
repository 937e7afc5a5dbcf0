import StructuralTyping.Checker.Check
import StructuralTyping.Diagnostic

/-! # Sessions

A session checks programs one after the other.  Symbols, aliases, the table, the numbers of
classes and the diagnostics carry over from one program to the next; the journal is that of the
latest program.

The statements of a program are checked independently of each other's faults: the first fault of a
statement becomes a diagnostic, and the next statement is checked from where that one stopped. -/

namespace StructuralTyping

/-- Programs checked one after another, with all that carries over from one to the next. -/
structure Session where
  state : Checker.State := {}
  diagnostics : Array Diagnostic := #[]

namespace Session

/-- Checks one statement of a file. -/
def checkStmt (file : String) (stmt : Node Stmt) (s : Session) : Node Stmt × Session :=
  let checked := Checker.checkStmt none stmt s.state
  match checked.result with
  | .ok _ => (checked.tree, { s with state := checked.state })
  | .error f =>
    (checked.tree,
      { state := checked.state.note (.failed f), diagnostics := s.diagnostics.push ⟨file, f⟩ })

/-- Checks the statements of a file in order. -/
def checkBody (file : String) : List (Node Stmt) → Session → List (Node Stmt) × Session
  | [], s => ([], s)
  | stmt :: rest, s =>
    let (stmt, s) := s.checkStmt file stmt
    let (rest, s) := checkBody file rest s
    (stmt :: rest, s)

/-- Checks a program. -/
def check (p : Program) (s : Session) : Program × Session :=
  let (body, s) := checkBody p.file p.body { s with state := { s.state with journal := #[] } }
  let p := { p with body }
  (p, { s with state := s.state.emit (.finished p s.state.table) })

/-- The types of all programs checked so far. -/
def table (s : Session) : TypeTable := s.state.table

/-- The journal of the latest program. -/
def journal (s : Session) : List Entry := s.state.journal.toList

/-- The events of the latest program. -/
def events (s : Session) : List Event := s.journal.filterMap Entry.event?

end Session

end StructuralTyping
