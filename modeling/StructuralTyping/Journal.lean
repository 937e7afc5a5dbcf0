import StructuralTyping.Fault
import StructuralTyping.TypeTable

/-! # The journal of a check

What happens while a program is checked, in order.  Events describe the program itself: its
binding forms, its references to `self`, and at the end the whole table.  The other entries note
the steps of the checker. -/

namespace StructuralTyping

/-- What a check reports step by step while it runs. -/
inductive Event where
  /-- An identifier `self` was pointed at the instance of its class. -/
  | selfReference (span : Span) (symbol : Symbol)
  /-- A binding form was entered. -/
  | bindings (span : Span) (kind : BindingKind) (names : List String)
  /-- The program was checked; this is its tree and the table. -/
  | finished (program : Program) (table : TypeTable)

/-- A line of the journal: an event, or a step of the checker that only the log shows. -/
inductive Entry where
  | event (e : Event)
  | bound (name : String) (ty : Ty)
  | aliased (name : String) (ty : Ty)
  | rebound (name : String) (ty : Ty)
  /-- The field survey of a class stopped in this method. -/
  | surveyStopped (method : String) (fault : Fault)
  | selfTyped (symbol : Symbol) (ty : Ty)
  /-- A statement of the program failed. -/
  | failed (failure : Failure)

/-- The event of an entry that is one. -/
def Entry.event? : Entry → Option Event
  | .event e => some e
  | _ => none

end StructuralTyping
