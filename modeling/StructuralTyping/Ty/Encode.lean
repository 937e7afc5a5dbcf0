import StructuralTyping.Json.Number
import StructuralTyping.Ty.Basic

/-! # Types as JSON documents

A type is an object whose first member `kind` names its form. -/

namespace StructuralTyping

/-- A literal as the JSON value it denotes. -/
def LiteralValue.toJson : LiteralValue → Json
  | .number x => .ofBinary64 x
  | .string s => .ofString s
  | .boolean b => .bool b
  | .null => .null
  | .undefined => .ofString "undefined"

namespace Ty

/-- A record that starts with the kind of the type. -/
def tagged (kind : String) (members : List (String × Json)) : Json :=
  .record (("kind", .ofString kind) :: members)

mutual

/-- A type as a record. -/
def toJson : Ty → Json
  | .number => tagged "number" []
  | .string => tagged "string" []
  | .boolean => tagged "boolean" []
  | .null => tagged "null" []
  | .undefined => tagged "undefined" []
  | .unknown => tagged "unknown" []
  | .literal v => tagged "literal" [("value", v.toJson)]
  | .array t => tagged "array" [("element", t.toJson)]
  | .object fs => tagged "object" [("fields", .array (fieldsToJson fs))]
  | .function ps r => tagged "function" [("params", .array (listToJson ps)), ("returns", r.toJson)]
  | .union ms => tagged "union" [("members", .array (listToJson ms))]
  | .intersection ms => tagged "intersection" [("members", .array (listToJson ms))]

/-- Types as records, in order. -/
def listToJson : List Ty → List Json
  | [] => []
  | t :: rest => t.toJson :: listToJson rest

/-- Fields as records of a name and a type, in order. -/
def fieldsToJson : List Field → List Json
  | [] => []
  | ⟨n, t⟩ :: rest => .record [("name", .ofString n), ("ty", t.toJson)] :: fieldsToJson rest

end

end Ty

end StructuralTyping
