import StructuralTyping.Json.Number
import StructuralTyping.Syntax.Tree

/-! # Program trees as JSON documents

Every record is written as an object with all of its fields, in the order of its declaration; what
is absent is null, only the type slot of a node is left out when it is empty.  An alternative that
carries something is an object with one member, one that carries nothing is a string. -/

namespace StructuralTyping

/-- An alternative that carries something. -/
def Json.tag (name : String) (j : Json) : Json := .record [(name, j)]

namespace Span

/-- A span as a record of four numbers. -/
def toJson (s : Span) : Json :=
  .record
    [("start", .ofUInt64 s.start), ("end", .ofUInt64 s.stop), ("line", .ofUInt32 s.line),
      ("column", .ofUInt32 s.column)]

end Span

namespace TypeId

/-- A type's number. -/
def toJson (id : TypeId) : Json := .ofUInt32 id.index

/-- The type slot of a node, as the members that it adds. -/
def slotToJson : Option TypeId → List (String × Json)
  | none => []
  | some id => [("ty", id.toJson)]

end TypeId

/-- A symbol, tagged by its origin. -/
def Symbol.toJson : Symbol → Json
  | .resolved id => .tag "resolved" (.ofUInt32 id)
  | .classSelf number => .tag "class_self" (.ofUInt32 number)

/-- A node with the document of its value. -/
def Json.ofNode (span : Span) (value : Json) (ty : Option TypeId) : Json :=
  .record (("span", span.toJson) :: ("value", value) :: TypeId.slotToJson ty)

namespace Ident

/-- An identifier as a record. -/
def toJson (i : Ident) : Json :=
  .record [("name", .ofString i.name), ("symbol", .ofOption Symbol.toJson i.symbol)]

/-- A name with its span and its type. -/
def nodeToJson (n : Node Ident) : Json := .ofNode n.span n.value.toJson n.ty

end Ident

/-- A literal value as an alternative of its form. -/
def LiteralValue.taggedToJson : LiteralValue → Json
  | .number x => .tag "number" (.ofBinary64 x)
  | .string s => .tag "string" (.ofString s)
  | .boolean b => .tag "boolean" (.bool b)
  | .null => .ofString "null"
  | .undefined => .ofString "undefined"

/-- A literal, tagged by its form. -/
def Literal.toJson : Literal → Json
  | .value v => v.taggedToJson
  | .regex pattern => .tag "regex" (.ofString pattern)

namespace Keyword

/-- The name of a built-in type. -/
def name : Keyword → String
  | .number => "number"
  | .string => "string"
  | .boolean => "boolean"
  | .null => "null"
  | .undefined => "undefined"
  | .unknown => "unknown"

/-- The name of a built-in type in a document. -/
def toJson (k : Keyword) : Json := .ofString k.name

end Keyword

/-- The word that introduces a binding form. -/
def BindingKind.toJson : BindingKind → Json
  | .letBinding => .ofString "let"
  | .constBinding => .ofString "const"

/-- The word for the kind of a method. -/
def MethodKind.toJson : MethodKind → Json
  | .constructor => .ofString "constructor"
  | .method => .ofString "method"

namespace TypeExpr

mutual

/-- A type annotation, tagged by its form. -/
def toJson : TypeExpr → Json
  | .keyword k => .tag "primitive" k.toJson
  | .named name => .tag "named" (.ofString name)
  | .literal v => .tag "literal" v.taggedToJson
  | .array t => .tag "array" (nodeToJson t)
  | .object fields => .tag "object" (.array (fieldsToJson fields))
  | .function params returns =>
    .tag "function"
      (.record [("params", .array (nodesToJson params)), ("returns", nodeToJson returns)])
  | .union members => .tag "union" (.array (nodesToJson members))
  | .intersection members => .tag "intersection" (.array (nodesToJson members))
  | .apply base args =>
    .tag "apply" (.record [("base", nodeToJson base), ("args", .array (nodesToJson args))])

/-- A type annotation with its span. -/
def nodeToJson : Node TypeExpr → Json
  | ⟨span, t, ty⟩ => .ofNode span t.toJson ty

/-- Type annotations in order. -/
def nodesToJson : List (Node TypeExpr) → List Json
  | [] => []
  | n :: rest => nodeToJson n :: nodesToJson rest

/-- The fields of an object type in order. -/
def fieldsToJson : List TypeField → List Json
  | [] => []
  | ⟨name, t⟩ :: rest =>
    .record [("name", .ofString name), ("ty", nodeToJson t)] :: fieldsToJson rest

end

/-- An annotation that may be absent. -/
def declaredToJson (t : Option (Node TypeExpr)) : Json := .ofOption nodeToJson t

end TypeExpr

/-- A parameter as a record. -/
def Param.toJson (p : Param) : Json :=
  .record
    [("name", Ident.nodeToJson p.name),
      ("type_annotation", TypeExpr.declaredToJson p.declaredAs)]

namespace Expr

mutual

/-- An expression, tagged by its form. -/
def toJson : Expr → Json
  | .literal value => .tag "literal" value.toJson
  | .ident i => .tag "ident" i.toJson
  | .call callee args =>
    .tag "call" (.record [("callee", nodeToJson callee), ("args", .array (nodesToJson args))])
  | .conditional test consequent alternate =>
    .tag "if"
      (.record
        [("test", nodeToJson test), ("consequent", stmtNodeToJson consequent),
          ("alternate", optionalStmtToJson alternate)])
  | .member base property =>
    .tag "member" (.record [("object", nodeToJson base), ("property", Ident.nodeToJson property)])
  | .index base position =>
    .tag "index" (.record [("object", nodeToJson base), ("index", nodeToJson position)])
  | .function ⟨name, typeParams, params, returns, body⟩ =>
    .tag "function"
      (.record
        [("name", .ofOption Ident.nodeToJson name),
          ("type_params", .ofList Ident.nodeToJson typeParams),
          ("params", .ofList Param.toJson params),
          ("return_type", TypeExpr.declaredToJson returns),
          ("body", .array (stmtNodesToJson body))])
  | .classDef ⟨name, fields, methods⟩ =>
    .tag "class"
      (.record
        [("name", .ofOption Ident.nodeToJson name), ("fields", .array (fieldsToJson fields)),
          ("methods", .array (methodsToJson methods))])
  | .assertion expr ty =>
    .tag "type_assert"
      (.record [("expr", nodeToJson expr), ("ty", TypeExpr.nodeToJson ty)])
  | .throwing value => .tag "throw" (nodeToJson value)
  | .whileLoop test body =>
    .tag "while" (.record [("test", nodeToJson test), ("body", .array (stmtNodesToJson body))])
  | .forLoop bindings test update body =>
    .tag "for"
      (.record
        [("init", .array (bindingsToJson bindings)), ("test", optionalToJson test),
          ("update", optionalToJson update), ("body", .array (stmtNodesToJson body))])
  | .returning value => .tag "return" (optionalToJson value)
  | .attempt body handler cleanup =>
    .tag "try"
      (.record
        [("body", .array (stmtNodesToJson body)), ("catch", handlerToJson handler),
          ("finally", optionalBodyToJson cleanup)])
  | .array items => .tag "array" (.array (nodesToJson items))
  | .object properties => .tag "object" (.array (propertiesToJson properties))
  | .assignment target value =>
    .tag "assign" (.record [("target", nodeToJson target), ("value", nodeToJson value)])

/-- An expression with its span and its type. -/
def nodeToJson : Node Expr → Json
  | ⟨span, e, ty⟩ => .ofNode span e.toJson ty

/-- Expressions in order. -/
def nodesToJson : List (Node Expr) → List Json
  | [] => []
  | n :: rest => nodeToJson n :: nodesToJson rest

/-- An expression, or `null` for a missing one. -/
def optionalToJson : Option (Node Expr) → Json
  | none => .null
  | some n => nodeToJson n

/-- A statement, tagged by its form. -/
def stmtToJson : Stmt → Json
  | .expr e => .tag "expr" (nodeToJson e)
  | .block body => .tag "block" (.array (stmtNodesToJson body))
  | .binding kind bindings body =>
    .tag "let"
      (.record
        [("kind", kind.toJson), ("bindings", .array (bindingsToJson bindings)),
          ("body", .array (stmtNodesToJson body))])
  | .typeAlias name typeParams ty =>
    .tag "type_alias"
      (.record
        [("name", Ident.nodeToJson name), ("type_params", .ofList Ident.nodeToJson typeParams),
          ("ty", TypeExpr.nodeToJson ty)])

/-- A statement with its span and its type. -/
def stmtNodeToJson : Node Stmt → Json
  | ⟨span, s, ty⟩ => .ofNode span (stmtToJson s) ty

/-- Statements in order. -/
def stmtNodesToJson : List (Node Stmt) → List Json
  | [] => []
  | n :: rest => stmtNodeToJson n :: stmtNodesToJson rest

/-- A statement, or `null` for a missing one. -/
def optionalStmtToJson : Option (Node Stmt) → Json
  | none => .null
  | some n => stmtNodeToJson n

/-- A body, or `null` for a missing one. -/
def optionalBodyToJson : Option (List (Node Stmt)) → Json
  | none => .null
  | some body => .array (stmtNodesToJson body)

/-- The bindings of a form in order. -/
def bindingsToJson : List Binding → List Json
  | [] => []
  | ⟨name, declaredAs, init⟩ :: rest =>
    .record
      [("name", Ident.nodeToJson name),
        ("type_annotation", TypeExpr.declaredToJson declaredAs),
        ("init", nodeToJson init)] :: bindingsToJson rest

/-- The declared fields of a class in order. -/
def fieldsToJson : List FieldDecl → List Json
  | [] => []
  | ⟨name, declaredAs, init⟩ :: rest =>
    .record
      [("name", Ident.nodeToJson name),
        ("type_annotation", TypeExpr.declaredToJson declaredAs),
        ("init", optionalToJson init)] :: fieldsToJson rest

/-- A method as a record. -/
def methodToJson : Method → Json
  | ⟨name, kind, typeParams, params, returns, body⟩ =>
    .record
      [("name", Ident.nodeToJson name), ("kind", kind.toJson),
        ("type_params", .ofList Ident.nodeToJson typeParams),
        ("params", .ofList Param.toJson params),
        ("return_type", TypeExpr.declaredToJson returns),
        ("body", .array (stmtNodesToJson body))]

/-- The methods of a class in order, each with its span and its type. -/
def methodsToJson : List (Node Method) → List Json
  | [] => []
  | ⟨span, m, ty⟩ :: rest => .ofNode span (methodToJson m) ty :: methodsToJson rest

/-- The handler of a `try`, or `null` for a missing one. -/
def handlerToJson : Option Handler → Json
  | none => .null
  | some ⟨param, body⟩ =>
    .record
      [("param", .ofOption Ident.nodeToJson param), ("body", .array (stmtNodesToJson body))]

/-- The properties of an object in order. -/
def propertiesToJson : List Property → List Json
  | [] => []
  | ⟨key, value⟩ :: rest =>
    .record [("key", Ident.nodeToJson key), ("value", nodeToJson value)] :: propertiesToJson rest

end

end Expr

/-- A program as a record. -/
def Program.toJson (p : Program) : Json :=
  .record
    [("file", .ofString p.file), ("body", .array (Expr.stmtNodesToJson p.body)),
      ("span", p.span.toJson)]

end StructuralTyping
