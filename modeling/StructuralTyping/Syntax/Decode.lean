import StructuralTyping.Json.Decode
import StructuralTyping.Json.Reader
import StructuralTyping.Syntax.Tree

/-! # Reading program trees

The readers of program trees, following the layout of records and alternatives in `Json.Decode`.
All of them take the room that is left, and a reader that opens a container is defined by recursion
on it.  `Program.parse?` reads a program from text. -/

namespace StructuralTyping.Syntax

open Json (Slot fields? alternative? bare? nullable? items? string? bool? uint32? uint64?
  binary64?)

/-! ### Leaves -/

/-- Reads a span; all four of its numbers are required. -/
def span? : Nat → Json → Option Span
  | 0, _ => none
  | _ + 1, j =>
    match fields? ["start", "end", "line", "column"] j with
    | some [start, stop, line, column] => do
      some ⟨← start.required? uint64?, ← stop.required? uint64?, ← line.required? uint32?,
        ← column.required? uint32?⟩
    | _ => none

/-- Reads the number of a type. -/
def typeId? (j : Json) : Option TypeId := (uint32? j).map TypeId.mk

/-- Reads a symbol, which is tagged by its origin. -/
def symbol? : Nat → Json → Option Symbol
  | 0, _ => none
  | _ + 1, j =>
    match alternative? j with
    | some ("resolved", some id) => (uint32? id).map .resolved
    | some ("class_self", some number) => (uint32? number).map .classSelf
    | _ => none

/-- Reads an identifier. -/
def ident? : Nat → Json → Option Ident
  | 0, _ => none
  | room + 1, j =>
    match fields? ["name", "symbol"] j with
    | some [name, symbol] => do
      some ⟨← name.required? string?, ← symbol.orElse? none (nullable? (symbol? room))⟩
    | _ => none

/-- A node whose container is open: `room` is what is left inside, and `value` reads the value
there. -/
def openNode? {α : Type} (room : Nat) (value : Json → Option α) (j : Json) : Option (Node α) :=
  match fields? ["span", "value", "ty"] j with
  | some [span, val, ty] => do
    some ⟨← span.required? (span? room), ← val.required? value,
      ← ty.orElse? none (nullable? typeId?)⟩
  | _ => none

/-- Reads a node that holds an identifier. -/
def name? : Nat → Json → Option (Node Ident)
  | 0, _ => none
  | room + 1, j => openNode? room (ident? room) j

/-- Reads a list of names. -/
def names? : Nat → Json → Option (List (Node Ident))
  | 0, _ => none
  | room + 1, j => items? (name? room) j

/-- Reads the name of a built-in type. -/
def keyword? : Nat → Json → Option Keyword :=
  bare? fun
    | "number" => some .number
    | "string" => some .string
    | "boolean" => some .boolean
    | "null" => some .null
    | "undefined" => some .undefined
    | "unknown" => some .unknown
    | _ => none

/-- Reads whether a binding may be assigned again. -/
def bindingKind? : Nat → Json → Option BindingKind :=
  bare? fun
    | "let" => some .letBinding
    | "const" => some .constBinding
    | _ => none

/-- Reads whether a method is the constructor. -/
def methodKind? : Nat → Json → Option MethodKind :=
  bare? fun
    | "constructor" => some .constructor
    | "method" => some .method
    | _ => none

/-- Reads one of the two literals that carry no value. -/
def nullishLiteral? : Nat → Json → Option LiteralValue :=
  bare? fun
    | "null" => some .null
    | "undefined" => some .undefined
    | _ => none

/-- A literal value that carries something, by the name of its form. -/
def carriedLiteral? (name : String) (j : Json) : Option LiteralValue :=
  match name with
  | "number" => (binary64? j).map .number
  | "string" => (string? j).map .string
  | "boolean" => (bool? j).map .boolean
  | _ => none

/-- Reads a literal that may also stand in a type. -/
def literalValue? (room : Nat) (j : Json) : Option LiteralValue :=
  match room, alternative? j with
  | _ + 1, some (name, some carried) =>
    match carriedLiteral? name carried with
    | some v => some v
    | none => nullishLiteral? room j
  | _, _ => nullishLiteral? room j

/-- Reads a literal of either sort. -/
def literal? (room : Nat) (j : Json) : Option Literal :=
  match room, alternative? j with
  | _ + 1, some ("regex", some pattern) => (string? pattern).map .regex
  | _, _ => (literalValue? room j).map .value

/-! ### Written types -/

mutual

/-- Reads a type annotation with its span. -/
def typeNode? : Nat → Json → Option (Node TypeExpr)
  | 0, _ => none
  | room + 1, j => openNode? room (typeExpr? room) j

/-- Reads a list of type annotations. -/
def typeNodes? : Nat → Json → Option (List (Node TypeExpr))
  | 0, _ => none
  | room + 1, j => items? (typeNode? room) j

/-- Reads a type annotation, which is tagged by its form. -/
def typeExpr? : Nat → Json → Option TypeExpr
  | 0, _ => none
  | room + 1, j =>
    match alternative? j with
    | some ("primitive", some k) => (keyword? room k).map .keyword
    | some ("named", some name) => (string? name).map .named
    | some ("literal", some v) => (literalValue? room v).map .literal
    | some ("array", some t) => (typeNode? room t).map .array
    | some ("object", some fields) => (typeFields? room fields).map .object
    | some ("function", some f) => functionType? room f
    | some ("union", some members) => (typeNodes? room members).map .union
    | some ("intersection", some members) => (typeNodes? room members).map .intersection
    | some ("apply", some a) => application? room a
    | _ => none

/-- Reads the fields of an object type. -/
def typeFields? : Nat → Json → Option (List TypeField)
  | 0, _ => none
  | room + 1, j => items? (typeField? room) j

/-- Reads a field of an object type. -/
def typeField? : Nat → Json → Option TypeField
  | 0, _ => none
  | room + 1, j =>
    match fields? ["name", "ty"] j with
    | some [name, ty] => do some ⟨← name.required? string?, ← ty.required? (typeNode? room)⟩
    | _ => none

/-- Reads what follows the tag of a function type. -/
def functionType? : Nat → Json → Option TypeExpr
  | 0, _ => none
  | room + 1, j =>
    match fields? ["params", "returns"] j with
    | some [params, returns] => do
      some (.function (← params.required? (typeNodes? room)) (← returns.required? (typeNode? room)))
    | _ => none

/-- Reads what follows the tag of an applied type. -/
def application? : Nat → Json → Option TypeExpr
  | 0, _ => none
  | room + 1, j =>
    match fields? ["base", "args"] j with
    | some [base, args] => do
      some (.apply (← base.required? (typeNode? room)) (← args.required? (typeNodes? room)))
    | _ => none

end

/-- A field for an annotation that may be absent. -/
def declared? (room : Nat) : Slot → Option (Option (Node TypeExpr)) :=
  Slot.orElse? none (nullable? (typeNode? room))

/-- A field for a name that may be absent. -/
def optionalName? (room : Nat) : Slot → Option (Option (Node Ident)) :=
  Slot.orElse? none (nullable? (name? room))

/-- Reads a parameter of a function or a method. -/
def param? : Nat → Json → Option Param
  | 0, _ => none
  | room + 1, j =>
    match fields? ["name", "type_annotation"] j with
    | some [name, declaredAs] => do
      some ⟨← name.required? (name? room), ← declared? room declaredAs⟩
    | _ => none

/-- Reads a list of parameters. -/
def params? : Nat → Json → Option (List Param)
  | 0, _ => none
  | room + 1, j => items? (param? room) j

/-- A type alias whose container is open. -/
def openTypeAlias? (room : Nat) (j : Json) : Option Stmt :=
  match fields? ["name", "type_params", "ty"] j with
  | some [name, typeParams, ty] => do
    some (.typeAlias (← name.required? (name? room)) (← typeParams.orElse? [] (names? room))
      (← ty.required? (typeNode? room)))
  | _ => none

/-! ### Statements and expressions -/

mutual

/-- Reads an expression with its span. -/
def exprNode? : Nat → Json → Option (Node Expr)
  | 0, _ => none
  | room + 1, j => openNode? room (expr? room) j

/-- Reads a list of expressions. -/
def exprNodes? : Nat → Json → Option (List (Node Expr))
  | 0, _ => none
  | room + 1, j => items? (exprNode? room) j

/-- Reads an expression, which is tagged by its form. -/
def expr? : Nat → Json → Option Expr
  | 0, _ => none
  | room + 1, j =>
    match alternative? j with
    | some ("literal", some v) => (literal? room v).map .literal
    | some ("ident", some i) => (ident? room i).map .ident
    | some ("call", some c) => call? room c
    | some ("if", some c) => conditional? room c
    | some ("member", some m) => member? room m
    | some ("index", some i) => index? room i
    | some ("function", some f) => (function? room f).map .function
    | some ("class", some c) => (class? room c).map .classDef
    | some ("type_assert", some a) => assertion? room a
    | some ("throw", some e) => (exprNode? room e).map .throwing
    | some ("while", some l) => whileLoop? room l
    | some ("for", some l) => forLoop? room l
    | some ("return", some e) => (nullable? (exprNode? room) e).map .returning
    | some ("try", some t) => attempt? room t
    | some ("array", some items) => (exprNodes? room items).map .array
    | some ("object", some properties) => (properties? room properties).map .object
    | some ("assign", some a) => assignment? room a
    | _ => none

/-- Reads what follows the tag of a call. -/
def call? : Nat → Json → Option Expr
  | 0, _ => none
  | room + 1, j =>
    match fields? ["callee", "args"] j with
    | some [callee, args] => do
      some (.call (← callee.required? (exprNode? room)) (← args.required? (exprNodes? room)))
    | _ => none

/-- Reads what follows the tag of a conditional. -/
def conditional? : Nat → Json → Option Expr
  | 0, _ => none
  | room + 1, j =>
    match fields? ["test", "consequent", "alternate"] j with
    | some [test, consequent, alternate] => do
      some (.conditional (← test.required? (exprNode? room))
        (← consequent.required? (stmtNode? room)) (← alternate.optional? (stmtNode? room)))
    | _ => none

/-- Reads what follows the tag of a member access. -/
def member? : Nat → Json → Option Expr
  | 0, _ => none
  | room + 1, j =>
    match fields? ["object", "property"] j with
    | some [object, property] => do
      some (.member (← object.required? (exprNode? room)) (← property.required? (name? room)))
    | _ => none

/-- Reads what follows the tag of an access by position. -/
def index? : Nat → Json → Option Expr
  | 0, _ => none
  | room + 1, j =>
    match fields? ["object", "index"] j with
    | some [object, index] => do
      some (.index (← object.required? (exprNode? room)) (← index.required? (exprNode? room)))
    | _ => none

/-- Reads what follows the tag of a function. -/
def function? : Nat → Json → Option Function
  | 0, _ => none
  | room + 1, j =>
    match fields? ["name", "type_params", "params", "return_type", "body"] j with
    | some [name, typeParams, params, returns, body] => do
      some ⟨← optionalName? room name, ← typeParams.orElse? [] (names? room),
        ← params.required? (params? room), ← declared? room returns,
        ← body.required? (stmtNodes? room)⟩
    | _ => none

/-- Reads what follows the tag of a class. -/
def class? : Nat → Json → Option Class
  | 0, _ => none
  | room + 1, j =>
    match fields? ["name", "fields", "methods"] j with
    | some [name, fields, methods] => do
      some ⟨← optionalName? room name, ← fields.orElse? [] (fieldDecls? room),
        ← methods.orElse? [] (methodNodes? room)⟩
    | _ => none

/-- Reads what follows the tag of a type assertion. -/
def assertion? : Nat → Json → Option Expr
  | 0, _ => none
  | room + 1, j =>
    match fields? ["expr", "ty"] j with
    | some [expr, ty] => do
      some (.assertion (← expr.required? (exprNode? room)) (← ty.required? (typeNode? room)))
    | _ => none

/-- Reads what follows the tag of a `while` loop. -/
def whileLoop? : Nat → Json → Option Expr
  | 0, _ => none
  | room + 1, j =>
    match fields? ["test", "body"] j with
    | some [test, body] => do
      some (.whileLoop (← test.required? (exprNode? room)) (← body.required? (stmtNodes? room)))
    | _ => none

/-- Reads what follows the tag of a `for` loop. -/
def forLoop? : Nat → Json → Option Expr
  | 0, _ => none
  | room + 1, j =>
    match fields? ["init", "test", "update", "body"] j with
    | some [init, test, update, body] => do
      some (.forLoop (← init.required? (bindings? room)) (← test.optional? (exprNode? room))
        (← update.optional? (exprNode? room)) (← body.required? (stmtNodes? room)))
    | _ => none

/-- Reads what follows the tag of a `try`. -/
def attempt? : Nat → Json → Option Expr
  | 0, _ => none
  | room + 1, j =>
    match fields? ["body", "catch", "finally"] j with
    | some [body, handler, cleanup] => do
      some (.attempt (← body.required? (stmtNodes? room)) (← handler.optional? (handler? room))
        (← cleanup.optional? (stmtNodes? room)))
    | _ => none

/-- Reads what follows the tag of an assignment. -/
def assignment? : Nat → Json → Option Expr
  | 0, _ => none
  | room + 1, j =>
    match fields? ["target", "value"] j with
    | some [target, value] => do
      some (.assignment (← target.required? (exprNode? room)) (← value.required? (exprNode? room)))
    | _ => none

/-- Reads a statement with its span. -/
def stmtNode? : Nat → Json → Option (Node Stmt)
  | 0, _ => none
  | room + 1, j => openNode? room (stmt? room) j

/-- Reads a list of statements. -/
def stmtNodes? : Nat → Json → Option (List (Node Stmt))
  | 0, _ => none
  | room + 1, j => items? (stmtNode? room) j

/-- Reads a statement, which is tagged by its form. -/
def stmt? : Nat → Json → Option Stmt
  | 0, _ => none
  | room + 1, j =>
    match alternative? j with
    | some ("expr", some e) => (exprNode? room e).map .expr
    | some ("block", some body) => (stmtNodes? room body).map .block
    | some ("let", some b) => bindingForm? room b
    | some ("type_alias", some a) => typeAlias? room a
    | _ => none

/-- Reads what follows the tag of a binding form. -/
def bindingForm? : Nat → Json → Option Stmt
  | 0, _ => none
  | room + 1, j =>
    match fields? ["kind", "bindings", "body"] j with
    | some [kind, bindings, body] => do
      some (.binding (← kind.required? (bindingKind? room)) (← bindings.required? (bindings? room))
        (← body.required? (stmtNodes? room)))
    | _ => none

/-- Reads what follows the tag of an alias. -/
def typeAlias? : Nat → Json → Option Stmt
  | 0, _ => none
  | room + 1, j => openTypeAlias? room j

/-- Reads the bindings of a form. -/
def bindings? : Nat → Json → Option (List Binding)
  | 0, _ => none
  | room + 1, j => items? (binding? room) j

/-- Reads one binding. -/
def binding? : Nat → Json → Option Binding
  | 0, _ => none
  | room + 1, j =>
    match fields? ["name", "type_annotation", "init"] j with
    | some [name, declaredAs, init] => do
      some ⟨← name.required? (name? room), ← declared? room declaredAs,
        ← init.required? (exprNode? room)⟩
    | _ => none

/-- Reads the declared fields of a class. -/
def fieldDecls? : Nat → Json → Option (List FieldDecl)
  | 0, _ => none
  | room + 1, j => items? (fieldDecl? room) j

/-- Reads one declared field. -/
def fieldDecl? : Nat → Json → Option FieldDecl
  | 0, _ => none
  | room + 1, j =>
    match fields? ["name", "type_annotation", "init"] j with
    | some [name, declaredAs, init] => do
      some ⟨← name.required? (name? room), ← declared? room declaredAs,
        ← init.orElse? none (nullable? (exprNode? room))⟩
    | _ => none

/-- Reads the methods of a class. -/
def methodNodes? : Nat → Json → Option (List (Node Method))
  | 0, _ => none
  | room + 1, j => items? (methodNode? room) j

/-- Reads a method with its span. -/
def methodNode? : Nat → Json → Option (Node Method)
  | 0, _ => none
  | room + 1, j => openNode? room (method? room) j

/-- Reads a method. -/
def method? : Nat → Json → Option Method
  | 0, _ => none
  | room + 1, j =>
    match fields? ["name", "kind", "type_params", "params", "return_type", "body"] j with
    | some [name, kind, typeParams, params, returns, body] => do
      some ⟨← name.required? (name? room), ← kind.required? (methodKind? room),
        ← typeParams.orElse? [] (names? room), ← params.required? (params? room),
        ← declared? room returns, ← body.required? (stmtNodes? room)⟩
    | _ => none

/-- Reads the handler of a `try`. -/
def handler? : Nat → Json → Option Handler
  | 0, _ => none
  | room + 1, j =>
    match fields? ["param", "body"] j with
    | some [param, body] => do
      some ⟨← optionalName? room param, ← body.required? (stmtNodes? room)⟩
    | _ => none

/-- Reads the properties of an object. -/
def properties? : Nat → Json → Option (List Property)
  | 0, _ => none
  | room + 1, j => items? (property? room) j

/-- Reads one property. -/
def property? : Nat → Json → Option Property
  | 0, _ => none
  | room + 1, j =>
    match fields? ["key", "value"] j with
    | some [key, value] => do
      some ⟨← key.required? (name? room), ← value.required? (exprNode? room)⟩
    | _ => none

end

/-- Reads a program with its file and its span. -/
def program? : Nat → Json → Option Program
  | 0, _ => none
  | room + 1, j =>
    match fields? ["file", "body", "span"] j with
    | some [file, body, span] => do
      some ⟨← file.required? string?, ← body.required? (stmtNodes? room),
        ← span.orElse? .zero (span? room)⟩
    | _ => none

end StructuralTyping.Syntax

namespace StructuralTyping.Program

/-- The program that a document holds. -/
def ofJson? (j : Json) : Option Program := Syntax.program? Json.fullRoom j

/-- The program that a text holds. -/
def parse? (text : String) : Option Program := (Json.parse? text).bind ofJson?

end StructuralTyping.Program
