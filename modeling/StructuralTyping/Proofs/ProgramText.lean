import StructuralTyping.Proofs.ProgramParts
import StructuralTyping.Proofs.StoredDocuments
import StructuralTyping.Syntax.Decode

/-! # Programs read back from their text

A program survives being written as JSON and read again: spans, symbols, type slots, absent parts,
numbers and strings come back as they were (`Program.text_read_back`).  Two things bound this.  The
readers open at most `Json.fullRoom` containers inside each other, so the document must not nest
deeper; and infinities and NaNs have no numeral.

A double is read in a fixed number of roundings, so that writing and reading it loses nothing is an
assumption about the double, made here of the number literals of the program and of nothing else.

The readers follow the shape of the tree, and so does the proof: a mutual induction that applies to
every constructor the rules of `Json.Stores` that its document is made of.  The number literals come
in through `Part.numbers`, so the induction carries what is known of the parts of the tree. -/

namespace StructuralTyping

/-! ### The number literals of a tree -/

namespace Numbers

/-- The number of a literal that is one. -/
def literal : LiteralValue → List Binary64
  | .number x => [x]
  | _ => []

mutual

/-- The number literals of an annotation. -/
def typeExpr : Node TypeExpr → List Binary64
  | ⟨_, t, _⟩ => insideTypeExpr t

/-- The number literals of what an annotation consists of. -/
def insideTypeExpr : TypeExpr → List Binary64
  | .keyword _ => []
  | .named _ => []
  | .literal v => literal v
  | .array element => typeExpr element
  | .object fields => typeFields fields
  | .function params returns => typeExprs params ++ typeExpr returns
  | .union members => typeExprs members
  | .intersection members => typeExprs members
  | .apply base args => typeExpr base ++ typeExprs args

/-- The number literals of annotations in a list. -/
def typeExprs : List (Node TypeExpr) → List Binary64
  | [] => []
  | t :: rest => typeExpr t ++ typeExprs rest

/-- The number literals of the annotations of fields. -/
def typeFields : List TypeField → List Binary64
  | [] => []
  | ⟨_, t⟩ :: rest => typeExpr t ++ typeFields rest

end

/-- The number literals of an annotation that may be absent. -/
def optionalTypeExpr : Option (Node TypeExpr) → List Binary64
  | none => []
  | some t => typeExpr t

/-- The number literals of what a function or method declares. -/
def signature (ps : List Param) (returns : Option (Node TypeExpr)) : List Binary64 :=
  ps.flatMap (fun p => optionalTypeExpr p.declaredAs) ++ optionalTypeExpr returns

/-- The number literals in the annotations of bindings. -/
def bindings : List Binding → List Binary64
  | [] => []
  | ⟨_, declaredAs, _⟩ :: rest => optionalTypeExpr declaredAs ++ bindings rest

/-- The number literals in the annotations of declared fields. -/
def fieldDecls : List FieldDecl → List Binary64
  | [] => []
  | ⟨_, declaredAs, _⟩ :: rest => optionalTypeExpr declaredAs ++ fieldDecls rest

/-- The number literals of what methods declare. -/
def methods : List (Node Method) → List Binary64
  | [] => []
  | ⟨_, ⟨_, _, _, params, returns, _⟩, _⟩ :: rest => signature params returns ++ methods rest

/-- The number literals that belong to an expression, those of expressions inside it apart. -/
def inside : Expr → List Binary64
  | .literal (.value v) => literal v
  | .function ⟨_, _, params, returns, _⟩ => signature params returns
  | .classDef ⟨_, fields, ms⟩ => fieldDecls fields ++ methods ms
  | .assertion _ ty => typeExpr ty
  | .forLoop bs _ _ _ => bindings bs
  | _ => []

/-- The number literals that belong to a statement. -/
def insideStmt : Stmt → List Binary64
  | .binding _ bs _ => bindings bs
  | .typeAlias _ _ t => typeExpr t
  | _ => []

end Numbers

/-- The number literals that belong to a part, those of parts inside it apart. -/
def Part.numbers : Part → List Binary64
  | .expr n => Numbers.inside n.value
  | .stmt n => Numbers.insideStmt n.value

/-- The number literals of a program, in its expressions and in its annotations. -/
def Program.numbers (p : Program) : List Binary64 := p.parts.flatMap Part.numbers

/-- Writing the number and reading it loses nothing. -/
def Binary64.Kept (x : Binary64) : Prop := Json.binary64? (.ofBinary64 x) = some x

/-- Every number literal that belongs to the part is kept. -/
def Part.Kept (part : Part) : Prop := ∀ x ∈ part.numbers, x.Kept

/-! ### Leaves of the tree -/

namespace Syntax

open Json (Stores Slot nullable? fields? record alternative?_tag alternative?_ofString)

/-- A span is read back. -/
theorem stores_span (s : Span) : Stores span? s.toJson s := by
  have start := Stores.ofUInt64 s.start
  have stop := Stores.ofUInt64 s.stop
  have line := Stores.ofUInt32 s.line
  have column := Stores.ofUInt32 s.column
  refine .record ["start", "end", "line", "column"] rfl (by decide) ?_ fun room fits fields => ?_
  · simp [start.proper, stop.proper, line.proper, column.proper]
  · simp only [List.map_cons, List.map_nil, List.forall_mem_cons] at fits fields
    obtain ⟨inStart, inStop, inLine, inColumn, -⟩ := fits
    simp only [span?, fields, Slot.required?, start.back inStart, stop.back inStop,
      line.back inLine, column.back inColumn]
    rfl

theorem stores_typeId (id : TypeId) : Stores (fun _ => typeId?) id.toJson id where
  proper := (Stores.ofUInt32 id.index).proper
  back fits := congrArg (Option.map TypeId.mk) ((Stores.ofUInt32 id.index).back fits)

theorem typeId_ne_null (id : TypeId) : id.toJson ≠ .null := by
  intro none
  cases none

/-- A symbol is read back, with its tag. -/
theorem stores_symbol (s : Symbol) : Stores symbol? s.toJson s := by
  cases s with
  | resolved id =>
    refine (Stores.ofUInt32 id).choice fun room => ?_
    rw [symbol?, alternative?_tag]
    rfl
  | classSelf number =>
    refine (Stores.ofUInt32 number).choice fun room => ?_
    rw [symbol?, alternative?_tag]
    rfl

theorem record_ne_null (members : List (String × Json)) : record members ≠ .null := nofun

/-- An identifier is read back, with or without a symbol. -/
theorem stores_ident (i : Ident) : Stores ident? i.toJson i := by
  have symbol : Stores _ (.ofOption Symbol.toJson i.symbol) i.symbol :=
    Stores.ofOption stores_symbol (by rintro (_ | _) <;> exact record_ne_null _) _
  refine (Stores.ofString i.name).pair symbol (by decide) fun room fields name symbol => ?_
  simp only [ident?, fields, Slot.required?, Slot.orElse?, name, symbol]
  rfl

/-- A node, with or without a type in its slot. -/
theorem stores_node {α : Type} {value : Nat → Json → Option α}
    {read : Nat → Json → Option (Node α)} {j : Json} {a : α} (span : Span) (ty : Option TypeId)
    (stored : Stores value j a)
    (opened : ∀ room j, read (room + 1) j = openNode? room (value room) j) :
    Stores read (.ofNode span j ty) ⟨span, a, ty⟩ := by
  have place := stores_span span
  cases ty with
  | none =>
    refine place.pair stored (by decide) fun room _ first second => ?_
    -- The slot is not named, so the record has fewer fields than are asked for.
    have fields : fields? ["span", "value", "ty"]
        (record [("span", span.toJson), ("value", j)]) =
        some [.given span.toJson, .given j, .unnamed] := by
      rw [record, fields?, Json.named?_record]
      rfl
    simp only [opened, openNode?, fields, Slot.required?, Slot.orElse?, first, second]
    rfl
  | some id =>
    refine place.triple stored ((stores_typeId id).present (typeId_ne_null id)) (by decide)
      fun room fields first second third => ?_
    simp only [opened, openNode?, fields, Slot.required?, Slot.orElse?, first, second, third]
    rfl

theorem ofNode_ne_null (span : Span) (j : Json) (ty : Option TypeId) :
    Json.ofNode span j ty ≠ .null := nofun

/-- A name is read back with its span and its slot. -/
theorem stores_name (n : Node Ident) : Stores name? (Ident.nodeToJson n) n :=
  stores_node n.span n.ty (stores_ident n.value) fun _ _ => rfl

theorem stores_names (ns : List (Node Ident)) :
    Stores names? (.ofList Ident.nodeToJson ns) ns :=
  Stores.ofList stores_name (fun _ _ => rfl) ns

theorem stores_optionalName (n : Option (Node Ident)) :
    Stores (fun room => nullable? (name? room)) (.ofOption Ident.nodeToJson n) n :=
  Stores.ofOption stores_name (fun _ => ofNode_ne_null _ _ _) n

theorem stores_keyword (k : Keyword) : Stores keyword? k.toJson k := by
  cases k <;> exact Stores.bare rfl

theorem stores_bindingKind (k : BindingKind) : Stores bindingKind? k.toJson k := by
  cases k <;> exact Stores.bare rfl

theorem stores_methodKind (k : MethodKind) : Stores methodKind? k.toJson k := by
  cases k <;> exact Stores.bare rfl

/-- A literal value that carries something. -/
theorem stores_carried {α : Type} {read : Json → Option α} {name : String} {j : Json} {a : α}
    {v : LiteralValue} (stored : Stores (fun _ => read) j a)
    (carried : read j = some a → carriedLiteral? name j = some v) :
    Stores literalValue? (.tag name j) v := by
  refine stored.tag fun room found => ?_
  simp only [literalValue?, alternative?_tag, carried found]

/-- The two literals without a value are stored as bare words. -/
theorem stores_nullish {name : String} {v : LiteralValue}
    (stored : Stores nullishLiteral? (.ofString name) v) :
    Stores literalValue? (.ofString name) v where
  proper := stored.proper
  back {room} fits := by
    cases room <;> simpa only [literalValue?, alternative?_ofString] using stored.back fits

/-- A literal is read back if its number, should it have one, is kept. -/
theorem stores_literalValue (v : LiteralValue) (kept : ∀ x ∈ Numbers.literal v, x.Kept) :
    Stores literalValue? v.taggedToJson v := by
  cases v with
  | number x =>
    have stored : Stores (fun _ => Json.binary64?) (.ofBinary64 x) x :=
      ⟨Json.proper_ofBinary64 x, fun _ => kept x (List.mem_singleton_self x)⟩
    exact stores_carried stored (congrArg (Option.map LiteralValue.number))
  | string s =>
    exact stores_carried (Stores.ofString s) (congrArg (Option.map LiteralValue.string))
  | boolean b =>
    have stored : Stores (fun _ => Json.bool?) (.bool b) b := ⟨.bool b, fun _ => rfl⟩
    exact stores_carried stored (congrArg (Option.map LiteralValue.boolean))
  | null => exact stores_nullish (Stores.bare rfl)
  | undefined => exact stores_nullish (Stores.bare rfl)

/-- No value is taken for a pattern. -/
theorem literal?_taggedToJson (v : LiteralValue) (room : Nat) :
    literal? room v.taggedToJson = (literalValue? room v.taggedToJson).map .value := by
  cases room with
  | zero => rfl
  | succ room =>
    cases v <;>
      simp only [LiteralValue.taggedToJson, literal?, alternative?_tag, alternative?_ofString] <;>
      rfl

theorem stores_literal (l : Literal) (kept : ∀ x ∈ Numbers.inside (.literal l), x.Kept) :
    Stores literal? l.toJson l := by
  cases l with
  | value v =>
    have stored := stores_literalValue v kept
    refine ⟨stored.proper, fun fits => ?_⟩
    rw [Literal.toJson, literal?_taggedToJson, stored.back fits]
    rfl
  | regex pattern =>
    refine (Stores.ofString pattern).tag fun room read => ?_
    simp only [literal?, alternative?_tag, read, Option.map_some]

/-! ### Written types -/

section TypeReaders

variable {ts : List (Node TypeExpr)} {t : Node TypeExpr} {j k : Json} {js : List Json}

/-- A list of annotations is read back if each of them is. -/
theorem stores_typeArray (stored : List.Forall₂ (Stores typeNode?) js ts) :
    Stores typeNodes? (.array js) ts :=
  Stores.array stored fun room j => by rw [typeNodes?]

/-- A function type is read back from those of its parts. -/
theorem stores_functionType (params : Stores typeNodes? j ts) (returns : Stores typeNode? k t) :
    Stores functionType? (.record [("params", j), ("returns", k)]) (.function ts t) := by
  refine params.pair returns (by decide) fun room fields params returns => ?_
  simp only [functionType?, fields, Slot.required?, params, returns]
  rfl

theorem stores_application (base : Stores typeNode? j t) (args : Stores typeNodes? k ts) :
    Stores application? (.record [("base", j), ("args", k)]) (.apply t ts) := by
  refine base.pair args (by decide) fun room fields base args => ?_
  simp only [application?, fields, Slot.required?, base, args]
  rfl

theorem stores_typeField (name : String) (ty : Stores typeNode? j t) :
    Stores typeField? (.record [("name", .ofString name), ("ty", j)]) ⟨name, t⟩ := by
  refine (Stores.ofString name).pair ty (by decide) fun room fields name ty => ?_
  simp only [typeField?, fields, Slot.required?, name, ty]
  rfl

end TypeReaders

mutual

/-- An annotation is read back, by induction over its form. -/
theorem stores_typeNode : ∀ t : Node TypeExpr, (∀ x ∈ Numbers.typeExpr t, x.Kept) →
    Stores typeNode? (TypeExpr.nodeToJson t) t
  | ⟨span, t, ty⟩, kept => by
    rw [TypeExpr.nodeToJson]
    exact stores_node span ty (stores_typeExpr t kept) fun room j => by rw [typeNode?]

theorem stores_typeNodes : ∀ ts : List (Node TypeExpr), (∀ x ∈ Numbers.typeExprs ts, x.Kept) →
    List.Forall₂ (Stores typeNode?) (TypeExpr.nodesToJson ts) ts
  | [], _ => .nil
  | t :: rest, kept => by
    obtain ⟨first, others⟩ := List.forall_mem_append.1 kept
    exact .cons (stores_typeNode t first) (stores_typeNodes rest others)

theorem stores_typeExpr : ∀ t : TypeExpr, (∀ x ∈ Numbers.insideTypeExpr t, x.Kept) →
    Stores typeExpr? t.toJson t
  | .keyword k, _ => by
    rw [TypeExpr.toJson]
    refine (stores_keyword k).choice fun room => ?_
    rw [typeExpr?, alternative?_tag]
    rfl
  | .named name, _ => by
    rw [TypeExpr.toJson]
    refine (Stores.ofString name).choice fun room => ?_
    rw [typeExpr?, alternative?_tag]
    rfl
  | .literal v, kept => by
    rw [TypeExpr.toJson]
    refine (stores_literalValue v kept).choice fun room => ?_
    rw [typeExpr?, alternative?_tag]
    rfl
  | .array t, kept => by
    rw [TypeExpr.toJson]
    refine (stores_typeNode t kept).choice fun room => ?_
    rw [typeExpr?, alternative?_tag]
    rfl
  | .object fields, kept => by
    have stored : Stores typeFields? (.array (TypeExpr.fieldsToJson fields)) fields :=
      Stores.array (stores_typeFields fields kept) fun room j => by rw [typeFields?]
    rw [TypeExpr.toJson]
    refine stored.choice fun room => ?_
    rw [typeExpr?, alternative?_tag]
    rfl
  | .function params returns, kept => by
    obtain ⟨inParams, inReturns⟩ := List.forall_mem_append.1 kept
    have stored := stores_functionType (stores_typeArray (stores_typeNodes params inParams))
      (stores_typeNode returns inReturns)
    rw [TypeExpr.toJson]
    refine stored.tag fun room read => ?_
    rw [typeExpr?, alternative?_tag]
    exact read
  | .union members, kept => by
    rw [TypeExpr.toJson]
    refine (stores_typeArray (stores_typeNodes members kept)).choice fun room => ?_
    rw [typeExpr?, alternative?_tag]
    rfl
  | .intersection members, kept => by
    rw [TypeExpr.toJson]
    refine (stores_typeArray (stores_typeNodes members kept)).choice fun room => ?_
    rw [typeExpr?, alternative?_tag]
    rfl
  | .apply base args, kept => by
    obtain ⟨inBase, inArgs⟩ := List.forall_mem_append.1 kept
    have stored := stores_application (stores_typeNode base inBase)
      (stores_typeArray (stores_typeNodes args inArgs))
    rw [TypeExpr.toJson]
    refine stored.tag fun room read => ?_
    rw [typeExpr?, alternative?_tag]
    exact read

theorem stores_typeFields : ∀ fields : List TypeField, (∀ x ∈ Numbers.typeFields fields, x.Kept) →
    List.Forall₂ (Stores typeField?) (TypeExpr.fieldsToJson fields) fields
  | [], _ => .nil
  | ⟨name, t⟩ :: rest, kept => by
    obtain ⟨first, others⟩ := List.forall_mem_append.1 kept
    rw [TypeExpr.fieldsToJson]
    exact .cons (stores_typeField name (stores_typeNode t first)) (stores_typeFields rest others)

end

/-- An annotation is read back, and so is the lack of one. -/
theorem stores_declared (t : Option (Node TypeExpr))
    (kept : ∀ x ∈ Numbers.optionalTypeExpr t, x.Kept) :
    Stores (fun room => nullable? (typeNode? room)) (TypeExpr.declaredToJson t) t := by
  cases t with
  | none => exact Stores.absent typeNode?
  | some t =>
    obtain ⟨span, t, ty⟩ := t
    refine (stores_typeNode ⟨span, t, ty⟩ kept).present ?_
    rw [TypeExpr.nodeToJson]
    exact ofNode_ne_null span _ ty

/-- A parameter is read back. -/
theorem stores_param (p : Param) (kept : ∀ x ∈ Numbers.optionalTypeExpr p.declaredAs, x.Kept) :
    Stores param? p.toJson p := by
  refine (stores_name p.name).pair (stores_declared p.declaredAs kept) (by decide)
    fun room fields name declaredAs => ?_
  simp only [param?, fields, Slot.required?, declared?, Slot.orElse?, name, declaredAs]
  rfl

theorem stores_params (ps : List Param)
    (kept : ∀ x ∈ ps.flatMap (fun p => Numbers.optionalTypeExpr p.declaredAs), x.Kept) :
    Stores params? (.ofList Param.toJson ps) ps := by
  refine Stores.array (List.forall₂_map_left_iff.2 ?_) fun room j => rfl
  refine List.forall₂_same.2 fun p member => stores_param p fun x own => ?_
  exact kept x (List.mem_flatMap.2 ⟨p, member, own⟩)

/-! ### Readers of expressions and statements -/

section Readers

variable {j k l : Json} {js : List Json} {e f : Node Expr} {es : List (Node Expr)}
  {s : Node Stmt} {body : List (Node Stmt)}

theorem stores_exprArray (stored : List.Forall₂ (Stores exprNode?) js es) :
    Stores exprNodes? (.array js) es :=
  Stores.array stored fun room j => by rw [exprNodes?]

/-- A body is read back if each of its statements is. -/
theorem stores_body (stored : List.Forall₂ (Stores stmtNode?) js body) :
    Stores stmtNodes? (.array js) body :=
  Stores.array stored fun room j => by rw [stmtNodes?]

theorem stores_bindingArray {bs : List Binding} (stored : List.Forall₂ (Stores binding?) js bs) :
    Stores bindings? (.array js) bs :=
  Stores.array stored fun room j => by rw [bindings?]

/-- A call is read back from its callee and its arguments. -/
theorem stores_call (callee : Stores exprNode? j e) (args : Stores exprNodes? k es) :
    Stores call? (.record [("callee", j), ("args", k)]) (.call e es) := by
  refine callee.pair args (by decide) fun room fields callee args => ?_
  simp only [call?, fields, Slot.required?, callee, args]
  rfl

theorem stores_conditional {alternate : Option (Node Stmt)} (test : Stores exprNode? j e)
    (consequent : Stores stmtNode? k s)
    (other : Stores (fun room => nullable? (stmtNode? room)) l alternate) :
    Stores conditional? (.record [("test", j), ("consequent", k), ("alternate", l)])
      (.conditional e s alternate) := by
  refine test.triple consequent other (by decide) fun room fields test consequent other => ?_
  simp only [conditional?, fields, Slot.required?, Slot.optional?, test, consequent, other]
  rfl

theorem stores_member (base : Stores exprNode? j e) (property : Node Ident) :
    Stores member? (.record [("object", j), ("property", Ident.nodeToJson property)])
      (.member e property) := by
  refine base.pair (stores_name property) (by decide) fun room fields base property => ?_
  simp only [member?, fields, Slot.required?, base, property]
  rfl

theorem stores_index (base : Stores exprNode? j e) (position : Stores exprNode? k f) :
    Stores index? (.record [("object", j), ("index", k)]) (.index e f) := by
  refine base.pair position (by decide) fun room fields base position => ?_
  simp only [index?, fields, Slot.required?, base, position]
  rfl

/-- A function is read back from its body, if the numbers in its signature are kept. -/
theorem stores_function (name : Option (Node Ident)) (typeParams : List (Node Ident))
    {ps : List Param} {returns : Option (Node TypeExpr)}
    (kept : ∀ x ∈ Numbers.signature ps returns, x.Kept) (inside : Stores stmtNodes? j body) :
    Stores function?
      (.record
        [("name", .ofOption Ident.nodeToJson name),
          ("type_params", .ofList Ident.nodeToJson typeParams),
          ("params", .ofList Param.toJson ps),
          ("return_type", TypeExpr.declaredToJson returns), ("body", j)])
      ⟨name, typeParams, ps, returns, body⟩ := by
  obtain ⟨inParams, inReturns⟩ := List.forall_mem_append.1 kept
  have s₁ := stores_optionalName name
  have s₂ := stores_names typeParams
  have s₃ := stores_params ps inParams
  have s₄ := stores_declared returns inReturns
  refine .record ["name", "type_params", "params", "return_type", "body"] rfl (by decide) ?_
    fun room fits fields => ?_
  · simp [s₁.proper, s₂.proper, s₃.proper, s₄.proper, inside.proper]
  · simp only [List.map_cons, List.map_nil, List.forall_mem_cons] at fits fields
    obtain ⟨f₁, f₂, f₃, f₄, f₅, -⟩ := fits
    simp only [function?, fields, optionalName?, declared?, Slot.required?, Slot.orElse?,
      s₁.back f₁, s₂.back f₂, s₃.back f₃, s₄.back f₄, inside.back f₅]
    rfl

theorem stores_method (name : Node Ident) (kind : MethodKind) (typeParams : List (Node Ident))
    {ps : List Param} {returns : Option (Node TypeExpr)}
    (kept : ∀ x ∈ Numbers.signature ps returns, x.Kept) (inside : Stores stmtNodes? j body) :
    Stores method?
      (.record
        [("name", Ident.nodeToJson name), ("kind", kind.toJson),
          ("type_params", .ofList Ident.nodeToJson typeParams),
          ("params", .ofList Param.toJson ps),
          ("return_type", TypeExpr.declaredToJson returns), ("body", j)])
      ⟨name, kind, typeParams, ps, returns, body⟩ := by
  obtain ⟨inParams, inReturns⟩ := List.forall_mem_append.1 kept
  have s₁ := stores_name name
  have s₂ := stores_methodKind kind
  have s₃ := stores_names typeParams
  have s₄ := stores_params ps inParams
  have s₅ := stores_declared returns inReturns
  refine .record ["name", "kind", "type_params", "params", "return_type", "body"] rfl (by decide)
    ?_ fun room fits fields => ?_
  · simp [s₁.proper, s₂.proper, s₃.proper, s₄.proper, s₅.proper, inside.proper]
  · simp only [List.map_cons, List.map_nil, List.forall_mem_cons] at fits fields
    obtain ⟨f₁, f₂, f₃, f₄, f₅, f₆, -⟩ := fits
    simp only [method?, fields, declared?, Slot.required?, Slot.orElse?, s₁.back f₁, s₂.back f₂,
      s₃.back f₃, s₄.back f₄, s₅.back f₅, inside.back f₆]
    rfl

/-- A class is read back from its fields and its methods. -/
theorem stores_class (name : Option (Node Ident)) {fs : List FieldDecl} {ms : List (Node Method)}
    (decls : Stores fieldDecls? j fs) (methods : Stores methodNodes? k ms) :
    Stores class?
      (.record [("name", .ofOption Ident.nodeToJson name), ("fields", j), ("methods", k)])
      ⟨name, fs, ms⟩ := by
  refine (stores_optionalName name).triple decls methods (by decide)
    fun room fields name decls methods => ?_
  simp only [class?, fields, optionalName?, Slot.orElse?, name, decls, methods]
  rfl

theorem stores_assertion {t : Node TypeExpr} (expr : Stores exprNode? j e)
    (ty : Stores typeNode? k t) :
    Stores assertion? (.record [("expr", j), ("ty", k)]) (.assertion e t) := by
  refine expr.pair ty (by decide) fun room fields expr ty => ?_
  simp only [assertion?, fields, Slot.required?, expr, ty]
  rfl

theorem stores_whileLoop (test : Stores exprNode? j e) (inside : Stores stmtNodes? k body) :
    Stores whileLoop? (.record [("test", j), ("body", k)]) (.whileLoop e body) := by
  refine test.pair inside (by decide) fun room fields test inside => ?_
  simp only [whileLoop?, fields, Slot.required?, test, inside]
  rfl

/-- A `for` loop is read back from its four parts. -/
theorem stores_forLoop {bs : List Binding} {test update : Option (Node Expr)} {m : Json}
    (s₁ : Stores bindings? j bs) (s₂ : Stores (fun room => nullable? (exprNode? room)) k test)
    (s₃ : Stores (fun room => nullable? (exprNode? room)) l update)
    (s₄ : Stores stmtNodes? m body) :
    Stores forLoop? (.record [("init", j), ("test", k), ("update", l), ("body", m)])
      (.forLoop bs test update body) := by
  refine .record ["init", "test", "update", "body"] rfl (by decide) ?_ fun room fits fields => ?_
  · simp [s₁.proper, s₂.proper, s₃.proper, s₄.proper]
  · simp only [List.map_cons, List.map_nil, List.forall_mem_cons] at fits fields
    obtain ⟨f₁, f₂, f₃, f₄, -⟩ := fits
    simp only [forLoop?, fields, Slot.required?, Slot.optional?, s₁.back f₁, s₂.back f₂,
      s₃.back f₃, s₄.back f₄]
    rfl

/-- A `try` is read back; handler and cleanup may be missing. -/
theorem stores_attempt {handler : Option Handler} {cleanup : Option (List (Node Stmt))}
    (inside : Stores stmtNodes? j body)
    (caught : Stores (fun room => nullable? (handler? room)) k handler)
    (last : Stores (fun room => nullable? (stmtNodes? room)) l cleanup) :
    Stores attempt? (.record [("body", j), ("catch", k), ("finally", l)])
      (.attempt body handler cleanup) := by
  refine inside.triple caught last (by decide) fun room fields inside caught last => ?_
  simp only [attempt?, fields, Slot.required?, Slot.optional?, inside, caught, last]
  rfl

theorem stores_assignment (target : Stores exprNode? j e) (value : Stores exprNode? k f) :
    Stores assignment? (.record [("target", j), ("value", k)]) (.assignment e f) := by
  refine target.pair value (by decide) fun room fields target value => ?_
  simp only [assignment?, fields, Slot.required?, target, value]
  rfl

/-- A binding form is read back from its bindings and its body. -/
theorem stores_bindingForm (kind : BindingKind) {bs : List Binding}
    (bindings : Stores bindings? j bs) (inside : Stores stmtNodes? k body) :
    Stores bindingForm? (.record [("kind", kind.toJson), ("bindings", j), ("body", k)])
      (.binding kind bs body) := by
  refine (stores_bindingKind kind).triple bindings inside (by decide)
    fun room fields kind bindings inside => ?_
  simp only [bindingForm?, fields, Slot.required?, kind, bindings, inside]
  rfl

/-- An alias is read back from its type. -/
theorem stores_typeAlias (name : Node Ident) (typeParams : List (Node Ident)) {t : Node TypeExpr}
    (ty : Stores typeNode? j t) :
    Stores typeAlias?
      (.record
        [("name", Ident.nodeToJson name),
          ("type_params", .ofList Ident.nodeToJson typeParams), ("ty", j)])
      (.typeAlias name typeParams t) := by
  refine (stores_name name).triple (stores_names typeParams) ty (by decide)
    fun room fields name typeParams ty => ?_
  simp only [typeAlias?, openTypeAlias?, fields, Slot.required?, Slot.orElse?, name, typeParams, ty]
  rfl

theorem stores_binding (name : Node Ident) {declaredAs : Option (Node TypeExpr)}
    (kept : ∀ x ∈ Numbers.optionalTypeExpr declaredAs, x.Kept) (init : Stores exprNode? j e) :
    Stores binding?
      (.record
        [("name", Ident.nodeToJson name), ("type_annotation", TypeExpr.declaredToJson declaredAs),
          ("init", j)])
      ⟨name, declaredAs, e⟩ := by
  refine (stores_name name).triple (stores_declared declaredAs kept) init (by decide)
    fun room fields name declaredAs init => ?_
  simp only [binding?, fields, declared?, Slot.required?, Slot.orElse?, name, declaredAs, init]
  rfl

theorem stores_fieldDecl (name : Node Ident) {declaredAs : Option (Node TypeExpr)}
    {init : Option (Node Expr)} (kept : ∀ x ∈ Numbers.optionalTypeExpr declaredAs, x.Kept)
    (first : Stores (fun room => nullable? (exprNode? room)) j init) :
    Stores fieldDecl?
      (.record
        [("name", Ident.nodeToJson name), ("type_annotation", TypeExpr.declaredToJson declaredAs),
          ("init", j)])
      ⟨name, declaredAs, init⟩ := by
  refine (stores_name name).triple (stores_declared declaredAs kept) first (by decide)
    fun room fields name declaredAs init => ?_
  simp only [fieldDecl?, fields, declared?, Slot.required?, Slot.orElse?, name, declaredAs, init]
  rfl

theorem stores_handler (param : Option (Node Ident)) (inside : Stores stmtNodes? j body) :
    Stores handler? (.record [("param", .ofOption Ident.nodeToJson param), ("body", j)])
      ⟨param, body⟩ := by
  refine (stores_optionalName param).pair inside (by decide) fun room fields param inside => ?_
  simp only [handler?, fields, optionalName?, Slot.required?, Slot.orElse?, param, inside]
  rfl

theorem stores_property (key : Node Ident) (value : Stores exprNode? j e) :
    Stores property? (.record [("key", Ident.nodeToJson key), ("value", j)]) ⟨key, e⟩ := by
  refine (stores_name key).pair value (by decide) fun room fields key value => ?_
  simp only [property?, fields, Slot.required?, key, value]
  rfl

end Readers

/-! ### Expressions and statements -/

mutual

/-- An expression is read back, by induction over its form. -/
theorem stores_exprNode : ∀ e : Node Expr, (∀ part ∈ Parts.node e, part.Kept) →
    Stores exprNode? (Expr.nodeToJson e) e
  | ⟨span, e, ty⟩, kept => by
    obtain ⟨own, inside⟩ := List.forall_mem_cons.1 kept
    rw [Expr.nodeToJson]
    exact stores_node span ty (stores_expr e own inside) fun room j => by rw [exprNode?]

theorem stores_exprNodes : ∀ es : List (Node Expr), (∀ part ∈ Parts.nodes es, part.Kept) →
    List.Forall₂ (Stores exprNode?) (Expr.nodesToJson es) es
  | [], _ => .nil
  | e :: rest, kept => by
    obtain ⟨first, others⟩ := List.forall_mem_append.1 kept
    exact .cons (stores_exprNode e first) (stores_exprNodes rest others)

theorem stores_optional : ∀ e : Option (Node Expr), (∀ part ∈ Parts.optional e, part.Kept) →
    Stores (fun room => nullable? (exprNode? room)) (Expr.optionalToJson e) e
  | none, _ => Stores.absent exprNode?
  | some ⟨span, e, ty⟩, kept => by
    refine (stores_exprNode ⟨span, e, ty⟩ kept).present ?_
    rw [Expr.nodeToJson]
    exact ofNode_ne_null span _ ty

theorem stores_expr : ∀ e : Expr, (∀ x ∈ Numbers.inside e, x.Kept) →
    (∀ part ∈ Parts.inside e, part.Kept) → Stores expr? e.toJson e
  | .literal l, own, _ => by
    rw [Expr.toJson]
    refine (stores_literal l own).choice fun room => ?_
    rw [expr?, alternative?_tag]
    rfl
  | .ident i, _, _ => by
    rw [Expr.toJson]
    refine (stores_ident i).choice fun room => ?_
    rw [expr?, alternative?_tag]
    rfl
  | .call callee args, _, kept => by
    obtain ⟨inCallee, inArgs⟩ := List.forall_mem_append.1 kept
    have stored := stores_call (stores_exprNode callee inCallee)
      (stores_exprArray (stores_exprNodes args inArgs))
    rw [Expr.toJson]
    refine stored.tag fun room read => ?_
    rw [expr?, alternative?_tag]
    exact read
  | .conditional test consequent alternate, _, kept => by
    obtain ⟨inTest, kept⟩ := List.forall_mem_append.1 kept
    obtain ⟨inConsequent, inAlternate⟩ := List.forall_mem_append.1 kept
    have stored := stores_conditional (stores_exprNode test inTest)
      (stores_stmtNode consequent inConsequent) (stores_optionalStmt alternate inAlternate)
    rw [Expr.toJson]
    refine stored.tag fun room read => ?_
    rw [expr?, alternative?_tag]
    exact read
  | .member base property, _, kept => by
    rw [Expr.toJson]
    refine (stores_member (stores_exprNode base kept) property).tag fun room read => ?_
    rw [expr?, alternative?_tag]
    exact read
  | .index base position, _, kept => by
    obtain ⟨inBase, inPosition⟩ := List.forall_mem_append.1 kept
    have stored := stores_index (stores_exprNode base inBase) (stores_exprNode position inPosition)
    rw [Expr.toJson]
    refine stored.tag fun room read => ?_
    rw [expr?, alternative?_tag]
    exact read
  | .function ⟨name, typeParams, params, returns, body⟩, own, kept => by
    have stored := stores_function name typeParams own (stores_body (stores_stmtNodes body kept))
    rw [Expr.toJson]
    refine stored.choice fun room => ?_
    rw [expr?, alternative?_tag]
    rfl
  | .classDef ⟨name, fields, methods⟩, own, kept => by
    -- the annotations of a class belong to it, its initial values and bodies are parts of their own
    obtain ⟨ownFields, ownMethods⟩ := List.forall_mem_append.1 own
    obtain ⟨inFields, inMethods⟩ := List.forall_mem_append.1 kept
    -- fields and methods are lists of records, so each list is one more container to open
    have decls : Stores fieldDecls? (.array (Expr.fieldsToJson fields)) fields :=
      Stores.array (stores_fieldDecls fields ownFields inFields) fun room j => by rw [fieldDecls?]
    have nodes : Stores methodNodes? (.array (Expr.methodsToJson methods)) methods :=
      Stores.array (stores_methods methods ownMethods inMethods) fun room j => by rw [methodNodes?]
    rw [Expr.toJson]
    refine (stores_class name decls nodes).choice fun room => ?_
    rw [expr?, alternative?_tag]
    rfl
  | .assertion e ty, own, kept => by
    rw [Expr.toJson]
    refine (stores_assertion (stores_exprNode e kept) (stores_typeNode ty own)).tag
      fun room read => ?_
    rw [expr?, alternative?_tag]
    exact read
  | .throwing value, _, kept => by
    rw [Expr.toJson]
    refine (stores_exprNode value kept).choice fun room => ?_
    rw [expr?, alternative?_tag]
    rfl
  | .whileLoop test body, _, kept => by
    obtain ⟨inTest, inBody⟩ := List.forall_mem_append.1 kept
    have stored := stores_whileLoop (stores_exprNode test inTest)
      (stores_body (stores_stmtNodes body inBody))
    rw [Expr.toJson]
    refine stored.tag fun room read => ?_
    rw [expr?, alternative?_tag]
    exact read
  | .forLoop bindings test update body, own, kept => by
    obtain ⟨inBindings, kept⟩ := List.forall_mem_append.1 kept
    obtain ⟨inTest, kept⟩ := List.forall_mem_append.1 kept
    obtain ⟨inUpdate, inBody⟩ := List.forall_mem_append.1 kept
    have stored := stores_forLoop (stores_bindingArray (stores_bindings bindings own inBindings))
      (stores_optional test inTest) (stores_optional update inUpdate)
      (stores_body (stores_stmtNodes body inBody))
    rw [Expr.toJson]
    refine stored.tag fun room read => ?_
    rw [expr?, alternative?_tag]
    exact read
  | .returning value, _, kept => by
    rw [Expr.toJson]
    refine (stores_optional value kept).choice fun room => ?_
    rw [expr?, alternative?_tag]
    rfl
  | .attempt body handler cleanup, _, kept => by
    obtain ⟨inBody, kept⟩ := List.forall_mem_append.1 kept
    obtain ⟨inHandler, inCleanup⟩ := List.forall_mem_append.1 kept
    have stored := stores_attempt (stores_body (stores_stmtNodes body inBody))
      (stores_optionalHandler handler inHandler) (stores_optionalBody cleanup inCleanup)
    rw [Expr.toJson]
    refine stored.tag fun room read => ?_
    rw [expr?, alternative?_tag]
    exact read
  | .array items, _, kept => by
    rw [Expr.toJson]
    refine (stores_exprArray (stores_exprNodes items kept)).choice fun room => ?_
    rw [expr?, alternative?_tag]
    rfl
  | .object properties, _, kept => by
    have stored : Stores properties? (.array (Expr.propertiesToJson properties)) properties :=
      Stores.array (stores_properties properties kept) fun room j => by rw [properties?]
    rw [Expr.toJson]
    refine stored.choice fun room => ?_
    rw [expr?, alternative?_tag]
    rfl
  | .assignment target value, _, kept => by
    obtain ⟨inTarget, inValue⟩ := List.forall_mem_append.1 kept
    have stored := stores_assignment (stores_exprNode target inTarget)
      (stores_exprNode value inValue)
    rw [Expr.toJson]
    refine stored.tag fun room read => ?_
    rw [expr?, alternative?_tag]
    exact read

theorem stores_stmtNode : ∀ s : Node Stmt, (∀ part ∈ Parts.stmt s, part.Kept) →
    Stores stmtNode? (Expr.stmtNodeToJson s) s
  | ⟨span, s, ty⟩, kept => by
    obtain ⟨own, inside⟩ := List.forall_mem_cons.1 kept
    rw [Expr.stmtNodeToJson]
    exact stores_node span ty (stores_stmt s own inside) fun room j => by rw [stmtNode?]

theorem stores_stmtNodes : ∀ body : List (Node Stmt), (∀ part ∈ Parts.stmts body, part.Kept) →
    List.Forall₂ (Stores stmtNode?) (Expr.stmtNodesToJson body) body
  | [], _ => .nil
  | s :: rest, kept => by
    obtain ⟨first, others⟩ := List.forall_mem_append.1 kept
    exact .cons (stores_stmtNode s first) (stores_stmtNodes rest others)

theorem stores_optionalStmt : ∀ s : Option (Node Stmt),
    (∀ part ∈ Parts.optionalStmt s, part.Kept) →
    Stores (fun room => nullable? (stmtNode? room)) (Expr.optionalStmtToJson s) s
  | none, _ => Stores.absent stmtNode?
  | some ⟨span, s, ty⟩, kept => by
    refine (stores_stmtNode ⟨span, s, ty⟩ kept).present ?_
    rw [Expr.stmtNodeToJson]
    exact ofNode_ne_null span _ ty

theorem stores_optionalBody : ∀ body : Option (List (Node Stmt)),
    (∀ part ∈ Parts.optionalBody body, part.Kept) →
    Stores (fun room => nullable? (stmtNodes? room)) (Expr.optionalBodyToJson body) body
  | none, _ => Stores.absent stmtNodes?
  | some body, kept => (stores_body (stores_stmtNodes body kept)).present nofun

theorem stores_stmt : ∀ s : Stmt, (∀ x ∈ Numbers.insideStmt s, x.Kept) →
    (∀ part ∈ Parts.insideStmt s, part.Kept) → Stores stmt? (Expr.stmtToJson s) s
  | .expr e, _, kept => by
    rw [Expr.stmtToJson]
    refine (stores_exprNode e kept).choice fun room => ?_
    rw [stmt?, alternative?_tag]
    rfl
  | .block body, _, kept => by
    rw [Expr.stmtToJson]
    refine (stores_body (stores_stmtNodes body kept)).choice fun room => ?_
    rw [stmt?, alternative?_tag]
    rfl
  | .binding kind bindings body, own, kept => by
    obtain ⟨inBindings, inBody⟩ := List.forall_mem_append.1 kept
    have stored := stores_bindingForm kind
      (stores_bindingArray (stores_bindings bindings own inBindings))
      (stores_body (stores_stmtNodes body inBody))
    rw [Expr.stmtToJson]
    refine stored.tag fun room read => ?_
    rw [stmt?, alternative?_tag]
    exact read
  | .typeAlias name typeParams ty, own, _ => by
    rw [Expr.stmtToJson]
    refine (stores_typeAlias name typeParams (stores_typeNode ty own)).tag fun room read => ?_
    rw [stmt?, alternative?_tag]
    exact read

theorem stores_bindings : ∀ bs : List Binding, (∀ x ∈ Numbers.bindings bs, x.Kept) →
    (∀ part ∈ Parts.bindings bs, part.Kept) →
    List.Forall₂ (Stores binding?) (Expr.bindingsToJson bs) bs
  | [], _, _ => .nil
  | ⟨name, declaredAs, init⟩ :: rest, own, kept => by
    obtain ⟨ownFirst, ownOthers⟩ := List.forall_mem_append.1 own
    obtain ⟨first, others⟩ := List.forall_mem_append.1 kept
    rw [Expr.bindingsToJson]
    exact .cons (stores_binding name ownFirst (stores_exprNode init first))
      (stores_bindings rest ownOthers others)

theorem stores_fieldDecls : ∀ fs : List FieldDecl, (∀ x ∈ Numbers.fieldDecls fs, x.Kept) →
    (∀ part ∈ Parts.fieldDecls fs, part.Kept) →
    List.Forall₂ (Stores fieldDecl?) (Expr.fieldsToJson fs) fs
  | [], _, _ => .nil
  | ⟨name, declaredAs, init⟩ :: rest, own, kept => by
    obtain ⟨ownFirst, ownOthers⟩ := List.forall_mem_append.1 own
    obtain ⟨first, others⟩ := List.forall_mem_append.1 kept
    rw [Expr.fieldsToJson]
    exact .cons (stores_fieldDecl name ownFirst (stores_optional init first))
      (stores_fieldDecls rest ownOthers others)

theorem stores_methods : ∀ ms : List (Node Method), (∀ x ∈ Numbers.methods ms, x.Kept) →
    (∀ part ∈ Parts.methods ms, part.Kept) →
    List.Forall₂ (Stores methodNode?) (Expr.methodsToJson ms) ms
  | [], _, _ => .nil
  | ⟨span, ⟨name, kind, typeParams, params, returns, body⟩, ty⟩ :: rest, own, kept => by
    obtain ⟨ownFirst, ownOthers⟩ := List.forall_mem_append.1 own
    obtain ⟨first, others⟩ := List.forall_mem_append.1 kept
    have stored := stores_method name kind typeParams ownFirst
      (stores_body (stores_stmtNodes body first))
    rw [Expr.methodsToJson, Expr.methodToJson]
    exact .cons (stores_node span ty stored fun room j => by rw [methodNode?])
      (stores_methods rest ownOthers others)

theorem stores_optionalHandler : ∀ handler : Option Handler,
    (∀ part ∈ Parts.optionalHandler handler, part.Kept) →
    Stores (fun room => nullable? (handler? room)) (Expr.handlerToJson handler) handler
  | none, _ => Stores.absent handler?
  | some ⟨param, body⟩, kept => by
    rw [Expr.handlerToJson]
    exact (stores_handler param (stores_body (stores_stmtNodes body kept))).present
      (record_ne_null _)

theorem stores_properties : ∀ ps : List Property, (∀ part ∈ Parts.properties ps, part.Kept) →
    List.Forall₂ (Stores property?) (Expr.propertiesToJson ps) ps
  | [], _ => .nil
  | ⟨key, value⟩ :: rest, kept => by
    obtain ⟨first, others⟩ := List.forall_mem_append.1 kept
    rw [Expr.propertiesToJson]
    exact .cons (stores_property key (stores_exprNode value first)) (stores_properties rest others)

end

/-- A program is read back if the numbers in it are kept. -/
theorem stores_program (p : Program) (kept : ∀ part ∈ p.parts, part.Kept) :
    Stores program? p.toJson p := by
  refine (Stores.ofString p.file).triple (stores_body (stores_stmtNodes p.body kept))
    (stores_span p.span) (by decide) fun room fields file body span => ?_
  simp only [program?, fields, Slot.required?, Slot.orElse?, file, body, span]
  rfl

end Syntax

/-! ### Programs -/

/-- A number that comes back from its text is kept. -/
theorem Binary64.Kept.of_text {x : Binary64}
    (h : (Json.parse? (Json.compact (.ofBinary64 x))).bind Json.binary64? = some x) : x.Kept := by
  rwa [(Json.proper_ofBinary64 x).parse?_compact] at h

namespace Program

/-- **A program is read back from its text.**  Its number literals are finite and come back from
their own text, and its document nests no deeper than the readers go; then both ways of writing the
document give a text that holds exactly this program. -/
theorem text_read_back (p : Program) (finite : ∀ x ∈ p.numbers, x.isFinite = true)
    (lossless : ∀ x ∈ p.numbers, x.isFinite = true →
      (Json.parse? (Json.compact (.ofBinary64 x))).bind Json.binary64? = some x)
    (nesting : p.toJson.depth ≤ 127) :
    parse? (Json.compact p.toJson) = some p ∧ parse? (Json.pretty p.toJson) = some p := by
  have kept : ∀ part ∈ p.parts, part.Kept := by
    intro part member x own
    have among : x ∈ p.numbers := List.mem_flatMap.2 ⟨part, member, own⟩
    exact .of_text (lossless x among (finite x among))
  have stored := Syntax.stores_program p kept
  have held : ofJson? p.toJson = some p := stored.back nesting
  rw [parse?, stored.proper.parse?_compact, parse?, stored.proper.parse?_pretty]
  exact ⟨held, held⟩

/-- `const tenth: -0 = 0.1;` in a file with a name that needs escapes. -/
def tenth : Program :=
  let place : Span := ⟨6, 11, 1, 7⟩
  { file := "a \"quoted\"\tname.sbl"
    body :=
      [⟨⟨0, 24, 1, 1⟩, .binding .constBinding
        [⟨⟨place, ⟨"tenth", some (.resolved 7)⟩, some ⟨4⟩⟩,
          some ⟨⟨13, 15, 1, 14⟩, .literal (.number ⟨0x8000000000000000⟩), none⟩,
          ⟨⟨18, 21, 1, 19⟩, .literal (.value (.number ⟨0x3FB999999999999A⟩)), some ⟨2⟩⟩⟩] [],
        none⟩]
    span := ⟨0, 24, 1, 1⟩ }

/-- A program with a negative zero and with a double that no decimal is equal to. -/
theorem text_read_back_tenth :
    tenth.numbers = [⟨0x8000000000000000⟩, ⟨0x3FB999999999999A⟩] ∧ tenth.toJson.depth = 10 ∧
      parse? (Json.compact tenth.toJson) = some tenth ∧
      parse? (Json.pretty tenth.toJson) = some tenth := by
  have numbers : tenth.numbers = [⟨0x8000000000000000⟩, ⟨0x3FB999999999999A⟩] := by decide +kernel
  have depth : tenth.toJson.depth = 10 := by decide +kernel
  refine ⟨numbers, depth, text_read_back tenth ?_ ?_ (by omega)⟩
  · rw [numbers]
    decide
  · intro x member _
    rw [(Json.proper_ofBinary64 x).parse?_compact]
    rw [numbers] at member
    revert x
    decide +kernel

end Program

end StructuralTyping
