import StructuralTyping.Syntax.SelfReference
import StructuralTyping.Proofs.TypeSlots

/-! # Trees with other marks

What a check writes into a tree are type ids and, in the methods of a class, the symbols of
references to `self`.  A `Relabeling` changes these marks and nothing else: every type slot, and the
symbols of identifiers `self` *in reach*.  Functions and field declarations are out of reach; the
methods of a class inside are in reach or not as the relabeling says.

A relabeling that does not care for what another one changed absorbs it
(`Relabeling.node_absorb` and its companions).
-/
namespace StructuralTyping

/-- A change of the marks in a tree. -/
structure Relabeling where
  ty : Option TypeId → Option TypeId
  /-- The symbol of a reference to `self` in reach. -/
  self : Option Symbol → Option Symbol
  /-- Whether the methods of classes further inside are in reach. -/
  nested : Bool

namespace Relabeling

variable (ρ σ : Relabeling)

mutual

/-- An annotation has no symbols of its own: only its slots change. -/
def typeExpr : Node TypeExpr → Node TypeExpr
  | ⟨span, t, ty⟩ => ⟨span, insideTypeExpr t, ρ.ty ty⟩

/-- The slots inside an annotation, its own apart. -/
def insideTypeExpr : TypeExpr → TypeExpr
  | .keyword k => .keyword k
  | .named name => .named name
  | .literal v => .literal v
  | .array element => .array (typeExpr element)
  | .object fields => .object (typeFields fields)
  | .function params returns => .function (typeExprs params) (typeExpr returns)
  | .union members => .union (typeExprs members)
  | .intersection members => .intersection (typeExprs members)
  | .apply base args => .apply (typeExpr base) (typeExprs args)

/-- Annotations in a list, each relabeled. -/
def typeExprs : List (Node TypeExpr) → List (Node TypeExpr)
  | [] => []
  | t :: rest => typeExpr t :: typeExprs rest

/-- The annotations of an object's fields. -/
def typeFields : List TypeField → List TypeField
  | [] => []
  | ⟨name, t⟩ :: rest => ⟨name, typeExpr t⟩ :: typeFields rest

end

/-- An annotation that may be absent. -/
def optionalTypeExpr (t : Option (Node TypeExpr)) : Option (Node TypeExpr) := t.map ρ.typeExpr

/-- A name where it is declared keeps its symbol: references are relabeled, declarations are not. -/
def name (n : Node Ident) : Node Ident := ⟨n.span, n.value, ρ.ty n.ty⟩

/-- Declared names in a list. -/
def names (ns : List (Node Ident)) : List (Node Ident) := ns.map ρ.name

/-- A declared name that may be absent. -/
def optionalName (n : Option (Node Ident)) : Option (Node Ident) := n.map ρ.name

/-- Parameters, with their names and annotations. -/
def params : List Param → List Param
  | [] => []
  | ⟨name, declaredAs⟩ :: rest => ⟨ρ.name name, ρ.optionalTypeExpr declaredAs⟩ :: params rest

/-- An identifier in an expression.  It changes if it is `self` and in reach. -/
def ident (reach : Bool) (i : Ident) : Ident :=
  if reach = true ∧ i.name = SelfReference.name then ⟨i.name, ρ.self i.symbol⟩ else i

mutual

/-- An expression with its own slot; `reach` says whether references to `self` are in reach. -/
def node (reach : Bool) : Node Expr → Node Expr
  | ⟨span, e, ty⟩ => ⟨span, inside reach e, ρ.ty ty⟩

/-- What an expression consists of, without its own slot. -/
def inside (reach : Bool) : Expr → Expr
  | .literal v => .literal v
  | .ident i => .ident (ρ.ident reach i)
  | .call callee args => .call (node reach callee) (nodes reach args)
  | .conditional test consequent alternate =>
    .conditional (node reach test) (stmt reach consequent) (optionalStmt reach alternate)
  | .member base property => .member (node reach base) (ρ.name property)
  | .index base position => .index (node reach base) (node reach position)
  | .function f => .function (function f)
  | .classDef c => .classDef (classDef c)
  | .assertion e ty => .assertion (node reach e) (ρ.typeExpr ty)
  | .throwing value => .throwing (node reach value)
  | .whileLoop test body => .whileLoop (node reach test) (stmts reach body)
  | .forLoop bs test update body =>
    .forLoop (bindings reach bs) (optional reach test) (optional reach update) (stmts reach body)
  | .returning value => .returning (optional reach value)
  | .attempt body handler cleanup =>
    .attempt (stmts reach body) (optionalHandler reach handler) (optionalBody reach cleanup)
  | .array items => .array (nodes reach items)
  | .object ps => .object (properties reach ps)
  | .assignment target value => .assignment (node reach target) (node reach value)

/-- Nothing in the body of a function is in reach. -/
def function : Function → Function
  | ⟨name, typeParams, params, returns, body⟩ =>
    ⟨ρ.optionalName name, ρ.names typeParams, ρ.params params, ρ.optionalTypeExpr returns,
      stmts false body⟩

/-- The initial values of fields are out of reach, methods are as the relabeling says. -/
def classDef : Class → Class
  | ⟨name, fields, ms⟩ => ⟨ρ.optionalName name, fieldDecls fields, methods ρ.nested ms⟩

/-- Expressions in a list. -/
def nodes (reach : Bool) : List (Node Expr) → List (Node Expr)
  | [] => []
  | e :: rest => node reach e :: nodes reach rest

/-- An expression that may be absent. -/
def optional (reach : Bool) : Option (Node Expr) → Option (Node Expr)
  | none => none
  | some e => some (node reach e)

/-- A statement with its own slot. -/
def stmt (reach : Bool) : Node Stmt → Node Stmt
  | ⟨span, s, ty⟩ => ⟨span, insideStmt reach s, ρ.ty ty⟩

/-- What a statement consists of, without its own slot. -/
def insideStmt (reach : Bool) : Stmt → Stmt
  | .expr e => .expr (node reach e)
  | .block body => .block (stmts reach body)
  | .binding kind bs body => .binding kind (bindings reach bs) (stmts reach body)
  | .typeAlias name typeParams t => .typeAlias (ρ.name name) (ρ.names typeParams) (ρ.typeExpr t)

/-- Statements in a list. -/
def stmts (reach : Bool) : List (Node Stmt) → List (Node Stmt)
  | [] => []
  | s :: rest => stmt reach s :: stmts reach rest

/-- A statement that may be absent. -/
def optionalStmt (reach : Bool) : Option (Node Stmt) → Option (Node Stmt)
  | none => none
  | some s => some (stmt reach s)

/-- A body that may be absent. -/
def optionalBody (reach : Bool) : Option (List (Node Stmt)) → Option (List (Node Stmt))
  | none => none
  | some body => some (stmts reach body)

/-- Bindings, with names, annotations and initial values. -/
def bindings (reach : Bool) : List Binding → List Binding
  | [] => []
  | ⟨name, declaredAs, init⟩ :: rest =>
    ⟨ρ.name name, ρ.optionalTypeExpr declaredAs, node reach init⟩ :: bindings reach rest

/-- Declared fields; their initial values are out of reach. -/
def fieldDecls : List FieldDecl → List FieldDecl
  | [] => []
  | ⟨name, declaredAs, init⟩ :: rest =>
    ⟨ρ.name name, ρ.optionalTypeExpr declaredAs, optional false init⟩ :: fieldDecls rest

/-- A method without the slot of its node. -/
def method (reach : Bool) : Method → Method
  | ⟨name, kind, typeParams, params, returns, body⟩ =>
    ⟨ρ.name name, kind, ρ.names typeParams, ρ.params params, ρ.optionalTypeExpr returns,
      stmts reach body⟩

/-- The methods of a class with the slots of their nodes. -/
def methods (reach : Bool) : List (Node Method) → List (Node Method)
  | [] => []
  | ⟨span, m, ty⟩ :: rest => ⟨span, method reach m, ρ.ty ty⟩ :: methods reach rest

/-- A handler that may be absent, with its parameter. -/
def optionalHandler (reach : Bool) : Option Handler → Option Handler
  | none => none
  | some ⟨param, body⟩ => some ⟨ρ.optionalName param, stmts reach body⟩

/-- The properties of an object, with their keys. -/
def properties (reach : Bool) : List Property → List Property
  | [] => []
  | ⟨key, value⟩ :: rest => ⟨ρ.name key, node reach value⟩ :: properties reach rest

end

/-! ## One relabeling after another -/

/-- The relabeling overwrites everything that `σ` may have written. -/
structure Absorbs : Prop where
  ty (slot : Option TypeId) : ρ.ty (σ.ty slot) = ρ.ty slot
  self (symbol : Option Symbol) : ρ.self (σ.self symbol) = ρ.self symbol
  nested : σ.nested = true → ρ.nested = true

section Absorbs

variable {ρ σ}

mutual

/-- The first relabeling decides about every slot of an annotation. -/
theorem typeExpr_absorb (h : ρ.Absorbs σ) :
    ∀ t : Node TypeExpr, ρ.typeExpr (σ.typeExpr t) = ρ.typeExpr t
  | ⟨span, t, ty⟩ => congrArg₂ (Node.mk span) (insideTypeExpr_absorb h t) (h.ty ty)

theorem insideTypeExpr_absorb (h : ρ.Absorbs σ) :
    ∀ t : TypeExpr, ρ.insideTypeExpr (σ.insideTypeExpr t) = ρ.insideTypeExpr t
  | .keyword _ => rfl
  | .named _ => rfl
  | .literal _ => rfl
  | .array element => congrArg TypeExpr.array (typeExpr_absorb h element)
  | .object fields => congrArg TypeExpr.object (typeFields_absorb h fields)
  | .function params returns =>
    congrArg₂ TypeExpr.function (typeExprs_absorb h params) (typeExpr_absorb h returns)
  | .union members => congrArg TypeExpr.union (typeExprs_absorb h members)
  | .intersection members => congrArg TypeExpr.intersection (typeExprs_absorb h members)
  | .apply base args => congrArg₂ TypeExpr.apply (typeExpr_absorb h base) (typeExprs_absorb h args)

theorem typeExprs_absorb (h : ρ.Absorbs σ) :
    ∀ ts : List (Node TypeExpr), ρ.typeExprs (σ.typeExprs ts) = ρ.typeExprs ts
  | [] => rfl
  | t :: rest => congrArg₂ List.cons (typeExpr_absorb h t) (typeExprs_absorb h rest)

theorem typeFields_absorb (h : ρ.Absorbs σ) :
    ∀ fs : List TypeField, ρ.typeFields (σ.typeFields fs) = ρ.typeFields fs
  | [] => rfl
  | ⟨name, t⟩ :: rest =>
    congrArg₂ List.cons (congrArg (TypeField.mk name) (typeExpr_absorb h t))
      (typeFields_absorb h rest)

end

theorem optionalTypeExpr_absorb (h : ρ.Absorbs σ) (t : Option (Node TypeExpr)) :
    ρ.optionalTypeExpr (σ.optionalTypeExpr t) = ρ.optionalTypeExpr t := by
  cases t with
  | none => rfl
  | some t => exact congrArg some (typeExpr_absorb h t)

theorem name_absorb (h : ρ.Absorbs σ) (n : Node Ident) : ρ.name (σ.name n) = ρ.name n :=
  congrArg (Node.mk n.span n.value) (h.ty n.ty)

theorem names_absorb (h : ρ.Absorbs σ) (ns : List (Node Ident)) :
    ρ.names (σ.names ns) = ρ.names ns := by
  simp only [names, List.map_map]
  exact List.map_congr_left fun n _ => name_absorb h n

theorem optionalName_absorb (h : ρ.Absorbs σ) (n : Option (Node Ident)) :
    ρ.optionalName (σ.optionalName n) = ρ.optionalName n := by
  cases n with
  | none => rfl
  | some n => exact congrArg some (name_absorb h n)

/-- A relabeling of parameters absorbs another one. -/
theorem params_absorb (h : ρ.Absorbs σ) (ps : List Param) :
    ρ.params (σ.params ps) = ρ.params ps := by
  induction ps with
  | nil => rfl
  | cons p rest ih =>
    exact congrArg₂ List.cons
      (congrArg₂ Param.mk (name_absorb h p.name) (optionalTypeExpr_absorb h p.declaredAs)) ih

/-- An identifier that the second changes has to be in reach of the first as well. -/
theorem ident_absorb (h : ρ.Absorbs σ) {r r' : Bool} (hr : r' = true → r = true) (i : Ident) :
    ρ.ident r (σ.ident r' i) = ρ.ident r i := by
  by_cases inReach : r' = true ∧ i.name = SelfReference.name
  · have inReach' : r = true ∧ i.name = SelfReference.name := ⟨hr inReach.1, inReach.2⟩
    rw [ident, ident, ident, if_pos inReach, if_pos inReach', if_pos inReach', h.self]
  · rw [ident, ident, if_neg inReach]
    rfl

mutual

/-- If whatever is in reach of the second is in reach of the first, the first decides about every
mark. -/
theorem node_absorb (h : ρ.Absorbs σ) {r r' : Bool} (hr : r' = true → r = true) :
    ∀ n : Node Expr, ρ.node r (σ.node r' n) = ρ.node r n
  | ⟨span, e, ty⟩ => congrArg₂ (Node.mk span) (inside_absorb h hr e) (h.ty ty)

theorem inside_absorb (h : ρ.Absorbs σ) {r r' : Bool} (hr : r' = true → r = true) :
    ∀ e : Expr, ρ.inside r (σ.inside r' e) = ρ.inside r e
  | .literal _ => rfl
  | .ident i => congrArg Expr.ident (ident_absorb h hr i)
  | .call callee args => congrArg₂ Expr.call (node_absorb h hr callee) (nodes_absorb h hr args)
  | .conditional test consequent alternate =>
    (congr (congrArg₂ Expr.conditional (node_absorb h hr test) (stmt_absorb h hr consequent))
      (optionalStmt_absorb h hr alternate) :)
  | .member base property => congrArg₂ Expr.member (node_absorb h hr base) (name_absorb h property)
  | .index base position => congrArg₂ Expr.index (node_absorb h hr base) (node_absorb h hr position)
  | .function f => congrArg Expr.function (function_absorb h f)
  | .classDef c => congrArg Expr.classDef (classDef_absorb h c)
  | .assertion e ty => congrArg₂ Expr.assertion (node_absorb h hr e) (typeExpr_absorb h ty)
  | .throwing value => congrArg Expr.throwing (node_absorb h hr value)
  | .whileLoop test body =>
    congrArg₂ Expr.whileLoop (node_absorb h hr test) (stmts_absorb h hr body)
  | .forLoop bs test update body =>
    (congr (congr (congrArg₂ Expr.forLoop (bindings_absorb h hr bs) (optional_absorb h hr test))
      (optional_absorb h hr update)) (stmts_absorb h hr body) :)
  | .returning value => congrArg Expr.returning (optional_absorb h hr value)
  | .attempt body handler cleanup =>
    (congr (congrArg₂ Expr.attempt (stmts_absorb h hr body) (optionalHandler_absorb h hr handler))
      (optionalBody_absorb h hr cleanup) :)
  | .array items => congrArg Expr.array (nodes_absorb h hr items)
  | .object ps => congrArg Expr.object (properties_absorb h hr ps)
  | .assignment target value =>
    congrArg₂ Expr.assignment (node_absorb h hr target) (node_absorb h hr value)

theorem function_absorb (h : ρ.Absorbs σ) : ∀ f : Function, ρ.function (σ.function f) = ρ.function f
  | ⟨name, typeParams, ps, returns, body⟩ =>
    (congr (congr (congr (congrArg₂ Function.mk (optionalName_absorb h name)
      (names_absorb h typeParams)) (params_absorb h ps)) (optionalTypeExpr_absorb h returns))
      (stmts_absorb h id body) :)

theorem classDef_absorb (h : ρ.Absorbs σ) : ∀ c : Class, ρ.classDef (σ.classDef c) = ρ.classDef c
  | ⟨name, fields, ms⟩ =>
    (congr (congrArg₂ Class.mk (optionalName_absorb h name) (fieldDecls_absorb h fields))
      (methods_absorb h h.nested ms) :)

theorem nodes_absorb (h : ρ.Absorbs σ) {r r' : Bool} (hr : r' = true → r = true) :
    ∀ es : List (Node Expr), ρ.nodes r (σ.nodes r' es) = ρ.nodes r es
  | [] => rfl
  | e :: rest => congrArg₂ List.cons (node_absorb h hr e) (nodes_absorb h hr rest)

theorem optional_absorb (h : ρ.Absorbs σ) {r r' : Bool} (hr : r' = true → r = true) :
    ∀ e : Option (Node Expr), ρ.optional r (σ.optional r' e) = ρ.optional r e
  | none => rfl
  | some e => congrArg some (node_absorb h hr e)

theorem stmt_absorb (h : ρ.Absorbs σ) {r r' : Bool} (hr : r' = true → r = true) :
    ∀ n : Node Stmt, ρ.stmt r (σ.stmt r' n) = ρ.stmt r n
  | ⟨span, s, ty⟩ => congrArg₂ (Node.mk span) (insideStmt_absorb h hr s) (h.ty ty)

theorem insideStmt_absorb (h : ρ.Absorbs σ) {r r' : Bool} (hr : r' = true → r = true) :
    ∀ s : Stmt, ρ.insideStmt r (σ.insideStmt r' s) = ρ.insideStmt r s
  | .expr e => congrArg Stmt.expr (node_absorb h hr e)
  | .block body => congrArg Stmt.block (stmts_absorb h hr body)
  | .binding kind bs body =>
    congrArg₂ (Stmt.binding kind) (bindings_absorb h hr bs) (stmts_absorb h hr body)
  | .typeAlias name typeParams t =>
    (congr (congrArg₂ Stmt.typeAlias (name_absorb h name) (names_absorb h typeParams))
      (typeExpr_absorb h t) :)

theorem stmts_absorb (h : ρ.Absorbs σ) {r r' : Bool} (hr : r' = true → r = true) :
    ∀ body : List (Node Stmt), ρ.stmts r (σ.stmts r' body) = ρ.stmts r body
  | [] => rfl
  | n :: rest => congrArg₂ List.cons (stmt_absorb h hr n) (stmts_absorb h hr rest)

theorem optionalStmt_absorb (h : ρ.Absorbs σ) {r r' : Bool} (hr : r' = true → r = true) :
    ∀ n : Option (Node Stmt), ρ.optionalStmt r (σ.optionalStmt r' n) = ρ.optionalStmt r n
  | none => rfl
  | some n => congrArg some (stmt_absorb h hr n)

theorem optionalBody_absorb (h : ρ.Absorbs σ) {r r' : Bool} (hr : r' = true → r = true) :
    ∀ body : Option (List (Node Stmt)),
      ρ.optionalBody r (σ.optionalBody r' body) = ρ.optionalBody r body
  | none => rfl
  | some body => congrArg some (stmts_absorb h hr body)

theorem bindings_absorb (h : ρ.Absorbs σ) {r r' : Bool} (hr : r' = true → r = true) :
    ∀ bs : List Binding, ρ.bindings r (σ.bindings r' bs) = ρ.bindings r bs
  | [] => rfl
  | ⟨name, declaredAs, init⟩ :: rest =>
    congrArg₂ List.cons
      (congr (congrArg₂ Binding.mk (name_absorb h name) (optionalTypeExpr_absorb h declaredAs))
        (node_absorb h hr init))
      (bindings_absorb h hr rest)

theorem fieldDecls_absorb (h : ρ.Absorbs σ) :
    ∀ fs : List FieldDecl, ρ.fieldDecls (σ.fieldDecls fs) = ρ.fieldDecls fs
  | [] => rfl
  | ⟨name, declaredAs, init⟩ :: rest =>
    congrArg₂ List.cons
      (congr (congrArg₂ FieldDecl.mk (name_absorb h name) (optionalTypeExpr_absorb h declaredAs))
        (optional_absorb h id init))
      (fieldDecls_absorb h rest)

theorem method_absorb (h : ρ.Absorbs σ) {r r' : Bool} (hr : r' = true → r = true) :
    ∀ m : Method, ρ.method r (σ.method r' m) = ρ.method r m
  | ⟨name, kind, typeParams, ps, returns, body⟩ =>
    (congr (congr (congr (congr (congrArg (Method.mk · kind) (name_absorb h name))
      (names_absorb h typeParams)) (params_absorb h ps)) (optionalTypeExpr_absorb h returns))
      (stmts_absorb h hr body) :)

theorem methods_absorb (h : ρ.Absorbs σ) {r r' : Bool} (hr : r' = true → r = true) :
    ∀ ms : List (Node Method), ρ.methods r (σ.methods r' ms) = ρ.methods r ms
  | [] => rfl
  | ⟨span, m, ty⟩ :: rest =>
    congrArg₂ List.cons (congrArg₂ (Node.mk span) (method_absorb h hr m) (h.ty ty))
      (methods_absorb h hr rest)

theorem optionalHandler_absorb (h : ρ.Absorbs σ) {r r' : Bool} (hr : r' = true → r = true) :
    ∀ handler : Option Handler,
      ρ.optionalHandler r (σ.optionalHandler r' handler) = ρ.optionalHandler r handler
  | none => rfl
  | some ⟨param, body⟩ =>
    congrArg some (congrArg₂ Handler.mk (optionalName_absorb h param) (stmts_absorb h hr body))

theorem properties_absorb (h : ρ.Absorbs σ) {r r' : Bool} (hr : r' = true → r = true) :
    ∀ ps : List Property, ρ.properties r (σ.properties r' ps) = ρ.properties r ps
  | [] => rfl
  | ⟨key, value⟩ :: rest =>
    congrArg₂ List.cons (congrArg₂ Property.mk (name_absorb h key) (node_absorb h hr value))
      (properties_absorb h hr rest)

end

end Absorbs

/-! ## Relabelings that leave the rest alone -/

/-- The relabeling changes nothing but symbols in reach. -/
structure OnlyLinks : Prop where
  ty (slot : Option TypeId) : ρ.ty slot = slot
  nested : ρ.nested = false

section OnlyLinks

variable {ρ}

mutual

/-- Annotations have no references to link. -/
theorem typeExpr_eq (h : ρ.OnlyLinks) : ∀ t : Node TypeExpr, ρ.typeExpr t = t
  | ⟨span, t, ty⟩ => congrArg₂ (Node.mk span) (insideTypeExpr_eq h t) (h.ty ty)

theorem insideTypeExpr_eq (h : ρ.OnlyLinks) : ∀ t : TypeExpr, ρ.insideTypeExpr t = t
  | .keyword _ => rfl
  | .named _ => rfl
  | .literal _ => rfl
  | .array element => congrArg TypeExpr.array (typeExpr_eq h element)
  | .object fields => congrArg TypeExpr.object (typeFields_eq h fields)
  | .function params returns =>
    congrArg₂ TypeExpr.function (typeExprs_eq h params) (typeExpr_eq h returns)
  | .union members => congrArg TypeExpr.union (typeExprs_eq h members)
  | .intersection members => congrArg TypeExpr.intersection (typeExprs_eq h members)
  | .apply base args => congrArg₂ TypeExpr.apply (typeExpr_eq h base) (typeExprs_eq h args)

theorem typeExprs_eq (h : ρ.OnlyLinks) : ∀ ts : List (Node TypeExpr), ρ.typeExprs ts = ts
  | [] => rfl
  | t :: rest => congrArg₂ List.cons (typeExpr_eq h t) (typeExprs_eq h rest)

theorem typeFields_eq (h : ρ.OnlyLinks) : ∀ fs : List TypeField, ρ.typeFields fs = fs
  | [] => rfl
  | ⟨name, t⟩ :: rest =>
    congrArg₂ List.cons (congrArg (TypeField.mk name) (typeExpr_eq h t)) (typeFields_eq h rest)

end

theorem optionalTypeExpr_eq (h : ρ.OnlyLinks) (t : Option (Node TypeExpr)) :
    ρ.optionalTypeExpr t = t := by
  cases t with
  | none => rfl
  | some t => exact congrArg some (typeExpr_eq h t)

theorem name_eq (h : ρ.OnlyLinks) (n : Node Ident) : ρ.name n = n :=
  congrArg (Node.mk n.span n.value) (h.ty n.ty)

theorem names_eq (h : ρ.OnlyLinks) (ns : List (Node Ident)) : ρ.names ns = ns := by
  rw [names, funext (name_eq h)]
  exact List.map_id ns

theorem optionalName_eq (h : ρ.OnlyLinks) (n : Option (Node Ident)) : ρ.optionalName n = n := by
  cases n with
  | none => rfl
  | some n => exact congrArg some (name_eq h n)

/-- A relabeling that only links leaves parameters alone. -/
theorem params_eq (h : ρ.OnlyLinks) (ps : List Param) : ρ.params ps = ps := by
  induction ps with
  | nil => rfl
  | cons p rest ih =>
    exact congrArg₂ List.cons
      (congrArg₂ Param.mk (name_eq h p.name) (optionalTypeExpr_eq h p.declaredAs)) ih

mutual

/-- Out of reach, a relabeling that only links changes nothing. -/
theorem node_eq (h : ρ.OnlyLinks) : ∀ n : Node Expr, ρ.node false n = n
  | ⟨span, e, ty⟩ => congrArg₂ (Node.mk span) (inside_eq h e) (h.ty ty)

theorem inside_eq (h : ρ.OnlyLinks) : ∀ e : Expr, ρ.inside false e = e
  | .literal _ => rfl
  | .ident _ => congrArg Expr.ident (if_neg fun reached => Bool.false_ne_true reached.1)
  | .call callee args => congrArg₂ Expr.call (node_eq h callee) (nodes_eq h args)
  | .conditional test consequent alternate =>
    (congr (congrArg₂ Expr.conditional (node_eq h test) (stmt_eq h consequent))
      (optionalStmt_eq h alternate) :)
  | .member base property => congrArg₂ Expr.member (node_eq h base) (name_eq h property)
  | .index base position => congrArg₂ Expr.index (node_eq h base) (node_eq h position)
  | .function f => congrArg Expr.function (function_eq h f)
  | .classDef c => congrArg Expr.classDef (classDef_eq h c)
  | .assertion e ty => congrArg₂ Expr.assertion (node_eq h e) (typeExpr_eq h ty)
  | .throwing value => congrArg Expr.throwing (node_eq h value)
  | .whileLoop test body => congrArg₂ Expr.whileLoop (node_eq h test) (stmts_eq h body)
  | .forLoop bs test update body =>
    (congr (congr (congrArg₂ Expr.forLoop (bindings_eq h bs) (optional_eq h test))
      (optional_eq h update)) (stmts_eq h body) :)
  | .returning value => congrArg Expr.returning (optional_eq h value)
  | .attempt body handler cleanup =>
    (congr (congrArg₂ Expr.attempt (stmts_eq h body) (optionalHandler_eq h handler))
      (optionalBody_eq h cleanup) :)
  | .array items => congrArg Expr.array (nodes_eq h items)
  | .object ps => congrArg Expr.object (properties_eq h ps)
  | .assignment target value => congrArg₂ Expr.assignment (node_eq h target) (node_eq h value)

theorem function_eq (h : ρ.OnlyLinks) : ∀ f : Function, ρ.function f = f
  | ⟨name, typeParams, ps, returns, body⟩ =>
    (congr (congr (congr (congrArg₂ Function.mk (optionalName_eq h name) (names_eq h typeParams))
      (params_eq h ps)) (optionalTypeExpr_eq h returns)) (stmts_eq h body) :)

theorem classDef_eq (h : ρ.OnlyLinks) : ∀ c : Class, ρ.classDef c = c
  | ⟨name, fields, ms⟩ =>
    (congr (congrArg₂ Class.mk (optionalName_eq h name) (fieldDecls_eq h fields))
      ((congrArg (ρ.methods · ms) h.nested).trans (methods_eq h ms)) :)

theorem nodes_eq (h : ρ.OnlyLinks) : ∀ es : List (Node Expr), ρ.nodes false es = es
  | [] => rfl
  | e :: rest => congrArg₂ List.cons (node_eq h e) (nodes_eq h rest)

theorem optional_eq (h : ρ.OnlyLinks) : ∀ e : Option (Node Expr), ρ.optional false e = e
  | none => rfl
  | some e => congrArg some (node_eq h e)

theorem stmt_eq (h : ρ.OnlyLinks) : ∀ n : Node Stmt, ρ.stmt false n = n
  | ⟨span, s, ty⟩ => congrArg₂ (Node.mk span) (insideStmt_eq h s) (h.ty ty)

theorem insideStmt_eq (h : ρ.OnlyLinks) : ∀ s : Stmt, ρ.insideStmt false s = s
  | .expr e => congrArg Stmt.expr (node_eq h e)
  | .block body => congrArg Stmt.block (stmts_eq h body)
  | .binding kind bs body => congrArg₂ (Stmt.binding kind) (bindings_eq h bs) (stmts_eq h body)
  | .typeAlias name typeParams t =>
    (congr (congrArg₂ Stmt.typeAlias (name_eq h name) (names_eq h typeParams))
      (typeExpr_eq h t) :)

theorem stmts_eq (h : ρ.OnlyLinks) : ∀ body : List (Node Stmt), ρ.stmts false body = body
  | [] => rfl
  | n :: rest => congrArg₂ List.cons (stmt_eq h n) (stmts_eq h rest)

theorem optionalStmt_eq (h : ρ.OnlyLinks) :
    ∀ n : Option (Node Stmt), ρ.optionalStmt false n = n
  | none => rfl
  | some n => congrArg some (stmt_eq h n)

theorem optionalBody_eq (h : ρ.OnlyLinks) :
    ∀ body : Option (List (Node Stmt)), ρ.optionalBody false body = body
  | none => rfl
  | some body => congrArg some (stmts_eq h body)

theorem bindings_eq (h : ρ.OnlyLinks) : ∀ bs : List Binding, ρ.bindings false bs = bs
  | [] => rfl
  | ⟨name, declaredAs, init⟩ :: rest =>
    congrArg₂ List.cons
      (congr (congrArg₂ Binding.mk (name_eq h name) (optionalTypeExpr_eq h declaredAs))
        (node_eq h init))
      (bindings_eq h rest)

theorem fieldDecls_eq (h : ρ.OnlyLinks) : ∀ fs : List FieldDecl, ρ.fieldDecls fs = fs
  | [] => rfl
  | ⟨name, declaredAs, init⟩ :: rest =>
    congrArg₂ List.cons
      (congr (congrArg₂ FieldDecl.mk (name_eq h name) (optionalTypeExpr_eq h declaredAs))
        (optional_eq h init))
      (fieldDecls_eq h rest)

theorem method_eq (h : ρ.OnlyLinks) : ∀ m : Method, ρ.method false m = m
  | ⟨name, kind, typeParams, ps, returns, body⟩ =>
    (congr (congr (congr (congr (congrArg (Method.mk · kind) (name_eq h name))
      (names_eq h typeParams)) (params_eq h ps)) (optionalTypeExpr_eq h returns))
      (stmts_eq h body) :)

theorem methods_eq (h : ρ.OnlyLinks) : ∀ ms : List (Node Method), ρ.methods false ms = ms
  | [] => rfl
  | ⟨span, m, ty⟩ :: rest =>
    congrArg₂ List.cons (congrArg₂ (Node.mk span) (method_eq h m) (h.ty ty)) (methods_eq h rest)

theorem optionalHandler_eq (h : ρ.OnlyLinks) :
    ∀ handler : Option Handler, ρ.optionalHandler false handler = handler
  | none => rfl
  | some ⟨param, body⟩ =>
    congrArg some (congrArg₂ Handler.mk (optionalName_eq h param) (stmts_eq h body))

theorem properties_eq (h : ρ.OnlyLinks) : ∀ ps : List Property, ρ.properties false ps = ps
  | [] => rfl
  | ⟨key, value⟩ :: rest =>
    congrArg₂ List.cons (congrArg₂ Property.mk (name_eq h key) (node_eq h value))
      (properties_eq h rest)

end

end OnlyLinks

end Relabeling

/-! ## The slots of a relabeled tree -/

namespace Slots

variable (ρ : Relabeling)

/-- Two stretches of slots that are each changed alike. -/
theorem append_relabeled {xs ys xs' ys' : List (Option TypeId)} (hx : xs' = xs.map ρ.ty)
    (hy : ys' = ys.map ρ.ty) : xs' ++ ys' = (xs ++ ys).map ρ.ty := by
  rw [hx, hy, List.map_append]

/-- One slot more on either side. -/
theorem cons_relabeled {slot : Option TypeId} {xs xs' : List (Option TypeId)}
    (h : xs' = xs.map ρ.ty) : ρ.ty slot :: xs' = (slot :: xs).map ρ.ty := by
  rw [h, List.map_cons]

theorem names_relabeled (ns : List (Node Ident)) : names (ρ.names ns) = (names ns).map ρ.ty := by
  simp only [names, Relabeling.names, List.map_map]
  rfl

theorem optionalName_relabeled (n : Option (Node Ident)) :
    optionalName (ρ.optionalName n) = (optionalName n).map ρ.ty := by
  cases n <;> rfl

mutual

/-- The slots of a relabeled annotation are the relabeled slots, in the same places. -/
theorem typeExpr_relabeled : ∀ t : Node TypeExpr, typeExpr (ρ.typeExpr t) = (typeExpr t).map ρ.ty
  | ⟨_, t, _⟩ => cons_relabeled ρ (insideTypeExpr_relabeled t)

theorem insideTypeExpr_relabeled :
    ∀ t : TypeExpr, insideTypeExpr (ρ.insideTypeExpr t) = (insideTypeExpr t).map ρ.ty
  | .keyword _ => rfl
  | .named _ => rfl
  | .literal _ => rfl
  | .array element => typeExpr_relabeled element
  | .object fields => typeFields_relabeled fields
  | .function params returns =>
    append_relabeled ρ (typeExprs_relabeled params) (typeExpr_relabeled returns)
  | .union members => typeExprs_relabeled members
  | .intersection members => typeExprs_relabeled members
  | .apply base args => append_relabeled ρ (typeExpr_relabeled base) (typeExprs_relabeled args)

theorem typeExprs_relabeled :
    ∀ ts : List (Node TypeExpr), typeExprs (ρ.typeExprs ts) = (typeExprs ts).map ρ.ty
  | [] => rfl
  | t :: rest => append_relabeled ρ (typeExpr_relabeled t) (typeExprs_relabeled rest)

theorem typeFields_relabeled :
    ∀ fs : List TypeField, typeFields (ρ.typeFields fs) = (typeFields fs).map ρ.ty
  | [] => rfl
  | ⟨_, t⟩ :: rest => append_relabeled ρ (typeExpr_relabeled t) (typeFields_relabeled rest)

end

theorem optionalTypeExpr_relabeled (t : Option (Node TypeExpr)) :
    optionalTypeExpr (ρ.optionalTypeExpr t) = (optionalTypeExpr t).map ρ.ty := by
  cases t with
  | none => rfl
  | some t => exact typeExprs_relabeled ρ [t]

/-- The slots of relabeled parameters are the relabeled slots. -/
theorem params_relabeled (ps : List Param) : params (ρ.params ps) = (params ps).map ρ.ty := by
  induction ps with
  | nil => rfl
  | cons p rest ih =>
    exact cons_relabeled ρ (append_relabeled ρ (optionalTypeExpr_relabeled ρ p.declaredAs) ih)

mutual

/-- The slots of a relabeled expression are the relabeled slots, in the same places. -/
theorem node_relabeled (r : Bool) : ∀ n : Node Expr, node (ρ.node r n) = (node n).map ρ.ty
  | ⟨_, e, _⟩ => cons_relabeled ρ (inside_relabeled r e)

theorem inside_relabeled (r : Bool) : ∀ e : Expr, inside (ρ.inside r e) = (inside e).map ρ.ty
  | .literal _ => rfl
  | .ident _ => rfl
  | .call callee args => append_relabeled ρ (node_relabeled r callee) (nodes_relabeled r args)
  | .conditional test consequent alternate =>
    append_relabeled ρ (node_relabeled r test)
      (append_relabeled ρ (stmt_relabeled r consequent) (optionalStmt_relabeled r alternate))
  | .member base _ => append_relabeled ρ (node_relabeled r base) rfl
  | .index base position => append_relabeled ρ (node_relabeled r base) (node_relabeled r position)
  | .function f => function_relabeled f
  | .classDef c => classDef_relabeled c
  | .assertion e ty => append_relabeled ρ (node_relabeled r e) (typeExpr_relabeled ρ ty)
  | .throwing value => node_relabeled r value
  | .whileLoop test body => append_relabeled ρ (node_relabeled r test) (stmts_relabeled r body)
  | .forLoop bs test update body =>
    append_relabeled ρ (bindings_relabeled r bs)
      (append_relabeled ρ (optional_relabeled r test)
        (append_relabeled ρ (optional_relabeled r update) (stmts_relabeled r body)))
  | .returning value => optional_relabeled r value
  | .attempt body handler cleanup =>
    append_relabeled ρ (stmts_relabeled r body)
      (append_relabeled ρ (optionalHandler_relabeled r handler) (optionalBody_relabeled r cleanup))
  | .array items => nodes_relabeled r items
  | .object ps => properties_relabeled r ps
  | .assignment target value =>
    append_relabeled ρ (node_relabeled r target) (node_relabeled r value)

theorem function_relabeled : ∀ f : Function, function (ρ.function f) = (function f).map ρ.ty
  | ⟨name, typeParams, ps, returns, body⟩ =>
    append_relabeled ρ (optionalName_relabeled ρ name)
      (append_relabeled ρ (names_relabeled ρ typeParams)
        (append_relabeled ρ (params_relabeled ρ ps)
          (append_relabeled ρ (optionalTypeExpr_relabeled ρ returns) (stmts_relabeled false body))))

theorem classDef_relabeled : ∀ c : Class, classDef (ρ.classDef c) = (classDef c).map ρ.ty
  | ⟨name, fields, ms⟩ =>
    append_relabeled ρ (optionalName_relabeled ρ name)
      (append_relabeled ρ (fieldDecls_relabeled fields) (methods_relabeled ρ.nested ms))

theorem nodes_relabeled (r : Bool) :
    ∀ es : List (Node Expr), nodes (ρ.nodes r es) = (nodes es).map ρ.ty
  | [] => rfl
  | e :: rest => append_relabeled ρ (node_relabeled r e) (nodes_relabeled r rest)

theorem optional_relabeled (r : Bool) :
    ∀ e : Option (Node Expr), optional (ρ.optional r e) = (optional e).map ρ.ty
  | none => rfl
  | some e => node_relabeled r e

theorem stmt_relabeled (r : Bool) : ∀ n : Node Stmt, stmt (ρ.stmt r n) = (stmt n).map ρ.ty
  | ⟨_, s, _⟩ => cons_relabeled ρ (insideStmt_relabeled r s)

theorem insideStmt_relabeled (r : Bool) :
    ∀ s : Stmt, insideStmt (ρ.insideStmt r s) = (insideStmt s).map ρ.ty
  | .expr e => node_relabeled r e
  | .block body => stmts_relabeled r body
  | .binding _ bs body => append_relabeled ρ (bindings_relabeled r bs) (stmts_relabeled r body)
  | .typeAlias _ typeParams t =>
    cons_relabeled ρ (append_relabeled ρ (names_relabeled ρ typeParams) (typeExpr_relabeled ρ t))

theorem stmts_relabeled (r : Bool) :
    ∀ body : List (Node Stmt), stmts (ρ.stmts r body) = (stmts body).map ρ.ty
  | [] => rfl
  | n :: rest => append_relabeled ρ (stmt_relabeled r n) (stmts_relabeled r rest)

theorem optionalStmt_relabeled (r : Bool) :
    ∀ n : Option (Node Stmt), optionalStmt (ρ.optionalStmt r n) = (optionalStmt n).map ρ.ty
  | none => rfl
  | some n => stmt_relabeled r n

theorem optionalBody_relabeled (r : Bool) : ∀ body : Option (List (Node Stmt)),
    optionalBody (ρ.optionalBody r body) = (optionalBody body).map ρ.ty
  | none => rfl
  | some body => stmts_relabeled r body

theorem bindings_relabeled (r : Bool) :
    ∀ bs : List Binding, bindings (ρ.bindings r bs) = (bindings bs).map ρ.ty
  | [] => rfl
  | ⟨_, declaredAs, init⟩ :: rest =>
    cons_relabeled ρ (append_relabeled ρ (optionalTypeExpr_relabeled ρ declaredAs)
      (append_relabeled ρ (node_relabeled r init) (bindings_relabeled r rest)))

theorem fieldDecls_relabeled :
    ∀ fs : List FieldDecl, fieldDecls (ρ.fieldDecls fs) = (fieldDecls fs).map ρ.ty
  | [] => rfl
  | ⟨_, declaredAs, init⟩ :: rest =>
    cons_relabeled ρ (append_relabeled ρ (optionalTypeExpr_relabeled ρ declaredAs)
      (append_relabeled ρ (optional_relabeled false init) (fieldDecls_relabeled rest)))

theorem method_relabeled (r : Bool) : ∀ m : Method, method (ρ.method r m) = (method m).map ρ.ty
  | ⟨_, _, typeParams, ps, returns, body⟩ =>
    cons_relabeled ρ (append_relabeled ρ (names_relabeled ρ typeParams)
      (append_relabeled ρ (params_relabeled ρ ps)
        (append_relabeled ρ (optionalTypeExpr_relabeled ρ returns) (stmts_relabeled r body))))

theorem methods_relabeled (r : Bool) :
    ∀ ms : List (Node Method), methods (ρ.methods r ms) = (methods ms).map ρ.ty
  | [] => rfl
  | ⟨_, m, _⟩ :: rest =>
    cons_relabeled ρ (append_relabeled ρ (method_relabeled r m) (methods_relabeled r rest))

theorem optionalHandler_relabeled (r : Bool) : ∀ handler : Option Handler,
    optionalHandler (ρ.optionalHandler r handler) = (optionalHandler handler).map ρ.ty
  | none => rfl
  | some ⟨param, body⟩ =>
    append_relabeled ρ (optionalName_relabeled ρ param) (stmts_relabeled r body)

theorem properties_relabeled (r : Bool) :
    ∀ ps : List Property, properties (ρ.properties r ps) = (properties ps).map ρ.ty
  | [] => rfl
  | ⟨_, value⟩ :: rest =>
    cons_relabeled ρ (append_relabeled ρ (node_relabeled r value) (properties_relabeled r rest))

end

end Slots
end StructuralTyping
