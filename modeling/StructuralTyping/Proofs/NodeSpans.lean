import StructuralTyping.Proofs.OwnExpressions
import StructuralTyping.Proofs.ProgramParts

/-! # Where the nodes of a tree stand

Every node of a tree has a span: expressions and statements, and also the nodes that belong to one
of them without being a part of their own, which are names, annotations and methods.  `Part.spans`
are the spans of a part and of the nodes that belong to it, and `Stmt.nodeSpans` those of a whole
statement.

The own expressions of a body are among its parts, and their slots among its slots
(`Own.within_stmts`).
-/
namespace StructuralTyping

namespace Spans

/-- The spans of declared names. -/
def names (ns : List (Node Ident)) : List Span := ns.map (·.span)

mutual

/-- The spans of the nodes of an annotation. -/
def typeExpr : Node TypeExpr → List Span
  | ⟨span, t, _⟩ => span :: insideTypeExpr t

/-- The spans inside an annotation, its own apart. -/
def insideTypeExpr : TypeExpr → List Span
  | .keyword _ => []
  | .named _ => []
  | .literal _ => []
  | .array element => typeExpr element
  | .object fields => typeFields fields
  | .function params returns => typeExprs params ++ typeExpr returns
  | .union members => typeExprs members
  | .intersection members => typeExprs members
  | .apply base args => typeExpr base ++ typeExprs args

/-- The spans of annotations in a list. -/
def typeExprs : List (Node TypeExpr) → List Span
  | [] => []
  | t :: rest => typeExpr t ++ typeExprs rest

/-- The spans of the annotations of fields, whose names are no nodes. -/
def typeFields : List TypeField → List Span
  | [] => []
  | ⟨_, t⟩ :: rest => typeExpr t ++ typeFields rest

end

/-- The spans of an annotation that may be absent. -/
def optionalTypeExpr : Option (Node TypeExpr) → List Span
  | none => []
  | some t => typeExpr t

/-- The spans of parameters: their names and their annotations. -/
def params : List Param → List Span
  | [] => []
  | p :: rest => p.name.span :: (optionalTypeExpr p.declaredAs ++ params rest)

/-- The spans of what a function or method declares. -/
def signature (typeParams : List (Node Ident)) (ps : List Param)
    (returns : Option (Node TypeExpr)) : List Span :=
  names typeParams ++ (params ps ++ optionalTypeExpr returns)

/-- The spans of the names and annotations of bindings; initial values are parts of their own. -/
def bindings : List Binding → List Span
  | [] => []
  | b :: rest => b.name.span :: (optionalTypeExpr b.declaredAs ++ bindings rest)

/-- The spans of the names and annotations of declared fields. -/
def fieldDecls : List FieldDecl → List Span
  | [] => []
  | f :: rest => f.name.span :: (optionalTypeExpr f.declaredAs ++ fieldDecls rest)

/-- The spans of methods: their nodes, their names and what they declare. -/
def methods : List (Node Method) → List Span
  | [] => []
  | m :: rest =>
    m.span :: m.value.name.span ::
      (signature m.value.typeParams m.value.params m.value.returns ++ methods rest)

/-- The spans of the nodes that belong to an expression. -/
def inside : Expr → List Span
  | .member _ property => [property.span]
  | .function f => names f.name.toList ++ signature f.typeParams f.params f.returns
  | .classDef c => names c.name.toList ++ (fieldDecls c.fields ++ methods c.methods)
  | .assertion _ ty => typeExpr ty
  | .forLoop bs _ _ _ => bindings bs
  | .attempt _ (some handler) _ => names handler.param.toList
  | .object ps => ps.map (·.key.span)
  | _ => []

/-- The spans of the nodes that belong to a statement. -/
def insideStmt : Stmt → List Span
  | .binding _ bs _ => bindings bs
  | .typeAlias name typeParams t => name.span :: (names typeParams ++ typeExpr t)
  | _ => []

end Spans

/-- The spans of a part and of the nodes that belong to it. -/
def Part.spans : Part → List Span
  | .expr n => n.span :: Spans.inside n.value
  | .stmt n => n.span :: Spans.insideStmt n.value

/-- The spans of all nodes of a statement, those inside it included. -/
def Stmt.nodeSpans (n : Node Stmt) : List Span := (Parts.stmt n).flatMap Part.spans

/-! ## The own expressions of a body -/

namespace Own

/-- The expression is one of the parts, and its slots are among the slots. -/
structure Within (parts : List Part) (slots : List (Option TypeId)) (e : Node Expr) : Prop where
  part : .expr e ∈ parts
  slots : Slots.node e ⊆ slots

namespace Within

variable {parts parts' : List Part} {slots slots' : List (Option TypeId)} {e : Node Expr}

/-- An expression is within itself. -/
theorem self : Within (Parts.node e) (Slots.node e) e := by
  obtain ⟨span, e, ty⟩ := e
  exact ⟨List.mem_cons_self, List.Subset.refl _⟩

theorem left (h : Within parts slots e) : Within (parts ++ parts') (slots ++ slots') e :=
  ⟨List.mem_append_left _ h.part, List.subset_append_of_subset_left _ h.slots⟩

theorem right (h : Within parts' slots' e) : Within (parts ++ parts') (slots ++ slots') e :=
  ⟨List.mem_append_right _ h.part, List.subset_append_of_subset_right _ h.slots⟩

/-- The slots in front of those of the parts do not matter. -/
theorem behind (more : List (Option TypeId)) (h : Within parts slots e) :
    Within parts (more ++ slots) e :=
  ⟨h.part, List.subset_append_of_subset_right _ h.slots⟩

/-- Nor do those behind. -/
theorem before (more : List (Option TypeId)) (h : Within parts slots e) :
    Within parts (slots ++ more) e :=
  ⟨h.part, List.subset_append_of_subset_left _ h.slots⟩

/-- One part more in front. -/
theorem cons {p : Part} {slot : Option TypeId} (h : Within parts slots e) :
    Within (p :: parts) (slot :: slots) e :=
  ⟨List.mem_cons_of_mem _ h.part, List.subset_cons_of_subset _ h.slots⟩

end Within

/-- The expressions of two rows are within the two together. -/
theorem within_append {es fs : List (Node Expr)} {parts parts' : List Part}
    {slots slots' : List (Option TypeId)} (h : ∀ e ∈ es, Within parts slots e)
    (h' : ∀ e ∈ fs, Within parts' slots' e) :
    ∀ e ∈ es ++ fs, Within (parts ++ parts') (slots ++ slots') e := by
  intro e he
  rcases List.mem_append.mp he with he | he
  · exact (h e he).left
  · exact (h' e he).right

mutual

/-- The own expressions of an expression are among its parts, with their slots. -/
theorem within_node : ∀ n : Node Expr, ∀ e ∈ node n, Within (Parts.node n) (Slots.node n) e
  | ⟨span, form, ty⟩, e, he => by
    rcases List.mem_cons.mp he with rfl | he
    · exact .self
    · exact (within_inside form e he).cons

theorem within_inside : ∀ form : Expr, ∀ e ∈ inside form,
    Within (Parts.inside form) (Slots.inside form) e
  | .literal _ => List.forall_mem_nil _
  | .ident _ => List.forall_mem_nil _
  | .call callee args => within_append (within_node callee) (within_nodes args)
  | .conditional test consequent alternate =>
    within_append (within_node test)
      (within_append (within_stmt consequent) (within_optionalStmt alternate))
  | .member base property => fun e he => (within_node base e he).before [property.ty]
  | .index base position => within_append (within_node base) (within_node position)
  | .function _ => List.forall_mem_nil _
  | .classDef _ => List.forall_mem_nil _
  | .assertion inner ty => fun e he => (within_node inner e he).before (Slots.typeExpr ty)
  | .throwing value => within_node value
  | .whileLoop test body => within_append (within_node test) (within_stmts body)
  | .forLoop bs test update body =>
    within_append (within_bindings bs)
      (within_append (within_optional test)
        (within_append (within_optional update) (within_stmts body)))
  | .returning value => within_optional value
  | .attempt body handler cleanup =>
    within_append (within_stmts body)
      (within_append (within_optionalHandler handler) (within_optionalBody cleanup))
  | .array items => within_nodes items
  | .object ps => within_properties ps
  | .assignment target value => within_append (within_node target) (within_node value)

theorem within_nodes : ∀ es : List (Node Expr), ∀ e ∈ nodes es,
    Within (Parts.nodes es) (Slots.nodes es) e
  | [] => List.forall_mem_nil _
  | e :: rest => within_append (within_node e) (within_nodes rest)

theorem within_optional : ∀ value : Option (Node Expr), ∀ e ∈ optional value,
    Within (Parts.optional value) (Slots.optional value) e
  | none => List.forall_mem_nil _
  | some e => within_node e

theorem within_stmt : ∀ n : Node Stmt, ∀ e ∈ stmt n, Within (Parts.stmt n) (Slots.stmt n) e
  | ⟨_, s, _⟩, e, he => (within_insideStmt s e he).cons

theorem within_insideStmt : ∀ s : Stmt, ∀ e ∈ insideStmt s,
    Within (Parts.insideStmt s) (Slots.insideStmt s) e
  | .expr e => within_node e
  | .block body => within_stmts body
  | .binding _ bs body => within_append (within_bindings bs) (within_stmts body)
  | .typeAlias _ _ _ => List.forall_mem_nil _

theorem within_stmts : ∀ body : List (Node Stmt), ∀ e ∈ stmts body,
    Within (Parts.stmts body) (Slots.stmts body) e
  | [] => List.forall_mem_nil _
  | n :: rest => within_append (within_stmt n) (within_stmts rest)

theorem within_optionalStmt : ∀ n : Option (Node Stmt), ∀ e ∈ optionalStmt n,
    Within (Parts.optionalStmt n) (Slots.optionalStmt n) e
  | none => List.forall_mem_nil _
  | some n => within_stmt n

theorem within_optionalBody : ∀ body : Option (List (Node Stmt)), ∀ e ∈ optionalBody body,
    Within (Parts.optionalBody body) (Slots.optionalBody body) e
  | none => List.forall_mem_nil _
  | some body => within_stmts body

theorem within_bindings : ∀ bs : List Binding, ∀ e ∈ bindings bs,
    Within (Parts.bindings bs) (Slots.bindings bs) e
  | [] => List.forall_mem_nil _
  | ⟨name, declaredAs, init⟩ :: rest => fun e he =>
    (within_append (within_node init) (within_bindings rest) e he).behind
      (name.ty :: Slots.optionalTypeExpr declaredAs)

theorem within_optionalHandler : ∀ handler : Option Handler, ∀ e ∈ optionalHandler handler,
    Within (Parts.optionalHandler handler) (Slots.optionalHandler handler) e
  | none => List.forall_mem_nil _
  | some ⟨param, body⟩ => fun e he => (within_stmts body e he).behind (Slots.optionalName param)

theorem within_properties : ∀ ps : List Property, ∀ e ∈ properties ps,
    Within (Parts.properties ps) (Slots.properties ps) e
  | [] => List.forall_mem_nil _
  | ⟨key, value⟩ :: rest => fun e he =>
    (within_append (within_node value) (within_properties rest) e he).behind [key.ty]

end

end Own
end StructuralTyping
