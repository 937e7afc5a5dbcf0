import StructuralTyping.Syntax.SelfReference
import StructuralTyping.Proofs.TypeSlots

/-! # What linking leaves alone

When a class is done, the identifiers `self` in its methods get the symbol of the instance
(`SelfReference.link`).  Nothing else of the tree changes.  `Unlinked` is a tree without the symbols
of its identifiers; a tour whose visitor keeps the type slots does not change it
(`Tour.unlinked_stmts`), so whatever can be read off the unlinked tree is the same before and after
linking: `SelfReference.unlinked_link`, and for the type slots `SelfReference.slots_link`.
-/
namespace StructuralTyping

/-! ## Trees without symbols -/

namespace Unlinked

mutual

/-- An expression without the symbols of its identifiers. -/
def node : Node Expr → Node Expr
  | ⟨span, e, ty⟩ => ⟨span, inside e, ty⟩

/-- What the expression consists of; declared names keep their symbols. -/
def inside : Expr → Expr
  | .literal v => .literal v
  | .ident i => .ident { i with symbol := none }
  | .call callee args => .call (node callee) (nodes args)
  | .conditional test consequent alternate =>
    .conditional (node test) (stmt consequent) (optionalStmt alternate)
  | .member base property => .member (node base) property
  | .index base position => .index (node base) (node position)
  | .function ⟨name, typeParams, params, returns, body⟩ =>
    .function ⟨name, typeParams, params, returns, stmts body⟩
  | .classDef ⟨name, fields, ms⟩ => .classDef ⟨name, fieldDecls fields, methods ms⟩
  | .assertion e ty => .assertion (node e) ty
  | .throwing value => .throwing (node value)
  | .whileLoop test body => .whileLoop (node test) (stmts body)
  | .forLoop bs test update body =>
    .forLoop (bindings bs) (optional test) (optional update) (stmts body)
  | .returning value => .returning (optional value)
  | .attempt body handler cleanup =>
    .attempt (stmts body) (optionalHandler handler) (optionalBody cleanup)
  | .array items => .array (nodes items)
  | .object ps => .object (properties ps)
  | .assignment target value => .assignment (node target) (node value)

/-- Expressions in a list. -/
def nodes : List (Node Expr) → List (Node Expr)
  | [] => []
  | e :: rest => node e :: nodes rest

/-- An expression that may be absent. -/
def optional : Option (Node Expr) → Option (Node Expr)
  | none => none
  | some e => some (node e)

/-- A statement. -/
def stmt : Node Stmt → Node Stmt
  | ⟨span, .expr e, ty⟩ => ⟨span, .expr (node e), ty⟩
  | ⟨span, .block body, ty⟩ => ⟨span, .block (stmts body), ty⟩
  | ⟨span, .binding kind bs body, ty⟩ => ⟨span, .binding kind (bindings bs) (stmts body), ty⟩
  | ⟨span, .typeAlias name typeParams t, ty⟩ => ⟨span, .typeAlias name typeParams t, ty⟩

/-- Statements in a list. -/
def stmts : List (Node Stmt) → List (Node Stmt)
  | [] => []
  | s :: rest => stmt s :: stmts rest

/-- A statement that may be absent. -/
def optionalStmt : Option (Node Stmt) → Option (Node Stmt)
  | none => none
  | some s => some (stmt s)

/-- A body that may be absent. -/
def optionalBody : Option (List (Node Stmt)) → Option (List (Node Stmt))
  | none => none
  | some body => some (stmts body)

/-- The initial values of bindings. -/
def bindings : List Binding → List Binding
  | [] => []
  | ⟨name, declaredAs, init⟩ :: rest => ⟨name, declaredAs, node init⟩ :: bindings rest

/-- The initial values of declared fields. -/
def fieldDecls : List FieldDecl → List FieldDecl
  | [] => []
  | ⟨name, declaredAs, init⟩ :: rest => ⟨name, declaredAs, optional init⟩ :: fieldDecls rest

/-- The bodies of methods. -/
def methods : List (Node Method) → List (Node Method)
  | [] => []
  | ⟨span, ⟨name, kind, typeParams, params, returns, body⟩, ty⟩ :: rest =>
    ⟨span, ⟨name, kind, typeParams, params, returns, stmts body⟩, ty⟩ :: methods rest

/-- The body of a handler that may be absent. -/
def optionalHandler : Option Handler → Option Handler
  | none => none
  | some ⟨param, body⟩ => some ⟨param, stmts body⟩

/-- The values of an object. -/
def properties : List Property → List Property
  | [] => []
  | ⟨key, value⟩ :: rest => ⟨key, node value⟩ :: properties rest

end

/-- Without symbols there is no telling which one an expression had. -/
@[simp] theorem inside_withSymbol (symbol : Option Symbol) (e : Expr) :
    inside (e.withSymbol symbol) = inside e := by
  cases e <;> rfl

end Unlinked

/-! ## Tours that keep the type slots -/

/-- The visitor may give an identifier another symbol, but leaves type slots as they are. -/
structure Visitor.KeepsTypes {σ ε : Type} (visit : Visitor σ ε) : Prop where
  reply : ∀ n s r s', visit n s = (.ok r, s') → r.ty = n.ty
  refusal : ∀ n s x s', visit n s = (.error x, s') → x.ty = n.ty

/-- What is read off a whole is unchanged if it is unchanged for both of its parts, whether or not
the second one was worked on. -/
theorem Edit.andThen_unchanged {σ ε τ υ ω α β κ μ ν : Type} {first : Edit σ ε τ α} {rest : υ}
    {next : α → σ → Edit σ ε υ β} {build : τ → υ → ω} {view : ω → κ} (view₁ : τ → μ) (view₂ : υ → ν)
    {t : τ} (h₁ : view₁ first.tree = view₁ t) (h₂ : ∀ a s, view₂ (next a s).tree = view₂ rest)
    (whole : ∀ t' u', view₁ t' = view₁ t → view₂ u' = view₂ rest →
      view (build t' u') = view (build t rest)) :
    view (first.andThen rest next build).tree = view (build t rest) := by
  unfold Edit.andThen
  split
  · exact whole _ _ h₁ (h₂ _ _)
  · exact whole _ _ h₁ rfl

namespace Tour

variable {σ ε : Type} {visit : Visitor σ ε}

mutual

/-- A visitor that keeps types changes symbols only. -/
theorem unlinked_node (keeps : visit.KeepsTypes) :
    ∀ (e : Node Expr) (s : σ), Unlinked.node (node visit e s).tree = Unlinked.node e
  | ⟨span, e, ty⟩, s => by
    unfold node
    split
    · rename_i x s' h
      have hty : x.ty = ty := keeps.refusal _ _ _ _ h
      simp [Unlinked.node, hty, Edit.fail]
    · rename_i reply s' h
      have hty : reply.ty = ty := keeps.reply _ _ _ _ h
      split
      · simp [Unlinked.node, hty, unlinked_inside keeps e s']
      · simp [Unlinked.node, hty, Edit.succeed]

theorem unlinked_inside (keeps : visit.KeepsTypes) :
    ∀ (e : Expr) (s : σ), Unlinked.inside (inside visit e s).tree = Unlinked.inside e
  | .literal _, _ => rfl
  | .ident _, _ => rfl
  | .call callee args, s =>
    Edit.andThen_unchanged Unlinked.node Unlinked.nodes (unlinked_node keeps callee s)
      (fun _ => unlinked_nodes keeps args) fun _ _ h₁ h₂ => by simp only [Unlinked.inside, h₁, h₂]
  | .conditional test consequent alternate, s =>
    Edit.andThen_unchanged Unlinked.node (Prod.map Unlinked.stmt Unlinked.optionalStmt)
      (unlinked_node keeps test s)
      (fun _ s =>
        Edit.andThen_unchanged Unlinked.stmt Unlinked.optionalStmt
          (unlinked_stmt keeps consequent s) (fun _ => unlinked_optionalStmt keeps alternate)
          fun _ _ h₁ h₂ => by
            simp only [Prod.map, h₁, h₂])
      fun _ _ h₁ h₂ => by
        obtain ⟨h₂, h₃⟩ := Prod.mk.inj h₂
        simp only [Unlinked.inside, h₁, h₂, h₃]
  | .member base _, s => by
    simp [inside, Unlinked.inside, unlinked_node keeps base s]
  | .index base position, s =>
    Edit.andThen_unchanged Unlinked.node Unlinked.node (unlinked_node keeps base s)
      (fun _ => unlinked_node keeps position) fun _ _ h₁ h₂ => by
        simp only [Unlinked.inside, h₁, h₂]
  | .function ⟨_, _, _, _, body⟩, s => by
    simp [inside, Unlinked.inside, unlinked_stmts keeps body s]
  | .classDef ⟨_, fields, ms⟩, s =>
    Edit.andThen_unchanged Unlinked.fieldDecls Unlinked.methods (unlinked_fieldDecls keeps fields s)
      (fun _ => unlinked_methods keeps ms) fun _ _ h₁ h₂ => by
        simp only [Unlinked.inside, h₁, h₂]
  | .assertion e _, s => by
    simp [inside, Unlinked.inside, unlinked_node keeps e s]
  | .throwing value, s => by
    simp [inside, Unlinked.inside, unlinked_node keeps value s]
  | .whileLoop test body, s =>
    Edit.andThen_unchanged Unlinked.node Unlinked.stmts (unlinked_node keeps test s)
      (fun _ => unlinked_stmts keeps body) fun _ _ h₁ h₂ => by
        simp only [Unlinked.inside, h₁, h₂]
  | .forLoop bs test update body, s =>
    Edit.andThen_unchanged Unlinked.bindings
      (Prod.map Unlinked.optional (Prod.map Unlinked.optional Unlinked.stmts))
      (unlinked_bindings keeps bs s)
      (fun _ s =>
        Edit.andThen_unchanged Unlinked.optional (Prod.map Unlinked.optional Unlinked.stmts)
          (unlinked_optional keeps test s)
          (fun _ s =>
            Edit.andThen_unchanged Unlinked.optional Unlinked.stmts
              (unlinked_optional keeps update s) (fun _ => unlinked_stmts keeps body)
              fun _ _ h₁ h₂ => by simp only [Prod.map, h₁, h₂])
          fun _ _ h₁ h₂ => Prod.ext h₁ h₂)
      fun _ _ h₁ h₂ => by
        obtain ⟨h₂, h₃⟩ := Prod.mk.inj h₂
        obtain ⟨h₃, h₄⟩ := Prod.mk.inj h₃
        simp only [Unlinked.inside, h₁, h₂, h₃, h₄]
  | .returning value, s => by
    simp [inside, Unlinked.inside, unlinked_optional keeps value s]
  | .attempt body handler cleanup, s =>
    Edit.andThen_unchanged Unlinked.stmts (Prod.map Unlinked.optionalHandler Unlinked.optionalBody)
      (unlinked_stmts keeps body s)
      (fun _ s =>
        Edit.andThen_unchanged Unlinked.optionalHandler Unlinked.optionalBody
          (unlinked_optionalHandler keeps handler s) (fun _ => unlinked_optionalBody keeps cleanup)
          fun _ _ h₁ h₂ => by simp only [Prod.map, h₁, h₂])
      fun _ _ h₁ h₂ => by
        obtain ⟨h₂, h₃⟩ := Prod.mk.inj h₂
        simp only [Unlinked.inside, h₁, h₂, h₃]
  | .array items, s => by
    simp [inside, Unlinked.inside, unlinked_nodes keeps items s]
  | .object ps, s => by
    simp [inside, Unlinked.inside, unlinked_properties keeps ps s]
  | .assignment target value, s =>
    Edit.andThen_unchanged Unlinked.node Unlinked.node (unlinked_node keeps target s)
      (fun _ => unlinked_node keeps value) fun _ _ h₁ h₂ => by
        simp only [Unlinked.inside, h₁, h₂]

theorem unlinked_nodes (keeps : visit.KeepsTypes) :
    ∀ (es : List (Node Expr)) (s : σ), Unlinked.nodes (nodes visit es s).tree = Unlinked.nodes es
  | [], _ => rfl
  | e :: rest, s =>
    Edit.andThen_unchanged Unlinked.node Unlinked.nodes (unlinked_node keeps e s)
      (fun _ => unlinked_nodes keeps rest) fun _ _ h₁ h₂ => by simp only [Unlinked.nodes, h₁, h₂]

theorem unlinked_optional (keeps : visit.KeepsTypes) :
    ∀ (e : Option (Node Expr)) (s : σ),
      Unlinked.optional (optional visit e s).tree = Unlinked.optional e
  | none, _ => rfl
  | some e, s => by simp [optional, Unlinked.optional, unlinked_node keeps e s]

theorem unlinked_stmt (keeps : visit.KeepsTypes) :
    ∀ (n : Node Stmt) (s : σ), Unlinked.stmt (stmt visit n s).tree = Unlinked.stmt n
  | ⟨_, .expr e, _⟩, s => by simp [stmt, Unlinked.stmt, unlinked_node keeps e s]
  | ⟨_, .block body, _⟩, s => by simp [stmt, Unlinked.stmt, unlinked_stmts keeps body s]
  | ⟨_, .binding _ bs body, _⟩, s =>
    Edit.andThen_unchanged Unlinked.bindings Unlinked.stmts (unlinked_bindings keeps bs s)
      (fun _ => unlinked_stmts keeps body) fun _ _ h₁ h₂ => by simp only [Unlinked.stmt, h₁, h₂]
  | ⟨_, .typeAlias _ _ _, _⟩, _ => rfl

theorem unlinked_stmts (keeps : visit.KeepsTypes) :
    ∀ (body : List (Node Stmt)) (s : σ),
      Unlinked.stmts (stmts visit body s).tree = Unlinked.stmts body
  | [], _ => rfl
  | n :: rest, s =>
    Edit.andThen_unchanged Unlinked.stmt Unlinked.stmts (unlinked_stmt keeps n s)
      (fun _ => unlinked_stmts keeps rest) fun _ _ h₁ h₂ => by simp only [Unlinked.stmts, h₁, h₂]

theorem unlinked_optionalStmt (keeps : visit.KeepsTypes) :
    ∀ (n : Option (Node Stmt)) (s : σ),
      Unlinked.optionalStmt (optionalStmt visit n s).tree = Unlinked.optionalStmt n
  | none, _ => rfl
  | some n, s => by simp [optionalStmt, Unlinked.optionalStmt, unlinked_stmt keeps n s]

theorem unlinked_optionalBody (keeps : visit.KeepsTypes) :
    ∀ (body : Option (List (Node Stmt))) (s : σ),
      Unlinked.optionalBody (optionalBody visit body s).tree = Unlinked.optionalBody body
  | none, _ => rfl
  | some body, s => by simp [optionalBody, Unlinked.optionalBody, unlinked_stmts keeps body s]

theorem unlinked_bindings (keeps : visit.KeepsTypes) :
    ∀ (bs : List Binding) (s : σ),
      Unlinked.bindings (bindings visit bs s).tree = Unlinked.bindings bs
  | [], _ => rfl
  | ⟨_, _, init⟩ :: rest, s =>
    Edit.andThen_unchanged Unlinked.node Unlinked.bindings (unlinked_node keeps init s)
      (fun _ => unlinked_bindings keeps rest) fun _ _ h₁ h₂ => by
        simp only [Unlinked.bindings, h₁, h₂]

theorem unlinked_fieldDecls (keeps : visit.KeepsTypes) :
    ∀ (fs : List FieldDecl) (s : σ),
      Unlinked.fieldDecls (fieldDecls visit fs s).tree = Unlinked.fieldDecls fs
  | [], _ => rfl
  | ⟨_, _, init⟩ :: rest, s =>
    Edit.andThen_unchanged Unlinked.optional Unlinked.fieldDecls (unlinked_optional keeps init s)
      (fun _ => unlinked_fieldDecls keeps rest) fun _ _ h₁ h₂ => by
        simp only [Unlinked.fieldDecls, h₁, h₂]

theorem unlinked_methods (keeps : visit.KeepsTypes) :
    ∀ (ms : List (Node Method)) (s : σ),
      Unlinked.methods (methods visit ms s).tree = Unlinked.methods ms
  | [], _ => rfl
  | ⟨_, ⟨_, _, _, _, _, body⟩, _⟩ :: rest, s =>
    Edit.andThen_unchanged Unlinked.stmts Unlinked.methods (unlinked_stmts keeps body s)
      (fun _ => unlinked_methods keeps rest) fun _ _ h₁ h₂ => by
        simp only [Unlinked.methods, h₁, h₂]

theorem unlinked_optionalHandler (keeps : visit.KeepsTypes) :
    ∀ (h : Option Handler) (s : σ),
      Unlinked.optionalHandler (optionalHandler visit h s).tree = Unlinked.optionalHandler h
  | none, _ => rfl
  | some ⟨_, body⟩, s => by
    simp [optionalHandler, Unlinked.optionalHandler, unlinked_stmts keeps body s]

theorem unlinked_properties (keeps : visit.KeepsTypes) :
    ∀ (ps : List Property) (s : σ),
      Unlinked.properties (properties visit ps s).tree = Unlinked.properties ps
  | [], _ => rfl
  | ⟨_, value⟩ :: rest, s =>
    Edit.andThen_unchanged Unlinked.node Unlinked.properties (unlinked_node keeps value s)
      (fun _ => unlinked_properties keeps rest) fun _ _ h₁ h₂ => by
        simp only [Unlinked.properties, h₁, h₂]

end

end Tour

/-! ## The type slots of an unlinked tree -/

namespace Slots

mutual

/-- Symbols have no slots. -/
theorem node_unlinked : ∀ e : Node Expr, node (Unlinked.node e) = node e
  | ⟨_, e, _⟩ => by simp only [Unlinked.node, node, inside_unlinked e]

theorem inside_unlinked : ∀ e : Expr, inside (Unlinked.inside e) = inside e
  | .literal _ => rfl
  | .ident _ => rfl
  | .call callee args => by
    simp only [Unlinked.inside, inside, node_unlinked callee, nodes_unlinked args]
  | .conditional test consequent alternate => by
    simp only [Unlinked.inside, inside, node_unlinked test, stmt_unlinked consequent,
      optionalStmt_unlinked alternate]
  | .member base _ => by simp only [Unlinked.inside, inside, node_unlinked base]
  | .index base position => by
    simp only [Unlinked.inside, inside, node_unlinked base, node_unlinked position]
  | .function ⟨_, _, _, _, body⟩ => by
    simp only [Unlinked.inside, inside, function, stmts_unlinked body]
  | .classDef ⟨_, fields, ms⟩ => by
    simp only [Unlinked.inside, inside, classDef, fieldDecls_unlinked fields, methods_unlinked ms]
  | .assertion e _ => by simp only [Unlinked.inside, inside, node_unlinked e]
  | .throwing value => by simp only [Unlinked.inside, inside, node_unlinked value]
  | .whileLoop test body => by
    simp only [Unlinked.inside, inside, node_unlinked test, stmts_unlinked body]
  | .forLoop bs test update body => by
    simp only [Unlinked.inside, inside, bindings_unlinked bs, optional_unlinked test,
      optional_unlinked update, stmts_unlinked body]
  | .returning value => by simp only [Unlinked.inside, inside, optional_unlinked value]
  | .attempt body handler cleanup => by
    simp only [Unlinked.inside, inside, stmts_unlinked body, optionalHandler_unlinked handler,
      optionalBody_unlinked cleanup]
  | .array items => by simp only [Unlinked.inside, inside, nodes_unlinked items]
  | .object ps => by simp only [Unlinked.inside, inside, properties_unlinked ps]
  | .assignment target value => by
    simp only [Unlinked.inside, inside, node_unlinked target, node_unlinked value]

theorem nodes_unlinked : ∀ es : List (Node Expr), nodes (Unlinked.nodes es) = nodes es
  | [] => rfl
  | e :: rest => by simp only [Unlinked.nodes, nodes, node_unlinked e, nodes_unlinked rest]

theorem optional_unlinked : ∀ e : Option (Node Expr), optional (Unlinked.optional e) = optional e
  | none => rfl
  | some e => by simp only [Unlinked.optional, optional, node_unlinked e]

theorem stmt_unlinked : ∀ n : Node Stmt, stmt (Unlinked.stmt n) = stmt n
  | ⟨_, .expr e, _⟩ => by simp only [Unlinked.stmt, stmt, insideStmt, node_unlinked e]
  | ⟨_, .block body, _⟩ => by simp only [Unlinked.stmt, stmt, insideStmt, stmts_unlinked body]
  | ⟨_, .binding _ bs body, _⟩ => by
    simp only [Unlinked.stmt, stmt, insideStmt, bindings_unlinked bs, stmts_unlinked body]
  | ⟨_, .typeAlias _ _ _, _⟩ => rfl

theorem stmts_unlinked : ∀ body : List (Node Stmt), stmts (Unlinked.stmts body) = stmts body
  | [] => rfl
  | n :: rest => by simp only [Unlinked.stmts, stmts, stmt_unlinked n, stmts_unlinked rest]

theorem optionalStmt_unlinked :
    ∀ n : Option (Node Stmt), optionalStmt (Unlinked.optionalStmt n) = optionalStmt n
  | none => rfl
  | some n => by simp only [Unlinked.optionalStmt, optionalStmt, stmt_unlinked n]

theorem optionalBody_unlinked : ∀ body : Option (List (Node Stmt)),
    optionalBody (Unlinked.optionalBody body) = optionalBody body
  | none => rfl
  | some body => by simp only [Unlinked.optionalBody, optionalBody, stmts_unlinked body]

theorem bindings_unlinked : ∀ bs : List Binding, bindings (Unlinked.bindings bs) = bindings bs
  | [] => rfl
  | ⟨_, _, init⟩ :: rest => by
    simp only [Unlinked.bindings, bindings, node_unlinked init, bindings_unlinked rest]

theorem fieldDecls_unlinked :
    ∀ fs : List FieldDecl, fieldDecls (Unlinked.fieldDecls fs) = fieldDecls fs
  | [] => rfl
  | ⟨_, _, init⟩ :: rest => by
    simp only [Unlinked.fieldDecls, fieldDecls, optional_unlinked init, fieldDecls_unlinked rest]

theorem methods_unlinked : ∀ ms : List (Node Method), methods (Unlinked.methods ms) = methods ms
  | [] => rfl
  | ⟨_, ⟨_, _, _, _, _, body⟩, _⟩ :: rest => by
    simp only [Unlinked.methods, methods, method, stmts_unlinked body, methods_unlinked rest]

theorem optionalHandler_unlinked :
    ∀ h : Option Handler, optionalHandler (Unlinked.optionalHandler h) = optionalHandler h
  | none => rfl
  | some ⟨_, body⟩ => by
    simp only [Unlinked.optionalHandler, optionalHandler, stmts_unlinked body]

theorem properties_unlinked :
    ∀ ps : List Property, properties (Unlinked.properties ps) = properties ps
  | [] => rfl
  | ⟨_, value⟩ :: rest => by
    simp only [Unlinked.properties, properties, node_unlinked value, properties_unlinked rest]

end

end Slots

/-! ## Linking -/

namespace SelfReference

/-- The visitor that links writes symbols and no types. -/
theorem visitor_keepsTypes (symbol : Symbol) : (visitor symbol).KeepsTypes := by
  refine ⟨?_, fun _ _ x => x.error.elim⟩
  intro n s reply s' h
  unfold visitor at h
  split at h
  · split at h
    · obtain ⟨hreply, -⟩ := Prod.mk.inj h
      rw [← Except.ok.inj hreply]
    · obtain ⟨hreply, -⟩ := Prod.mk.inj h
      rw [← Except.ok.inj hreply, Reply.keep]
  · obtain ⟨hreply, -⟩ := Prod.mk.inj h
    rw [← Except.ok.inj hreply, Reply.keep]

/-- Linking changes nothing but symbols. -/
theorem unlinked_link (symbol : Symbol) (ms : List (Node Method)) :
    Unlinked.methods (link symbol ms) = Unlinked.methods ms :=
  Tour.unlinked_methods (visitor_keepsTypes symbol) ms []

/-- Linking changes no type slot. -/
theorem slots_link (symbol : Symbol) (ms : List (Node Method)) :
    Slots.methods (link symbol ms) = Slots.methods ms := by
  rw [← Slots.methods_unlinked, unlinked_link, Slots.methods_unlinked]

end SelfReference

end StructuralTyping
