import StructuralTyping.Proofs.SelfLinking

/-! # The expressions and statements of a tree

`Parts` lists the expressions and statements of a tree at every depth, in the order of the source
and each before those inside it.  The expressions among them are the ones that a tour reaches when
its visitor always goes on (`Tour.reached_eq`), and the parts of an unlinked tree are the unlinked
parts of the tree (`Parts.stmts_unlinked`).
-/
namespace StructuralTyping

/-- An expression or a statement of a tree. -/
inductive Part where
  | expr (n : Node Expr)
  | stmt (n : Node Stmt)

namespace Part

/-- The expression that a part is, if it is one. -/
def expr? : Part → Option (Node Expr)
  | .expr n => some n
  | .stmt _ => none

/-- The name that a type alias defines. -/
def alias? : Part → Option String
  | .stmt ⟨_, .typeAlias name _ _, _⟩ => some name.value.name
  | _ => none

end Part

namespace Parts

mutual

/-- An expression in front of the parts inside it. -/
def node : Node Expr → List Part
  | ⟨span, e, ty⟩ => .expr ⟨span, e, ty⟩ :: inside e

/-- The parts inside an expression, those of functions and classes included. -/
def inside : Expr → List Part
  | .literal _ => []
  | .ident _ => []
  | .call callee args => node callee ++ nodes args
  | .conditional test consequent alternate =>
    node test ++ (stmt consequent ++ optionalStmt alternate)
  | .member base _ => node base
  | .index base position => node base ++ node position
  | .function ⟨_, _, _, _, body⟩ => stmts body
  | .classDef ⟨_, fields, ms⟩ => fieldDecls fields ++ methods ms
  | .assertion e _ => node e
  | .throwing value => node value
  | .whileLoop test body => node test ++ stmts body
  | .forLoop bs test update body =>
    bindings bs ++ (optional test ++ (optional update ++ stmts body))
  | .returning value => optional value
  | .attempt body handler cleanup =>
    stmts body ++ (optionalHandler handler ++ optionalBody cleanup)
  | .array items => nodes items
  | .object ps => properties ps
  | .assignment target value => node target ++ node value

/-- The parts of expressions in a list. -/
def nodes : List (Node Expr) → List Part
  | [] => []
  | e :: rest => node e ++ nodes rest

/-- The parts of an expression that may be absent. -/
def optional : Option (Node Expr) → List Part
  | none => []
  | some e => node e

/-- A statement in front of the parts inside it. -/
def stmt : Node Stmt → List Part
  | ⟨span, s, ty⟩ => .stmt ⟨span, s, ty⟩ :: insideStmt s

/-- The parts inside a statement. -/
def insideStmt : Stmt → List Part
  | .expr e => node e
  | .block body => stmts body
  | .binding _ bs body => bindings bs ++ stmts body
  | .typeAlias _ _ _ => []

/-- The parts of statements in a list. -/
def stmts : List (Node Stmt) → List Part
  | [] => []
  | s :: rest => stmt s ++ stmts rest

/-- The parts of a statement that may be absent. -/
def optionalStmt : Option (Node Stmt) → List Part
  | none => []
  | some s => stmt s

/-- The parts of a body that may be absent. -/
def optionalBody : Option (List (Node Stmt)) → List Part
  | none => []
  | some body => stmts body

/-- The parts of initial values. -/
def bindings : List Binding → List Part
  | [] => []
  | ⟨_, _, init⟩ :: rest => node init ++ bindings rest

/-- The parts of the initial values of declared fields. -/
def fieldDecls : List FieldDecl → List Part
  | [] => []
  | ⟨_, _, init⟩ :: rest => optional init ++ fieldDecls rest

/-- The parts of the bodies of methods. -/
def methods : List (Node Method) → List Part
  | [] => []
  | ⟨_, ⟨_, _, _, _, _, body⟩, _⟩ :: rest => stmts body ++ methods rest

/-- The parts of a handler that may be absent. -/
def optionalHandler : Option Handler → List Part
  | none => []
  | some ⟨_, body⟩ => stmts body

/-- The parts of an object's values. -/
def properties : List Property → List Part
  | [] => []
  | ⟨_, value⟩ :: rest => node value ++ properties rest

end

end Parts

/-- The names that the type aliases among parts define. -/
def Parts.aliases (parts : List Part) : List String := parts.filterMap Part.alias?

/-- The expressions and statements of a program. -/
def Program.parts (p : Program) : List Part := Parts.stmts p.body

/-! ## The parts of an unlinked tree -/

/-- A part without the symbols of its identifiers. -/
def Unlinked.part : Part → Part
  | .expr n => .expr (Unlinked.node n)
  | .stmt n => .stmt (Unlinked.stmt n)

namespace Parts

mutual

/-- A tree without symbols has the parts without symbols. -/
theorem node_unlinked : ∀ e : Node Expr, node (Unlinked.node e) = (node e).map Unlinked.part
  | ⟨_, e, _⟩ => by
    simp only [Unlinked.node, node, inside_unlinked e, List.map_cons, Unlinked.part]

theorem inside_unlinked : ∀ e : Expr, inside (Unlinked.inside e) = (inside e).map Unlinked.part
  | .literal _ => rfl
  | .ident _ => rfl
  | .call callee args => by
    simp only [Unlinked.inside, inside, node_unlinked callee, nodes_unlinked args, List.map_append]
  | .conditional test consequent alternate => by
    simp only [Unlinked.inside, inside, node_unlinked test, stmt_unlinked consequent,
      optionalStmt_unlinked alternate, List.map_append]
  | .member base _ => by simp only [Unlinked.inside, inside, node_unlinked base]
  | .index base position => by
    simp only [Unlinked.inside, inside, node_unlinked base, node_unlinked position, List.map_append]
  | .function ⟨_, _, _, _, body⟩ => by simp only [Unlinked.inside, inside, stmts_unlinked body]
  | .classDef ⟨_, fields, ms⟩ => by
    simp only [Unlinked.inside, inside, fieldDecls_unlinked fields, methods_unlinked ms,
      List.map_append]
  | .assertion e _ => by simp only [Unlinked.inside, inside, node_unlinked e]
  | .throwing value => by simp only [Unlinked.inside, inside, node_unlinked value]
  | .whileLoop test body => by
    simp only [Unlinked.inside, inside, node_unlinked test, stmts_unlinked body, List.map_append]
  | .forLoop bs test update body => by
    simp only [Unlinked.inside, inside, bindings_unlinked bs, optional_unlinked test,
      optional_unlinked update, stmts_unlinked body, List.map_append]
  | .returning value => by simp only [Unlinked.inside, inside, optional_unlinked value]
  | .attempt body handler cleanup => by
    simp only [Unlinked.inside, inside, stmts_unlinked body, optionalHandler_unlinked handler,
      optionalBody_unlinked cleanup, List.map_append]
  | .array items => by simp only [Unlinked.inside, inside, nodes_unlinked items]
  | .object ps => by simp only [Unlinked.inside, inside, properties_unlinked ps]
  | .assignment target value => by
    simp only [Unlinked.inside, inside, node_unlinked target, node_unlinked value, List.map_append]

theorem nodes_unlinked :
    ∀ es : List (Node Expr), nodes (Unlinked.nodes es) = (nodes es).map Unlinked.part
  | [] => rfl
  | e :: rest => by
    simp only [Unlinked.nodes, nodes, node_unlinked e, nodes_unlinked rest, List.map_append]

theorem optional_unlinked :
    ∀ e : Option (Node Expr), optional (Unlinked.optional e) = (optional e).map Unlinked.part
  | none => rfl
  | some e => by simp only [Unlinked.optional, optional, node_unlinked e]

theorem stmt_unlinked : ∀ n : Node Stmt, stmt (Unlinked.stmt n) = (stmt n).map Unlinked.part
  | ⟨_, .expr e, _⟩ => by
    simp only [Unlinked.stmt, stmt, insideStmt, node_unlinked e, List.map_cons, Unlinked.part]
  | ⟨_, .block body, _⟩ => by
    simp only [Unlinked.stmt, stmt, insideStmt, stmts_unlinked body, List.map_cons, Unlinked.part]
  | ⟨_, .binding _ bs body, _⟩ => by
    simp only [Unlinked.stmt, stmt, insideStmt, bindings_unlinked bs, stmts_unlinked body,
      List.map_cons, List.map_append, Unlinked.part]
  | ⟨_, .typeAlias _ _ _, _⟩ => rfl

theorem stmts_unlinked :
    ∀ body : List (Node Stmt), stmts (Unlinked.stmts body) = (stmts body).map Unlinked.part
  | [] => rfl
  | n :: rest => by
    simp only [Unlinked.stmts, stmts, stmt_unlinked n, stmts_unlinked rest, List.map_append]

theorem optionalStmt_unlinked : ∀ n : Option (Node Stmt),
    optionalStmt (Unlinked.optionalStmt n) = (optionalStmt n).map Unlinked.part
  | none => rfl
  | some n => by simp only [Unlinked.optionalStmt, optionalStmt, stmt_unlinked n]

theorem optionalBody_unlinked : ∀ body : Option (List (Node Stmt)),
    optionalBody (Unlinked.optionalBody body) = (optionalBody body).map Unlinked.part
  | none => rfl
  | some body => by simp only [Unlinked.optionalBody, optionalBody, stmts_unlinked body]

theorem bindings_unlinked :
    ∀ bs : List Binding, bindings (Unlinked.bindings bs) = (bindings bs).map Unlinked.part
  | [] => rfl
  | ⟨_, _, init⟩ :: rest => by
    simp only [Unlinked.bindings, bindings, node_unlinked init, bindings_unlinked rest,
      List.map_append]

theorem fieldDecls_unlinked :
    ∀ fs : List FieldDecl, fieldDecls (Unlinked.fieldDecls fs) = (fieldDecls fs).map Unlinked.part
  | [] => rfl
  | ⟨_, _, init⟩ :: rest => by
    simp only [Unlinked.fieldDecls, fieldDecls, optional_unlinked init, fieldDecls_unlinked rest,
      List.map_append]

theorem methods_unlinked :
    ∀ ms : List (Node Method), methods (Unlinked.methods ms) = (methods ms).map Unlinked.part
  | [] => rfl
  | ⟨_, ⟨_, _, _, _, _, body⟩, _⟩ :: rest => by
    simp only [Unlinked.methods, methods, stmts_unlinked body, methods_unlinked rest,
      List.map_append]

theorem optionalHandler_unlinked : ∀ h : Option Handler,
    optionalHandler (Unlinked.optionalHandler h) = (optionalHandler h).map Unlinked.part
  | none => rfl
  | some ⟨_, body⟩ => by
    simp only [Unlinked.optionalHandler, optionalHandler, stmts_unlinked body]

theorem properties_unlinked :
    ∀ ps : List Property, properties (Unlinked.properties ps) = (properties ps).map Unlinked.part
  | [] => rfl
  | ⟨_, value⟩ :: rest => by
    simp only [Unlinked.properties, properties, node_unlinked value, properties_unlinked rest,
      List.map_append]

end

/-- Linking leaves the parts of methods what they are without symbols. -/
theorem unlinked_link (symbol : Symbol) (ms : List (Node Method)) :
    (methods (SelfReference.link symbol ms)).map Unlinked.part =
      (methods ms).map Unlinked.part := by
  rw [← methods_unlinked, SelfReference.unlinked_link, methods_unlinked]

end Parts

/-! ## The expressions that a tour reaches -/

namespace Tour

/-- Notes every expression, latest first, and always goes on inside. -/
def collect : Visitor (List (Node Expr)) Empty := fun n seen =>
  (.ok (.keep n true), n :: seen)

/-- The expressions that a tour of statements reaches, in order. -/
def reached (body : List (Node Stmt)) : List (Node Expr) :=
  (Tour.stmts collect body []).state.reverse

/-- The tour went through and noted the expressions among the parts. -/
structure Collects {τ : Type} (parts : List Part) (seen : List (Node Expr))
    (e : Toured (List (Node Expr)) Empty τ) : Prop where
  result : e.result = .ok ()
  state : e.state = (parts.filterMap Part.expr?).reverse ++ seen

namespace Collects

variable {τ υ ω : Type} {parts parts' : List Part} {seen : List (Node Expr)}

/-- Where there are no parts, nothing is collected. -/
theorem nothing {tree : τ} : Collects [] seen (.succeed () tree seen) := ⟨rfl, rfl⟩

theorem rebuild {e : Toured (List (Node Expr)) Empty τ} (h : Collects parts seen e)
    (build : τ → ω) : Collects parts seen (e.rebuild build) := ⟨h.result, h.state⟩

/-- A statement is not an expression itself. -/
theorem underStmt {e : Toured (List (Node Expr)) Empty τ} {n : Node Stmt}
    (h : Collects parts seen e) : Collects (.stmt n :: parts) seen e := ⟨h.result, h.state⟩

/-- Two tours in a row collect the parts of both. -/
theorem andThen {first : Toured (List (Node Expr)) Empty τ} {rest : υ}
    {next : Unit → List (Node Expr) → Toured (List (Node Expr)) Empty υ} {build : τ → υ → ω}
    (h₁ : Collects parts seen first) (h₂ : ∀ seen, Collects parts' seen (next () seen)) :
    Collects (parts ++ parts') seen (first.andThen rest next build) := by
  have h₂ := h₂ first.state
  simp only [Edit.andThen, h₁.result]
  refine ⟨h₂.result, h₂.state.trans ?_⟩
  rw [h₁.state, List.filterMap_append, List.reverse_append, List.append_assoc]

-- What has been noted is a list of trees as well, so the recursion says which argument it is on.
mutual

/-- A tour that stops nowhere sees the expressions among the parts, in their order. -/
theorem node : ∀ (e : Node Expr) (seen : List (Node Expr)),
    Collects (Parts.node e) seen (Tour.node collect e seen)
  | ⟨span, e, ty⟩, seen => by
    have h := inside e (⟨span, e, ty⟩ :: seen)
    refine ⟨h.result, h.state.trans ?_⟩
    simp [Parts.node, Part.expr?]
termination_by structural e => e

theorem inside : ∀ (e : Expr) (seen : List (Node Expr)),
    Collects (Parts.inside e) seen (Tour.inside collect e seen)
  | .literal _, _ => nothing
  | .ident _, _ => nothing
  | .call callee args, seen => (node callee seen).andThen (nodes args)
  | .conditional test consequent alternate, seen => by
    unfold Tour.inside
    exact (node test seen).andThen fun seen =>
      (stmt consequent seen).andThen (optionalStmt alternate)
  | .member base property, seen => (node base seen).rebuild (Expr.member · property)
  | .index base position, seen => (node base seen).andThen (node position)
  | .function ⟨name, typeParams, params, returns, body⟩, seen =>
    (stmts body seen).rebuild fun body => Expr.function ⟨name, typeParams, params, returns, body⟩
  | .classDef ⟨_, fields, ms⟩, seen => by
    unfold Tour.inside
    exact (fieldDecls fields seen).andThen (methods ms)
  | .assertion e ty, seen => (node e seen).rebuild (Expr.assertion · ty)
  | .throwing value, seen => (node value seen).rebuild Expr.throwing
  | .whileLoop test body, seen => (node test seen).andThen (stmts body)
  | .forLoop bs test update body, seen => by
    unfold Tour.inside
    exact (bindings bs seen).andThen fun seen =>
      (optional test seen).andThen fun seen => (optional update seen).andThen (stmts body)
  | .returning value, seen => (optional value seen).rebuild Expr.returning
  | .attempt body handler cleanup, seen => by
    unfold Tour.inside
    exact (stmts body seen).andThen fun seen =>
      (optionalHandler handler seen).andThen (optionalBody cleanup)
  | .array items, seen => (nodes items seen).rebuild Expr.array
  | .object ps, seen => (properties ps seen).rebuild Expr.object
  | .assignment target value, seen => (node target seen).andThen (node value)
termination_by structural e => e

theorem nodes : ∀ (es : List (Node Expr)) (seen : List (Node Expr)),
    Collects (Parts.nodes es) seen (Tour.nodes collect es seen)
  | [], _ => nothing
  | e :: rest, seen => (node e seen).andThen (nodes rest)
termination_by structural es => es

theorem optional : ∀ (e : Option (Node Expr)) (seen : List (Node Expr)),
    Collects (Parts.optional e) seen (Tour.optional collect e seen)
  | none, _ => nothing
  | some e, seen => (node e seen).rebuild some
termination_by structural e => e

theorem stmt : ∀ (n : Node Stmt) (seen : List (Node Expr)),
    Collects (Parts.stmt n) seen (Tour.stmt collect n seen)
  | ⟨span, .expr e, ty⟩, seen =>
    underStmt ((node e seen).rebuild fun e => Node.mk span (Stmt.expr e) ty)
  | ⟨span, .block body, ty⟩, seen =>
    underStmt ((stmts body seen).rebuild fun body => Node.mk span (Stmt.block body) ty)
  | ⟨_, .binding _ bs body, _⟩, seen => by
    unfold Tour.stmt
    exact underStmt ((bindings bs seen).andThen (stmts body))
  | ⟨_, .typeAlias _ _ _, _⟩, _ => underStmt nothing
termination_by structural n => n

theorem stmts : ∀ (body : List (Node Stmt)) (seen : List (Node Expr)),
    Collects (Parts.stmts body) seen (Tour.stmts collect body seen)
  | [], _ => nothing
  | n :: rest, seen => (stmt n seen).andThen (stmts rest)
termination_by structural body => body

theorem optionalStmt : ∀ (n : Option (Node Stmt)) (seen : List (Node Expr)),
    Collects (Parts.optionalStmt n) seen (Tour.optionalStmt collect n seen)
  | none, _ => nothing
  | some n, seen => (stmt n seen).rebuild some
termination_by structural n => n

theorem optionalBody : ∀ (body : Option (List (Node Stmt))) (seen : List (Node Expr)),
    Collects (Parts.optionalBody body) seen (Tour.optionalBody collect body seen)
  | none, _ => nothing
  | some body, seen => (stmts body seen).rebuild some
termination_by structural body => body

theorem bindings : ∀ (bs : List Binding) (seen : List (Node Expr)),
    Collects (Parts.bindings bs) seen (Tour.bindings collect bs seen)
  | [], _ => nothing
  | ⟨_, _, init⟩ :: rest, seen => (node init seen).andThen (bindings rest)
termination_by structural bs => bs

theorem fieldDecls : ∀ (fs : List FieldDecl) (seen : List (Node Expr)),
    Collects (Parts.fieldDecls fs) seen (Tour.fieldDecls collect fs seen)
  | [], _ => nothing
  | ⟨_, _, init⟩ :: rest, seen => (optional init seen).andThen (fieldDecls rest)
termination_by structural fs => fs

theorem methods : ∀ (ms : List (Node Method)) (seen : List (Node Expr)),
    Collects (Parts.methods ms) seen (Tour.methods collect ms seen)
  | [], _ => nothing
  | ⟨_, ⟨_, _, _, _, _, body⟩, _⟩ :: rest, seen => (stmts body seen).andThen (methods rest)
termination_by structural ms => ms

theorem optionalHandler : ∀ (h : Option Handler) (seen : List (Node Expr)),
    Collects (Parts.optionalHandler h) seen (Tour.optionalHandler collect h seen)
  | none, _ => nothing
  | some ⟨param, body⟩, seen => (stmts body seen).rebuild fun body => some (Handler.mk param body)
termination_by structural h => h

theorem properties : ∀ (ps : List Property) (seen : List (Node Expr)),
    Collects (Parts.properties ps) seen (Tour.properties collect ps seen)
  | [], _ => nothing
  | ⟨_, value⟩ :: rest, seen => (node value seen).andThen (properties rest)
termination_by structural ps => ps

end

end Collects

/-- **A tour reaches the expressions of a tree, all of them and each once.** -/
theorem reached_eq (body : List (Node Stmt)) :
    reached body = (Parts.stmts body).filterMap Part.expr? := by
  rw [reached, (Collects.stmts body []).state]
  simp

end Tour
end StructuralTyping
