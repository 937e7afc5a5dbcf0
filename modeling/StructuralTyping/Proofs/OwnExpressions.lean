import StructuralTyping.Checker.Returns
import StructuralTyping.Proofs.Relabeling

/-! # The own expressions of a body

The own expressions of a part of a tree are those anywhere inside it that belong to no function or
class further inside; a function or class counts itself, but nothing in it does.  `Own` lists them
in the order of the source.

Both tours that the checker makes stay with the own expressions and collect something from them, so
what they do can be said without a tour: linking is a relabeling (`SelfReference.link_eq`), and the
references to `self` and the returns of a body are read off its own expressions
(`SelfReference.spans_eq`, `OwnReturn.ofBody_eq`).
-/
namespace StructuralTyping

namespace Own

mutual

/-- An expression and all of its own that stand inside it. -/
def node : Node Expr → List (Node Expr)
  | ⟨span, e, ty⟩ => ⟨span, e, ty⟩ :: inside e

/-- The own expressions inside an expression; a function or class has none. -/
def inside : Expr → List (Node Expr)
  | .literal _ => []
  | .ident _ => []
  | .call callee args => node callee ++ nodes args
  | .conditional test consequent alternate =>
    node test ++ (stmt consequent ++ optionalStmt alternate)
  | .member base _ => node base
  | .index base position => node base ++ node position
  | .function _ => []
  | .classDef _ => []
  | .assertion e _ => node e
  | .throwing value => node value
  | .whileLoop test body => node test ++ stmts body
  | .forLoop bs test update body =>
    bindings bs ++ (optional test ++ (optional update ++ stmts body))
  | .returning value => optional value
  | .attempt body handler cleanup =>
    stmts body ++ (optionalHandler handler ++ optionalBody cleanup)
  | .array items => nodes items
  | .object ps => properties ps
  | .assignment target value => node target ++ node value

/-- The own expressions of expressions in a list. -/
def nodes : List (Node Expr) → List (Node Expr)
  | [] => []
  | e :: rest => node e ++ nodes rest

/-- The own expressions of one that may be absent. -/
def optional : Option (Node Expr) → List (Node Expr)
  | none => []
  | some e => node e

/-- The own expressions of a statement. -/
def stmt : Node Stmt → List (Node Expr)
  | ⟨_, s, _⟩ => insideStmt s

/-- The own expressions of what a statement consists of. -/
def insideStmt : Stmt → List (Node Expr)
  | .expr e => node e
  | .block body => stmts body
  | .binding _ bs body => bindings bs ++ stmts body
  | .typeAlias _ _ _ => []

/-- The own expressions of statements in a list. -/
def stmts : List (Node Stmt) → List (Node Expr)
  | [] => []
  | n :: rest => stmt n ++ stmts rest

/-- The own expressions of a statement that may be absent. -/
def optionalStmt : Option (Node Stmt) → List (Node Expr)
  | none => []
  | some n => stmt n

/-- The own expressions of a body that may be absent. -/
def optionalBody : Option (List (Node Stmt)) → List (Node Expr)
  | none => []
  | some body => stmts body

/-- The own expressions of initial values. -/
def bindings : List Binding → List (Node Expr)
  | [] => []
  | ⟨_, _, init⟩ :: rest => node init ++ bindings rest

/-- The own expressions of a handler that may be absent. -/
def optionalHandler : Option Handler → List (Node Expr)
  | none => []
  | some ⟨_, body⟩ => stmts body

/-- The own expressions of an object's values. -/
def properties : List Property → List (Node Expr)
  | [] => []
  | ⟨_, value⟩ :: rest => node value ++ properties rest

end

/-- The own expressions of the bodies of methods. -/
def methods : List (Node Method) → List (Node Expr)
  | [] => []
  | m :: rest => stmts m.value.body ++ methods rest

/-! ## Relabeled trees -/

section Relabeled

variable (ρ : Relabeling) (r : Bool)

theorem append_relabeled {xs ys xs' ys' : List (Node Expr)} (hx : xs' = xs.map (ρ.node r))
    (hy : ys' = ys.map (ρ.node r)) : xs' ++ ys' = (xs ++ ys).map (ρ.node r) := by
  rw [hx, hy, List.map_append]

mutual

/-- Relabeling goes into the own expressions and does not change which they are. -/
theorem node_relabeled : ∀ n : Node Expr, node (ρ.node r n) = (node n).map (ρ.node r)
  | ⟨span, e, ty⟩ => congrArg (ρ.node r ⟨span, e, ty⟩ :: ·) (inside_relabeled e)

theorem inside_relabeled : ∀ e : Expr, inside (ρ.inside r e) = (inside e).map (ρ.node r)
  | .literal _ => rfl
  | .ident _ => rfl
  | .call callee args => append_relabeled ρ r (node_relabeled callee) (nodes_relabeled args)
  | .conditional test consequent alternate =>
    append_relabeled ρ r (node_relabeled test)
      (append_relabeled ρ r (stmt_relabeled consequent) (optionalStmt_relabeled alternate))
  | .member base _ => node_relabeled base
  | .index base position => append_relabeled ρ r (node_relabeled base) (node_relabeled position)
  | .function _ => rfl
  | .classDef _ => rfl
  | .assertion e _ => node_relabeled e
  | .throwing value => node_relabeled value
  | .whileLoop test body => append_relabeled ρ r (node_relabeled test) (stmts_relabeled body)
  | .forLoop bs test update body =>
    append_relabeled ρ r (bindings_relabeled bs)
      (append_relabeled ρ r (optional_relabeled test)
        (append_relabeled ρ r (optional_relabeled update) (stmts_relabeled body)))
  | .returning value => optional_relabeled value
  | .attempt body handler cleanup =>
    append_relabeled ρ r (stmts_relabeled body)
      (append_relabeled ρ r (optionalHandler_relabeled handler) (optionalBody_relabeled cleanup))
  | .array items => nodes_relabeled items
  | .object ps => properties_relabeled ps
  | .assignment target value =>
    append_relabeled ρ r (node_relabeled target) (node_relabeled value)

theorem nodes_relabeled : ∀ es : List (Node Expr), nodes (ρ.nodes r es) = (nodes es).map (ρ.node r)
  | [] => rfl
  | e :: rest => append_relabeled ρ r (node_relabeled e) (nodes_relabeled rest)

theorem optional_relabeled :
    ∀ e : Option (Node Expr), optional (ρ.optional r e) = (optional e).map (ρ.node r)
  | none => rfl
  | some e => node_relabeled e

theorem stmt_relabeled : ∀ n : Node Stmt, stmt (ρ.stmt r n) = (stmt n).map (ρ.node r)
  | ⟨_, s, _⟩ => insideStmt_relabeled s

theorem insideStmt_relabeled :
    ∀ s : Stmt, insideStmt (ρ.insideStmt r s) = (insideStmt s).map (ρ.node r)
  | .expr e => node_relabeled e
  | .block body => stmts_relabeled body
  | .binding _ bs body => append_relabeled ρ r (bindings_relabeled bs) (stmts_relabeled body)
  | .typeAlias _ _ _ => rfl

theorem stmts_relabeled :
    ∀ body : List (Node Stmt), stmts (ρ.stmts r body) = (stmts body).map (ρ.node r)
  | [] => rfl
  | n :: rest => append_relabeled ρ r (stmt_relabeled n) (stmts_relabeled rest)

theorem optionalStmt_relabeled :
    ∀ n : Option (Node Stmt), optionalStmt (ρ.optionalStmt r n) = (optionalStmt n).map (ρ.node r)
  | none => rfl
  | some n => stmt_relabeled n

theorem optionalBody_relabeled : ∀ body : Option (List (Node Stmt)),
    optionalBody (ρ.optionalBody r body) = (optionalBody body).map (ρ.node r)
  | none => rfl
  | some body => stmts_relabeled body

theorem bindings_relabeled :
    ∀ bs : List Binding, bindings (ρ.bindings r bs) = (bindings bs).map (ρ.node r)
  | [] => rfl
  | ⟨_, _, init⟩ :: rest => append_relabeled ρ r (node_relabeled init) (bindings_relabeled rest)

theorem optionalHandler_relabeled : ∀ handler : Option Handler,
    optionalHandler (ρ.optionalHandler r handler) = (optionalHandler handler).map (ρ.node r)
  | none => rfl
  | some ⟨_, body⟩ => stmts_relabeled body

theorem properties_relabeled :
    ∀ ps : List Property, properties (ρ.properties r ps) = (properties ps).map (ρ.node r)
  | [] => rfl
  | ⟨_, value⟩ :: rest => append_relabeled ρ r (node_relabeled value) (properties_relabeled rest)

end

/-- The own expressions of relabeled methods are the relabeled own expressions. -/
theorem methods_relabeled (ms : List (Node Method)) :
    methods (ρ.methods r ms) = (methods ms).map (ρ.node r) := by
  induction ms with
  | nil => rfl
  | cons m rest ih =>
    obtain ⟨_, ⟨_, _, _, _, _, body⟩, _⟩ := m
    exact append_relabeled ρ r (stmts_relabeled ρ r body) ih

end Relabeled

end Own

/-! ## Tours of the own expressions -/

/-- The visitor collects what `find` finds at expressions, latest first, stays out of functions and
classes, and changes symbols as the relabeling does. -/
def Visitor.Collects {β : Type} (visit : Visitor (List β) Empty) (ρ : Relabeling)
    (find : Node Expr → Option β) : Prop :=
  ∀ n found, visit n found =
    (.ok ⟨n.ty, (ρ.inside true n.value).symbol?, !n.value.isBoundary⟩, (find n).toList ++ found)

namespace Expr

theorem withSymbol_symbol? (e : Expr) : e.withSymbol e.symbol? = e := by
  cases e <;> rfl

/-- The last symbol given to an expression is the one it has. -/
theorem withSymbol_withSymbol (s t : Option Symbol) (e : Expr) :
    (e.withSymbol s).withSymbol t = e.withSymbol t := by
  cases e <;> rfl

end Expr

theorem Relabeling.ident_name (ρ : Relabeling) (r : Bool) (i : Ident) :
    (ρ.ident r i).name = i.name := by
  unfold Relabeling.ident
  split <;> rfl

namespace Tour

variable {β : Type} {visit : Visitor (List β) Empty} {ρ : Relabeling} {find : Node Expr → Option β}

/-- The part was visited from beginning to end: `tree` is what came of it, and what was found at
the expressions `es` is added to what was found before. -/
def Collected {τ : Type} (find : Node Expr → Option β) (es : List (Node Expr)) (tree : τ)
    (found : List β) (toured : Toured (List β) Empty τ) : Prop :=
  toured = .succeed () tree ((es.filterMap find).reverse ++ found)

namespace Collected

variable {τ υ ω : Type} {es fs : List (Node Expr)} {tree : τ} {tree₂ rest : υ} {found : List β}
  {toured : Toured (List β) Empty τ} {next : Unit → List β → Toured (List β) Empty υ}

/-- Collecting is not affected by how the tree is put together. -/
theorem rebuild {whole : ω} (h : Collected find es tree found toured) (build : τ → ω)
    (hw : build tree = whole := by rfl) : Collected find es whole found (toured.rebuild build) := by
  subst hw
  exact congrArg (Edit.rebuild build) h

/-- Two tours in a row collect one after the other. -/
theorem andThen {whole : ω} (h : Collected find es tree found toured)
    (h₂ : ∀ s, Collected find fs tree₂ s (next () s)) (build : τ → υ → ω)
    (hw : build tree tree₂ = whole := by rfl) :
    Collected find (es ++ fs) whole found (toured.andThen rest next build) := by
  subst hw
  unfold Collected at h ⊢
  rw [h, List.filterMap_append, List.reverse_append, List.append_assoc]
  exact congrArg (Edit.rebuild (build tree)) (h₂ _)

end Collected

mutual

/-- A tour of an expression collects from its own expressions, in order. -/
theorem collected_node (hv : visit.Collects ρ find) (hρ : ρ.OnlyLinks) :
    ∀ (n : Node Expr) (found : List β),
      Collected find (Own.node n) (ρ.node true n) found (node visit n found)
  | ⟨span, e, ty⟩, found => by
    have start : ((Own.node ⟨span, e, ty⟩).filterMap find).reverse ++ found =
        ((Own.inside e).filterMap find).reverse ++ ((find ⟨span, e, ty⟩).toList ++ found) := by
      rw [Own.node, List.filterMap_cons]
      cases find ⟨span, e, ty⟩ <;> simp
    unfold Collected
    rw [start, node, hv]
    by_cases boundary : e.isBoundary = true
    · -- a function or class is kept as it is, and the tour goes on behind it
      have inner : Own.inside e = [] ∧ ρ.inside true e = e := by
        cases e with
        | function f => exact ⟨rfl, congrArg Expr.function (Relabeling.function_eq hρ f)⟩
        | classDef c => exact ⟨rfl, congrArg Expr.classDef (Relabeling.classDef_eq hρ c)⟩
        | _ => cases boundary
      simp [boundary, inner.1, inner.2, Relabeling.node, hρ.ty, Expr.withSymbol_symbol?]
    · have inner := collected_inside hv hρ e (Bool.eq_false_iff.mpr boundary)
        ((find ⟨span, e, ty⟩).toList ++ found)
      simp [boundary, show _ = _ from inner, Relabeling.node, hρ.ty, Edit.rebuild, Edit.succeed,
        Expr.withSymbol_withSymbol, Expr.withSymbol_symbol?]

theorem collected_inside (hv : visit.Collects ρ find) (hρ : ρ.OnlyLinks) :
    ∀ e : Expr, e.isBoundary = false → ∀ found : List β,
      Collected find (Own.inside e) ((ρ.inside true e).withSymbol e.symbol?) found
        (inside visit e found)
  | .literal _, _, _ => rfl
  | .ident i, _, found => by
    -- the visitor puts the symbol in later, at the node, so here the old one is still there
    have same : (ρ.inside true (.ident i)).withSymbol i.symbol = .ident i := by
      simp only [Relabeling.inside, Expr.withSymbol, Relabeling.ident_name]
    exact congrArg (Edit.succeed () · found) same.symm
  | .call callee args, _, found =>
    (collected_node hv hρ callee found).andThen (collected_nodes hv hρ args) Expr.call
  | .conditional test consequent alternate, _, found => by
    rw [inside]
    exact (collected_node hv hρ test found).andThen
      (fun s => (collected_stmt hv hρ consequent s).andThen
        (collected_optionalStmt hv hρ alternate) Prod.mk)
      fun test (p : _ × _) => Expr.conditional test p.1 p.2
  | .member base property, _, found =>
    (collected_node hv hρ base found).rebuild (Expr.member · property)
      (congrArg (Expr.member _) (Relabeling.name_eq hρ property).symm)
  | .index base position, _, found =>
    (collected_node hv hρ base found).andThen (collected_node hv hρ position) Expr.index
  | .assertion e ty, _, found =>
    (collected_node hv hρ e found).rebuild (Expr.assertion · ty)
      (congrArg (Expr.assertion _) (Relabeling.typeExpr_eq hρ ty).symm)
  | .throwing value, _, found => (collected_node hv hρ value found).rebuild Expr.throwing
  | .whileLoop test body, _, found =>
    (collected_node hv hρ test found).andThen (collected_stmts hv hρ body) Expr.whileLoop
  | .forLoop bs test update body, _, found => by
    rw [inside]
    exact (collected_bindings hv hρ bs found).andThen
      (fun s => (collected_optional hv hρ test s).andThen
        (fun s => (collected_optional hv hρ update s).andThen (collected_stmts hv hρ body) Prod.mk)
        Prod.mk)
      fun bs (p : _ × _ × _) => Expr.forLoop bs p.1 p.2.1 p.2.2
  | .returning value, _, found => (collected_optional hv hρ value found).rebuild Expr.returning
  | .attempt body handler cleanup, _, found => by
    rw [inside]
    exact (collected_stmts hv hρ body found).andThen
      (fun s => (collected_optionalHandler hv hρ handler s).andThen
        (collected_optionalBody hv hρ cleanup) Prod.mk)
      fun body (p : _ × _) => Expr.attempt body p.1 p.2
  | .array items, _, found => (collected_nodes hv hρ items found).rebuild Expr.array
  | .object ps, _, found => (collected_properties hv hρ ps found).rebuild Expr.object
  | .assignment target value, _, found =>
    (collected_node hv hρ target found).andThen (collected_node hv hρ value) Expr.assignment

theorem collected_nodes (hv : visit.Collects ρ find) (hρ : ρ.OnlyLinks) :
    ∀ (es : List (Node Expr)) (found : List β),
      Collected find (Own.nodes es) (ρ.nodes true es) found (nodes visit es found)
  | [], _ => rfl
  | e :: rest, found =>
    (collected_node hv hρ e found).andThen (collected_nodes hv hρ rest) List.cons

theorem collected_optional (hv : visit.Collects ρ find) (hρ : ρ.OnlyLinks) :
    ∀ (e : Option (Node Expr)) (found : List β),
      Collected find (Own.optional e) (ρ.optional true e) found (optional visit e found)
  | none, _ => rfl
  | some e, found => (collected_node hv hρ e found).rebuild some

theorem collected_stmt (hv : visit.Collects ρ find) (hρ : ρ.OnlyLinks) :
    ∀ (n : Node Stmt) (found : List β),
      Collected find (Own.stmt n) (ρ.stmt true n) found (stmt visit n found)
  | ⟨span, .expr e, ty⟩, found =>
    (collected_node hv hρ e found).rebuild (fun e => Node.mk span (Stmt.expr e) ty)
      (congrArg (Node.mk span _) (hρ.ty ty).symm)
  | ⟨span, .block body, ty⟩, found =>
    (collected_stmts hv hρ body found).rebuild (fun body => Node.mk span (Stmt.block body) ty)
      (congrArg (Node.mk span _) (hρ.ty ty).symm)
  | ⟨span, .binding kind bs body, ty⟩, found =>
    (collected_bindings hv hρ bs found).andThen (collected_stmts hv hρ body)
      (fun bs body => Node.mk span (Stmt.binding kind bs body) ty)
      (congrArg (Node.mk span _) (hρ.ty ty).symm)
  | ⟨span, .typeAlias name typeParams t, ty⟩, _ => by
    have same : ρ.stmt true ⟨span, .typeAlias name typeParams t, ty⟩ =
        ⟨span, .typeAlias name typeParams t, ty⟩ := by
      simp only [Relabeling.stmt, Relabeling.insideStmt, Relabeling.name_eq hρ,
        Relabeling.names_eq hρ, Relabeling.typeExpr_eq hρ, hρ.ty]
    rw [same]
    rfl

theorem collected_stmts (hv : visit.Collects ρ find) (hρ : ρ.OnlyLinks) :
    ∀ (body : List (Node Stmt)) (found : List β),
      Collected find (Own.stmts body) (ρ.stmts true body) found (stmts visit body found)
  | [], _ => rfl
  | n :: rest, found =>
    (collected_stmt hv hρ n found).andThen (collected_stmts hv hρ rest) List.cons

theorem collected_optionalStmt (hv : visit.Collects ρ find) (hρ : ρ.OnlyLinks) :
    ∀ (n : Option (Node Stmt)) (found : List β),
      Collected find (Own.optionalStmt n) (ρ.optionalStmt true n) found (optionalStmt visit n found)
  | none, _ => rfl
  | some n, found => (collected_stmt hv hρ n found).rebuild some

theorem collected_optionalBody (hv : visit.Collects ρ find) (hρ : ρ.OnlyLinks) :
    ∀ (body : Option (List (Node Stmt))) (found : List β),
      Collected find (Own.optionalBody body) (ρ.optionalBody true body) found
        (optionalBody visit body found)
  | none, _ => rfl
  | some body, found => (collected_stmts hv hρ body found).rebuild some

theorem collected_bindings (hv : visit.Collects ρ find) (hρ : ρ.OnlyLinks) :
    ∀ (bs : List Binding) (found : List β),
      Collected find (Own.bindings bs) (ρ.bindings true bs) found (bindings visit bs found)
  | [], _ => rfl
  | ⟨name, declaredAs, init⟩ :: rest, found =>
    (collected_node hv hρ init found).andThen (collected_bindings hv hρ rest)
      (fun init rest => Binding.mk name declaredAs init :: rest)
      (by rw [Relabeling.bindings, Relabeling.name_eq hρ, Relabeling.optionalTypeExpr_eq hρ])

theorem collected_optionalHandler (hv : visit.Collects ρ find) (hρ : ρ.OnlyLinks) :
    ∀ (handler : Option Handler) (found : List β),
      Collected find (Own.optionalHandler handler) (ρ.optionalHandler true handler) found
        (optionalHandler visit handler found)
  | none, _ => rfl
  | some ⟨param, body⟩, found =>
    (collected_stmts hv hρ body found).rebuild (fun body => some (Handler.mk param body))
      (by rw [Relabeling.optionalHandler, Relabeling.optionalName_eq hρ])

theorem collected_properties (hv : visit.Collects ρ find) (hρ : ρ.OnlyLinks) :
    ∀ (ps : List Property) (found : List β),
      Collected find (Own.properties ps) (ρ.properties true ps) found (properties visit ps found)
  | [], _ => rfl
  | ⟨key, value⟩ :: rest, found =>
    (collected_node hv hρ value found).andThen (collected_properties hv hρ rest)
      (fun value rest => Property.mk key value :: rest)
      (by rw [Relabeling.properties, Relabeling.name_eq hρ])

end

/-- A tour of methods collects from all their own expressions and relabels the rest. -/
theorem collected_methods (hv : visit.Collects ρ find) (hρ : ρ.OnlyLinks) :
    ∀ (ms : List (Node Method)) (found : List β),
      Collected find (Own.methods ms) (ρ.methods true ms) found (methods visit ms found)
  | [], _ => rfl
  | ⟨span, ⟨name, kind, typeParams, params, returns, body⟩, ty⟩ :: rest, found =>
    (collected_stmts hv hρ body found).andThen (collected_methods hv hρ rest)
      (fun body rest =>
        Node.mk span (Method.mk name kind typeParams params returns body) ty :: rest)
      (by rw [Relabeling.methods, Relabeling.method, Relabeling.name_eq hρ, Relabeling.names_eq hρ,
        Relabeling.params_eq hρ, Relabeling.optionalTypeExpr_eq hρ, hρ.ty])

end Tour

/-! ## Linking, references and returns -/

/-- Points references to `self` at what `self` stands for, if that is known. -/
def Relabeling.linking (self : Option Symbol) : Relabeling := ⟨id, self.or, false⟩

/-- Linking leaves all slots as they are. -/
theorem Relabeling.linking_onlyLinks (self : Option Symbol) : (linking self).OnlyLinks :=
  ⟨fun _ => rfl, rfl⟩

namespace SelfReference

/-- Where an expression is a reference to `self`. -/
def at? : Node Expr → Option Span
  | ⟨span, .ident i, _⟩ => if i.name = name then some span else none
  | _ => none

/-- The visitor that links references to `self` collects their spans on the way. -/
theorem visitor_collects (symbol : Symbol) :
    (visitor symbol).Collects (.linking (some symbol)) at? := by
  rintro ⟨span, e, ty⟩ found
  cases e with
  | ident i =>
    by_cases h : i.name = name <;>
      simp [visitor, at?, h, Relabeling.inside, Relabeling.ident, Relabeling.linking, Expr.symbol?,
        Reply.keep, Expr.isBoundary]
  | _ => rfl

/-- Linking is a relabeling. -/
theorem link_eq (symbol : Symbol) (ms : List (Node Method)) :
    link symbol ms = (Relabeling.linking (some symbol)).methods true ms :=
  congrArg Edit.tree
    (Tour.collected_methods (visitor_collects symbol) (Relabeling.linking_onlyLinks _) ms [])

/-- The spans found by the tour are those of the own references to `self`, in order. -/
theorem spans_eq (symbol : Symbol) (ms : List (Node Method)) :
    spans symbol ms = (Own.methods ms).filterMap at? := by
  have toured :=
    Tour.collected_methods (visitor_collects symbol) (Relabeling.linking_onlyLinks _) ms []
  rw [spans, toured]
  simp [Edit.succeed]

end SelfReference

namespace OwnReturn

/-- The return that an expression is. -/
def of? : Node Expr → Option OwnReturn
  | ⟨span, .returning value, _⟩ => some ⟨span, value.bind (·.ty)⟩
  | _ => none

/-- The visitor that looks for returns changes nothing. -/
theorem visitor_collects : visitor.Collects (.linking none) of? := by
  rintro ⟨span, e, ty⟩ found
  cases e with
  | ident i =>
    simp only [visitor, of?, Reply.keep, Relabeling.inside, Relabeling.ident, Expr.symbol?]
    split <;> rfl
  | _ => rfl

/-- The returns found by the tour are those among the own expressions, in order. -/
theorem ofBody_eq (body : List (Node Stmt)) :
    ofBody body = (Own.stmts body).filterMap of? := by
  have toured := Tour.collected_stmts visitor_collects (Relabeling.linking_onlyLinks _) body []
  rw [ofBody, toured]
  simp [Edit.succeed]

end OwnReturn
end StructuralTyping
