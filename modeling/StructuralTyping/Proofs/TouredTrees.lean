import StructuralTyping.Proofs.Itineraries

/-! # What a tour visits and what it leaves behind

A tour of a tree goes by an itinerary of its expressions, and the tree that it leaves behind differs
from the one before in the slots of the visited expressions only.  `Unmarked` is a tree without the
type slots of its expressions and without the symbols of its identifiers; all else is kept.

One induction over the syntax carries both: `Reports` is closed under the ways in which a tour puts
parts together, `Reports.rebuild` and `Reports.andThen`.
-/
namespace StructuralTyping

/-! ## Trees without the slots of expressions -/

namespace Unmarked

mutual

/-- An expression without its slot and without those of the expressions inside. -/
def node : Node Expr → Node Expr
  | ⟨span, e, _⟩ => ⟨span, inside e, none⟩

/-- What the expression consists of. -/
def inside : Expr → Expr
  | .literal v => .literal v
  | .ident i => .ident { i with symbol := none }
  | .call callee args => .call (node callee) (nodes args)
  | .conditional test consequent alternate =>
    .conditional (node test) (stmt consequent) (optionalStmt alternate)
  | .member base property => .member (node base) property
  | .index base position => .index (node base) (node position)
  | .function ⟨name, typeParams, params, returns, body⟩ =>
    .function ⟨name, typeParams, params, returns, stmts body⟩
  | .classDef ⟨name, fields, ms⟩ => .classDef ⟨name, fieldDecls fields, methods ms⟩
  | .assertion e ty => .assertion (node e) ty
  | .throwing value => .throwing (node value)
  | .whileLoop test body => .whileLoop (node test) (stmts body)
  | .forLoop bs test update body =>
    .forLoop (bindings bs) (optional test) (optional update) (stmts body)
  | .returning value => .returning (optional value)
  | .attempt body handler cleanup =>
    .attempt (stmts body) (optionalHandler handler) (optionalBody cleanup)
  | .array items => .array (nodes items)
  | .object ps => .object (properties ps)
  | .assignment target value => .assignment (node target) (node value)

/-- Expressions in a list. -/
def nodes : List (Node Expr) → List (Node Expr)
  | [] => []
  | e :: rest => node e :: nodes rest

/-- An expression that may be absent. -/
def optional : Option (Node Expr) → Option (Node Expr)
  | none => none
  | some e => some (node e)

/-- A statement, which keeps its own slot. -/
def stmt : Node Stmt → Node Stmt
  | ⟨span, .expr e, ty⟩ => ⟨span, .expr (node e), ty⟩
  | ⟨span, .block body, ty⟩ => ⟨span, .block (stmts body), ty⟩
  | ⟨span, .binding kind bs body, ty⟩ => ⟨span, .binding kind (bindings bs) (stmts body), ty⟩
  | ⟨span, .typeAlias name typeParams t, ty⟩ => ⟨span, .typeAlias name typeParams t, ty⟩

/-- Statements in a list. -/
def stmts : List (Node Stmt) → List (Node Stmt)
  | [] => []
  | n :: rest => stmt n :: stmts rest

/-- A statement that may be absent. -/
def optionalStmt : Option (Node Stmt) → Option (Node Stmt)
  | none => none
  | some n => some (stmt n)

/-- A body that may be absent. -/
def optionalBody : Option (List (Node Stmt)) → Option (List (Node Stmt))
  | none => none
  | some body => some (stmts body)

/-- The initial values of bindings. -/
def bindings : List Binding → List Binding
  | [] => []
  | ⟨name, declaredAs, init⟩ :: rest => ⟨name, declaredAs, node init⟩ :: bindings rest

/-- The initial values of declared fields. -/
def fieldDecls : List FieldDecl → List FieldDecl
  | [] => []
  | ⟨name, declaredAs, init⟩ :: rest => ⟨name, declaredAs, optional init⟩ :: fieldDecls rest

/-- The bodies of methods, whose nodes keep their slots. -/
def methods : List (Node Method) → List (Node Method)
  | [] => []
  | ⟨span, ⟨name, kind, typeParams, params, returns, body⟩, ty⟩ :: rest =>
    ⟨span, ⟨name, kind, typeParams, params, returns, stmts body⟩, ty⟩ :: methods rest

/-- The body of a handler that may be absent. -/
def optionalHandler : Option Handler → Option Handler
  | none => none
  | some ⟨param, body⟩ => some ⟨param, stmts body⟩

/-- The values of an object. -/
def properties : List Property → List Property
  | [] => []
  | ⟨key, value⟩ :: rest => ⟨key, node value⟩ :: properties rest

end

theorem inside_withSymbol (symbol : Option Symbol) (e : Expr) :
    inside (e.withSymbol symbol) = inside e := by
  cases e <;> rfl

/-- Whether an expression takes a symbol shows in the unmarked expression. -/
theorem symbol?_withSymbol (symbol : Option Symbol) (e : Expr) :
    ((inside e).withSymbol symbol).symbol? = (e.withSymbol symbol).symbol? := by
  cases e with
  | function f => cases f; rfl
  | classDef c => cases c; rfl
  | _ => rfl

end Unmarked

theorem Parts.inside_withSymbol (symbol : Option Symbol) (e : Expr) :
    Parts.inside (e.withSymbol symbol) = Parts.inside e := by
  cases e <;> rfl

namespace Tour

/-! ## Kinds of parts -/

/-- What is looked at in the parts of one kind: what they consist of, and what no visitor changes.
-/
structure View (τ : Type) where
  parts : τ → List Part
  unmarked : τ → τ

namespace View

variable {τ υ : Type}

/-- The expressions among the parts, which are those a tour may visit. -/
def exprs (V : View τ) (t : τ) : List (Node Expr) := Parts.exprs (V.parts t)

-- One view for each sort that the grammar has.

def node : View (Node Expr) := ⟨Parts.node, Unmarked.node⟩

def inside : View Expr := ⟨Parts.inside, Unmarked.inside⟩

def nodes : View (List (Node Expr)) := ⟨Parts.nodes, Unmarked.nodes⟩

def optional : View (Option (Node Expr)) := ⟨Parts.optional, Unmarked.optional⟩

def stmt : View (Node Stmt) := ⟨Parts.stmt, Unmarked.stmt⟩

def stmts : View (List (Node Stmt)) := ⟨Parts.stmts, Unmarked.stmts⟩

def optionalStmt : View (Option (Node Stmt)) := ⟨Parts.optionalStmt, Unmarked.optionalStmt⟩

def optionalBody : View (Option (List (Node Stmt))) :=
  ⟨Parts.optionalBody, Unmarked.optionalBody⟩

def bindings : View (List Binding) := ⟨Parts.bindings, Unmarked.bindings⟩

def fieldDecls : View (List FieldDecl) := ⟨Parts.fieldDecls, Unmarked.fieldDecls⟩

def methods : View (List (Node Method)) := ⟨Parts.methods, Unmarked.methods⟩

def optionalHandler : View (Option Handler) := ⟨Parts.optionalHandler, Unmarked.optionalHandler⟩

def properties : View (List Property) := ⟨Parts.properties, Unmarked.properties⟩

/-- Two parts, one after the other. -/
def pair (V : View τ) (W : View υ) : View (τ × υ) where
  parts p := V.parts p.1 ++ W.parts p.2
  unmarked p := (V.unmarked p.1, W.unmarked p.2)

end View

/-! ## Slots after a tour -/

variable {σ ε τ υ ω : Type}

/-- The slots of an expression that a visitor may change. -/
def slots (n : Node Expr) : Option TypeId × Option Symbol := (n.ty, n.value.symbol?)

/-- The slots of an expression after the tour: as they were, or as the answer says.  Only
identifiers have a symbol. -/
def slotsAfter (n : Node Expr) : Option (Answer ε) → Option TypeId × Option Symbol
  | none => slots n
  | some (.error x) => (x.ty, (n.value.withSymbol x.symbol).symbol?)
  | some (.ok reply) => (reply.ty, (n.value.withSymbol reply.symbol).symbol?)

/-- The part `t'` is the part `t` with the answers written into the slots of its expressions. -/
structure Rewritten (V : View τ) (t : τ) (answers : List (Option (Answer ε))) (t' : τ) : Prop where
  unmarked : V.unmarked t' = V.unmarked t
  slots : (V.exprs t').map slots = List.zipWith slotsAfter (V.exprs t) answers

theorem zipWith_unvisited (es : List (Node Expr)) :
    List.zipWith slotsAfter es (unvisited es : List (Option (Answer ε))) = es.map slots := by
  induction es with
  | nil => rfl
  | cons n es ih => exact congrArg (slots n :: ·) ih

/-- A part where nothing was visited. -/
theorem Rewritten.unvisited (V : View τ) (t : τ) :
    Rewritten V t (unvisited (V.exprs t) : List (Option (Answer ε))) t :=
  ⟨rfl, (zipWith_unvisited _).symm⟩

/-- What is written into a part is written into the tree around it. -/
theorem Rewritten.rebuild {V : View τ} {W : View ω} {t t' : τ}
    {answers : List (Option (Answer ε))} {build : τ → ω} (h : Rewritten V t answers t')
    (exprs : ∀ x, W.exprs (build x) = V.exprs x)
    (unmarked : ∀ x, W.unmarked (build x) = build (V.unmarked x)) :
    Rewritten W (build t) answers (build t') where
  unmarked := by rw [unmarked, unmarked, h.unmarked]
  slots := by rw [exprs, exprs, h.slots]

/-- What is written into two parts is written into what they make. -/
theorem Rewritten.append {V : View τ} {V' : View υ} {W : View ω} {t t' : τ} {u u' : υ}
    {answers answers' : List (Option (Answer ε))} {build : τ → υ → ω}
    (length : answers.length = (V.exprs t).length) (h : Rewritten V t answers t')
    (h' : Rewritten V' u answers' u')
    (exprs : ∀ x y, W.exprs (build x y) = V.exprs x ++ V'.exprs y)
    (unmarked : ∀ x y, W.unmarked (build x y) = build (V.unmarked x) (V'.unmarked y)) :
    Rewritten W (build t u) (answers ++ answers') (build t' u') where
  unmarked := by rw [unmarked, unmarked, h.unmarked, h'.unmarked]
  slots := by
    rw [exprs, exprs, List.map_append, List.zipWith_append length.symm, h.slots, h'.slots]

/-! ## Tours of parts -/

/-- The tour of the part `t` went by an itinerary, and left the part as the answers say. -/
def Reports (visit : Visitor σ ε) (V : View τ) (t : τ) (s : σ) (e : Toured σ ε τ) : Prop :=
  ∃ answers, Itinerary visit (V.exprs t) s answers e.result e.state ∧
    Rewritten V t answers e.tree

namespace Reports

variable {visit : Visitor σ ε} {V : View τ} {V' : View υ} {W : View ω} {t : τ} {u : υ} {s : σ}

/-- A part without expressions is passed over. -/
theorem nothing (empty : V.exprs t = [] := by rfl) : Reports visit V t s (.succeed () t s) := by
  refine ⟨[], ?_, rfl, ?_⟩
  · rw [empty]
    exact .done
  · show (V.exprs t).map slots = _
    rw [empty]
    rfl

/-- A part may be put into a tree that shows the same expressions. -/
theorem rebuild {e : Toured σ ε τ} (h : Reports visit V t s e) (build : τ → ω)
    (exprs : ∀ x, W.exprs (build x) = V.exprs x := by exact fun _ => rfl)
    (unmarked : ∀ x, W.unmarked (build x) = build (V.unmarked x) := by exact fun _ => rfl) :
    Reports visit W (build t) s (e.rebuild build) := by
  obtain ⟨answers, itinerary, rewritten⟩ := h
  refine ⟨answers, ?_, rewritten.rebuild exprs unmarked⟩
  rw [exprs]
  exact itinerary

/-- Two tours in a row, and the tree that their parts make. -/
theorem andThen {first : Toured σ ε τ} {next : σ → Toured σ ε υ}
    (h : Reports visit V t s first) (h' : ∀ s, Reports visit V' u s (next s))
    (build : τ → υ → ω)
    (parts : ∀ x y, W.exprs (build x y) = Parts.exprs (V.parts x ++ V'.parts y) := by
      exact fun _ _ => rfl)
    (unmarked : ∀ x y, W.unmarked (build x y) = build (V.unmarked x) (V'.unmarked y) := by
      exact fun _ _ => rfl) :
    Reports visit W (build t u) s (first.andThen u (fun _ => next) build) := by
  have exprs : ∀ x y, W.exprs (build x y) = V.exprs x ++ V'.exprs y := fun x y =>
    (parts x y).trans List.filterMap_append
  obtain ⟨answers, itinerary, rewritten⟩ := h
  unfold Edit.andThen
  split
  · rename_i ok
    obtain ⟨answers', itinerary', rewritten'⟩ := h' first.state
    refine ⟨answers ++ answers', ?_, rewritten.append itinerary.length rewritten' exprs unmarked⟩
    rw [exprs]
    exact itinerary.append ok itinerary'
  · rename_i x error
    refine ⟨answers ++ Tour.unvisited (V'.exprs u), ?_,
      rewritten.append itinerary.length (.unvisited V' u) exprs unmarked⟩
    rw [exprs, ← error]
    exact itinerary.append_error error

/-- Two parts that are toured one after the other. -/
theorem pair {first : Toured σ ε τ} {next : σ → Toured σ ε υ}
    (h : Reports visit V t s first) (h' : ∀ s, Reports visit V' u s (next s)) :
    Reports visit (V.pair V') (t, u) s (first.andThen u (fun _ => next) .mk) :=
  h.andThen h' Prod.mk

/-- The slots of the expression itself, whatever became of the parts inside it. -/
theorem rewritten_node {span : Span} {e e' : Expr} {ty : Option TypeId} {a : Answer ε}
    {answers : List (Option (Answer ε))} {ty' : Option TypeId} {symbol : Option Symbol}
    (here : slotsAfter ⟨span, e, ty⟩ (some a) = (ty', (e.withSymbol symbol).symbol?))
    (h : Rewritten .inside e answers e') :
    Rewritten .node ⟨span, e, ty⟩ (some a :: answers) ⟨span, e'.withSymbol symbol, ty'⟩ where
  unmarked := by
    have same : Unmarked.inside e' = Unmarked.inside e := h.unmarked
    show Node.mk span (Unmarked.inside (e'.withSymbol symbol)) none = _
    rw [Unmarked.inside_withSymbol, same]
    rfl
  slots := by
    have same : Unmarked.inside e' = Unmarked.inside e := h.unmarked
    have inner : (Parts.exprs (Parts.inside e')).map slots = _ := h.slots
    show (ty', (e'.withSymbol symbol).symbol?) ::
      (Parts.exprs (Parts.inside (e'.withSymbol symbol))).map slots =
        slotsAfter ⟨span, e, ty⟩ (some a) :: List.zipWith slotsAfter (View.inside.exprs e) answers
    rw [here, Parts.inside_withSymbol, inner, ← Unmarked.symbol?_withSymbol symbol e', same,
      Unmarked.symbol?_withSymbol]

mutual

/-- A tour of an expression goes by an itinerary and writes into the visited expressions only. -/
theorem node : ∀ (n : Node Expr) (s : σ), Reports visit .node n s (Tour.node visit n s)
  | ⟨span, e, ty⟩, s => by
    unfold Tour.node
    split
    · rename_i x s' call
      exact ⟨_, .stop call, rewritten_node rfl (.unvisited .inside e)⟩
    · rename_i reply s' call
      obtain ⟨answers, itinerary, rewritten⟩ := inside e s'
      have whole : View.node.exprs ⟨span, e, ty⟩ =
          ⟨span, e, ty⟩ :: (Parts.within ⟨span, e, ty⟩ ++ []) := by
        rw [List.append_nil]
        rfl
      unfold Reports
      rw [whole]
      split
      · rename_i descend
        refine ⟨_, .enter call descend ?_, rewritten_node rfl rewritten⟩
        rw [List.append_nil]
        exact itinerary
      · rename_i skipped
        refine ⟨_, .skip call (Bool.eq_false_iff.mpr skipped) .done, ?_⟩
        rw [List.append_nil]
        exact rewritten_node rfl (.unvisited .inside e)

theorem inside : ∀ (e : Expr) (s : σ), Reports visit .inside e s (Tour.inside visit e s)
  | .literal _, _ => nothing
  | .ident _, _ => nothing
  | .call callee args, s => (node callee s).andThen (nodes args) Expr.call
  | .conditional test consequent alternate, s =>
    (node test s).andThen (fun s => (stmt consequent s).pair (optionalStmt alternate))
      fun test (p : Node Stmt × Option (Node Stmt)) => Expr.conditional test p.1 p.2
  | .member base property, s => (node base s).rebuild (Expr.member · property)
  | .index base position, s => (node base s).andThen (node position) Expr.index
  | .function ⟨name, typeParams, params, returns, body⟩, s =>
    (stmts body s).rebuild fun body => Expr.function ⟨name, typeParams, params, returns, body⟩
  | .classDef ⟨name, fields, ms⟩, s =>
    (fieldDecls fields s).andThen (methods ms) fun fields ms => Expr.classDef ⟨name, fields, ms⟩
  | .assertion e ty, s => (node e s).rebuild (Expr.assertion · ty)
  | .throwing value, s => (node value s).rebuild Expr.throwing
  | .whileLoop test body, s => (node test s).andThen (stmts body) Expr.whileLoop
  | .forLoop bs test update body, s =>
    (bindings bs s).andThen
      (fun s => (optional test s).pair fun s => (optional update s).pair (stmts body))
      fun bs (p : Option (Node Expr) × Option (Node Expr) × List (Node Stmt)) =>
        Expr.forLoop bs p.1 p.2.1 p.2.2
  | .returning value, s => (optional value s).rebuild Expr.returning
  | .attempt body handler cleanup, s =>
    (stmts body s).andThen (fun s => (optionalHandler handler s).pair (optionalBody cleanup))
      fun body (p : Option Handler × Option (List (Node Stmt))) => Expr.attempt body p.1 p.2
  | .array items, s => (nodes items s).rebuild Expr.array
  | .object ps, s => (properties ps s).rebuild Expr.object
  | .assignment target value, s => (node target s).andThen (node value) Expr.assignment

theorem nodes : ∀ (es : List (Node Expr)) (s : σ),
    Reports visit .nodes es s (Tour.nodes visit es s)
  | [], _ => nothing
  | e :: rest, s => (node e s).andThen (nodes rest) List.cons

theorem optional : ∀ (e : Option (Node Expr)) (s : σ),
    Reports visit .optional e s (Tour.optional visit e s)
  | none, _ => nothing
  | some e, s => (node e s).rebuild some

theorem stmt : ∀ (n : Node Stmt) (s : σ), Reports visit .stmt n s (Tour.stmt visit n s)
  | ⟨span, .expr e, ty⟩, s => (node e s).rebuild fun e => Node.mk span (Stmt.expr e) ty
  | ⟨span, .block body, ty⟩, s =>
    (stmts body s).rebuild fun body => Node.mk span (Stmt.block body) ty
  | ⟨span, .binding kind bs body, ty⟩, s =>
    (bindings bs s).andThen (stmts body) fun bs body => Node.mk span (Stmt.binding kind bs body) ty
  | ⟨_, .typeAlias _ _ _, _⟩, _ => nothing

theorem stmts : ∀ (body : List (Node Stmt)) (s : σ),
    Reports visit .stmts body s (Tour.stmts visit body s)
  | [], _ => nothing
  | n :: rest, s => (stmt n s).andThen (stmts rest) List.cons

theorem optionalStmt : ∀ (n : Option (Node Stmt)) (s : σ),
    Reports visit .optionalStmt n s (Tour.optionalStmt visit n s)
  | none, _ => nothing
  | some n, s => (stmt n s).rebuild some

theorem optionalBody : ∀ (body : Option (List (Node Stmt))) (s : σ),
    Reports visit .optionalBody body s (Tour.optionalBody visit body s)
  | none, _ => nothing
  | some body, s => (stmts body s).rebuild some

theorem bindings : ∀ (bs : List Binding) (s : σ),
    Reports visit .bindings bs s (Tour.bindings visit bs s)
  | [], _ => nothing
  | ⟨name, declaredAs, init⟩ :: rest, s =>
    (node init s).andThen (bindings rest) fun init rest => Binding.mk name declaredAs init :: rest

theorem fieldDecls : ∀ (fs : List FieldDecl) (s : σ),
    Reports visit .fieldDecls fs s (Tour.fieldDecls visit fs s)
  | [], _ => nothing
  | ⟨name, declaredAs, init⟩ :: rest, s =>
    (optional init s).andThen (fieldDecls rest)
      fun init rest => FieldDecl.mk name declaredAs init :: rest

theorem methods : ∀ (ms : List (Node Method)) (s : σ),
    Reports visit .methods ms s (Tour.methods visit ms s)
  | [], _ => nothing
  | ⟨span, ⟨name, kind, typeParams, params, returns, body⟩, ty⟩ :: rest, s =>
    (stmts body s).andThen (methods rest) fun body rest =>
      Node.mk span (Method.mk name kind typeParams params returns body) ty :: rest

theorem optionalHandler : ∀ (h : Option Handler) (s : σ),
    Reports visit .optionalHandler h s (Tour.optionalHandler visit h s)
  | none, _ => nothing
  | some ⟨param, body⟩, s => (stmts body s).rebuild fun body => some (Handler.mk param body)

theorem properties : ∀ (ps : List Property) (s : σ),
    Reports visit .properties ps s (Tour.properties visit ps s)
  | [], _ => nothing
  | ⟨key, value⟩ :: rest, s =>
    (node value s).andThen (properties rest) fun value rest => Property.mk key value :: rest

end

end Reports

/-- **A tour visits what no answer keeps it from, and changes nothing else.**  The expressions of
the body are numbered in the order of the source; those inside an expression follow right after it.
-/
theorem stmts_accounted (visit : Visitor σ ε) (body : List (Node Stmt)) (s : σ) :
    let es := Parts.exprs (Parts.stmts body)
    let toured := Tour.stmts visit body s
    (∀ i n, es[i]? = some n → Parts.within n <+: es.drop (i + 1)) ∧
      ∃ answers, Account visit es s answers toured.result toured.state ∧
        Rewritten .stmts body answers toured.tree := by
  intro es toured
  obtain ⟨answers, itinerary, rewritten⟩ := Reports.stmts body s
  obtain ⟨_, everywhere, -⟩ : Reports collect .stmts body [] _ := Reports.stmts body []
  exact ⟨fun i n hn => everywhere.within_follows hn, answers, itinerary.account, rewritten⟩

end Tour
end StructuralTyping
