import StructuralTyping.Proofs.LinkedTrees

/-! # What happens to an identifier

An assignment to an identifier gives it the type of the value, in the innermost scope that is open
there.  This lasts until the next assignment in that scope, or until the scope is closed.  So which
of the earlier assignments counts at a later one depends on the scopes that the program opens and
closes in between, and on nothing else.

`Uses` lists what happens to an identifier in a tree, with the scopes kept apart, and
`Uses.reassignments` reads off each assignment together with the earlier one that is in force there.
`Part.declarations` has the bindings of the identifier and what happens to it within their reach,
and `Parts.binders` the symbols that a tree gives a type other than by assignment.
-/
namespace StructuralTyping

/-- Something that happens to an identifier. -/
inductive Use where
  /-- It is the target of an assignment whose value is about to be evaluated; the type of the value
  will be in the slot. -/
  | target (value : Option TypeId)
  /-- The value of an assignment has become its value. -/
  | assigned (value : Option TypeId)
  /-- What happens to it in a scope of its own. -/
  | scope (uses : List Use)

/-- An assignment to an identifier: the slot with the type of the value, and that of the value in
force, which is the latest one assigned before in scopes that are still open, if there is one. -/
structure Reassignment where
  value : Option TypeId
  inForce : Option (Option TypeId)

/-- The value in force after a use.  A scope takes its own with it. -/
def Use.after (inForce : Option (Option TypeId)) : Use → Option (Option TypeId)
  | .target _ => inForce
  | .assigned value => some value
  | .scope _ => inForce

namespace Uses

/-- The value in force after uses. -/
def after (inForce : Option (Option TypeId)) (uses : List Use) : Option (Option TypeId) :=
  uses.foldl Use.after inForce

mutual

/-- The assignments of a use, with the value in force before it. -/
def reassignmentsOf (inForce : Option (Option TypeId)) : Use → List Reassignment
  | .target value => [⟨value, inForce⟩]
  | .assigned _ => []
  | .scope uses => reassignments inForce uses

/-- The assignments among uses, with the value in force before them. -/
def reassignments (inForce : Option (Option TypeId)) : List Use → List Reassignment
  | [] => []
  | u :: rest => reassignmentsOf inForce u ++ reassignments (u.after inForce) rest

end

section

variable (inForce : Option (Option TypeId))

/-- Only what is in force after the first uses matters to the others. -/
theorem after_append (us vs : List Use) :
    after inForce (us ++ vs) = after (after inForce us) vs :=
  List.foldl_append

/-- Uses in a row: the first ones settle which value is in force at the others. -/
theorem reassignments_append (us vs : List Use) :
    reassignments inForce (us ++ vs) =
      reassignments inForce us ++ reassignments (after inForce us) vs := by
  induction us generalizing inForce with
  | nil => rfl
  | cons u rest ih =>
    rw [List.cons_append, reassignments, ih, reassignments, List.append_assoc]
    rfl

/-- A scope shows its assignments and leaves nothing in force. -/
theorem reassignments_scope (us : List Use) :
    reassignments inForce [.scope us] = reassignments inForce us :=
  List.append_nil _

/-- A value is in force from when it is assigned, whatever happened before. -/
theorem after_assignment (value : Option TypeId) (us : List Use) :
    after inForce (.target value :: (us ++ [.assigned value])) = some value :=
  after_append inForce us [.assigned value]

/-- What is in force at an assignment is the value from before it. -/
theorem reassignments_assignment (value : Option TypeId) (us : List Use) :
    reassignments inForce (.target value :: (us ++ [.assigned value])) =
      ⟨value, inForce⟩ :: reassignments inForce us := by
  have done : reassignments (after inForce us) [.assigned value] = [] := rfl
  rw [reassignments, reassignmentsOf, reassignments_append, Use.after, done, List.append_nil]
  rfl

end

-- `x` is the identifier that the uses are of.
mutual

/-- The uses in an expression; its own slot plays no part. -/
def node (x : Symbol) : Node Expr → List Use
  | ⟨_, e, _⟩ => inside x e

/-- The uses in what an expression consists of, in the order in which it is checked. -/
def inside (x : Symbol) : Expr → List Use
  | .literal _ => []
  | .ident _ => []
  | .call callee args => node x callee ++ nodes x args
  | .conditional test consequent alternate =>
    node x test ++ (stmt x consequent ++ optionalStmt x alternate)
  | .member base _ => node x base
  | .index base position => node x base ++ node x position
  | .function ⟨_, _, _, _, body⟩ => [.scope (stmts x body)]
  | .classDef ⟨_, fields, ms⟩ => [.scope (fieldDecls x fields ++ methods x ms)]
  | .assertion e _ => node x e
  | .throwing value => node x value
  | .whileLoop test body => node x test ++ [.scope (stmts x body)]
  | .forLoop bs test update body =>
    [.scope (bindings x bs ++
      (optional x test ++ (optional x update ++ [.scope (stmts x body)])))]
  | .returning value => optional x value
  | .attempt body handler cleanup =>
    [.scope (stmts x body)] ++ (optionalHandler x handler ++ optionalBody x cleanup)
  | .array items => nodes x items
  | .object ps => properties x ps
  | .assignment target value =>
    if target.value.symbol? = some x then
      .target value.ty :: (node x value ++ [.assigned value.ty])
    else node x target ++ node x value

/-- The uses in expressions in a row. -/
def nodes (x : Symbol) : List (Node Expr) → List Use
  | [] => []
  | e :: rest => node x e ++ nodes x rest

/-- The uses in an expression that may be absent. -/
def optional (x : Symbol) : Option (Node Expr) → List Use
  | none => []
  | some e => node x e

/-- The uses in a statement; its own slot plays no part. -/
def stmt (x : Symbol) : Node Stmt → List Use
  | ⟨_, s, _⟩ => insideStmt x s

/-- The uses in a statement; a block and a binding form are scopes. -/
def insideStmt (x : Symbol) : Stmt → List Use
  | .expr e => node x e
  | .block body => [.scope (stmts x body)]
  | .binding _ bs body => [.scope (bindings x bs ++ stmts x body)]
  | .typeAlias _ _ _ => []

/-- The uses in statements in a row, all in the same scope. -/
def stmts (x : Symbol) : List (Node Stmt) → List Use
  | [] => []
  | s :: rest => stmt x s ++ stmts x rest

/-- The uses in a statement that may be absent. -/
def optionalStmt (x : Symbol) : Option (Node Stmt) → List Use
  | none => []
  | some s => stmt x s

/-- The uses in a body that may be absent; it is a scope. -/
def optionalBody (x : Symbol) : Option (List (Node Stmt)) → List Use
  | none => []
  | some body => [.scope (stmts x body)]

/-- The uses in the initial values of bindings. -/
def bindings (x : Symbol) : List Binding → List Use
  | [] => []
  | ⟨_, _, init⟩ :: rest => node x init ++ bindings x rest

/-- The uses in the initial values of declared fields. -/
def fieldDecls (x : Symbol) : List FieldDecl → List Use
  | [] => []
  | ⟨_, _, init⟩ :: rest => optional x init ++ fieldDecls x rest

/-- The uses in the bodies of methods, each a scope of its own. -/
def methods (x : Symbol) : List (Node Method) → List Use
  | [] => []
  | ⟨_, ⟨_, _, _, _, _, body⟩, _⟩ :: rest => [.scope (stmts x body)] ++ methods x rest

/-- The uses in a handler that may be absent; its body is a scope. -/
def optionalHandler (x : Symbol) : Option Handler → List Use
  | none => []
  | some ⟨_, body⟩ => [.scope (stmts x body)]

/-- The uses in the values of an object. -/
def properties (x : Symbol) : List Property → List Use
  | [] => []
  | ⟨_, value⟩ :: rest => node x value ++ properties x rest

end

end Uses

/-! ## Declarations -/

/-- A binding, and what happens to an identifier within its reach. -/
structure Declaration where
  binding : Binding
  uses : List Use

namespace Declaration

/-- The assignments within the reach of a binding. -/
def reassignments (d : Declaration) : List Reassignment := Uses.reassignments none d.uses

/-- Whether it is the identifier with this symbol that is bound. -/
def declares (x : Symbol) (d : Declaration) : Bool := d.binding.name.value.symbol = some x

/-- Bindings in a row.  Each reaches the initial values behind it and what comes `behind` all. -/
def inRow (x : Symbol) (behind : List Use) : List Binding → List Declaration
  | [] => []
  | b :: rest => ⟨b, Uses.bindings x rest ++ behind⟩ :: inRow x behind rest

/-- What comes behind the bindings is in the reach of all of them. -/
theorem inRow_eq (x : Symbol) (behind : List Use) (bs : List Binding) :
    inRow x behind bs = (inRow x [] bs).map fun d => ⟨d.binding, d.uses ++ behind⟩ := by
  induction bs with
  | nil => rfl
  | cons b rest ih => simp only [inRow, ih, List.map_cons, List.append_nil]

end Declaration

/-- The bindings of an identifier in a binding form or in a loop with bindings. -/
def Part.declarations (x : Symbol) : Part → List Declaration
  | .stmt ⟨_, .binding _ bs body, _⟩ =>
    (Declaration.inRow x (Uses.stmts x body) bs).filter (Declaration.declares x)
  | .expr ⟨_, .forLoop bs test update body, _⟩ =>
    (Declaration.inRow x
      (Uses.optional x test ++ (Uses.optional x update ++ [.scope (Uses.stmts x body)]))
      bs).filter (Declaration.declares x)
  | _ => []

/-! ## Binders -/

namespace Binders

/-- The symbol that a declared name binds, if it has one. -/
def ofName (n : Node Ident) : List Symbol := n.value.symbol.toList

/-- The symbol that an optional name binds. -/
def ofOptional (n : Option (Node Ident)) : List Symbol := n.toList.flatMap ofName

/-- The symbols that the bindings of a form bind. -/
def ofBindings (bs : List Binding) : List Symbol := bs.flatMap fun b => ofName b.name

/-- The symbols that parameters bind. -/
def ofParams (ps : List Param) : List Symbol := ps.flatMap fun p => ofName p.name

/-- The symbols that the parameters of methods bind. -/
def ofMethods (ms : List (Node Method)) : List Symbol := ms.flatMap fun m => ofParams m.value.params

end Binders

/-- As many bindings in a row declare an identifier as bind its symbol. -/
theorem Declaration.length_filter_inRow (x : Symbol) (behind : List Use) (bs : List Binding) :
    ((inRow x behind bs).filter (declares x)).length = (Binders.ofBindings bs).count x := by
  induction bs with
  | nil => rfl
  | cons b rest ih =>
    have split : (Binders.ofBindings (b :: rest)).count x =
        (Binders.ofName b.name).count x + (Binders.ofBindings rest).count x := List.count_append
    rw [inRow, split, ← ih]
    cases symbol : b.name.value.symbol with
    | none => simp [declares, Binders.ofName, symbol]
    | some y => by_cases same : y = x <;> simp [declares, Binders.ofName, symbol, same]; omega

open Binders in
/-- The symbols that a part itself gives a type, where `k` is the number of the next class. -/
def Part.binders (k : Nat) : Part → List Symbol
  | .stmt ⟨_, .binding _ bs _, _⟩ => ofBindings bs
  | .expr ⟨_, .forLoop bs _ _ _, _⟩ => ofBindings bs
  | .expr ⟨_, .function f, _⟩ => ofOptional f.name ++ ofParams f.params
  | .expr ⟨_, .classDef c, _⟩ => .ofClass k :: (ofOptional c.name ++ ofMethods c.methods)
  | .expr ⟨_, .attempt _ handler _, _⟩ => handler.toList.flatMap fun h => ofOptional h.param
  | _ => []

/-- The symbols that parts give a type, as often as they do. -/
def Parts.binders (k : Nat) : List Part → List Symbol
  | [] => []
  | p :: rest => p.binders k ++ binders (nextClass k [p]) rest

/-- Classes keep their numbers when parts are put in a row. -/
theorem Parts.binders_append (k : Nat) (parts parts' : List Part) :
    binders k (parts ++ parts') = binders k parts ++ binders (nextClass k parts) parts' := by
  induction parts generalizing k with
  | nil => rfl
  | cons p rest ih =>
    have split : nextClass k (p :: rest) = nextClass (nextClass k [p]) rest :=
      nextClass_append k [p] rest
    rw [List.cons_append, binders, ih, binders, split, List.append_assoc]

/-! ## What is seen of a part -/

/-- What is seen of a checked part: what happens to each identifier in it, and its expressions and
statements. -/
structure Seen where
  uses : Symbol → List Use
  parts : List Part

open Relabeling (linking linking_onlyLinks)

namespace Seen

/-- The annotated bindings of an identifier. -/
def declarations (s : Seen) (x : Symbol) : List Declaration :=
  s.parts.flatMap (Part.declarations x)

/-- What is seen where no part was checked. -/
def nothing : Seen := ⟨fun _ => [], []⟩

instance : Append Seen := ⟨fun a b => ⟨fun x => a.uses x ++ b.uses x, a.parts ++ b.parts⟩⟩

/-- The bindings of a row are those of its parts. -/
theorem declarations_append (a b : Seen) (x : Symbol) :
    (a ++ b).declarations x = a.declarations x ++ b.declarations x :=
  List.flatMap_append

/-- What is seen from outside of a scope. -/
def enclosed (s : Seen) : Seen := ⟨fun x => [.scope (s.uses x)], s.parts⟩

/-- The same happens to identifiers, and the same bindings are there. -/
structure Same (a b : Seen) : Prop where
  uses : ∀ x, a.uses x = b.uses x
  declarations : ∀ x, a.declarations x = b.declarations x

theorem Same.of_eq {a b : Seen} (h : a = b) : Same a b := h ▸ ⟨fun _ => rfl, fun _ => rfl⟩

/-- Nothing more is seen. -/
theorem append_nothing (s : Seen) : s ++ nothing = s := by
  show Seen.mk _ _ = s
  simp [nothing]

-- References to `self` get their symbols at the end of a class, so parts are looked at as they will
-- be then.
section

variable {τ : Type} (receiver : Option Symbol)

/-- A part with its references to `self` linked to the receiver. -/
def ofLinked (uses : Symbol → τ → List Use) (parts : τ → List Part)
    (relabel : Relabeling → Bool → τ → τ) (t : τ) : Seen :=
  ⟨fun x => uses x (relabel (linking receiver) receiver.isSome t),
    parts (relabel (linking receiver) receiver.isSome t)⟩

/-- An expression with the references to `self` that are its own linked. -/
def node : Node Expr → Seen := ofLinked receiver Uses.node Parts.node Relabeling.node

/-- Expressions in a row. -/
def nodes : List (Node Expr) → Seen := ofLinked receiver Uses.nodes Parts.nodes Relabeling.nodes

/-- An expression that may be absent. -/
def optional : Option (Node Expr) → Seen :=
  ofLinked receiver Uses.optional Parts.optional Relabeling.optional

/-- A statement. -/
def stmt : Node Stmt → Seen := ofLinked receiver Uses.stmt Parts.stmt Relabeling.stmt

/-- Statements in a row. -/
def stmts : List (Node Stmt) → Seen := ofLinked receiver Uses.stmts Parts.stmts Relabeling.stmts

/-- A statement that may be absent. -/
def optionalStmt : Option (Node Stmt) → Seen :=
  ofLinked receiver Uses.optionalStmt Parts.optionalStmt Relabeling.optionalStmt

/-- A body that may be absent. -/
def optionalBody : Option (List (Node Stmt)) → Seen :=
  ofLinked receiver Uses.optionalBody Parts.optionalBody Relabeling.optionalBody

/-- The bindings of a form. -/
def bindings : List Binding → Seen :=
  ofLinked receiver Uses.bindings Parts.bindings Relabeling.bindings

/-- The methods of a class, seen with the receiver of that class. -/
def methods : List (Node Method) → Seen :=
  ofLinked receiver Uses.methods Parts.methods Relabeling.methods

/-- A handler that may be absent. -/
def optionalHandler : Option Handler → Seen :=
  ofLinked receiver Uses.optionalHandler Parts.optionalHandler Relabeling.optionalHandler

/-- The properties of an object. -/
def properties : List Property → Seen :=
  ofLinked receiver Uses.properties Parts.properties Relabeling.properties

end

/-- Declared fields, whose references to `self` are never linked. -/
def fieldDecls (fs : List FieldDecl) : Seen :=
  ⟨fun x => Uses.fieldDecls x fs, Parts.fieldDecls fs⟩

/-- An expression whose references to `self` are linked already, without the node around it. -/
def ofExpr (e : Expr) : Seen := ⟨fun x => Uses.inside x e, Parts.inside e⟩

/-- Where the type of a node is recorded makes no difference. -/
theorem same_node (receiver : Option Symbol) (span : Span) (e : Expr) (slot slot' : Option TypeId) :
    Same (node receiver ⟨span, e, slot⟩) (node receiver ⟨span, e, slot'⟩) := by
  cases e <;> exact ⟨fun _ => rfl, fun _ => rfl⟩

/-- The slot of a statement is no use of anything. -/
theorem same_stmt (receiver : Option Symbol) (span : Span) (s : Stmt) (slot slot' : Option TypeId) :
    Same (stmt receiver ⟨span, s, slot⟩) (stmt receiver ⟨span, s, slot'⟩) := by
  cases s <;> exact ⟨fun _ => rfl, fun _ => rfl⟩

/-- In a function or a class there is nothing left to link, and it has no bindings of its own. -/
theorem ofExpr_same (receiver : Option Symbol) (span : Span) (slot : Option TypeId) {e : Expr}
    (linked : (linking receiver).inside receiver.isSome e = e)
    (own : ∀ x, Part.declarations x (.expr ⟨span, e, slot⟩) = []) :
    Same (ofExpr e) (node receiver ⟨span, e, slot⟩) := by
  have whole : (linking receiver).node receiver.isSome ⟨span, e, slot⟩ = ⟨span, e, slot⟩ :=
    congrArg (Node.mk span · slot) linked
  unfold node ofLinked
  rw [whole]
  refine ⟨fun _ => rfl, fun x => ?_⟩
  show _ = Part.declarations x (.expr ⟨span, e, slot⟩) ++ _
  rw [own]
  rfl

/-- The body of a function has no receiver. -/
theorem function_body (name : Option (Node Ident)) (typeParams : List (Node Ident))
    (params : List Param) (returns : Option (Node TypeExpr)) (body : List (Node Stmt)) :
    Same (stmts none body).enclosed
      (ofExpr (.function ⟨name, typeParams, params, returns, body⟩)) := by
  unfold stmts ofLinked
  rw [Option.isSome_none, Relabeling.stmts_eq (linking_onlyLinks none)]
  exact ⟨fun _ => rfl, fun _ => rfl⟩

/-- The methods of a class are linked to its instance when it is done. -/
theorem class_members (self : Symbol) (name : Option (Node Ident)) (fields : List FieldDecl)
    (ms : List (Node Method)) :
    Same (fieldDecls fields ++ methods (some self) ms).enclosed
      (ofExpr (.classDef ⟨name, fields, SelfReference.link self ms⟩)) := by
  rw [SelfReference.link_eq]
  exact ⟨fun _ => rfl, fun _ => rfl⟩

/-- A declared field adds what is seen of its initial value. -/
theorem fieldDecls_cons (name : Node Ident) (declaredAs : Option (Node TypeExpr))
    (init : Option (Node Expr)) (rest : List FieldDecl) :
    Same (optional none init ++ fieldDecls rest)
      (fieldDecls (⟨name, declaredAs, init⟩ :: rest)) := by
  unfold optional ofLinked
  rw [Option.isSome_none, Relabeling.optional_eq (linking_onlyLinks none)]
  exact ⟨fun _ => rfl, fun _ => rfl⟩

/-- What an expression refers to, once it is linked. -/
def linkedSymbol (receiver : Option Symbol) (n : Node Expr) : Option Symbol :=
  ((linking receiver).node receiver.isSome n).value.symbol?

section

variable {receiver : Option Symbol} {target value : Node Expr} {x : Symbol} (span : Span)
  (slot : Option TypeId)

/-- An assignment to the identifier itself: the target, the value, and then the new value in force.
-/
theorem assignment_same (same : linkedSymbol receiver target = some x) :
    (node receiver ⟨span, .assignment target value, slot⟩).uses x =
      .target value.ty :: ((node receiver value).uses x ++ [.assigned value.ty]) := by
  obtain ⟨_, _, _⟩ := value
  exact if_pos same

/-- An assignment to anything else uses the identifier in its two sides only. -/
theorem assignment_other (other : linkedSymbol receiver target ≠ some x) :
    (node receiver ⟨span, .assignment target value, slot⟩).uses x =
      (node receiver target ++ node receiver value).uses x :=
  if_neg other

end

end Seen

end StructuralTyping
