import StructuralTyping.Proofs.AnnotationMeaning
import StructuralTyping.Proofs.UpheldTypes

/-! # Identifiers keep to their declared types

A binding fixes the type of its identifier, but each assignment gives the identifier the widened
type of the value, and the next assignment is held against that type.  So the declared type is let
go when a literal is widened beyond it, or when something unknown comes in, with which everything
goes (`Session.declared_types_let_go`).  It is let go in no other way: if the value in force keeps
to the declared type, the next value fits it (`Session.declared_types_kept`), whatever was assigned
and overwritten before.
-/
namespace StructuralTyping

namespace Checker

open Relabeling (linking linking_onlyLinks)

namespace Upholds

-- By induction on the tree.  Most forms are checks in a row, and what is seen of the whole is by
-- definition what is seen of the pieces; bindings and assignments have lemmas of their own.
mutual

/-- A check for real upholds the declared types, at every assignment inside of the expression. -/
theorem checkExpr (receiver : Receiver) : ∀ (n : Node Expr) (k : Nat) (st : State), Ready k st →
    Upholds [] (Parts.node n) (Sites.node receiver n st) k (Seen.node receiver) st
      (Checker.checkExpr receiver n st)
  | ⟨span, e, slot⟩, k, st, ready =>
    (checkForm receiver span slot e k st ready).recorded fun e slot' =>
      Seen.same_node receiver span e slot slot'

theorem checkForm (receiver : Receiver) (span : Span) (slot : Option TypeId) :
    ∀ (e : Expr) (k : Nat) (st : State), Ready k st →
      Upholds [] (Parts.node ⟨span, e, slot⟩) (Sites.inside receiver e st) k
        (fun e => Seen.node receiver ⟨span, e, slot⟩) st (Checker.checkForm receiver span e st)
  | .literal _, _, _, ready =>
    inPart rfl (succeed ready ⟨fun _ => rfl, fun _ => rfl⟩)
  | .ident i, _, _, ready =>
    inPart rfl (succeed ready ⟨fun _ => rfl, fun _ => rfl⟩)
  | .call callee args, k, st, ready =>
    inPart rfl <| (checkExpr receiver callee k st ready).andThen
      (fun _ st ready => (checkExprs receiver args _ st ready).conclude _)
      fun _ _ => ⟨fun _ => rfl, fun _ => rfl⟩
  | .conditional test consequent alternate, k, st, ready => by
    unfold Checker.checkForm
    exact inPart rfl <| ((checkExpr receiver test k st ready).conclude _).andThen
      (fun _ st ready => (checkStmt receiver consequent _ st ready).andPair fun _ st ready =>
        (checkOptionalStmt receiver alternate _ st ready).conclude _)
      fun _ _ => ⟨fun _ => rfl, fun _ => rfl⟩
  | .member base property, k, st, ready => by
    unfold Checker.checkForm
    refine inPart rfl <| (checkExpr receiver base k st ready).andName (fun t st ready => ?_)
      fun _ _ => ⟨fun _ => rfl, fun _ => rfl⟩
    exact recorded (S := fun _ => .nothing) (fun _ _ => .refl ready) fun _ _ => .of_eq rfl
  | .index base position, k, st, ready =>
    inPart rfl <| (checkExpr receiver base k st ready).andThen
      (fun _ st ready => (checkExpr receiver position _ st ready).conclude _)
      fun _ _ => ⟨fun _ => rfl, fun _ => rfl⟩
  | .function f, k, st, ready =>
    -- a function binds its name and its parameters, which count as its own binders
    within rfl (List.Subset.refl _) <| (checkFunction receiver f k st ready).rebuild fun f =>
      Seen.ofExpr_same receiver span slot (congrArg Expr.function
        (Relabeling.function_eq (linking_onlyLinks receiver) f)) fun _ => rfl
  | .classDef c, k, st, ready =>
    (checkClass receiver span slot c k st ready).rebuild fun c =>
      Seen.ofExpr_same receiver span slot (congrArg Expr.classDef
        (Relabeling.classDef_eq (linking_onlyLinks receiver) c)) fun _ => rfl
  | .assertion e ty, k, st, ready => by
    unfold Checker.checkForm
    refine inPart rfl <| ((checkExpr receiver e k st ready).concludeWith _).rebuild ?_
    exact fun _ => ⟨fun _ => rfl, fun _ => rfl⟩
  | .throwing value, k, st, ready =>
    inPart rfl <| ((checkExpr receiver value k st ready).conclude _).rebuild
      fun _ => ⟨fun _ => rfl, fun _ => rfl⟩
  | .whileLoop test body, k, st, ready =>
    inPart rfl <| ((checkExpr receiver test k st ready).conclude _).andThen
      (fun _ st ready => (inScope (checkStmts receiver _ body _ st.push ready.push)).conclude _)
      fun _ _ => ⟨fun _ => rfl, fun _ => rfl⟩
  | .forLoop bs test update body, k, st, ready => by
    unfold Checker.checkForm
    -- a loop with bindings is a binding form like `let`, with the turns as its body
    refine bindingForm (fun bs q => .expr ((linking receiver).node receiver.isSome
      ⟨span, .forLoop bs q.1 q.2.1 q.2.2, slot⟩)) (checkBindings receiver bs k st.push ready.push)
      (fun _ st ready => ((checkOptional receiver test _ st ready).conclude _).andPair
        fun _ st ready => (checkOptional receiver update _ st ready).andPair
          fun _ st ready =>
            (inScope (checkStmts receiver _ body _ st.push ready.push)).conclude _)
      rfl rfl (fun _ _ _ => rfl) fun _ _ => ⟨fun _ => rfl, fun _ => rfl⟩
  | .returning value, k, st, ready =>
    inPart rfl <| ((checkOptional receiver value k st ready).conclude _).rebuild
      fun _ => ⟨fun _ => rfl, fun _ => rfl⟩
  | .attempt body handler cleanup, k, st, ready => by
    unfold Checker.checkForm
    refine within rfl ?_ <| (inScope (checkStmts receiver _ body k st.push ready.push)).andThen
      (fun _ st ready => (checkHandler receiver handler _ st ready).andPair
        fun _ st ready => checkCleanup receiver cleanup _ st ready)
      fun _ _ => ⟨fun _ => rfl, fun _ => rfl⟩
    simp [Part.binders]
  | .array items, k, st, ready =>
    inPart rfl <| ((checkExprs receiver items k st ready).conclude _).rebuild
      fun _ => ⟨fun _ => rfl, fun _ => rfl⟩
  | .object ps, k, st, ready =>
    inPart rfl <| ((checkProperties receiver ps k st ready).conclude _).rebuild
      fun _ => ⟨fun _ => rfl, fun _ => rfl⟩
  | .assignment target value, k, st, ready =>
    inPart rfl <| assignment receiver span slot ready (checkExpr receiver target k st ready)
      fun st ready => checkExpr receiver value _ st ready

/-- The names are bound by the function as a part. -/
theorem checkFunction (receiver : Receiver) : ∀ (f : Function) (k : Nat) (st : State), Ready k st →
    Upholds (Binders.ofOptional f.name ++ Binders.ofParams f.params) (Parts.inside (.function f))
      (Sites.inside receiver (.function f) st) k (fun f => Seen.ofExpr (.function f)) st
      (Checker.checkFunction f st)
  | ⟨name, typeParams, params, returns, body⟩, k, st, ready => by
    rw [Checker.checkFunction, if_neg (Bool.eq_false_iff.mp ready.real)]
    refine mono ?_ ((checkCallable (fun _ _ _ => .announceFunction name _ _)
      (fun st ready => checkStmts none .undefined body k st ready) ready).andName
      (fun t st ready => named name t ready) fun _ _ => Seen.function_body _ _ _ _ _)
    intro x hx
    simp only [List.mem_append] at hx ⊢
    tauto

theorem checkClass (receiver : Receiver) (span : Span) (slot : Option TypeId) :
    ∀ (c : Class) (k : Nat) (st : State), Ready k st →
      Upholds [] (Parts.node ⟨span, .classDef c, slot⟩) (Sites.inside receiver (.classDef c) st) k
        (fun c => Seen.ofExpr (.classDef c)) st (Checker.checkClass c st)
  | ⟨name, fields, methods⟩, k, st, ready => by
    have self : st.nextSelf = .ofClass k := congrArg Symbol.classSelf ready.nextClass
    -- the class takes the next number, and with it the symbol of its instance
    have entry : Traced [.expr ⟨span, .classDef ⟨name, fields, methods⟩, slot⟩] k st
        (st.enterClass methods) := .enterClass ready
    have members := checkMembers name
      (checkFields fields _ (st.enterClass methods).push entry.ready.push)
      fun found st ready => checkMethods (.ofClass k) found methods _ st ready
    rw [checkClass_of_real name fields methods ready.real, Sites.inside, self]
    refine entered (State.enterClass_scopes methods st) (State.enterClass_table methods st) rfl ?_
      ((leaveClass ready.real (inScope members)).andName (fun t st ready => named name t ready)
        fun p name => Seen.class_members (.ofClass k) name p.1 p.2)
    intro x hx
    simp only [Part.binders, List.mem_cons, List.mem_append] at hx ⊢
    tauto

theorem checkExprs (receiver : Receiver) :
    ∀ (es : List (Node Expr)) (k : Nat) (st : State), Ready k st →
      Upholds [] (Parts.nodes es) (Sites.nodes receiver es st) k (Seen.nodes receiver) st
        (Checker.checkExprs receiver es st)
  | [], _, _, ready => succeed ready (.of_eq rfl)
  | e :: rest, k, st, ready =>
    (checkExpr receiver e k st ready).andThen
      (fun _ st ready => (checkExprs receiver rest _ st ready).conclude _) fun _ _ => .of_eq rfl

theorem checkOptional (receiver : Receiver) :
    ∀ (e : Option (Node Expr)) (k : Nat) (st : State), Ready k st →
      Upholds [] (Parts.optional e) (Sites.optional receiver e st) k (Seen.optional receiver) st
        (Checker.checkOptional receiver e st)
  | none, _, _, ready => succeed ready (.of_eq rfl)
  | some e, k, st, ready =>
    ((checkExpr receiver e k st ready).conclude _).rebuild fun _ => .of_eq rfl

theorem checkStmt (receiver : Receiver) : ∀ (n : Node Stmt) (k : Nat) (st : State), Ready k st →
    Upholds [] (Parts.stmt n) (Sites.stmt receiver n st) k (Seen.stmt receiver) st
      (Checker.checkStmt receiver n st)
  | ⟨span, .expr e, slot⟩, k, st, ready =>
    inPart rfl <| recorded (S := fun s => Seen.stmt receiver ⟨span, s, slot⟩)
      ((checkExpr receiver e k st ready).rebuild fun _ => ⟨fun _ => rfl, fun _ => rfl⟩)
      fun s slot' => Seen.same_stmt receiver span s slot slot'
  | ⟨span, .block body, slot⟩, k, st, ready =>
    inPart rfl <| recorded (S := fun s => Seen.stmt receiver ⟨span, s, slot⟩)
      ((inScope (checkStmts receiver _ body k st.push ready.push)).rebuild
        fun _ => ⟨fun _ => rfl, fun _ => rfl⟩)
      fun s slot' => Seen.same_stmt receiver span s slot slot'
  | ⟨span, .binding kind bs body, slot⟩, k, st, ready => by
    have emitted : BindsOnly [] st
        (st.emit (.bindings span kind (bs.map fun b => b.name.value.name))) := .emit _
    unfold Checker.checkStmt
    refine recorded (S := fun s => Seen.stmt receiver ⟨span, s, slot⟩)
      (afterQuiet ready emitted (bindingForm (fun bs body => .stmt ((linking receiver).stmt
        receiver.isSome ⟨span, .binding kind bs body, slot⟩))
        (checkBindings receiver bs k _ (emitted.ready k ready).push)
        (fun _ st ready => checkStmts receiver _ body _ st ready)
        rfl rfl (fun _ _ _ => rfl) fun _ _ => ⟨fun _ => rfl, fun _ => rfl⟩))
      fun s slot' => Seen.same_stmt receiver span s slot slot'
  | ⟨span, .typeAlias name typeParams ty, slot⟩, k, st, ready => by
    unfold Checker.checkStmt
    split
    · exact fail
    · rename_i t _
      have step : BindsOnly [] st
          ((st.note (.aliased name.value.name t)).defineAlias name.value.name t) :=
        ⟨fun _ h => ⟨h.real, h.nextClass⟩, rfl, .refl _, fun _ _ => rfl⟩
      exact inPart rfl <| afterQuiet ready step (succeed (step.ready k ready)
        ⟨fun _ => rfl, fun _ => rfl⟩)

theorem checkOptionalStmt (receiver : Receiver) :
    ∀ (n : Option (Node Stmt)) (k : Nat) (st : State), Ready k st →
      Upholds [] (Parts.optionalStmt n) (Sites.optionalStmt receiver n st) k
        (Seen.optionalStmt receiver) st (Checker.checkOptionalStmt receiver n st)
  | none, _, _, ready => succeed ready (.of_eq rfl)
  | some n, k, st, ready =>
    ((checkStmt receiver n k st ready).conclude _).rebuild fun _ => .of_eq rfl

theorem checkStmts (receiver : Receiver) (last : Ty) :
    ∀ (body : List (Node Stmt)) (k : Nat) (st : State), Ready k st →
      Upholds [] (Parts.stmts body) (Sites.stmts receiver body st) k (Seen.stmts receiver) st
        (Checker.checkStmts receiver last body st)
  | [], _, _, ready => succeed ready (.of_eq rfl)
  | n :: rest, k, st, ready =>
    (checkStmt receiver n k st ready).andThen
      (fun t st ready => checkStmts receiver t rest _ st ready) fun _ _ => .of_eq rfl

theorem checkCleanup (receiver : Receiver) :
    ∀ (body : Option (List (Node Stmt))) (k : Nat) (st : State), Ready k st →
      Upholds [] (Parts.optionalBody body) (Sites.optionalBody receiver body st) k
        (Seen.optionalBody receiver) st (Checker.checkCleanup receiver body st)
  | none, _, _, ready => succeed ready (.of_eq rfl)
  | some body, k, st, ready =>
    ((inScope (checkStmts receiver _ body k st.push ready.push)).conclude _).rebuild
      fun _ => .of_eq rfl

theorem checkHandler (receiver : Receiver) :
    ∀ (handler : Option Handler) (k : Nat) (st : State), Ready k st →
      Upholds (handler.toList.flatMap fun h => Binders.ofOptional h.param)
        (Parts.optionalHandler handler) (Sites.optionalHandler receiver handler st) k
        (Seen.optionalHandler receiver) st (Checker.checkHandler receiver handler st)
  | none, _, _, ready => succeed ready (.of_eq rfl)
  | some ⟨param, body⟩, k, st, ready => by
    unfold Checker.checkHandler
    refine mono ?_ (enclosedName (named param .unknown ready.push)
      (fun _ st ready => checkStmts receiver _ body _ st ready) ?_)
    · simp
    · exact fun _ _ => .of_eq rfl

theorem checkBindings (receiver : Receiver) :
    ∀ (bs : List Binding) (k : Nat) (st : State), Ready k st →
      ∀ a, (Checker.checkBindings receiver bs st).result = .ok a →
        UpheldBindings receiver bs k st (Checker.checkBindings receiver bs st).tree
          (Checker.checkBindings receiver bs st).state
  | [], _, _, ready => fun _ _ => .nil ready
  | ⟨name, declaredAs, init⟩ :: rest, k, st, ready => by
    intro a ok
    unfold Checker.checkBindings at ok ⊢
    obtain ⟨initTy, hinit, accepted, whole⟩ := Edit.exists_of_andThen_ok ok
    rw [whole]
    have first := checkExpr receiver init k st ready initTy hinit
    split at accepted
    · cases accepted
    · rename_i t ht
      have ready := (BindsOnly.declare name t).ready _ first.ready
      exact .cons hinit ht first (checkBindings receiver rest _ _ ready a accepted)

theorem checkFields : ∀ (fs : List FieldDecl) (k : Nat) (st : State), Ready k st →
    Upholds [] (Parts.fieldDecls fs) (Sites.fieldDecls fs st) k Seen.fieldDecls st
      (Checker.checkFields fs st)
  | [], _, _, ready => succeed ready (.of_eq rfl)
  | ⟨name, declaredAs, init⟩ :: rest, k, st, ready => by
    unfold Checker.checkFields
    refine (checkOptional none init k st ready).andThen (T := fun p => Seen.fieldDecls p.2)
      (fun initTy st ready => ?_) fun _ _ => Seen.fieldDecls_cons _ _ _ _
    cases Rule.field st.scopes declaredAs init initTy with
    | error f => exact fail
    | ok t =>
      refine afterName
        (fun st => (Checker.checkFields rest st).conclude fun entries =>
          .ok (⟨name.value.name, t⟩ :: entries))
        Prod.mk ready (fun st ready => (checkFields rest _ st ready).conclude _) ?_
      exact fun _ _ => .of_eq rfl

theorem checkMethods (self : Symbol) (fields : List Field) :
    ∀ (ms : List (Node Method)) (k : Nat) (st : State), Ready k st →
      Upholds (Binders.ofMethods ms) (Parts.methods ms) (Sites.methods self ms st) k
        (Seen.methods (some self)) st (Checker.checkMethods self fields ms st)
  | [], _, _, ready => succeed ready (.of_eq rfl)
  | ⟨span, ⟨name, kind, typeParams, params, returns, body⟩, slot⟩ :: rest, k, st, ready => by
    rw [checkMethods_cons, Sites.methods]
    by_cases annotated : kind = .constructor ∧ returns.isSome
    · rw [if_pos annotated, if_pos annotated]
      exact fail
    · rw [if_neg annotated, if_neg annotated]
      -- a method announces nothing, so its parameters are all it binds
      have checked : Upholds (Binders.ofParams params ++ []) (Parts.stmts body)
          (Sites.callable typeParams params returns (fun _ _ st => st)
            (Sites.stmts (some self) body) st) k
          (fun p => (Seen.stmts (some self) p.2).enclosed) st
          (Checker.checkCallable typeParams params returns body (fun _ _ st => st)
            (Checker.checkStmts (some self) .undefined body) st) :=
        checkCallable (fun _ _ _ => .refl)
          (fun st ready => checkStmts (some self) .undefined body k st ready) ready
      rw [List.append_nil] at checked
      refine (recorded (S := fun m : Method => (Seen.stmts (some self) m.body).enclosed)
        (W := fun m : Node Method => (Seen.stmts (some self) m.value.body).enclosed)
        (checked.rebuild fun _ => .of_eq rfl) fun _ _ => .of_eq rfl).andThen
        (fun _ st ready => (checkMethods self fields rest _ st ready).conclude _) ?_
      rintro ⟨_, ⟨_, _, _, _, _, _⟩, _⟩ _
      exact .of_eq rfl

theorem checkProperties (receiver : Receiver) :
    ∀ (ps : List Property) (k : Nat) (st : State), Ready k st →
      Upholds [] (Parts.properties ps) (Sites.properties receiver ps st) k
        (Seen.properties receiver) st
        (Checker.checkProperties receiver ps st)
  | [], _, _, ready => succeed ready (.of_eq rfl)
  | ⟨key, value⟩ :: rest, k, st, ready => by
    unfold Checker.checkProperties
    exact (checkExpr receiver value k st ready).andThen
      (fun _ st ready => (checkProperties receiver rest _ st ready).conclude _)
      fun _ _ => .of_eq rfl

end

end Upholds

end Checker

/-! ## Sessions -/

namespace Session

open Checker
open Parts (nextClass)

/-- A statement without a diagnostic upholds declared types. -/
theorem upheld_checkStmt (file : String) (n : Node Stmt) {k : Nat} {s : Session}
    (ready : Ready k s.state)
    (clean : (s.checkStmt file n).2.diagnostics.size ≤ s.diagnostics.size) :
    Upheld [] (Parts.stmt n) (Sites.stmt none n s.state) k (Seen.stmt none (s.checkStmt file n).1)
      s.state (s.checkStmt file n).2.state := by
  have h := Upholds.checkStmt none n k s.state ready
  unfold Session.checkStmt at clean ⊢
  dsimp only at clean ⊢
  split
  · rename_i t ht
    exact h t ht
  · rename_i f hf
    simp only [hf, Array.size_push] at clean
    omega

/-- Statements without diagnostics uphold declared types. -/
theorem upheld_checkBody (file : String) (body : List (Node Stmt)) {k : Nat} (s : Session)
    (ready : Ready k s.state)
    (clean : (checkBody file body s).2.diagnostics.size ≤ s.diagnostics.size) :
    Upheld [] (Parts.stmts body) (Session.sites file body s) k
      (Seen.stmts none (checkBody file body s).1) s.state (checkBody file body s).2.state := by
  induction body generalizing k s with
  | nil => exact .refl ready
  | cons n rest ih =>
    -- diagnostics are only ever added, so neither the statement nor the rest added one
    have first := size_diagnostics_checkStmt file n s
    have later := size_diagnostics_checkBody file rest (s.checkStmt file n).2
    have checked := upheld_checkStmt file n ready (Nat.le_trans later clean)
    exact checked.trans (ih _ checked.ready (Nat.le_trans clean first))

/-- **Declared types are kept.**  Take a check without diagnostics and a binding whose symbol is
bound nowhere else.  The type `t` recorded on its name is the one that its annotation, if it has
one, stands for in the scopes in which the check resolves it.  For each assignment to the identifier
within reach of the binding, if the value in force keeps to `t`, then the type recorded for the
assigned value fits `t`.  In force is the latest value assigned earlier within reach of the binding,
in scopes that are still open; where there is none, the binding itself counts. -/
theorem declared_types_kept {p : Program}
    (clean : (({} : Session).check p).2.diagnostics = #[])
    (room : (({} : Session).check p).2.table.size ≤ TypeTable.capacity) :
    ∀ part ∈ (({} : Session).check p).1.parts, ∀ x, (Parts.binders 0 p.parts).count x = 1 →
      ∀ d ∈ part.declarations x,
        ∃ site t, p.sites.filter (Site.binds x) = [site] ∧
          site.binding.name.value = d.binding.name.value ∧
          site.binding.declaredAs = d.binding.declaredAs ∧
          (∀ a ∈ d.binding.declaredAs, site.scopes.resolve a = .ok t) ∧
          (({} : Session).check p).2.table.typeOf d.binding.name.ty = some t ∧
          ∀ r ∈ d.reassignments,
            (∀ v ∈ r.inForce, (({} : Session).check p).2.table.Keeps t v) →
              ∃ u, (({} : Session).check p).2.table.typeOf r.value = some u ∧
                u.assignable t = true := by
  have fresh : Ready 0 ({} : Session).state := ⟨rfl, rfl⟩
  have upheld := upheld_checkBody p.file p.body {} fresh (Nat.le_of_eq (congrArg Array.size clean))
  have table : (({} : Session).check p).2.table = (checkBody p.file p.body {}).2.state.table :=
    State.emit_table _ _
  rw [table] at room ⊢
  intro part hpart x once d hd
  have final : Final (checkBody p.file p.body {}).2.state.table
      (checkBody p.file p.body {}).2.state := ⟨.refl _, room⟩
  -- outside of classes there is nothing to link
  have unlinked : (Relabeling.linking none).stmts (none : Option Symbol).isSome
      (checkBody p.file p.body {}).1 = (checkBody p.file p.body {}).1 :=
    Relabeling.stmts_eq (Relabeling.linking_onlyLinks none) _
  have declared : d ∈ (Seen.stmts none (checkBody p.file p.body {}).1).declarations x := by
    unfold Seen.declarations Seen.stmts Seen.ofLinked
    rw [unlinked]
    exact List.mem_flatMap.mpr ⟨part, hpart, hd⟩
  obtain ⟨site, only, resolves⟩ := (upheld.sited _ final x).exists_of_mem declared
    (Nat.le_trans (upheld.few x) (Nat.le_of_eq once))
  obtain ⟨t, typed, honours⟩ := upheld.honoured _ final x (Nat.le_of_eq once) d declared
  exact ⟨site, t, only, resolves.name, resolves.declaredAs, resolves.resolved t typed, typed,
    honours⟩

/-- An assignment to an identifier, as a statement. -/
def assigning (symbol : UInt32) (name : String) (value : Expr) : Node Stmt :=
  ⟨.zero, .expr ⟨.zero, .assignment ⟨.zero, .ident ⟨name, some (.resolved symbol)⟩, none⟩
    ⟨.zero, value, none⟩, none⟩, none⟩

/-- A binding form with one annotated binding. -/
def declaring (symbol : UInt32) (name : String) (declaredAs : TypeExpr) (init : Expr)
    (body : List (Node Stmt)) : Node Stmt :=
  ⟨.zero, .binding .letBinding
    [⟨⟨.zero, ⟨name, some (.resolved symbol)⟩, none⟩, some ⟨.zero, declaredAs, none⟩,
      ⟨.zero, init, none⟩⟩] body, none⟩

/-- A limit is a number or null, by the name of a type.  It becomes something unknown and then 3.
In a block it becomes something unknown and then a text, and in a function 8, but when it becomes 5
at the end only the 3 is in force. -/
def budget : Program where
  file := "budget"
  body :=
    [⟨.zero, .typeAlias ⟨.zero, ⟨"Limit", none⟩, none⟩ [] ⟨.zero, .union [⟨.zero, .keyword .number,
        none⟩, ⟨.zero, .keyword .null, none⟩], none⟩, none⟩,
      declaring 0 "limit" (.named "Limit") (.literal (.value .null))
        [limit (.ident ⟨"legacy", none⟩),
          limit (.literal (.value (.number ⟨0x4008000000000000⟩))),
          ⟨.zero, .block
            [limit (.ident ⟨"legacy", none⟩), limit (.literal (.value (.string "none")))], none⟩,
          ⟨.zero, .expr ⟨.zero, .function ⟨none, [], [], none,
            [limit (.literal (.value (.number ⟨0x4020000000000000⟩)))]⟩, none⟩, none⟩,
          limit (.literal (.value (.number ⟨0x4014000000000000⟩)))]]
where
  limit (value : Expr) : Node Stmt := assigning 0 "limit" value

/-- The annotation is an alias, and a value of unknown type comes before the one that is checked. -/
theorem declared_types_kept_budget :
    (({} : Session).check budget).2.diagnostics = #[] ∧
    (Parts.binders 0 budget.parts).count (.resolved 0) = 1 ∧
    ∃ part ∈ (({} : Session).check budget).1.parts, ∃ d ∈ part.declarations (.resolved 0),
      (∃ site, budget.sites.filter (Site.binds (.resolved 0)) = [site] ∧
        ∃ a ∈ d.binding.declaredAs, (TypeExpr.references a).map (·.name) = ["Limit"] ∧
          site.scopes.resolve a = .ok (.union [.number, .null])) ∧
      ∃ r ∈ d.reassignments, r = ⟨some ⟨26⟩, some (some ⟨7⟩)⟩ ∧
        ∃ u, (({} : Session).check budget).2.table.typeOf r.value = some u ∧
          u.assignable (.union [.number, .null]) = true := by
  have clean : (({} : Session).check budget).2.diagnostics = #[] :=
    Array.size_eq_zero_iff.mp (by decide +kernel)
  have size : (({} : Session).check budget).2.table.size = 30 := by decide +kernel
  have room : (({} : Session).check budget).2.table.size ≤ TypeTable.capacity := by
    rw [size]
    decide
  have once : (Parts.binders 0 budget.parts).count (.resolved 0) = 1 := by decide +kernel
  have three : (({} : Session).check budget).2.table.typeOf (some ⟨7⟩) =
      some (.literal (.number ⟨0x4008000000000000⟩)) := by decide +kernel
  have found : ∃ part ∈ (({} : Session).check budget).1.parts,
      ∃ d ∈ part.declarations (.resolved 0),
        (∃ a ∈ d.binding.declaredAs, (TypeExpr.references a).map (·.name) = ["Limit"]) ∧
        (({} : Session).check budget).2.table.typeOf d.binding.name.ty =
          some (.union [.number, .null]) ∧
        ∃ r ∈ d.reassignments, r.value = some ⟨26⟩ ∧ r.inForce = some (some ⟨7⟩) := by
    decide +kernel
  obtain ⟨part, hpart, d, hd, ⟨a, ha, named⟩, declared, ⟨value, inForce⟩, hr, rfl, rfl⟩ := found
  obtain ⟨site, t, only, -, -, resolved, typed, honours⟩ :=
    declared_types_kept clean room part hpart _ once d hd
  obtain rfl := Option.some.inj (typed.symm.trans declared)
  refine ⟨clean, once, part, hpart, d, hd, ⟨site, only, a, ha, named, resolved a ha⟩, _, hr, rfl,
    honours _ hr fun v hv => ?_⟩
  obtain rfl := Option.some.inj hv
  intro u hu
  obtain rfl := Option.some.inj (hu.symm.trans three)
  -- widened, the 3 is a number
  exact .inr ⟨by decide, by decide +kernel⟩

/-- Within reach of a binding of `x`, whose annotation stands for `t` where it is resolved, a value
of type `u` is assigned, which does not fit. -/
def LetGo (p : Program) (x : Symbol) (t u : Ty) : Prop :=
  (∃ site ∈ p.sites, site.binds x = true ∧
    ∃ a ∈ site.binding.declaredAs, (site.scopes.resolve a).toOption = some t) ∧
  ∃ part ∈ (({} : Session).check p).1.parts, ∃ d ∈ part.declarations x,
    (({} : Session).check p).2.table.typeOf d.binding.name.ty = some t ∧
    ∃ s ∈ d.reassignments,
      (({} : Session).check p).2.table.typeOf s.value = some u ∧ u.assignable t = false

instance (p : Program) (x : Symbol) (t u : Ty) : Decidable (LetGo p x t u) :=
  inferInstanceAs (Decidable (_ ∧ _))

/-- A mode that is on or off becomes any text once it is assigned, and counts become anything once
they are empty. -/
def drifting : Program where
  file := "drifting"
  body :=
    [declaring 0 "mode" (.union [⟨.zero, .literal (.string "on"), none⟩,
        ⟨.zero, .literal (.string "off"), none⟩])
      (text "on") [assigning 0 "mode" (text "off"), assigning 0 "mode" (text "idle")],
    declaring 1 "counts" (.array ⟨.zero, .keyword .number, none⟩)
      (.array [⟨.zero, .literal (.value (.number ⟨0x3ff0000000000000⟩)), none⟩])
      [assigning 1 "counts" (.array []),
        assigning 1 "counts" (.array [⟨.zero, text "many", none⟩])]]
where
  text (s : String) : Expr := .literal (.value (.string s))

/-- **Declared types may be let go.**  A literal is widened beyond the declared type, and an empty
array has unknown elements.  What comes next is held against that. -/
theorem declared_types_let_go :
    (({} : Session).check drifting).2.diagnostics = #[] ∧
    (Parts.binders 0 drifting.parts).count (.resolved 0) = 1 ∧
    LetGo drifting (.resolved 0) (.union [.literal (.string "on"), .literal (.string "off")])
      (.literal (.string "idle")) ∧
    (Parts.binders 0 drifting.parts).count (.resolved 1) = 1 ∧
    LetGo drifting (.resolved 1) (.array .number) (.array .string) := by
  refine ⟨Array.size_eq_zero_iff.mp ?_, ?_⟩ <;> decide +kernel

end Session
end StructuralTyping
