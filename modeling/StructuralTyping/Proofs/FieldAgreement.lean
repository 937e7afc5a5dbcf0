import StructuralTyping.Proofs.SecondPass

/-! # Assignments agree with the class

Every assignment to a field of `self` that belongs to the methods of a class themselves is checked
against the frozen type of `self`, so long as no method rebinds `self`.

The type of the instance is fixed only after the methods.  It has the frozen types of the fields,
except for those that were unknown until then: these take the type of a value that was assigned in
the second pass, and other values were not compared with it (`Checker.field_assignments_checked`).
So two assignments to such a field may conflict without a fault
(`Checker.conflicting_assignments_accepted`).
-/
namespace StructuralTyping
namespace Checker

/-! ## Every part of a method -/

namespace Follows

variable {self : Symbol} {frozen : List Field}

mutual

/-- In the second pass, the assignments to fields of `self` are settled in the order of the check.
-/
theorem checkExpr (receiver : Receiver) : ∀ (n : Node Expr) (st : State),
    Plain self receiver (Parts.node n) (Own.node n) → Inside self frozen st →
      Follows self frozen receiver Own.node st (Checker.checkExpr receiver n st)
  | ⟨span, e, slot⟩, st, plain, inside =>
    .recorded (checkForm receiver span e slot st plain inside) fun n =>
      FieldAssignment.among_node n span slot

theorem checkForm (receiver : Receiver) (span : Span) : ∀ (e : Expr) (slot : Option TypeId)
    (st : State), Plain self receiver (Parts.node ⟨span, e, slot⟩) (Own.node ⟨span, e, slot⟩) →
      Inside self frozen st →
      Follows self frozen receiver (fun e => Own.node ⟨span, e, slot⟩) st
        (Checker.checkForm receiver span e st)
  | .literal _, _, _, _, inside => .kept inside rfl
  | .ident _, _, _, _, inside => .kept inside rfl
  | .call callee args, _, st, plain, inside =>
    (checkExpr receiver callee st plain.tail.left inside).andThen
      (fun _ st inside => (checkExprs receiver args st plain.tail.right inside).conclude _)
      fun t u => FieldAssignment.among_append (Own.node t) (Own.nodes u)
  | .conditional test consequent alternate, _, st, plain, inside => by
    rw [Checker.checkForm]
    exact ((checkExpr receiver test st plain.tail.left inside).conclude _).andThen
      (fun _ st inside =>
        (checkStmt receiver consequent st plain.tail.right.left inside).andThenPair
          fun _ st inside =>
            (checkOptionalStmt receiver alternate st plain.tail.right.right inside).conclude _)
      fun t p => FieldAssignment.among_append (Own.node t) (Own.stmt p.1 ++ Own.optionalStmt p.2)
  | .member base property, _, st, plain, inside =>
    (checkExpr receiver base st plain.tail inside).andThen
      (fun _ _ inside => .property inside)
      fun t _ => (List.append_nil (FieldAssignment.among (Own.node t))).symm
  | .index base position, _, st, plain, inside =>
    (checkExpr receiver base st plain.tail.left inside).andThen
      (fun _ st inside => (checkExpr receiver position st plain.tail.right inside).conclude _)
      fun t u => FieldAssignment.among_append (Own.node t) (Own.node u)
  | .function f, _, st, plain, inside =>
    (checkFunction f st plain.head plain.tailStmt.symbols inside).rebuild fun _ => rfl
  | .classDef c, _, st, plain, inside =>
    -- a class inside of the method has its own instance and its own survey, and puts ours back
    (Follows.checkClass inside fun n hn =>
      plain.head n.value (Expr.mem_idents_className hn)).rebuild fun _ => rfl
  | .assertion e ty, _, st, plain, inside => by
    rw [Checker.checkForm]
    exact ((checkExpr receiver e st plain.tail inside).concludeWith _).rebuild fun _ => rfl
  | .throwing value, _, st, plain, inside =>
    ((checkExpr receiver value st plain.tail inside).conclude _).rebuild fun _ => rfl
  | .whileLoop test body, _, st, plain, inside =>
    ((checkExpr receiver test st plain.tail.left inside).conclude _).andThen
      (fun _ st inside =>
        (Follows.inScope inside
          (checkStmts receiver _ body _ plain.tail.right inside.push)).conclude _)
      fun t u => FieldAssignment.among_append (Own.node t) (Own.stmts u)
  | .forLoop bindings test update body, _, st, plain, inside => by
    rw [Checker.checkForm]
    exact .inScope inside <|
      (checkBindings receiver bindings _ plain.tail.left plain.head inside.push).andThen
        (fun _ st inside =>
          ((checkOptional receiver test st plain.tail.right.left inside).conclude _).andThenPair
            fun _ st inside =>
              (checkOptional receiver update st plain.tail.right.right.left inside).andThenPair
                fun _ st inside =>
                  (Follows.inScope inside
                    (checkStmts receiver _ body _ plain.tail.right.right.right
                      inside.push)).conclude _)
        fun t p => FieldAssignment.among_append (Own.bindings t)
          (Own.optional p.1 ++ (Own.optional p.2.1 ++ Own.stmts p.2.2))
  | .returning value, _, st, plain, inside =>
    ((checkOptional receiver value st plain.tail inside).conclude _).rebuild fun _ => rfl
  | .attempt body handler cleanup, _, st, plain, inside => by
    -- the parameter of a handler must not hide the instance either
    have param (n : Node Ident) (hn : n ∈ handler.bind Handler.param) :=
      plain.head n.value (List.mem_map_of_mem (Option.mem_toList.mpr hn))
    rw [Checker.checkForm]
    exact (Follows.inScope inside
      (checkStmts receiver _ body _ plain.tail.left inside.push)).andThen
      (fun _ st inside =>
        (checkHandler receiver handler st plain.tail.right.left param inside).andThenPair
          fun _ st inside => checkCleanup receiver cleanup st plain.tail.right.right inside)
      fun t p => FieldAssignment.among_append (Own.stmts t)
        (Own.optionalHandler p.1 ++ Own.optionalBody p.2)
  | .array items, _, st, plain, inside =>
    ((checkExprs receiver items st plain.tail inside).conclude _).rebuild fun _ => rfl
  | .object properties, _, st, plain, inside =>
    ((checkProperties receiver properties st plain.tail inside).conclude _).rebuild fun _ => rfl
  | .assignment target value, _, st, plain, inside =>
    .assignment plain inside (checkExpr receiver target st plain.tail.left inside) fun st inside =>
      checkExpr receiver value st plain.tail.right inside

theorem checkFunction {receiver : Receiver} : ∀ (f : Function) (st : State),
    (∀ i ∈ (Expr.function f).idents, i.symbol ≠ some self) →
      (∀ p ∈ Parts.inside (.function f), ∀ i ∈ p.idents, i.symbol ≠ some self) →
      Inside self frozen st →
      Follows self frozen receiver (fun _ => []) st (Checker.checkFunction f st)
  | ⟨name, typeParams, params, returns, body⟩, st, others, symbols, inside => by
    have named : ∀ n ∈ name, n.value.symbol ≠ some self :=
      fun n hn => others n.value (Expr.mem_idents_functionName hn)
    have bodies (st : State) (inside : Inside self frozen st) :=
      checkStmts none .undefined body st ⟨symbols, fun h => nomatch h⟩ inside
    have callable : Follows self frozen receiver (fun _ => []) st
        (Checker.checkCallable typeParams params returns body (Checker.announceFunction name)
          (Checker.checkStmts none .undefined body) st) :=
      (Follows.checkCallable (fun p hp => others p.name.value (Expr.mem_idents_param hp))
        (fun _ _ _ inside => .announceFunction named bodies inside) inside).ofFunction rfl
    rw [Checker.checkFunction, inside.real, if_neg Bool.false_ne_true]
    exact callable.andThen (fun t st inside => .named inside named t) fun _ _ => rfl

theorem checkExprs (receiver : Receiver) : ∀ (es : List (Node Expr)) (st : State),
    Plain self receiver (Parts.nodes es) (Own.nodes es) → Inside self frozen st →
      Follows self frozen receiver Own.nodes st (Checker.checkExprs receiver es st)
  | [], _, _, inside => .kept inside rfl
  | e :: rest, st, plain, inside =>
    (checkExpr receiver e st plain.left inside).andThen
      (fun _ st inside => (checkExprs receiver rest st plain.right inside).conclude _)
      fun t u => FieldAssignment.among_append (Own.node t) (Own.nodes u)

theorem checkOptional (receiver : Receiver) : ∀ (e : Option (Node Expr)) (st : State),
    Plain self receiver (Parts.optional e) (Own.optional e) → Inside self frozen st →
      Follows self frozen receiver Own.optional st (Checker.checkOptional receiver e st)
  | none, _, _, inside => .kept inside rfl
  | some e, st, plain, inside =>
    ((checkExpr receiver e st plain inside).conclude _).rebuild fun _ => rfl

theorem checkStmt (receiver : Receiver) : ∀ (n : Node Stmt) (st : State),
    Plain self receiver (Parts.stmt n) (Own.stmt n) → Inside self frozen st →
      Follows self frozen receiver Own.stmt st (Checker.checkStmt receiver n st)
  | ⟨span, .expr e, slot⟩, st, plain, inside =>
    .recordedStmt ((checkExpr receiver e st plain.tailStmt inside).rebuild fun _ => rfl)
  | ⟨span, .block body, slot⟩, st, plain, inside =>
    .recordedStmt ((Follows.inScope inside
      (checkStmts receiver _ body _ plain.tailStmt inside.push)).rebuild fun _ => rfl)
  | ⟨span, .binding kind bindings body, slot⟩, st, plain, inside => by
    let event := Event.bindings span kind (bindings.map fun b => b.name.value.name)
    have survey := State.emit_survey event st
    have scopes := State.emit_scopes event st
    have table := State.emit_table event st
    have emitted : Inside self frozen (st.emit event) := inside.of_eq survey scopes
    rw [Checker.checkStmt]
    refine .recordedStmt
      ((Follows.inScope emitted ?_).of_state survey (congrArg Scopes.outer scopes)
        (table ▸ .refl _))
    exact (checkBindings receiver bindings _ plain.tailStmt.left plain.head emitted.push).andThen
      (fun _ st inside => checkStmts receiver _ body st plain.tailStmt.right inside)
      fun t u => FieldAssignment.among_append (Own.bindings t) (Own.stmts u)
  | ⟨span, .typeAlias name typeParams ty, slot⟩, st, plain, inside => by
    unfold Checker.checkStmt
    split
    · exact .failed inside
    · exact .quiet ⟨inside.subject, inside.typed⟩ rfl rfl (.refl _) rfl

theorem checkOptionalStmt (receiver : Receiver) : ∀ (n : Option (Node Stmt)) (st : State),
    Plain self receiver (Parts.optionalStmt n) (Own.optionalStmt n) → Inside self frozen st →
      Follows self frozen receiver Own.optionalStmt st (Checker.checkOptionalStmt receiver n st)
  | none, _, _, inside => .kept inside rfl
  | some n, st, plain, inside =>
    ((checkStmt receiver n st plain inside).conclude _).rebuild fun _ => rfl

theorem checkStmts (receiver : Receiver) (last : Ty) : ∀ (body : List (Node Stmt)) (st : State),
    Plain self receiver (Parts.stmts body) (Own.stmts body) → Inside self frozen st →
      Follows self frozen receiver Own.stmts st (Checker.checkStmts receiver last body st)
  | [], _, _, inside => .kept inside rfl
  | n :: rest, st, plain, inside =>
    (checkStmt receiver n st plain.left inside).andThen
      (fun t st inside => checkStmts receiver t rest st plain.right inside)
      fun t u => FieldAssignment.among_append (Own.stmt t) (Own.stmts u)

theorem checkCleanup (receiver : Receiver) : ∀ (body : Option (List (Node Stmt))) (st : State),
    Plain self receiver (Parts.optionalBody body) (Own.optionalBody body) → Inside self frozen st →
      Follows self frozen receiver Own.optionalBody st (Checker.checkCleanup receiver body st)
  | none, _, _, inside => .kept inside rfl
  | some body, _, plain, inside =>
    ((Follows.inScope inside
      (checkStmts receiver _ body _ plain inside.push)).conclude _).rebuild fun _ => rfl

theorem checkHandler (receiver : Receiver) : ∀ (handler : Option Handler) (st : State),
    Plain self receiver (Parts.optionalHandler handler) (Own.optionalHandler handler) →
      (∀ n ∈ handler.bind Handler.param, n.value.symbol ≠ some self) → Inside self frozen st →
      Follows self frozen receiver Own.optionalHandler st (Checker.checkHandler receiver handler st)
  | none, _, _, _, inside => .kept inside rfl
  | some ⟨param, body⟩, st, plain, others, inside => by
    rw [Checker.checkHandler]
    exact .inScope inside <|
      (Follows.named inside.push others .unknown).andThen
        (fun _ st inside => checkStmts receiver _ body st plain inside)
        fun _ u => List.nil_append (FieldAssignment.among (Own.stmts u))

theorem checkBindings (receiver : Receiver) : ∀ (bs : List Binding) (st : State),
    Plain self receiver (Parts.bindings bs) (Own.bindings bs) →
      (∀ i ∈ bs.map fun b => b.name.value, i.symbol ≠ some self) → Inside self frozen st →
      Follows self frozen receiver Own.bindings st (Checker.checkBindings receiver bs st)
  | [], _, _, _, inside => .kept inside rfl
  | ⟨name, declaredAs, init⟩ :: rest, st, plain, others, inside => by
    obtain ⟨other, others⟩ := List.forall_mem_cons.mp others
    refine (checkExpr receiver init st plain.left inside).andThen (fun t st inside => ?_)
      fun t p => FieldAssignment.among_append (Own.node t) (Own.bindings p.2)
    split
    · exact .failed inside
    · rename_i u _
      have noted : Inside self frozen (st.note (.bound name.value.name u)) := inside.of_eq rfl rfl
      have bound := Follows.afterName (t := u) noted other fun st inside =>
        checkBindings receiver rest st plain.right others inside
      exact ⟨bound.inside, bound.outer, bound.grows, bound.settled⟩

theorem checkProperties (receiver : Receiver) : ∀ (ps : List Property) (st : State),
    Plain self receiver (Parts.properties ps) (Own.properties ps) → Inside self frozen st →
      Follows self frozen receiver Own.properties st (Checker.checkProperties receiver ps st)
  | [], _, _, inside => .kept inside rfl
  | ⟨_, value⟩ :: rest, st, plain, inside =>
    (checkExpr receiver value st plain.left inside).andThen
      (fun _ st inside => (checkProperties receiver rest st plain.right inside).conclude _)
      fun t u => FieldAssignment.among_append (Own.node t) (Own.properties u)

end

end Follows

/-! ## The methods of a class -/

section Methods

variable {self : Symbol} {frozen : List Field}

/-- One method, whose parameters do not hide the instance. -/
theorem Follows.checkMethod {n : Node Method} {st : State}
    (others : ∀ p ∈ n.value.params, p.name.value.symbol ≠ some self)
    (plain : Plain self (some self) (Parts.stmts n.value.body) (Own.stmts n.value.body))
    (inside : Inside self frozen st) :
    Follows self frozen (some self) (fun n => Own.stmts n.value.body) st
      (Checker.checkMethod self n st) := by
  have callable : Follows self frozen (some self) (fun p => Own.stmts p.2) st
      (Checker.checkCallable n.value.typeParams n.value.params n.value.returns n.value.body
        (fun _ _ st => st) (Checker.checkStmts (some self) .undefined n.value.body) st) :=
    .checkCallable others
      (fun _ _ st inside => .checkStmts (some self) .undefined n.value.body st plain inside) inside
  have method : Follows self frozen (some self) (fun m : Method => Own.stmts m.body) st
      ((Checker.checkCallable n.value.typeParams n.value.params n.value.returns n.value.body
        (fun _ _ st => st) (Checker.checkStmts (some self) .undefined n.value.body) st).rebuild
        fun p => { n.value with params := p.1, body := p.2 }) :=
    callable.rebuild fun _ => rfl
  exact method.recorded fun _ => rfl

/-- All methods one after the other. -/
theorem Follows.checkMethods {fields : List Field} {ms : List (Node Method)} {st : State}
    (others : ∀ m ∈ ms, ∀ p ∈ m.value.params, p.name.value.symbol ≠ some self)
    (plain : Plain self (some self) (Parts.methods ms) (Own.methods ms))
    (inside : Inside self frozen st) :
    Follows self frozen (some self) Own.methods st (Checker.checkMethods self fields ms st) := by
  induction ms generalizing st with
  | nil => exact .kept inside rfl
  | cons n rest ih =>
    obtain ⟨here, others⟩ := List.forall_mem_cons.mp others
    have plain : Plain self (some self) (Parts.stmts n.value.body ++ Parts.methods rest)
        (Own.stmts n.value.body ++ Own.methods rest) := by
      obtain ⟨_, ⟨_, _, _, _, _, _⟩, _⟩ := n
      exact plain
    rw [checkMethods_cons]
    split
    · exact .failed inside
    · exact (Follows.checkMethod here plain.left inside).andThen
        (fun t st inside => (ih others plain.right inside).conclude _)
        fun m ms => FieldAssignment.among_append (Own.stmts m.value.body) (Own.methods ms)

/-! ## The type of the instance -/

/-- The second pass begins with an instance of all the fields and signatures. -/
theorem inside_beginMethods (self : Symbol) (name : Option (Node Ident))
    (found signatures : List Field) (st : State) :
    Inside self (found ++ signatures) (st.beginMethods self name found signatures) := by
  refine ⟨rfl, ?_⟩
  have own : (st.scopes.bind self (.object (found ++ signatures))).symbol? self =
      some (.object (found ++ signatures)) := Scopes.symbol?_bind _ _ _
  -- if the name of the class had the symbol of `self`, it would be bound to the same type
  cases hs : name.bind (·.value.symbol) with
  | none => simp only [State.beginMethods, hs]; exact own
  | some symbol =>
    simp only [State.beginMethods, hs]
    by_cases same : self = symbol
    · subst same
      exact Scopes.symbol?_bind _ _ _
    · exact (Scopes.symbol?_bind_of_ne _ same _).trans own

/-- A member with a declared type is a method. -/
theorem exists_method_of_memberSignatures {scopes : Scopes} {fields signatures : List Field}
    {ms : List (Node Method)} (h : memberSignatures scopes fields ms = .ok signatures) :
    ∀ f ∈ signatures, ∃ m ∈ ms, m.value.name.value.name = f.name := by
  induction ms generalizing signatures with
  | nil =>
    obtain rfl := Except.ok.inj h
    exact List.forall_mem_nil _
  | cons m rest ih =>
    rw [memberSignatures] at h
    split at h
    · obtain ⟨t, -, h⟩ := exists_of_bind_eq_ok h
      obtain ⟨members, hmembers, h⟩ := exists_of_bind_eq_ok h
      obtain rfl := Except.ok.inj h
      refine List.forall_mem_cons.mpr ⟨⟨m, List.mem_cons_self, rfl⟩, fun f hf => ?_⟩
      obtain ⟨m', hm', named⟩ := ih hmembers f hf
      exact ⟨m', List.mem_cons_of_mem _ hm', named⟩
    · intro f hf
      obtain ⟨m', hm', named⟩ := ih h f hf
      exact ⟨m', List.mem_cons_of_mem _ hm', named⟩

/-- What an accepted instance makes of the fields that its methods assign. -/
theorem settled_checkInstance {name : Option (Node Ident)} {declared : List Field}
    {ms : List (Node Method)} {st : State} {t : Ty}
    (others : ∀ m ∈ ms, ∀ p ∈ m.value.params, p.name.value.symbol ≠ some self)
    (plain : Plain self (some self) (Parts.methods ms) (Own.methods ms))
    (ok : (checkInstance self name declared ms st).result = .ok t) :
    ∃ found signatures after entries, t = .object (after ++ entries) ∧
      (∀ f ∈ signatures, ∃ m ∈ ms, m.value.name.value.name = f.name) ∧
      ∀ final : TypeTable, final.Extends (checkInstance self name declared ms st).state.table →
        final.size ≤ TypeTable.capacity →
        Settled final (found ++ signatures) found after
          (FieldAssignment.among (Own.methods (checkInstance self name declared ms st).tree)) := by
  obtain ⟨s, found, signatures, entries, e, hsignatures, he, hentries, whole, ht⟩ :=
    exists_of_checkInstance_ok ok
  have begun := inside_beginMethods self name found signatures s
  have followed : Follows self (found ++ signatures) (some self) Own.methods
      (s.beginMethods self name found signatures) e := he ▸ .checkMethods others plain begun
  refine ⟨found, signatures, e.state.surveyed, entries, ht,
    exists_method_of_memberSignatures hsignatures, fun final ext room => ?_⟩
  rw [whole] at ext ⊢
  have settled := followed.settled entries hentries final ext room
  rwa [assignments, if_pos rfl] at settled

end Methods

/-! ## Agreement -/

theorem eq_ok_of_toOption {ε α : Type} {x : Except ε α} {a : α} (h : x.toOption = some a) :
    x = .ok a := by
  cases x with
  | error _ => nomatch h
  | ok b => exact congrArg Except.ok (Option.some.inj h)

/-- **Assignments in methods are checked against the frozen type of `self`.**  Take a class that is
accepted, outside of the first pass of another class, whose identifiers do not refer to instances by
symbol and whose methods do not assign to `self`.  Then the value of every own assignment to a field
fits the type recorded for its target.  That is the type of the field in the class too, unless the
target was still unknown or named a method: then the class has the type of the field from one of the
assigned values, and nothing compares the others with it. -/
theorem field_assignments_checked {c : Class} {st : State} {t : Ty} {final : TypeTable}
    (real : st.surveying = false)
    (unlinked : ∀ i ∈ c.idents, ∀ k, i.symbol ≠ some (.classSelf k))
    (keeps : ∀ n ∈ Own.methods c.methods, n.value.assignsSelf = false)
    (ok : (checkClass c st).result = .ok t)
    (ext : final.Extends (checkClass c st).state.table) (room : final.size ≤ TypeTable.capacity) :
    let assigned := FieldAssignment.among (Own.methods (checkClass c st).tree.methods)
    ∀ a ∈ assigned, ∃ u v w, final.typeOf a.target = some u ∧ final.typeOf a.value = some v ∧
      v.assignable u = true ∧ t.field? a.field = some w ∧
      (w = u ∨ (u = .unknown ∨ ∃ m ∈ c.methods, m.value.name.value.name = a.field) ∧
        FieldAssignment.Supplied final assigned a.field w) := by
  intro assigned a ha
  obtain ⟨s, declared, e, rfl, accepted, linked, s', table, state⟩ :=
    exists_of_checkClass_ok real ok
  have others : ∀ m ∈ c.methods, ∀ p ∈ m.value.params,
      p.name.value.symbol ≠ some st.nextSelf :=
    fun m hm p hp => unlinked _ (Class.mem_idents_param hm hp) _
  have plain : Plain st.nextSelf (some st.nextSelf) (Parts.methods c.methods)
      (Own.methods c.methods) :=
    ⟨fun p hp i hi => unlinked i (Class.mem_idents_part hp hi) _, fun _ => keeps⟩
  obtain ⟨found, signatures, after, entries, rfl, methods, settled⟩ :=
    settled_checkInstance others plain accepted
  -- after the instance only the name of the class is recorded
  have grows : final.Extends
      (checkInstance st.nextSelf c.name declared c.methods s).state.table := by
    rw [← table]
    exact (state ▸ ext).trans (continues_stepClosed.named c.name _ s').table
  -- the references in the methods were linked last, which changes no assignment
  have unlink : assigned = FieldAssignment.among
      (Own.methods (checkInstance st.nextSelf c.name declared c.methods s).tree) :=
    (congrArg (fun ms => FieldAssignment.among (Own.methods ms)) linked).trans
      (FieldAssignment.among_link _ _)
  rw [unlink] at ha ⊢
  obtain ⟨u, v, w, target, value, fits, member, agrees⟩ :=
    (settled final grows room).agrees entries ha
  refine ⟨u, v, w, target, value, fits, member, agrees.imp_right fun ⟨opened, supplied⟩ =>
    ⟨opened.imp_right fun ⟨f, hf, named⟩ => ?_, supplied⟩⟩
  obtain ⟨m, hm, signed⟩ := methods f hf
  exact ⟨m, hm, signed.trans named⟩

/-- Reads a field of `self`. -/
def selfField (name : String) : Node Expr :=
  ⟨.zero, .member ⟨.zero, .ident ⟨"self", none⟩, none⟩ ⟨.zero, ⟨name, none⟩, none⟩, none⟩

/-- A class with the fields `fields` and a method that makes the assignments `assigned`. -/
def assigning (fields : List (String × LiteralValue)) (assigned : List (String × Node Expr)) :
    Class where
  name := none
  fields := fields.map fun f =>
    ⟨⟨.zero, ⟨f.1, none⟩, none⟩, none, some ⟨.zero, .literal (.value f.2), none⟩⟩
  methods :=
    [⟨.zero,
      { name := ⟨.zero, ⟨"m", none⟩, none⟩
        kind := .method
        typeParams := []
        params := []
        returns := none
        body := assigned.map fun a =>
          ⟨.zero, .expr ⟨.zero, .assignment (selfField a.1) a.2, none⟩, none⟩ },
      none⟩]

/-- A class with a declared field and one that takes its type in the second pass. -/
def counter : Class :=
  assigning [("count", .boolean false)]
    [("count", ⟨.zero, .literal (.value (.boolean true)), none⟩), ("last", selfField "count")]

/-- The instance of the counter once its methods have their types. -/
def counterTy : Ty :=
  .object [⟨"count", .boolean⟩, ⟨"last", .boolean⟩, ⟨"m", .function [] .unknown⟩]

/-- Two assignments, the second to the field that takes its type in the second pass. -/
theorem field_assignments_checked_counter :
    (checkClass counter {}).result = .ok counterTy ∧
    FieldAssignment.among (Own.methods (checkClass counter {}).tree.methods) =
      [⟨"count", some ⟨4⟩, some ⟨5⟩⟩, ⟨"last", some ⟨10⟩, some ⟨13⟩⟩] ∧
    ∀ a ∈ FieldAssignment.among (Own.methods (checkClass counter {}).tree.methods), ∃ u v w,
      (checkClass counter {}).state.table.typeOf a.target = some u ∧
      (checkClass counter {}).state.table.typeOf a.value = some v ∧ v.assignable u = true ∧
      counterTy.field? a.field = some w ∧
      (w = u ∨ (u = .unknown ∨ ∃ m ∈ counter.methods, m.value.name.value.name = a.field) ∧
        FieldAssignment.Supplied (checkClass counter {}).state.table
          (FieldAssignment.among (Own.methods (checkClass counter {}).tree.methods))
          a.field w) := by
  have ok : (checkClass counter {}).result = .ok counterTy :=
    eq_ok_of_toOption (by decide +kernel)
  have symbols : ∀ i ∈ counter.idents, i.symbol = none := by decide +kernel
  have size : (checkClass counter {}).state.table.size = 17 := by decide +kernel
  refine ⟨ok, by decide +kernel,
    field_assignments_checked rfl (fun i hi k h => ?_) (by decide +kernel) ok (.refl _) ?_⟩
  · rw [symbols i hi] at h
    nomatch h
  · rw [size]
    decide

/-- A class that assigns a number and a string to a field that is not declared. -/
def conflicting : Class :=
  assigning [("g", .number ⟨0x3ff0000000000000⟩), ("h", .string "a")]
    [("f", selfField "g"), ("f", selfField "h")]

/-- **Conflicting assignments may be accepted.**  The values have unknown types in the first pass,
so in the second pass both of them fit the field.  It becomes a number and is assigned a string. -/
theorem conflicting_assignments_accepted :
    (∀ i ∈ conflicting.idents, i.symbol = none) ∧
    (∀ n ∈ Own.methods conflicting.methods, n.value.assignsSelf = false) ∧
    ∃ t, (checkClass conflicting {}).result = .ok t ∧
      ∃ a ∈ FieldAssignment.among (Own.methods (checkClass conflicting {}).tree.methods),
        ∃ u v, t.field? a.field = some u ∧
          (checkClass conflicting {}).state.table.typeOf a.value = some v ∧
          v.assignable u = false := by
  have ok : (checkClass conflicting {}).result = .ok (.object [⟨"g", .number⟩, ⟨"h", .string⟩,
      ⟨"f", .number⟩, ⟨"m", .function [] .unknown⟩]) :=
    eq_ok_of_toOption (by decide +kernel)
  exact ⟨by decide +kernel, by decide +kernel, _, ok, ⟨"f", some ⟨14⟩, some ⟨17⟩⟩,
    by decide +kernel, .number, .string, by decide, by decide +kernel, by decide +kernel⟩

end Checker
end StructuralTyping
