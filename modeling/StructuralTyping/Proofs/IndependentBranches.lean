import StructuralTyping.Proofs.ConcurringParts

/-! # The branches of a conditional

A conditional opens no scope.  Its alternate is checked after its consequent, in the scope in which
an assignment of the consequent has given an identifier a new type, and is held against that type
(`alternate_sees_consequent`).  With a block around each branch the assignment is forgotten when the
first block is closed.

Nothing else passes from one branch to the other: a conditional has the same result with and without
the blocks, if the consequent leaves the identifiers of the alternate with the types that they had
before it (`conditional_inBlocks`).  What the consequent assigns to other identifiers does not
matter, and neither do the aliases, functions and classes in it.

The argument compares checks in two states, twice.  The consequent is checked in a state and in the
same state with one more scope open, which agree in everything that can be looked up.  The alternate
is then checked in the state that the consequent has left and in one in which its scope has been
closed and another one opened; these agree on the types that the consequent has left alone.
-/
namespace StructuralTyping

/-- A statement in a block of its own. -/
def Node.inBlock (span : Span) (slot : Option TypeId) (s : Node Stmt) : Node Stmt :=
  ⟨span, .block [s], slot⟩

namespace Checker

/-- The identifiers of a part have the same types in both states. -/
def SameTypes (receiver : Receiver) (parts : List Part) (p q : State) : Prop :=
  Sees (fun s => p.lookup (some s) = q.lookup (some s)) receiver parts

/-! ## Blocks of one statement -/

section Blocks

variable (receiver : Receiver) (span : Span) (slot : Option TypeId) (s : Node Stmt) (st : State)

/-- A statement in a block of its own is checked in a scope of its own. -/
theorem checkStmt_inBlock :
    checkStmt receiver (.inBlock span slot s) st =
      recorded span slot ((inScope (checkStmt receiver s) st).rebuild fun s => .block [s]) := by
  have single : checkStmts receiver .undefined [s] st.push =
      (checkStmt receiver s st.push).rebuild fun s => [s] := by
    rw [checkStmts, Edit.andThen]
    cases hr : (checkStmt receiver s st.push).result with
    | error e => rw [Edit.rebuild, hr]
    | ok t => rw [Edit.rebuild, hr]; rfl
  rw [Node.inBlock, checkStmt, inScope, single]
  rfl

/-- A block around a statement changes the type of nothing. -/
theorem checkStmt_inBlock_result :
    (checkStmt receiver (.inBlock span slot s) st).result =
      (checkStmt receiver s st.push).result := by
  rw [checkStmt_inBlock, recorded]
  cases hr : (checkStmt receiver s st.push).result <;> simp [inScope, Edit.mapState, hr]

/-- A block may only add its own type to the table. -/
theorem checkStmt_inBlock_extends :
    (checkStmt receiver (.inBlock span slot s) st).state.table.Extends
      (checkStmt receiver s st.push).state.table := by
  rw [checkStmt_inBlock]
  exact (continues_stepClosed.recorded (continues_stepClosed.refl _)).table

variable {receiver s st}

/-- After a block its scope is closed and its type is recorded. -/
theorem checkStmt_inBlock_state {t : Ty} (ok : (checkStmt receiver s st.push).result = .ok t) :
    (checkStmt receiver (.inBlock span slot s) st).state =
      ((checkStmt receiver s st.push).state.pop.record slot t).2 := by
  rw [checkStmt_inBlock, recorded]
  simp [inScope, Edit.mapState, ok]

end Blocks

/-! ## States that differ by a scope -/

variable {X : Symbol → Prop} {A B : String → Prop} {st p q : State}

/-- One more scope, with nothing in it. -/
theorem Concordant.pushed (st : State) :
    Concordant (fun _ => True) (st.table, st.table) st st.push where
  symbols _ _ := rfl
  typeParams _ := rfl
  survey := rfl
  nextClass := rfl
  recorded := ⟨[], (List.append_nil _).symm, (List.append_nil _).symm⟩

/-- What happened in `p` happened inside of a scope in `q`, which is closed now, and another one is
opened. -/
theorem Concordant.reopened {base : TypeTable × TypeTable} (slot : Option TypeId) (t : Ty)
    (h : Concordant (fun _ => True) base p q) (left : Later A st p) (right : Later B st.push q)
    (kept : ∀ s, X s → p.lookup (some s) = st.lookup (some s)) :
    Concordant X (p.table, (q.pop.record slot t).2.table) p (q.pop.record slot t).2.push where
  symbols s hs := by
    show p.lookup (some s) = (q.pop.record slot t).2.lookup (some s)
    rw [State.lookup_congr (State.record_scopes slot t q.pop), kept s hs]
    exact (State.lookup_pop right.framed.outer (some s)).symm
  typeParams name := by
    show p.scopes.typeParam? name = (q.pop.record slot t).2.scopes.typeParam? name
    rw [State.record_scopes, left.framed.typeParam?]
    exact ((later_stepClosed.scope [] right).framed.typeParam? name).symm
  survey := by
    show p.survey = (q.pop.record slot t).2.survey
    rw [State.record_survey]
    exact h.survey
  nextClass := by
    show p.nextClass = (q.pop.record slot t).2.nextClass
    rw [State.record_nextClass]
    exact h.nextClass
  recorded := ⟨[], (List.append_nil _).symm, (List.append_nil _).symm⟩

/-! ## Two branches in a row -/

/-- Checks the branches of a conditional. -/
def checkBranches (receiver : Receiver) (s₁ s₂ : Node Stmt) (st : State) :
    Checked (Node Stmt × Option (Node Stmt)) Ty :=
  (checkStmt receiver s₁ st).andThen (some s₂)
    (fun t st =>
      (checkOptionalStmt receiver (some s₂) st).conclude fun u => .ok (Rule.branches t u)) .mk

section Branches

variable {receiver : Receiver} {s₁ : Node Stmt}

/-- The check of a statement leads to a later state. -/
theorem later_checkStmt (receiver : Receiver) (s : Node Stmt) (st : State) :
    Later (fun _ => True) st (checkStmt receiver s st).state :=
  later_stepClosed.checkStmt receiver s st fun _ _ => trivial

/-- The second branch is checked after the first. -/
theorem later_checkBranches (receiver : Receiver) (s₁ s₂ : Node Stmt) (st : State) :
    Later (fun _ => True) (checkStmt receiver s₁ st).state
      (checkBranches receiver s₁ s₂ st).state :=
  later_stepClosed.andThen (later_stepClosed.refl _) fun _ => later_checkStmt receiver s₂ _

/-- If the first branch fails, its failure is that of the conditional. -/
theorem checkBranches_of_error {e : Failure} (failed : (checkStmt receiver s₁ st).result = .error e)
    (s₂ : Node Stmt) : (checkBranches receiver s₁ s₂ st).result = .error e := by
  rw [checkBranches, Edit.andThen, failed]

/-- If the first branch succeeds, the second is checked in the state that it leaves. -/
theorem checkBranches_of_ok {t : Ty} (ok : (checkStmt receiver s₁ st).result = .ok t)
    (s₂ : Node Stmt) :
    (checkBranches receiver s₁ s₂ st).result =
        (checkStmt receiver s₂ (checkStmt receiver s₁ st).state).result.map
          (fun u => Rule.branches t (some u)) ∧
      (checkBranches receiver s₁ s₂ st).state =
        (checkStmt receiver s₂ (checkStmt receiver s₁ st).state).state := by
  rw [checkBranches, Edit.andThen, ok]
  refine ⟨?_, rfl⟩
  show ((checkStmt receiver s₂ _).result.bind _).bind _ = _
  cases (checkStmt receiver s₂ (checkStmt receiver s₁ st).state).result <;> rfl

/-- Two branches have the same outcome in blocks of their own, if the first leaves all types that
the second asks for. -/
theorem checkBranches_inBlocks {s₂ : Node Stmt} {span₁ span₂ : Span} {slot₁ slot₂ : Option TypeId}
    (kept : ∀ t, (checkStmt receiver s₁ st).result = .ok t →
      SameTypes receiver (Parts.stmt s₂) (checkStmt receiver s₁ st).state st)
    (room : HasRoom (checkBranches receiver s₁ s₂ st).state
      (checkBranches receiver (.inBlock span₁ slot₁ s₁) (.inBlock span₂ slot₂ s₂) st).state) :
    (checkBranches receiver s₁ s₂ st).result =
      (checkBranches receiver (.inBlock span₁ slot₁ s₁) (.inBlock span₂ slot₂ s₂) st).result := by
  -- the consequent, in this scope and in one of its own
  have first := (Concurs.checkStmt _ st.surveying receiver s₁ (.all _ _)).alike st st.push rfl
    (.pushed st) (fun _ _ => rfl) (room.of_extends
      (later_checkBranches receiver s₁ s₂ st).continues.table
      ((later_checkBranches receiver _ _ st).continues.table.trans
        (checkStmt_inBlock_extends receiver span₁ slot₁ s₁ st)))
  have wrapped := checkStmt_inBlock_result receiver span₁ slot₁ s₁ st
  rw [← first.result] at wrapped
  cases hx : (checkStmt receiver s₁ st).result with
  | error e => rw [checkBranches_of_error hx, checkBranches_of_error (wrapped.trans hx)]
  | ok t =>
    obtain ⟨plainResult, plainState⟩ := checkBranches_of_ok hx s₂
    obtain ⟨blockResult, blockState⟩ :=
      checkBranches_of_ok (wrapped.trans hx) (.inBlock span₂ slot₂ s₂)
    rw [plainState, blockState] at room
    rw [plainResult, blockResult, checkStmt_inBlock_result]
    rw [checkStmt_inBlock_state span₁ slot₁ (first.result.symm.trans hx)] at room ⊢
    -- the alternate, after the consequent and after a block
    have left := later_checkStmt receiver s₁ st
    have right := later_checkStmt receiver s₁ st.push
    have second := (Concurs.checkStmt _ st.surveying receiver s₂ (kept t hx)).alike _ _
      left.continues.surveying (first.states.reopened slot₁ t left right fun _ hs => hs)
      (fun name _ => ?_) (room.of_extends (.refl _) (checkStmt_inBlock_extends ..))
    · rw [second.result]
    · refine (first.states.reopened slot₁ t left right fun _ hs => hs).typeNamed?_of_alias ?_
      have same : SameAlias (checkStmt receiver s₁ st).state (checkStmt receiver s₁ st.push).state
          name := first.aliases name rfl
      refine (sameAlias_congr rfl ?_ name).mpr same
      show ((checkStmt receiver s₁ st.push).state.pop.record slot₁ t).2.scopes.aliases = _
      rw [State.record_scopes, State.pop_aliases]

end Branches

/-! ## Conditionals -/

section Conditionals

variable {receiver : Receiver} {span : Span} {slot : Option TypeId} {test : Node Expr}
  {s₁ s₂ : Node Stmt}

/-- A conditional: its condition, then its branches, then the record of its type. -/
theorem checkExpr_conditional (receiver : Receiver) (span : Span) (slot : Option TypeId)
    (test : Node Expr) (s₁ s₂ : Node Stmt) (st : State) :
    checkExpr receiver ⟨span, .conditional test s₁ (some s₂), slot⟩ st =
      recorded span slot (((checkExpr receiver test st).conclude (Rule.condition test.span)).andThen
        (s₁, some s₂) (fun _ => checkBranches receiver s₁ s₂) fun test p =>
          .conditional test p.1 p.2) := by
  rw [checkExpr, checkForm]
  rfl

/-- A conditional whose test is refused. -/
theorem conditional_of_error {e : Failure}
    (refused : ((checkExpr receiver test st).conclude (Rule.condition test.span)).result = .error e)
    (s₁ s₂ : Node Stmt) :
    (checkExpr receiver ⟨span, .conditional test s₁ (some s₂), slot⟩ st).result = .error e := by
  rw [checkExpr_conditional, recorded_result, Edit.andThen, refused]

/-- A conditional whose test is accepted has the result of its branches. -/
theorem conditional_of_ok {t : Ty}
    (accepted : ((checkExpr receiver test st).conclude (Rule.condition test.span)).result = .ok t)
    (span : Span) (slot : Option TypeId) (s₁ s₂ : Node Stmt) :
    (checkExpr receiver ⟨span, .conditional test s₁ (some s₂), slot⟩ st).result =
        (checkBranches receiver s₁ s₂ (checkExpr receiver test st).state).result ∧
      Later (fun _ => True) (checkBranches receiver s₁ s₂ (checkExpr receiver test st).state).state
        (checkExpr receiver ⟨span, .conditional test s₁ (some s₂), slot⟩ st).state := by
  rw [checkExpr_conditional]
  refine ⟨?_, later_stepClosed.recorded ?_⟩
  · rw [recorded_result, Edit.andThen, accepted]
    rfl
  · rw [Edit.andThen, accepted]
    exact later_stepClosed.refl _

/-- **Branches are independent but for what is assigned.**  A conditional has the same result with
each branch in a block of its own, if the consequent, when the condition and it are accepted, leaves
the identifiers of the alternate with the types that they had before it. -/
theorem conditional_inBlocks {span₁ span₂ : Span} {slot₁ slot₂ : Option TypeId}
    (kept : ∀ t u,
      ((checkExpr receiver test st).conclude (Rule.condition test.span)).result = .ok t →
      (checkStmt receiver s₁ (checkExpr receiver test st).state).result = .ok u →
      SameTypes receiver (Parts.stmt s₂)
        (checkStmt receiver s₁ (checkExpr receiver test st).state).state
        (checkExpr receiver test st).state)
    (room : HasRoom
      (checkExpr receiver ⟨span, .conditional test s₁ (some s₂), slot⟩ st).state
      (checkExpr receiver ⟨span, .conditional test (.inBlock span₁ slot₁ s₁)
        (some (.inBlock span₂ slot₂ s₂)), slot⟩ st).state) :
    (checkExpr receiver ⟨span, .conditional test s₁ (some s₂), slot⟩ st).result =
      (checkExpr receiver ⟨span, .conditional test (.inBlock span₁ slot₁ s₁)
        (some (.inBlock span₂ slot₂ s₂)), slot⟩ st).result := by
  cases tested : ((checkExpr receiver test st).conclude (Rule.condition test.span)).result with
  | error e => rw [conditional_of_error tested, conditional_of_error tested]
  | ok t =>
    obtain ⟨plain, later⟩ := conditional_of_ok tested span slot s₁ s₂
    obtain ⟨wrapped, later'⟩ := conditional_of_ok tested span slot
      (.inBlock span₁ slot₁ s₁) (.inBlock span₂ slot₂ s₂)
    rw [plain, wrapped]
    exact checkBranches_inBlocks (fun u => kept t u tested) (room.earlier later later')

/-- Gives a variable a new value. -/
def setting (symbol : UInt32) (name : String) (value : LiteralValue) : Node Stmt :=
  ⟨.zero, .expr ⟨.zero, .assignment ⟨.zero, .ident ⟨name, some (.resolved symbol)⟩, none⟩
    ⟨.zero, .literal (.value value), none⟩, none⟩, none⟩

/-- Chooses between two statements. -/
def choosing (s₁ s₂ : Node Stmt) : Node Expr :=
  ⟨.zero, .conditional ⟨.zero, .literal (.value (.boolean true)), none⟩ s₁ (some s₂), none⟩

/-- The consequent names a thing that had no type before, and the alternate counts. -/
theorem conditional_inBlocks_count :
    let naming := setting 1 "label" (.string "a")
    let counting := setting 0 "count" (.number ⟨0x3ff0000000000000⟩)
    let st := ({} : State).bind (some (.resolved 0)) .number
    (checkStmt none naming st).state.lookup (some (.resolved 1)) ≠
        st.lookup (some (.resolved 1)) ∧
      (checkExpr none (choosing naming counting) st).result.isOk = true ∧
      (checkExpr none (choosing naming counting) st).result =
        (checkExpr none (choosing (.inBlock .zero none naming) (.inBlock .zero none counting))
          st).result := by
  intro naming counting st
  refine ⟨by decide +kernel, by decide +kernel, conditional_inBlocks (fun _ _ _ _ => ?_) ?_⟩
  · intro i hi
    obtain rfl : i = ⟨"count", some (.resolved 0)⟩ := List.mem_singleton.mp hi
    refine ⟨?_, ?_⟩ <;>
    · intro s hs
      obtain rfl := Option.some.inj hs
      decide +kernel
  · exact ⟨by decide +kernel, by decide +kernel⟩

/-- **The alternate sees what the consequent has assigned.**  A variable without a type becomes a
number in one branch and is refused a text in the other, which is accepted if the branches are
blocks. -/
theorem alternate_sees_consequent :
    let counting := setting 0 "x" (.number ⟨0x3ff0000000000000⟩)
    let naming := setting 0 "x" (.string "a")
    (checkExpr none (choosing counting naming) {}).result.isOk = false ∧
      (checkExpr none (choosing (.inBlock .zero none counting) (.inBlock .zero none naming))
        {}).result.isOk = true := by
  decide +kernel

end Conditionals

end Checker
end StructuralTyping
