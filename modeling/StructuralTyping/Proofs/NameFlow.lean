import StructuralTyping.Proofs.AnnotationMeaning

/-! # The names that annotations use

A part of a program mentions names of types in its annotations and defines some of them as aliases.
`NameFlow` says what of this matters to the outside: which names must have a meaning before the part
is checked, since they are mentioned before the part itself defines them, and which names it has
defined when its check succeeds.

A name that is a type parameter around the mention is not looked for among the aliases.  Of the
methods of a class there is more than one round: each is surveyed, where functions and classes are
not entered and the survey may stop without notice (`NameFlow.surveys`); then the methods that are
members declare their types (`NameFlow.signatures`); and then the methods are checked
(`NameFlow.methods`).  A survey that goes on to the end defines some of the aliases that the check
defines (`NameFlow.reached_subset`).
-/
namespace StructuralTyping

/-- What a part of a program does with the names of types. -/
structure NameFlow where
  /-- The names that are mentioned before they are defined. -/
  needs : List String := []
  /-- The names that are defined as aliases. -/
  defines : List String := []

namespace NameFlow

/-- One part after the other. -/
def andThen (f g : NameFlow) : NameFlow :=
  ⟨f.needs ++ g.needs.filter fun name => !f.defines.contains name, f.defines ++ g.defines⟩

/-- A part within the reach of type parameters. -/
def within (typeParams : List (Node Ident)) (f : NameFlow) : NameFlow :=
  { f with needs := f.needs.filter fun name => !(typeParams.map (·.value.name)).contains name }

/-- A part that may be left unfinished. -/
def tentative (f : NameFlow) : NameFlow := { f with defines := [] }

/-- An annotation needs every name it mentions. -/
def ofType (t : Node TypeExpr) : NameFlow := ⟨(TypeExpr.references t).map (·.name), []⟩

/-- An annotation that may be absent. -/
def ofOptionalType : Option (Node TypeExpr) → NameFlow
  | none => {}
  | some t => ofType t

/-- The annotations of parameters. -/
def params : List Param → NameFlow
  | [] => {}
  | ⟨_, declaredAs⟩ :: rest => (ofOptionalType declaredAs).andThen (params rest)

/-- The parameters and the declared result of a function or method. -/
def declared (ps : List Param) (returns : Option (Node TypeExpr)) : NameFlow :=
  (params ps).andThen (ofOptionalType returns)

mutual

/-- An expression that is checked or, if not `entering` functions and classes, surveyed. -/
def expr (entering : Bool) : Node Expr → NameFlow
  | ⟨_, e, _⟩ => form entering e

/-- What an expression consists of, in the order in which it is checked. -/
def form (entering : Bool) : Expr → NameFlow
  | .literal _ => {}
  | .ident _ => {}
  | .call callee args => (expr entering callee).andThen (exprs entering args)
  | .conditional test consequent alternate =>
    (expr entering test).andThen
      ((stmt entering consequent).andThen (optionalStmt entering alternate))
  | .member base _ => expr entering base
  | .index base position => (expr entering base).andThen (expr entering position)
  | .function ⟨_, typeParams, ps, returns, body⟩ =>
    if entering then ((declared ps returns).andThen (stmts true body)).within typeParams
    else (declared ps returns).within typeParams
  | .classDef ⟨_, fs, ms⟩ =>
    if entering then
      (fields fs).andThen ((surveys ms).andThen ((signatures ms).andThen (methods ms)))
    else {}
  | .assertion e t => (expr entering e).andThen (ofType t)
  | .throwing value => expr entering value
  | .whileLoop test body => (expr entering test).andThen (stmts entering body)
  | .forLoop bs test update body =>
    (bindings entering bs).andThen
      ((optional entering test).andThen
        ((optional entering update).andThen (stmts entering body)))
  | .returning value => optional entering value
  | .attempt body catcher finisher =>
    (stmts entering body).andThen
      ((handler entering catcher).andThen (cleanup entering finisher))
  | .array items => exprs entering items
  | .object ps => properties entering ps
  | .assignment target value => (expr entering target).andThen (expr entering value)

/-- Expressions in a row. -/
def exprs (entering : Bool) : List (Node Expr) → NameFlow
  | [] => {}
  | e :: rest => (expr entering e).andThen (exprs entering rest)

/-- An expression that may be absent. -/
def optional (entering : Bool) : Option (Node Expr) → NameFlow
  | none => {}
  | some e => expr entering e

/-- A statement; an alias defines its name after its type is resolved. -/
def stmt (entering : Bool) : Node Stmt → NameFlow
  | ⟨_, .expr e, _⟩ => expr entering e
  | ⟨_, .block body, _⟩ => stmts entering body
  | ⟨_, .binding _ bs body, _⟩ => (bindings entering bs).andThen (stmts entering body)
  | ⟨_, .typeAlias name typeParams t, _⟩ =>
    ((ofType t).within typeParams).andThen ⟨[], [name.value.name]⟩

/-- A statement that may be absent. -/
def optionalStmt (entering : Bool) : Option (Node Stmt) → NameFlow
  | none => {}
  | some s => stmt entering s

/-- Statements in a row. -/
def stmts (entering : Bool) : List (Node Stmt) → NameFlow
  | [] => {}
  | s :: rest => (stmt entering s).andThen (stmts entering rest)

/-- The cleanup of a `try`, if there is one. -/
def cleanup (entering : Bool) : Option (List (Node Stmt)) → NameFlow
  | none => {}
  | some body => stmts entering body

/-- The handler of a `try`, if there is one. -/
def handler (entering : Bool) : Option Handler → NameFlow
  | none => {}
  | some ⟨_, body⟩ => stmts entering body

/-- Bindings in a row, each initial value before its annotation. -/
def bindings (entering : Bool) : List Binding → NameFlow
  | [] => {}
  | ⟨_, declaredAs, init⟩ :: rest =>
    (expr entering init).andThen ((ofOptionalType declaredAs).andThen (bindings entering rest))

/-- Declared fields in a row, each initial value before its annotation. -/
def fields : List FieldDecl → NameFlow
  | [] => {}
  | ⟨_, declaredAs, init⟩ :: rest =>
    (optional true init).andThen ((ofOptionalType declaredAs).andThen (fields rest))

/-- The first pass over methods. -/
def surveys : List (Node Method) → NameFlow
  | [] => {}
  | ⟨_, ⟨_, _, typeParams, ps, _, body⟩, _⟩ :: rest =>
    (((params ps).andThen (stmts false body)).within typeParams).tentative.andThen (surveys rest)

/-- The second pass over methods. -/
def methods : List (Node Method) → NameFlow
  | [] => {}
  | ⟨_, ⟨_, _, typeParams, ps, returns, body⟩, _⟩ :: rest =>
    (((declared ps returns).andThen (stmts true body)).within typeParams).andThen (methods rest)

/-- The types that methods declare between the two passes; a constructor declares none. -/
def signatures : List (Node Method) → NameFlow
  | [] => {}
  | ⟨_, ⟨_, kind, typeParams, ps, returns, _⟩, _⟩ :: rest =>
    if kind = .constructor then signatures rest
    else ((declared ps returns).within typeParams).andThen (signatures rest)

/-- The values of an object in a row. -/
def properties (entering : Bool) : List Property → NameFlow
  | [] => {}
  | ⟨_, value⟩ :: rest => (expr entering value).andThen (properties entering rest)

end

theorem defines_ofOptionalType (t : Option (Node TypeExpr)) :
    (ofOptionalType t).defines = [] := by
  cases t <;> rfl

/-- Parameters define no aliases. -/
theorem defines_params (ps : List Param) : (params ps).defines = [] := by
  induction ps with
  | nil => rfl
  | cons p ps ih => simp [params, andThen, defines_ofOptionalType, ih]

theorem defines_declared (ps : List Param) (returns : Option (Node TypeExpr)) :
    (declared ps returns).defines = [] := by
  simp [declared, andThen, defines_params, defines_ofOptionalType]

/-- Signatures define no aliases. -/
theorem defines_signatures (ms : List (Node Method)) : (signatures ms).defines = [] := by
  induction ms with
  | nil => rfl
  | cons m ms ih =>
    obtain ⟨_, ⟨_, kind, _, _, _, _⟩, _⟩ := m
    by_cases constructor : kind = .constructor
    · simp [signatures, constructor, ih]
    · simp [signatures, constructor, andThen, within, defines_declared, ih]

/-- Surveys may stop, so they cannot be relied on to define anything. -/
theorem defines_surveys (ms : List (Node Method)) : (surveys ms).defines = [] := by
  induction ms with
  | nil => rfl
  | cons m ms ih =>
    obtain ⟨_, ⟨_, _, _, _, _, _⟩, _⟩ := m
    simp [surveys, andThen, tentative, ih]

@[simp] theorem andThen_nothing (f : NameFlow) : f.andThen {} = f := by
  simp [andThen]

@[simp] theorem nothing_andThen (f : NameFlow) : andThen {} f = f := by
  simp [andThen]

/-- Rows of parts may be grouped in any way. -/
theorem andThen_assoc (f g h : NameFlow) : (f.andThen g).andThen h = f.andThen (g.andThen h) := by
  simp [andThen, List.filter_filter]

@[simp] theorem within_nil (f : NameFlow) : f.within [] = f := by
  simp [within]

/-! ## Aliases that a survey defines -/

/-- The aliases that a survey of the methods may define. -/
def reached : List (Node Method) → List String
  | [] => []
  | ⟨_, ⟨_, _, typeParams, ps, _, body⟩, _⟩ :: rest =>
    (((params ps).andThen (stmts false body)).within typeParams).defines ++ reached rest

/-- One part may define no more than the other. -/
def Below (f g : NameFlow) : Prop := f.defines ⊆ g.defines

namespace Below

variable {f f' g g' : NameFlow}

theorem refl (f : NameFlow) : Below f f := List.Subset.refl _

/-- Nothing is below everything. -/
theorem of_nil (plain : f.defines = []) : Below f g := by
  rw [Below, plain]
  exact List.nil_subset _

/-- Rows are below each other part by part. -/
theorem andThen (first : Below f f') (second : Below g g') :
    Below (f.andThen g) (f'.andThen g') := by
  intro name hname
  rcases List.mem_append.mp hname with left | right
  · exact List.mem_append_left _ (first left)
  · exact List.mem_append_right _ (second right)

end Below

mutual

/-- A survey defines no aliases but those that the check defines. -/
theorem below_expr : ∀ e : Node Expr, Below (expr false e) (expr true e)
  | ⟨_, e, _⟩ => below_form e

theorem below_form : ∀ e : Expr, Below (form false e) (form true e)
  | .literal _ => .refl _
  | .ident _ => .refl _
  | .call callee args => (below_expr callee).andThen (below_exprs args)
  | .conditional test consequent alternate =>
    (below_expr test).andThen ((below_stmt consequent).andThen (below_optionalStmt alternate))
  | .member base _ => below_expr base
  | .index base position => (below_expr base).andThen (below_expr position)
  | .function ⟨_, _, ps, returns, _⟩ => .of_nil (defines_declared ps returns)
  | .classDef ⟨_, _, _⟩ => .of_nil rfl
  | .assertion e _ => (below_expr e).andThen (.refl _)
  | .throwing value => below_expr value
  | .whileLoop test body => (below_expr test).andThen (below_stmts body)
  | .forLoop bs test update body =>
    (below_bindings bs).andThen
      ((below_optional test).andThen ((below_optional update).andThen (below_stmts body)))
  | .returning value => below_optional value
  | .attempt body catcher finisher =>
    (below_stmts body).andThen ((below_handler catcher).andThen (below_cleanup finisher))
  | .array items => below_exprs items
  | .object ps => below_properties ps
  | .assignment target value => (below_expr target).andThen (below_expr value)

theorem below_exprs : ∀ es : List (Node Expr), Below (exprs false es) (exprs true es)
  | [] => .refl _
  | e :: rest => (below_expr e).andThen (below_exprs rest)

theorem below_optional : ∀ e : Option (Node Expr), Below (optional false e) (optional true e)
  | none => .refl _
  | some e => below_expr e

theorem below_stmt : ∀ s : Node Stmt, Below (stmt false s) (stmt true s)
  | ⟨_, .expr e, _⟩ => below_expr e
  | ⟨_, .block body, _⟩ => below_stmts body
  | ⟨_, .binding _ bs body, _⟩ => (below_bindings bs).andThen (below_stmts body)
  | ⟨_, .typeAlias _ _ _, _⟩ => .refl _

theorem below_optionalStmt :
    ∀ s : Option (Node Stmt), Below (optionalStmt false s) (optionalStmt true s)
  | none => .refl _
  | some s => below_stmt s

theorem below_stmts : ∀ body : List (Node Stmt), Below (stmts false body) (stmts true body)
  | [] => .refl _
  | s :: rest => (below_stmt s).andThen (below_stmts rest)

theorem below_cleanup :
    ∀ body : Option (List (Node Stmt)), Below (cleanup false body) (cleanup true body)
  | none => .refl _
  | some body => below_stmts body

theorem below_handler : ∀ h : Option Handler, Below (handler false h) (handler true h)
  | none => .refl _
  | some ⟨_, body⟩ => below_stmts body

theorem below_bindings : ∀ bs : List Binding, Below (bindings false bs) (bindings true bs)
  | [] => .refl _
  | ⟨_, _, init⟩ :: rest => (below_expr init).andThen ((Below.refl _).andThen (below_bindings rest))

theorem below_properties : ∀ ps : List Property, Below (properties false ps) (properties true ps)
  | [] => .refl _
  | ⟨_, value⟩ :: rest => (below_expr value).andThen (below_properties rest)

end

/-- What a survey defines on its way, the check defines too. -/
theorem reached_subset (ms : List (Node Method)) : reached ms ⊆ (methods ms).defines := by
  induction ms with
  | nil => exact List.nil_subset _
  | cons m rest ih =>
    obtain ⟨_, ⟨_, _, _, ps, _, body⟩, _⟩ := m
    intro name hname
    rcases List.mem_append.mp hname with here | later
    · exact List.mem_append_left _
        (Below.andThen (.of_nil (defines_params ps)) (below_stmts body) here)
    · exact List.mem_append_right _ (ih later)

end NameFlow
end StructuralTyping
