import StructuralTyping.Checker.Call
import StructuralTyping.Checker.Rules
import StructuralTyping.Proofs.ProgramParts
import StructuralTyping.Proofs.TypeTableGrowth

/-! # Trees that certify their types

Whether the types on the nodes of a tree belong together can be seen from the tree and the table
alone, one part at a time.  `Part.Certified` says what that means for each construct, in terms of
the types on the part and on those directly inside it: no scopes, no other part of the program and
no check enter into it.

Linking `self` does not touch what a certificate is about (`Part.certified_link`).
-/
namespace StructuralTyping

/-! ## The types on parts of a tree -/

namespace TypeTable

variable (table : TypeTable)

/-- The types on expressions. -/
def typesOf (es : List (Node Expr)) : List (Option Ty) := es.map fun e => table.typeOf e.ty

/-- A name, if there is one, has the type `t` on it. -/
def OnName (name : Option (Node Ident)) (t : Ty) : Prop :=
  ∀ n ∈ name, table.typeOf n.ty = some t

/-- The types on the names of parameters. -/
def typesOfParams (params : List Param) : List (Option Ty) :=
  params.map fun p => table.typeOf p.name.ty

/-- The type of a statement; a type alias has none on its node and counts as undefined. -/
def typeOfStmt (n : Node Stmt) : Option Ty :=
  match n.value with
  | .typeAlias _ _ _ => some .undefined
  | _ => table.typeOf n.ty

/-- The type of the last statement, undefined if there is none. -/
def typeOfBody (body : List (Node Stmt)) : Option Ty :=
  match body.getLast? with
  | some n => table.typeOfStmt n
  | none => some .undefined

end TypeTable

/-! ## Certificates -/

namespace Ty

/-- There are types in the list, and all of them are `u` when widened. -/
def WidenTo (ts : List Ty) (u : Ty) : Prop := ts ≠ [] ∧ ∀ t ∈ ts, t.widen = u

/-- What is called is a function that takes as many arguments, of types that these fit, and returns
`t`; or it is unknown, and so is what it returns. -/
def Applies (f : Ty) (args : List Ty) (t : Ty) : Prop :=
  (∃ params, f = .function params t ∧ args.length = params.length ∧
    ∀ x ∈ args.zip params, x.1.assignable x.2 = true) ∨
  f = .unknown ∧ t = .unknown

end Ty

/-- Whether a name with this number of operands makes an operator form. -/
def OperatorForm.isNamed (name : String) : Nat → Bool
  | 1 => (UnaryOperator.ofName? name).isSome
  | 2 => (BinaryOperator.ofName? name).isSome
  | 3 => name = "ternary" ∨ name = "?:"
  | _ => false

/-- A call of an operator by its name. -/
def IsOperatorCall (callee : Expr) (arity : Nat) : Prop :=
  ∃ name, callee.name? = some name ∧ OperatorForm.isNamed name arity = true

/-- The types inside an expression allow it to have the type `t`. -/
def Expr.Certified (table : TypeTable) (t : Ty) : Expr → Prop
  | .literal v => t = v.ty
  | .ident _ => True
  | .call callee args =>
    IsOperatorCall callee.value args.length ∨
      ∃ f ts, table.typeOf callee.ty = some f ∧ table.typesOf args = ts.map some ∧ f.Applies ts t
  | .conditional _ consequent none => table.typeOfStmt consequent = some t
  | .conditional _ consequent (some alternate) =>
    ∃ u v, table.typeOfStmt consequent = some u ∧ table.typeOfStmt alternate = some v ∧
      (u = v ∧ t = u ∨ u ≠ v ∧ t = .unknown)
  | .member _ property => table.typeOf property.ty = some t
  | .index base position =>
    ∃ b p, table.typeOf base.ty = some b ∧ table.typeOf position.ty = some p ∧
      p.isNumeric = true ∧ (b = .array t ∨ b = .unknown ∧ t = .unknown)
  | .function f =>
    table.OnName f.name t ∧ ∃ ts r, table.typesOfParams f.params = ts.map some ∧ t = .function ts r
  | .classDef c => table.OnName c.name t ∧ ∃ fields, t = .object fields
  | .assertion e _ => ∃ u, table.typeOf e.ty = some u ∧ u.assignable t = true
  | .throwing _ => t = .undefined
  | .whileLoop _ _ => t = .undefined
  | .forLoop _ _ _ _ => t = .undefined
  | .returning none => t = .undefined
  | .returning (some value) => table.typeOf value.ty = some t
  | .attempt _ _ _ => t = .undefined
  | .array items =>
    ∃ ts u, table.typesOf items = ts.map some ∧ t = .array u ∧
      (Ty.WidenTo ts u ∨ (∀ v, ¬Ty.WidenTo ts v) ∧ u = .unknown)
  | .object properties =>
    ∃ ts, table.typesOf (properties.map (·.value)) = ts.map some ∧
      t = .object (Field.merge (properties.zipWith (fun p u => ⟨p.key.value.name, u.widen⟩) ts))
  | .assignment target value =>
    table.typeOf value.ty = some t ∧ ∃ u, table.typeOf target.ty = some u ∧ t.assignable u = true

/-- The types inside a statement give it the type `t`. -/
def Stmt.Certified (table : TypeTable) (t : Ty) : Stmt → Prop
  | .expr e => table.typeOf e.ty = some t
  | .block body => table.typeOfBody body = some t
  | .binding _ _ body => table.typeOfBody body = some t
  | .typeAlias _ _ _ => t = .undefined

/-- A part has a type, and the types inside it allow it. -/
def Part.Certified (table : TypeTable) : Part → Prop
  | .expr n => ∃ t, table.typeOf n.ty = some t ∧ n.value.Certified table t
  | .stmt n => ∃ t, table.typeOfStmt n = some t ∧ n.value.Certified table t

/-! ## Certificates of unlinked trees -/

namespace Unlinked

@[simp] theorem node_ty (n : Node Expr) : (node n).ty = n.ty := by
  cases n; rfl

@[simp] theorem node_value (n : Node Expr) : (node n).value = inside n.value := by
  cases n; rfl

@[simp] theorem inside_name? (e : Expr) : (inside e).name? = e.name? := by
  cases e with
  | function f => cases f; rfl
  | classDef c => cases c; rfl
  | _ => rfl

theorem nodes_eq_map (es : List (Node Expr)) : nodes es = es.map node := by
  induction es with
  | nil => rfl
  | cons e rest ih => rw [nodes, ih, List.map_cons]

theorem stmts_eq_map (body : List (Node Stmt)) : stmts body = body.map stmt := by
  induction body with
  | nil => rfl
  | cons n rest ih => rw [stmts, ih, List.map_cons]

theorem properties_eq_map (ps : List Property) :
    properties ps = ps.map fun p => ⟨p.key, node p.value⟩ := by
  induction ps with
  | nil => rfl
  | cons p rest ih =>
    obtain ⟨key, value⟩ := p
    rw [properties, ih, List.map_cons]

@[simp] theorem length_nodes (es : List (Node Expr)) : (nodes es).length = es.length := by
  simp [nodes_eq_map]

variable (table : TypeTable)

@[simp] theorem typesOf_nodes (es : List (Node Expr)) :
    table.typesOf (nodes es) = table.typesOf es := by
  simp [TypeTable.typesOf, nodes_eq_map]

@[simp] theorem typeOfStmt_stmt (n : Node Stmt) :
    table.typeOfStmt (stmt n) = table.typeOfStmt n := by
  obtain ⟨_, s, _⟩ := n
  cases s <;> rfl

@[simp] theorem typeOfBody_stmts (body : List (Node Stmt)) :
    table.typeOfBody (stmts body) = table.typeOfBody body := by
  unfold TypeTable.typeOfBody
  rw [stmts_eq_map, List.getLast?_map]
  cases body.getLast? with
  | none => rfl
  | some n => exact typeOfStmt_stmt table n

end Unlinked

/-- Symbols have no part in what certifies an expression. -/
theorem Expr.certified_unlinked (table : TypeTable) (t : Ty) (e : Expr) :
    (Unlinked.inside e).Certified table t ↔ e.Certified table t := by
  cases e with
  | call callee args =>
    simp [Unlinked.inside, Expr.Certified, IsOperatorCall]
  | conditional test consequent alternate =>
    cases alternate <;> simp [Unlinked.inside, Unlinked.optionalStmt, Expr.Certified]
  | function f => cases f; rfl
  | classDef c => cases c; rfl
  | object ps =>
    simp [Unlinked.inside, Expr.Certified, Unlinked.properties_eq_map, TypeTable.typesOf,
      Function.comp_def, List.zipWith_map_left]
  | returning value => cases value <;> simp [Unlinked.inside, Unlinked.optional, Expr.Certified]
  | _ => simp [Unlinked.inside, Expr.Certified]

/-- Symbols have no part in what certifies a statement. -/
theorem Stmt.certified_unlinked (table : TypeTable) (t : Ty) (n : Node Stmt) :
    (Unlinked.stmt n).value.Certified table t ↔ n.value.Certified table t := by
  obtain ⟨_, s, _⟩ := n
  cases s <;> simp [Unlinked.stmt, Stmt.Certified]

namespace Part

theorem certified_unlinked (table : TypeTable) (p : Part) :
    (Unlinked.part p).Certified table ↔ p.Certified table := by
  cases p with
  | expr n => simp [Unlinked.part, Part.Certified, Expr.certified_unlinked]
  | stmt n => simp [Unlinked.part, Part.Certified, Stmt.certified_unlinked]

/-- Linked methods are certified if they were before. -/
theorem certified_link {table : TypeTable} {symbol : Symbol} {ms : List (Node Method)}
    (h : ∀ p ∈ Parts.methods ms, p.Certified table) :
    ∀ p ∈ Parts.methods (SelfReference.link symbol ms), p.Certified table := by
  intro p hp
  have hp : Unlinked.part p ∈ (Parts.methods ms).map Unlinked.part := by
    rw [← Parts.unlinked_link symbol ms]
    exact List.mem_map_of_mem hp
  obtain ⟨q, hq, heq⟩ := List.mem_map.mp hp
  rw [← certified_unlinked, ← heq, certified_unlinked]
  exact h q hq

end Part
end StructuralTyping
