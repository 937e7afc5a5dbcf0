import StructuralTyping.Proofs.FailurePlaces
import StructuralTyping.Proofs.RuleOutcomes

/-! # The result type of a checked body

The own returns of a body are its return expressions, wherever they stand, other than those of the
functions and classes inside it.  `Return.own` reads them off the tree, each with its value.  The
checker sees less: a place, and the id that was written on the value, if there is one.

After a check that was made for real every returned value has its type in the table
(`Checker.recorded_of_checked`), so what the checker sees is enough, and the result type is the one
that the returns settle (`Return.Settles`).  That there is an id on every returned value is seen
from a second check of the body: of the same body with ids on all of its nodes.  A check overwrites
ids but takes none away, and it leaves the same ids on the returned values of both bodies.
-/
namespace StructuralTyping

/-- A return expression. -/
structure Return where
  span : Span
  /-- What is returned; none in a bare return. -/
  value : Option (Node Expr)

/-- The type of a returned value is the one that its id stands for. -/
theorem OwnReturn.get?_of_ty {table : TypeTable} {site : OwnReturn} {id : TypeId} {u : Ty}
    (value : site.value = some id) (h : site.ty table = .ok u) : table.get? id = some u := by
  unfold OwnReturn.ty at h
  rw [value] at h
  cases found : table.get? id with
  | none => simp [found] at h
  | some t => simpa [found] using h

namespace Return

/-- The `return` that an expression is, if it is one. -/
def of? : Node Expr → Option Return
  | ⟨span, .returning value, _⟩ => some ⟨span, value⟩
  | _ => none

/-- The own returns of a body, in the order of the source. -/
def own (body : List (Node Stmt)) : List Return := (Own.stmts body).filterMap of?

/-- The type that is recorded for what is returned; a bare return returns undefined. -/
def ty? (table : TypeTable) (r : Return) : Option Ty :=
  match r.value with
  | none => some .undefined
  | some v => table.typeOf v.ty

/-- What a declared result type asks of a return: a type that fits, and no value at all if the
declared type is undefined. -/
def Meets (table : TypeTable) (declared : Ty) (r : Return) : Prop :=
  (∃ t, r.ty? table = some t ∧ t.assignable declared = true) ∧
    (declared = .undefined → r.value = none)

/-- What the checker sees of a return. -/
def site (r : Return) : OwnReturn := ⟨r.span, r.value.bind (·.ty)⟩

/-- The sites that a check looks at are those of the own returns of the body. -/
theorem ofBody_eq (body : List (Node Stmt)) : OwnReturn.ofBody body = (own body).map site := by
  rw [OwnReturn.ofBody_eq, own, List.map_filterMap]
  refine List.filterMap_congr fun n _ => ?_
  obtain ⟨span, e, ty⟩ := n
  cases e <;> rfl

/-! ## Single returns -/

/-- The value of a return, if there is one, has a type in the table. -/
def Recorded (table : TypeTable) (r : Return) : Prop :=
  ∀ v ∈ r.value, ∃ t, table.typeOf v.ty = some t

variable {table : TypeTable} {r : Return}

/-- A recorded value has an id that the table knows. -/
theorem Recorded.exists_id (h : r.Recorded table) {v : Node Expr} (hv : r.value = some v) :
    ∃ id t, v.ty = some id ∧ table.get? id = some t := by
  obtain ⟨t, ht⟩ := h v hv
  obtain ⟨id, hid, ht⟩ := Option.bind_eq_some_iff.mp ht
  exact ⟨id, t, hid, ht⟩

/-- The checker finds the recorded type. -/
theorem Recorded.ty_site (h : r.Recorded table) :
    ∃ t, r.ty? table = some t ∧ r.site.ty table = .ok t := by
  obtain ⟨span, value⟩ := r
  cases value with
  | none => exact ⟨.undefined, rfl, rfl⟩
  | some v =>
    obtain ⟨id, t, hid, ht⟩ := h.exists_id rfl
    refine ⟨t, ?_, ?_⟩
    · simp [ty?, TypeTable.typeOf, hid, ht]
    · simp [OwnReturn.ty, site, hid, ht]

/-- The checker sees whether a value is returned. -/
theorem Recorded.isSome_site (h : r.Recorded table) :
    r.site.value.isSome = r.value.isSome := by
  obtain ⟨span, value⟩ := r
  cases value with
  | none => rfl
  | some v =>
    obtain ⟨id, t, hid, -⟩ := h.exists_id rfl
    simp [site, hid]

/-- What is wrong with a return of type `t` that does not meet the declared type. -/
def fault (declared t : Ty) (r : Return) : Fault :=
  if declared = .undefined ∧ r.value.isSome then .valueFromVoid else .returnMismatch declared t

/-- The check of a return, in terms of what is recorded for it. -/
theorem Recorded.fits_site (h : r.Recorded table) (declared : Ty) :
    ∃ t, r.ty? table = some t ∧
      r.site.fits table declared =
        if declared = .undefined ∧ r.value.isSome then .error ⟨.valueFromVoid, r.span⟩
        else Failure.unless (t.assignable declared) (.returnMismatch declared t) r.span := by
  obtain ⟨t, ht, found⟩ := h.ty_site
  refine ⟨t, ht, ?_⟩
  rw [OwnReturn.fits, h.isSome_site, found]
  rfl

/-- A return that meets the declared type passes. -/
theorem Recorded.fits_of_meets (h : r.Recorded table) {declared : Ty}
    (meets : r.Meets table declared) : r.site.fits table declared = .ok () := by
  obtain ⟨t, ht, fits⟩ := h.fits_site declared
  obtain ⟨⟨u, hu, assignable⟩, bare⟩ := meets
  obtain rfl : t = u := Option.some.inj (ht.symm.trans hu)
  have valued : ¬ (declared = .undefined ∧ r.value.isSome = true) := by
    rintro ⟨undefined, some⟩
    rw [bare undefined] at some
    cases some
  rw [fits, if_neg valued, assignable]
  rfl

/-- A return that does not is refused, at its own place and with its own type. -/
theorem Recorded.fits_of_not_meets (h : r.Recorded table) {declared : Ty}
    (offends : ¬ r.Meets table declared) :
    ∃ t, r.ty? table = some t ∧
      r.site.fits table declared = .error ⟨r.fault declared t, r.span⟩ := by
  obtain ⟨t, ht, fits⟩ := h.fits_site declared
  refine ⟨t, ht, ?_⟩
  rw [fits, fault]
  by_cases void : declared = .undefined ∧ r.value.isSome = true
  · rw [if_pos void, if_pos void]
  · rw [if_neg void, if_neg void]
    have refused : t.assignable declared = false := by
      by_contra assignable
      refine offends ⟨⟨t, ht, Bool.not_eq_false _ ▸ assignable⟩, fun undefined => ?_⟩
      by_contra some
      exact void ⟨undefined, Option.isSome_iff_ne_none.mpr some⟩
    rw [refused]
    rfl

end Return

/-! ## Lists of returns -/

section Lists

variable {α β ε : Type}

theorem forM_eq_ok_iff {f : α → Except ε Unit} {xs : List α} :
    xs.forM f = .ok () ↔ ∀ x ∈ xs, f x = .ok () := by
  induction xs with
  | nil => exact ⟨fun _ => List.forall_mem_nil _, fun _ => rfl⟩
  | cons x xs ih =>
    rw [List.forall_mem_cons, ← ih]
    show (f x).bind (fun _ => xs.forM f) = _ ↔ _
    cases f x with
    | error e =>
      constructor
      · intro h
        cases h
      · rintro ⟨h, -⟩
        cases h
    | ok u => exact ⟨fun h => ⟨rfl, h⟩, fun h => h.2⟩

/-- The first element that fails decides. -/
theorem forM_append_error {f : α → Except ε Unit} {before after : List α} {x : α} {e : ε}
    (passed : ∀ y ∈ before, f y = .ok ()) (failed : f x = .error e) :
    (before ++ x :: after).forM f = .error e := by
  induction before with
  | nil =>
    show (f x).bind (fun _ => after.forM f) = _
    rw [failed]
    rfl
  | cons y before ih =>
    obtain ⟨hy, passed⟩ := List.forall_mem_cons.mp passed
    show (f y).bind (fun _ => (before ++ x :: after).forM f) = _
    rw [hy]
    exact ih passed

/-- If every element has a value, so has the list. -/
theorem exists_mapM_eq_ok {f : α → Except ε β} {g : α → Option β} {xs : List α}
    (h : ∀ x ∈ xs, ∃ y, g x = some y ∧ f x = .ok y) :
    ∃ ys, xs.map g = ys.map some ∧ xs.mapM f = .ok ys := by
  induction xs with
  | nil => exact ⟨[], rfl, rfl⟩
  | cons x xs ih =>
    obtain ⟨⟨y, hg, hf⟩, h⟩ := List.forall_mem_cons.mp h
    obtain ⟨ys, same, all⟩ := ih h
    refine ⟨y :: ys, ?_, ?_⟩
    · rw [List.map_cons, hg, same, List.map_cons]
    · rw [List.mapM_cons, hf, all]
      rfl

end Lists

namespace Return

variable {table : TypeTable} {returns : List Return}

/-- Which result type a body with these returns has, for each type that may be declared. -/
structure Settles (table : TypeTable) (returns : List Return)
    (result : Option Ty → Except Failure Ty) : Prop where
  /-- Every return has a type. -/
  recorded : ∀ r ∈ returns, ∃ t, r.ty? table = some t
  /-- A declared type stands exactly if all returns meet it. -/
  accepted : ∀ d, result (some d) = .ok d ↔ ∀ r ∈ returns, r.Meets table d
  /-- The first return that does not meet the declared type is at fault. -/
  refused : ∀ d before r after, returns = before ++ r :: after →
    (∀ y ∈ before, y.Meets table d) → ¬ r.Meets table d →
      ∃ t, r.ty? table = some t ∧ result (some d) = .error ⟨r.fault d t, r.span⟩
  /-- Without a declared type the result is the type that all returns share. -/
  shared : ∀ u, returns ≠ [] → (∀ r ∈ returns, r.ty? table = some u) → result none = .ok u
  /-- Without one to share it is unknown. -/
  unshared : (returns = [] ∨ ∃ r ∈ returns, ∃ r' ∈ returns, r.ty? table ≠ r'.ty? table) →
    result none = .ok .unknown

/-- With a declared type, returns are compared with it one by one. -/
theorem result_declared (d : Ty) :
    Rule.result table (some d) (returns.map site) =
      (returns.forM fun r => r.site.fits table d).bind fun _ => .ok d := by
  rw [List.forM_eq_forM, ← List.forM_map]
  rfl

/-- A declared type is accepted exactly if all returns meet it. -/
theorem result_accepted (recorded : ∀ r ∈ returns, r.Recorded table) (d : Ty) :
    Rule.result table (some d) (returns.map site) = .ok d ↔ ∀ r ∈ returns, r.Meets table d := by
  have each : (∀ r ∈ returns, r.site.fits table d = .ok ()) ↔ ∀ r ∈ returns, r.Meets table d := by
    refine forall₂_congr fun r hr => ⟨fun fits => ?_, (recorded r hr).fits_of_meets⟩
    by_contra offends
    obtain ⟨t, -, failed⟩ := (recorded r hr).fits_of_not_meets offends
    cases fits.symm.trans failed
  rw [result_declared, ← each, ← forM_eq_ok_iff]
  cases returns.forM fun r => r.site.fits table d with
  | error f =>
    constructor
    · intro h
      cases h
    · intro h
      cases h
  | ok u => exact ⟨fun _ => rfl, fun _ => rfl⟩

/-- The first return that does not meet the declared type is the one that is blamed. -/
theorem result_refused {before after : List Return} {r : Return}
    (recorded : ∀ y ∈ before ++ r :: after, y.Recorded table) {d : Ty}
    (passed : ∀ y ∈ before, y.Meets table d) (offends : ¬ r.Meets table d) :
    ∃ t, r.ty? table = some t ∧
      Rule.result table (some d) ((before ++ r :: after).map site) =
        .error ⟨r.fault d t, r.span⟩ := by
  obtain ⟨passing, hr, -⟩ := List.forall_mem_append.mp recorded |>.imp_right
    List.forall_mem_cons.mp
  obtain ⟨t, ht, failed⟩ := hr.fits_of_not_meets offends
  refine ⟨t, ht, ?_⟩
  rw [result_declared, forM_append_error
    (fun y hy => (passing y hy).fits_of_meets (passed y hy)) failed]
  rfl

/-- Without a declared type, the result is the common type of the returns, or unknown. -/
theorem result_undeclared (recorded : ∀ r ∈ returns, r.Recorded table) :
    ∃ types, returns.map (·.ty? table) = types.map some ∧
      Rule.result table none (returns.map site) = .ok ((Ty.common? types).getD .unknown) := by
  obtain ⟨types, same, all⟩ := exists_mapM_eq_ok (f := fun r : Return => r.site.ty table)
    fun r hr => (recorded r hr).ty_site
  refine ⟨types, same, ?_⟩
  show ((returns.map site).mapM (OwnReturn.ty table)).bind _ = _
  rw [List.mapM_map]
  exact congrArg (Except.bind · _) all

/-- The rule for results does what a function owes to its declaration, with or without one. -/
theorem settles (recorded : ∀ r ∈ returns, r.Recorded table) :
    Settles table returns fun declared => Rule.result table declared (returns.map site) := by
  obtain ⟨types, same, undeclared⟩ := result_undeclared recorded
  -- what is said of the list of types is said of the returns one by one
  have shares : ∀ u, (∀ t ∈ types, t = u) ↔ ∀ r ∈ returns, r.ty? table = some u := by
    intro u
    have all := congrArg (fun ts => ∀ t ∈ ts, t = some u) same
    simpa using all.symm
  have empty : types = [] ↔ returns = [] := by
    have length := congrArg List.length same
    rw [List.length_map, List.length_map] at length
    rw [← List.length_eq_zero_iff, ← List.length_eq_zero_iff, length]
  refine ⟨fun r hr => ?_, result_accepted recorded, ?_, fun u some alike => ?_, fun apart => ?_⟩
  · obtain ⟨t, ht, -⟩ := (recorded r hr).ty_site
    exact ⟨t, ht⟩
  · rintro d before r after rfl
    exact result_refused recorded
  · rw [undeclared, Ty.common?_eq_some_iff.mpr ⟨mt empty.mp some, (shares u).mpr alike⟩]
    rfl
  · have unshared : Ty.common? types = none := by
      refine Option.eq_none_iff_forall_ne_some.mpr fun u shared => ?_
      obtain ⟨some, alike⟩ := Ty.common?_eq_some_iff.mp shared
      obtain none | ⟨r, hr, r', hr', differ⟩ := apart
      · exact some (empty.mpr none)
      · exact differ (((shares u).mp alike r hr).trans ((shares u).mp alike r' hr').symm)
    rw [undeclared, unshared]
    rfl

end Return

namespace Checker

open Relabeling (bare)

variable {receiver : Receiver} {last t : Ty} {body : List (Node Stmt)} {st : State}

/-- Puts an id on every node. -/
def stamping : Relabeling := ⟨fun _ => some ⟨0⟩, id, true⟩

/-- A bare tree does not tell which slots were stamped. -/
theorem bare_absorbs_stamping : bare.Absorbs stamping where
  ty _ := rfl
  self _ := rfl
  nested _ := rfl

/-- A body with ids on all nodes still has ids on all nodes after a check. -/
theorem isSome_of_stamped {slot : Option TypeId}
    (h : slot ∈ Slots.stmts
      (checkStmts receiver last (stamping.stmts receiver.isSome body) st).tree) :
    slot.isSome = true := by
  have slots := (Mirrors.checkStmts receiver last
    (stamping.stmts receiver.isSome body) st).tree.slots.slots
  rw [slots] at h
  have stamped : ∀ slot ∈ Slots.stmts (stamping.stmts receiver.isSome body), slot = some ⟨0⟩ := by
    rw [Slots.stmts_relabeled]
    intro slot h
    obtain ⟨_, _, rfl⟩ := List.mem_map.mp h
    rfl
  obtain ⟨i, hi, rfl⟩ := List.mem_iff_getElem.mp h
  rw [List.getElem_zipWith, stamped _ (List.getElem_mem _), Option.isSome_or]
  exact Bool.or_true _

/-- Whether values are returned shows in the bare body. -/
theorem valued_bare (r : Bool) (body : List (Node Stmt)) :
    (Return.own (bare.stmts r body)).map (·.value.isSome) =
      (Return.own body).map (·.value.isSome) := by
  rw [Return.own, Return.own, Own.stmts_relabeled, List.filterMap_map, List.map_filterMap,
    List.map_filterMap]
  refine List.filterMap_congr fun n _ => ?_
  obtain ⟨span, e, ty⟩ := n
  cases e with
  | returning value => cases value <;> rfl
  | _ => rfl

/-- Whether values are returned is as before the check. -/
theorem valued_of_checked (receiver : Receiver) (last : Ty) (body : List (Node Stmt)) (st : State) :
    (Return.own (checkStmts receiver last body st).tree).map (·.value.isSome) =
      (Return.own (bare.stmts receiver.isSome body)).map (·.value.isSome) := by
  rw [← valued_bare receiver.isSome]
  exact congrArg (fun body => (Return.own body).map (·.value.isSome))
    (Mirrors.checkStmts receiver last body st).tree.shape

/-- Each own return is matched by one of the body with ids on all nodes. -/
theorem exists_stamped (real : st.surveying = false)
    (ok : (checkStmts receiver last body st).result = .ok t) {r : Return}
    (hr : r ∈ Return.own (checkStmts receiver last body st).tree) :
    ∃ r' ∈ Return.own (checkStmts receiver last (stamping.stmts receiver.isSome body) st).tree,
      r'.site = r.site ∧ r'.value.isSome = r.value.isSome := by
  have mirrors := Mirrors.checkStmts receiver last body st
  have mirrors' := Mirrors.checkStmts receiver last (stamping.stmts receiver.isSome body) st
  have alike := Relabeling.stmts_absorb (r := receiver.isSome) bare_absorbs_stamping id body
  rw [alike] at mirrors'
  have ok' : (checkStmts receiver last (stamping.stmts receiver.isSome body) st).result = .ok t :=
    mirrors'.result.trans (mirrors.result.symm.trans ok)
  have sites : (Return.own (checkStmts receiver last body st).tree).map Return.site =
      (Return.own (checkStmts receiver last
        (stamping.stmts receiver.isSome body) st).tree).map Return.site := by
    rw [← Return.ofBody_eq, ← Return.ofBody_eq, OwnReturn.ofBody_eq, OwnReturn.ofBody_eq]
    exact (mirrors.returns real t ok).trans (mirrors'.returns real t ok').symm
  have valued := valued_of_checked receiver last body st
  rw [← alike, ← valued_of_checked receiver last (stamping.stmts receiver.isSome body) st] at valued
  -- both lists go through the own returns in one order, so what they say of a return agrees
  have both := congrArg₂ List.zip sites valued
  rw [List.zip_map', List.zip_map'] at both
  have mem := List.mem_map_of_mem (f := fun r : Return => (r.site, r.value.isSome)) hr
  rw [both] at mem
  obtain ⟨r', hr', same⟩ := List.mem_map.mp mem
  exact ⟨r', hr', congrArg Prod.fst same, congrArg Prod.snd same⟩

/-- The slot of a returned value is one of the slots of the body. -/
theorem slot_mem_of_own {r : Return} (hr : r ∈ Return.own body) {v : Node Expr}
    (hv : r.value = some v) : v.ty ∈ Slots.stmts body := by
  obtain ⟨⟨span, e, ty⟩, hn, hof⟩ := List.mem_filterMap.mp hr
  refine (Own.within_stmts body _ hn).slots ?_
  cases e with
  | returning value =>
    obtain rfl := Option.some.inj hof
    obtain rfl : value = some v := hv
    obtain ⟨span', e', ty'⟩ := v
    exact List.mem_cons_of_mem _ List.mem_cons_self
  | _ => cases hof

/-- After a check that was made for real every returned value has its type in the table. -/
theorem recorded_of_checked (real : st.surveying = false)
    (ok : (checkStmts receiver last body st).result = .ok t) :
    ∀ r ∈ Return.own (checkStmts receiver last body st).tree,
      r.Recorded (checkStmts receiver last body st).state.table := by
  intro r hr v hv
  have hv : r.value = some v := hv
  obtain ⟨r', hr', site, valued⟩ := exists_stamped real ok hr
  obtain ⟨v', hv'⟩ := Option.isSome_iff_exists.mp (valued.trans (Option.isSome_of_eq_some hv))
  obtain ⟨id, hid⟩ := Option.isSome_iff_exists.mp (isSome_of_stamped (slot_mem_of_own hr' hv'))
  have slot : v.ty = some id := by
    have slots := congrArg OwnReturn.value site
    rw [Return.site, Return.site, hv, hv'] at slots
    exact slots.symm.trans hid
  have mem : r.site ∈ OwnReturn.ofBody (checkStmts receiver last body st).tree := by
    rw [Return.ofBody_eq]
    exact List.mem_map_of_mem hr
  obtain ⟨u, hu⟩ := exists_ty_of_checked real ok mem
  have value : r.site.value = some id := by
    rw [Return.site, hv]
    exact slot
  refine ⟨u, ?_⟩
  rw [slot]
  exact OwnReturn.get?_of_ty value hu

/-- The own returns of a body that was checked for real settle its result type. -/
theorem result_of_checked (real : st.surveying = false)
    (ok : (checkStmts receiver last body st).result = .ok t) :
    let checked := checkStmts receiver last body st
    Return.Settles checked.state.table (Return.own checked.tree) fun declared =>
      Rule.result checked.state.table declared (OwnReturn.ofBody checked.tree) := by
  intro checked
  have sites : OwnReturn.ofBody checked.tree = (Return.own checked.tree).map Return.site :=
    Return.ofBody_eq _
  rw [sites]
  exact Return.settles (recorded_of_checked real ok)

/-- Returns `true` from an array and from a `try`, and a string where that ends; the function in the
array has a return of its own. -/
def scattered : List (Node Stmt) :=
  let literal (v : LiteralValue) : Node Expr := ⟨.zero, .literal (.value v), none⟩
  let returning (line : UInt32) (v : LiteralValue) : Node Expr :=
    ⟨⟨0, 0, line, 0⟩, .returning (some (literal v)), none⟩
  let stmt (e : Node Expr) : Node Stmt := ⟨.zero, .expr e, none⟩
  [stmt ⟨.zero, .array [returning 1 (.boolean true),
      ⟨.zero, .function ⟨none, [], [], none, [stmt (returning 2 .null)]⟩, none⟩], none⟩,
    stmt ⟨.zero, .attempt [stmt (returning 3 (.boolean true))] none
      (some [stmt (returning 4 (.string "done"))]), none⟩]

theorem result_of_checked_scattered :
    let checked := checkStmts none .undefined scattered {}
    State.surveying {} = false ∧ checked.result = .ok .undefined ∧
      (Return.own checked.tree).map (·.span.line) = [1, 3, 4] ∧
      (Return.own checked.tree).map (·.ty? checked.state.table) =
        [some (.literal (.boolean true)), some (.literal (.boolean true)),
          some (.literal (.string "done"))] ∧
      Return.Settles checked.state.table (Return.own checked.tree) fun declared =>
        Rule.result checked.state.table declared (OwnReturn.ofBody checked.tree) := by
  have ok : (checkStmts none .undefined scattered {}).result = .ok .undefined := rfl
  exact ⟨rfl, ok, by decide +kernel, by decide +kernel, result_of_checked rfl ok⟩

end Checker
end StructuralTyping
