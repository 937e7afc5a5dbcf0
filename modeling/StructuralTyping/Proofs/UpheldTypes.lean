import Mathlib.Data.List.Forall2
import StructuralTyping.Proofs.AnnotationSites
import StructuralTyping.Proofs.AssignabilityTransitivity
import StructuralTyping.Proofs.EventTrace
import StructuralTyping.Proofs.IdentifierUses
import StructuralTyping.Proofs.SecondPass

/-! # Declared types through a check

An assignment gives an identifier the widened type of the value, so the type that the identifier has
at a point of a check need not be the one it was declared with.  `InForce` relates the two: if the
value in force keeps to the declared type (`Ty.KeptBy`), what fits the current type fits the
declared one.

`Upheld` carries this relation through the check of a part, for all identifiers that come from
outside of it, and says that the bindings inside of it are honoured, and that the types recorded for
them are those that their annotations stand for where they are resolved (`Site.Resolves`).  There
are three kinds of steps: those that bind names of their own (`BindsOnly`), assignments
(`Upholds.assignment`), which go on with the value, and bindings (`UpheldBindings`), from which a
declared type is in force.
-/
namespace StructuralTyping

namespace Ty

/-- An identifier of this declared type keeps to it when it takes on the widened type of the value:
that is the declared type itself, or it has nothing unknown in it and fits the declared type. -/
def KeptBy (declared value : Ty) : Prop :=
  value.widen = declared ∨ (value.widen.Tracked ∧ value.widen.assignable declared = true)

/-- What fits the current type fits the declared one. -/
def Covers (declared current : Ty) : Prop :=
  ∀ t : Ty, t.assignable current = true → t.assignable declared = true

/-- A type without anything unknown passes on what fits it. -/
theorem KeptBy.covers {declared value : Ty} (kept : declared.KeptBy value) :
    declared.Covers value.widen := by
  intro t ht
  rcases kept with same | ⟨tracked, fits⟩
  · rwa [same] at ht
  · exact ((fits_of_assignable ht).trans tracked (fits_of_assignable fits)).assignable

end Ty

/-- The value in the slot lets an identifier keep to its declared type. -/
def TypeTable.Keeps (table : TypeTable) (declared : Ty) (slot : Option TypeId) : Prop :=
  ∀ t, table.typeOf slot = some t → declared.KeptBy t

/-- If the value in force keeps to the declared type, the assigned value fits it. -/
def Reassignment.Honours (table : TypeTable) (declared : Ty) (r : Reassignment) : Prop :=
  (∀ v ∈ r.inForce, table.Keeps declared v) →
    ∃ t, table.typeOf r.value = some t ∧ t.assignable declared = true

/-- The type recorded on the name of the binding is honoured by the assignments within its reach. -/
def Declaration.Honoured (table : TypeTable) (d : Declaration) : Prop :=
  ∃ t, table.typeOf d.binding.name.ty = some t ∧ ∀ r ∈ d.reassignments, r.Honours table t

/-- The binding is the one of the site, and the annotation, if there is one, stands for the type
recorded on the name, in the scopes of the site. -/
structure Site.Resolves (table : TypeTable) (site : Site) (b : Binding) : Prop where
  name : site.binding.name.value = b.name.value
  declaredAs : site.binding.declaredAs = b.declaredAs
  resolved : ∀ t, table.typeOf b.name.ty = some t →
    ∀ a ∈ b.declaredAs, site.scopes.resolve a = .ok t

/-- The sites of an identifier and its declarations in a checked tree are the same bindings, in the
same order. -/
def SameBindings (table : TypeTable) (x : Symbol) (sites : List Site)
    (declarations : List Declaration) : Prop :=
  List.Forall₂ (fun site d => site.Resolves table d.binding) (sites.filter (Site.binds x))
    declarations

namespace SameBindings

variable {table : TypeTable} {x : Symbol} {sites sites' : List Site} {ds ds' : List Declaration}

/-- Sites and bindings in a row correspond if they do piece by piece. -/
theorem append (h : SameBindings table x sites ds) (h' : SameBindings table x sites' ds') :
    SameBindings table x (sites ++ sites') (ds ++ ds') := by
  rw [SameBindings, List.filter_append]
  exact List.rel_append h h'

/-- The bindings in a row, of which those of the identifier are picked out. -/
theorem inRow {row : List Site} {bs : List Binding}
    (h : List.Forall₂ (Site.Resolves table) row bs) (behind : List Use) :
    SameBindings table x row ((Declaration.inRow x behind bs).filter (Declaration.declares x)) := by
  induction h with
  | nil => exact .nil
  | @cons site b row bs first _ ih =>
    have same : Site.binds x site = Declaration.declares x ⟨b, Uses.bindings x bs ++ behind⟩ := by
      simp only [Site.binds, Declaration.declares, first.name]
    rw [SameBindings, Declaration.inRow, List.filter_cons, List.filter_cons, same]
    split
    · exact .cons first ih
    · exact ih

/-- A declaration that is the only one has the only site. -/
theorem exists_of_mem {d : Declaration} (h : SameBindings table x sites ds) (mem : d ∈ ds)
    (few : ds.length ≤ 1) :
    ∃ site, sites.filter (Site.binds x) = [site] ∧ site.Resolves table d.binding := by
  obtain ⟨e, rfl⟩ := List.length_eq_one_iff.mp
    (Nat.le_antisymm few (List.length_pos_of_mem mem))
  obtain rfl := List.mem_singleton.mp mem
  obtain ⟨site, rest, resolves, done, same⟩ := List.forall₂_cons_right_iff.mp h
  obtain rfl := List.forall₂_nil_right_iff.mp done
  exact ⟨site, same, resolves⟩

end SameBindings

namespace Checker

open Relabeling (linking linking_onlyLinks)
open Parts (nextClass)
open Seen (linkedSymbol)

variable {τ υ ω α β : Type}

/-! ## States -/

/-- If the value in force keeps to the declared type, the identifier has a type, and what fits that
type fits the declared one. -/
def InForce (table : TypeTable) (declared : Ty) (x : Symbol) (value : Option (Option TypeId))
    (st : State) : Prop :=
  (∀ v ∈ value, table.Keeps declared v) →
    ∃ current, st.scopes.symbol? x = some current ∧ declared.Covers current

/-- Only the type of the identifier itself matters. -/
theorem InForce.congr {table : TypeTable} {declared : Ty} {x : Symbol}
    {value : Option (Option TypeId)} {st later : State} (h : InForce table declared x value st)
    (same : later.scopes.symbol? x = st.scopes.symbol? x) :
    InForce table declared x value later := by
  intro keep
  rw [same]
  exact h keep

/-- A table that came later than the state and still has room for its ids. -/
structure Final (table : TypeTable) (st : State) : Prop where
  grows : table.Extends st.table
  room : table.size ≤ TypeTable.capacity

/-- A table that is final later is final earlier. -/
theorem Final.before {table : TypeTable} {st later : State} (h : Final table later)
    (grows : later.table.Extends st.table) : Final table st :=
  ⟨h.grows.trans grows, h.room⟩

/-- Closing a scope brings back the symbols from before it was opened. -/
theorem symbol?_pop {st inner : State} (outer : inner.scopes.outer = st.scopes.frames)
    (x : Symbol) : inner.pop.scopes.symbol? x = st.scopes.symbol? x := by
  have popped : inner.pop.scopes.frames = st.scopes.frames := by
    show inner.scopes.pop.frames = _
    rw [Scopes.pop_of_outer outer]
    rfl
  rw [Scopes.symbol?, popped, Scopes.symbol?]

/-- A step within a scope that gives no symbols a type but those among `names`. -/
structure BindsOnly (names : List Symbol) (st later : State) : Prop where
  ready : ∀ k, Ready k st → Ready k later
  outer : later.scopes.outer = st.scopes.outer
  grows : later.table.Extends st.table
  symbols : ∀ x, x ∉ names → later.scopes.symbol? x = st.scopes.symbol? x

namespace BindsOnly

variable {names names' : List Symbol} {st : State}

/-- Steps in a row bind the names of both. -/
theorem trans {a b c : State} (h₁ : BindsOnly names a b) (h₂ : BindsOnly names' b c) :
    BindsOnly (names ++ names') a c where
  ready k h := h₂.ready k (h₁.ready k h)
  outer := h₂.outer.trans h₁.outer
  grows := h₂.grows.trans h₁.grows
  symbols x hx := by
    rw [List.mem_append, not_or] at hx
    exact (h₂.symbols x hx.2).trans (h₁.symbols x hx.1)

/-- Scopes and table stay as they are. -/
theorem of_eq {later : State} (ready : ∀ k, Ready k st → Ready k later)
    (scopes : later.scopes = st.scopes) (table : later.table = st.table) : BindsOnly [] st later :=
  ⟨ready, congrArg _ scopes, table ▸ .refl _, fun x _ => congrArg (Scopes.symbol? · x) scopes⟩

theorem refl : BindsOnly [] st st := of_eq (fun _ h => h) rfl rfl

theorem note (e : Entry) : BindsOnly [] st (st.note e) :=
  of_eq (fun _ h => ⟨h.real, h.nextClass⟩) rfl rfl

theorem emit (e : Event) : BindsOnly [] st (st.emit e) := by
  unfold State.emit
  split
  · exact refl
  · exact note _

theorem record (slot : Option TypeId) (t : Ty) : BindsOnly [] st (st.record slot t).2 where
  ready _ h := h.of_still (.record slot t)
  outer := congrArg _ (State.record_scopes slot t st)
  grows := (Continues.record slot t st).table
  symbols x _ := congrArg (Scopes.symbol? · x) (State.record_scopes slot t st)

/-- Binding a symbol gives a type to that symbol and no other. -/
theorem bind (symbol : Option Symbol) (t : Ty) :
    BindsOnly symbol.toList st (st.bind symbol t) where
  ready _ h := h.of_still (.bind symbol t)
  outer := State.bind_outer symbol t st
  grows := State.bind_table symbol t st ▸ .refl _
  symbols x hx := by
    cases symbol with
    | none => rfl
    | some y =>
      have other : x ≠ y := fun same => hx (same ▸ List.mem_singleton_self y)
      exact Scopes.symbol?_bind_of_ne _ other t

theorem bindTypeParams (typeParams : List (Node Ident)) :
    BindsOnly [] st (st.bindTypeParams typeParams) where
  ready _ h := ⟨h.real, h.nextClass⟩
  outer := Scopes.outer_bindTypeParams typeParams st.scopes
  grows := .refl _
  symbols x _ := Scopes.symbol?_bindTypeParams st.scopes typeParams x

/-- A name is bound and its type recorded. -/
theorem bindName (n : Node Ident) (t : Ty) :
    BindsOnly (Binders.ofName n) st ((st.bind n.value.symbol t).recordName n t).2 := by
  have bound : BindsOnly (Binders.ofName n) st (st.bind n.value.symbol t) := bind _ _
  have named := bound.trans (record n.ty t)
  rwa [List.append_nil] at named

/-- A function is announced under its own name. -/
theorem announceFunction (name : Option (Node Ident)) (types : List Ty) (declared : Option Ty) :
    BindsOnly (Binders.ofOptional name) st (Checker.announceFunction name types declared st) := by
  cases name with
  | none => exact refl
  | some n =>
    have bound : BindsOnly (Binders.ofName n) st
        (Checker.announceFunction (some n) types declared st) := bind _ _
    simpa [Binders.ofOptional] using bound

end BindsOnly

/-! ## Parts that uphold declared types -/

/-- A part was checked from `st`, where the next class gets the number `k`.  Identifiers that are
not bound in it, nor among `names`, keep to their declared types, and its bindings are honoured.
`sites` are its bindings as they were checked. -/
structure Upheld (names : List Symbol) (parts : List Part) (sites : List Site) (k : Nat)
    (seen : Seen) (st later : State) : Prop where
  ready : Ready (nextClass k parts) later
  outer : later.scopes.outer = st.scopes.outer
  grows : later.table.Extends st.table
  kept : ∀ final, Final final later → ∀ x, x ∉ names → x ∉ Parts.binders k parts →
    ∀ declared value, InForce final declared x value st →
      InForce final declared x (Uses.after value (seen.uses x)) later ∧
      ∀ r ∈ Uses.reassignments value (seen.uses x), r.Honours final declared
  honoured : ∀ final, Final final later → ∀ x, (Parts.binders k parts).count x ≤ 1 →
    ∀ d ∈ seen.declarations x, d.Honoured final
  few : ∀ x, (seen.declarations x).length ≤ (Parts.binders k parts).count x
  sited : ∀ final, Final final later → ∀ x, SameBindings final x sites (seen.declarations x)

namespace Upheld

variable {names names' : List Symbol} {parts parts' : List Part} {sites sites' : List Site}
  {k : Nat} {seen seen' : Seen} {a b c : State}

/-- A step that checks nothing. -/
theorem of_step (ready : Ready k a) (h : BindsOnly names a b) :
    Upheld names [] [] k .nothing a b where
  ready := h.ready k ready
  outer := h.outer
  grows := h.grows
  kept _ _ x hx _ _ _ force := ⟨force.congr (h.symbols x hx), List.forall_mem_nil _⟩
  honoured _ _ _ _ := List.forall_mem_nil _
  few _ := Nat.zero_le _
  sited _ _ _ := .nil

theorem refl (ready : Ready k a) : Upheld [] [] [] k .nothing a a :=
  of_step ready .refl

/-- One part after the other. -/
theorem trans (h₁ : Upheld names parts sites k seen a b)
    (h₂ : Upheld names' parts' sites' (nextClass k parts) seen' b c) :
    Upheld (names ++ names') (parts ++ parts') (sites ++ sites') k (seen ++ seen') a c where
  ready := by
    rw [Parts.nextClass_append]
    exact h₂.ready
  outer := h₂.outer.trans h₁.outer
  grows := h₂.grows.trans h₁.grows
  kept final hfinal x hx hbound declared value force := by
    rw [List.mem_append, not_or] at hx
    rw [Parts.binders_append, List.mem_append, not_or] at hbound
    obtain ⟨force₁, honours₁⟩ := h₁.kept final (hfinal.before h₂.grows) x hx.1 hbound.1 declared
      value force
    obtain ⟨force₂, honours₂⟩ := h₂.kept final hfinal x hx.2 hbound.2 declared _ force₁
    show InForce final declared x (Uses.after value (seen.uses x ++ seen'.uses x)) c ∧
      ∀ r ∈ Uses.reassignments value (seen.uses x ++ seen'.uses x), r.Honours final declared
    rw [Uses.after_append, Uses.reassignments_append]
    exact ⟨force₂, List.forall_mem_append.mpr ⟨honours₁, honours₂⟩⟩
  honoured final hfinal x once d hd := by
    rw [Parts.binders_append, List.count_append] at once
    rw [Seen.declarations_append, List.mem_append] at hd
    rcases hd with hd | hd
    · exact h₁.honoured final (hfinal.before h₂.grows) x (by omega) d hd
    · exact h₂.honoured final hfinal x (by omega) d hd
  few x := by
    rw [Seen.declarations_append, List.length_append, Parts.binders_append, List.count_append]
    exact Nat.add_le_add (h₁.few x) (h₂.few x)
  sited final hfinal x := by
    rw [Seen.declarations_append]
    exact (h₁.sited final (hfinal.before h₂.grows) x).append (h₂.sited final hfinal x)

/-- More names are excluded. -/
theorem mono (h : Upheld names parts sites k seen a b) (more : names ⊆ names') :
    Upheld names' parts sites k seen a b :=
  { h with kept := fun final hfinal x hx => h.kept final hfinal x fun mem => hx (more mem) }

/-- What is seen may be replaced by what shows the same. -/
theorem congr (h : Upheld names parts sites k seen a b) (same : seen.Same seen') :
    Upheld names parts sites k seen' a b where
  ready := h.ready
  outer := h.outer
  grows := h.grows
  kept final hfinal x := by
    rw [← same.uses]
    exact h.kept final hfinal x
  honoured final hfinal x := by
    rw [← same.declarations]
    exact h.honoured final hfinal x
  few x := by
    rw [← same.declarations]
    exact h.few x
  sited final hfinal x := by
    rw [← same.declarations]
    exact h.sited final hfinal x

/-- A step that only binds may come before. -/
theorem after (ready : Ready k a) (step : BindsOnly names a b)
    (h : Upheld names' parts sites k seen b c) :
    Upheld (names ++ names') parts sites k seen a c :=
  (of_step ready step).trans h

/-- A step that only binds may come after. -/
theorem andStep (h : Upheld names parts sites k seen a b) (step : BindsOnly names' b c) :
    Upheld (names ++ names') parts sites k seen a c := by
  have both := h.trans (of_step h.ready step)
  rwa [List.append_nil, List.append_nil, Seen.append_nothing] at both

/-- Nothing that is assigned in a scope stays in force when the scope is closed. -/
theorem inScope (h : Upheld names parts sites k seen a.push b) :
    Upheld names parts sites k seen.enclosed a b.pop where
  ready := ⟨h.ready.real, h.ready.nextClass⟩
  outer := (congrArg Scopes.outer (Scopes.pop_of_outer h.outer) :)
  grows := h.grows
  kept final hfinal x hx hbound declared value force := by
    obtain ⟨-, honours⟩ := h.kept final ⟨hfinal.grows, hfinal.room⟩ x hx hbound declared value
      (force.congr rfl)
    refine ⟨force.congr (symbol?_pop h.outer x), ?_⟩
    show ∀ r ∈ Uses.reassignments value [.scope (seen.uses x)], _
    rw [Uses.reassignments_scope]
    exact honours
  honoured final hfinal := h.honoured final ⟨hfinal.grows, hfinal.room⟩
  few := h.few
  sited final hfinal := h.sited final ⟨hfinal.grows, hfinal.room⟩

/-- A part was entered, and the names are bound by it. -/
theorem within {p : Part} {j : Nat} (scopes : b.scopes = a.scopes) (table : b.table = a.table)
    (h : Upheld names parts sites j seen b c) (bound : names ⊆ p.binders k)
    (number : nextClass k [p] = j) : Upheld [] (p :: parts) sites k seen a c where
  ready := by
    rw [← List.singleton_append, Parts.nextClass_append, number]
    exact h.ready
  outer := scopes ▸ h.outer
  grows := table ▸ h.grows
  kept final hfinal x _ hbound declared value force := by
    rw [Parts.binders, number, List.mem_append, not_or] at hbound
    have entered : InForce final declared x value b :=
      force.congr (congrArg (Scopes.symbol? · x) scopes)
    exact h.kept final hfinal x (fun mem => hbound.1 (bound mem)) hbound.2 declared value entered
  honoured final hfinal x once := by
    rw [Parts.binders, number, List.count_append] at once
    exact h.honoured final hfinal x (by omega)
  few x := by
    rw [Parts.binders, number, List.count_append]
    exact Nat.le_trans (h.few x) (Nat.le_add_left _ _)
  sited := h.sited

end Upheld

/-- If the check succeeds, declared types are upheld; `seen` is what is seen of what came of the
tree. -/
def Upholds (names : List Symbol) (parts : List Part) (sites : List Site) (k : Nat)
    (seen : τ → Seen) (st : State) (e : Checked τ α) : Prop :=
  ∀ a, e.result = .ok a → Upheld names parts sites k (seen e.tree) st e.state

namespace Upholds

variable {names names' : List Symbol} {p : Part} {parts parts' : List Part} {sites : List Site}
  {k : Nat} {st : State} {S : τ → Seen} {T : υ → Seen} {W : ω → Seen} {e : Checked τ α}

theorem succeed {a : α} {t : τ} (ready : Ready k st) (same : Seen.nothing.Same (S t)) :
    Upholds [] [] [] k S st (.succeed a t st) :=
  fun _ _ => (Upheld.refl ready).congr same

/-- Only successful checks uphold anything. -/
theorem fail {f : Failure} {t : τ} {later : State} :
    Upholds names parts sites k S st (.fail f t later : Checked τ α) := by
  intro a h
  cases h

theorem concludeWith (h : Upholds names parts sites k S st e) (f : α → State → Except Failure β) :
    Upholds names parts sites k S st (e.concludeWith f) := by
  intro b hb
  obtain ⟨a, ha, -⟩ := exists_of_bind_eq_ok hb
  exact h a ha

theorem conclude (h : Upholds names parts sites k S st e) (f : α → Except Failure β) :
    Upholds names parts sites k S st (e.conclude f) :=
  h.concludeWith fun a _ => f a

/-- A tree may be put together in any way that shows the same. -/
theorem rebuild (h : Upholds names parts sites k S st e) {build : τ → ω}
    (same : ∀ t, (S t).Same (W (build t))) :
    Upholds names parts sites k W st (e.rebuild build) :=
  fun a ha => (h a ha).congr (same _)

/-- More names may be bound than are said to be. -/
theorem mono (more : names ⊆ names') (h : Upholds names parts sites k S st e) :
    Upholds names' parts sites k S st e :=
  fun a ha => (h a ha).mono more

/-- A part was entered that binds the names. -/
theorem entered {j : Nat} {st₁ : State} (scopes : st₁.scopes = st.scopes)
    (table : st₁.table = st.table) (number : nextClass k [p] = j) (bound : names ⊆ p.binders k)
    (h : Upholds names parts sites j S st₁ e) : Upholds [] (p :: parts) sites k S st e :=
  fun a ha => .within scopes table (h a ha) bound number

/-- The names are bound by the part around. -/
theorem within (number : nextClass k [p] = k) (bound : names ⊆ p.binders k)
    (h : Upholds names parts sites k S st e) : Upholds [] (p :: parts) sites k S st e :=
  entered rfl rfl number bound h

/-- A part that takes no class number may stand in front. -/
theorem inPart (number : nextClass k [p] = k) (h : Upholds [] parts sites k S st e) :
    Upholds [] (p :: parts) sites k S st e :=
  within number (List.nil_subset _) h

theorem after {st₁ : State} (ready : Ready k st) (step : BindsOnly names st st₁)
    (h : Upholds names' parts sites k S st₁ e) : Upholds (names ++ names') parts sites k S st e :=
  fun a ha => .after ready step (h a ha)

theorem afterQuiet {st₁ : State} (ready : Ready k st) (step : BindsOnly [] st st₁)
    (h : Upholds names parts sites k S st₁ e) : Upholds names parts sites k S st e :=
  after ready step h

/-- Two parts that are put together.  The sites of the second depend on what came of the first. -/
theorem andThen {sites' : α → State → List Site} {rest : υ} {next : α → State → Checked υ β}
    {build : τ → υ → ω} (h₁ : Upholds names parts sites k S st e)
    (h₂ : ∀ a st, Ready (nextClass k parts) st →
      Upholds names' parts' (sites' a st) (nextClass k parts) T st (next a st))
    (same : ∀ t u, (S t ++ T u).Same (W (build t u))) :
    Upholds (names ++ names') (parts ++ parts') (sites ++ e.onward sites') k W st
      (e.andThen rest next build) := by
  intro b hb
  obtain ⟨a, ha, hb, both⟩ := Edit.exists_of_andThen_ok hb
  have first := h₁ a ha
  have second := h₂ a e.state first.ready b hb
  rw [both, Edit.onward_of_ok ha]
  exact (first.trans second).congr (same _ _)

/-- Two parts in a row. -/
theorem andPair {sites' : α → State → List Site} {rest : υ} {next : α → State → Checked υ β}
    (h₁ : Upholds names parts sites k S st e)
    (h₂ : ∀ a st, Ready (nextClass k parts) st →
      Upholds names' parts' (sites' a st) (nextClass k parts) T st (next a st)) :
    Upholds (names ++ names') (parts ++ parts') (sites ++ e.onward sites') k
      (fun p => S p.1 ++ T p.2) st (e.andThen rest next Prod.mk) :=
  h₁.andThen h₂ fun _ _ => .of_eq rfl

/-- A part with a name behind it. -/
theorem andName {rest : υ} {next : α → State → Checked υ β} {build : τ → υ → ω}
    (h₁ : Upholds names parts sites k S st e)
    (h₂ : ∀ a st, Ready (nextClass k parts) st →
      Upholds names' [] [] (nextClass k parts) (fun _ => .nothing) st (next a st))
    (same : ∀ t u, (S t).Same (W (build t u))) :
    Upholds (names ++ names') parts sites k W st (e.andThen rest next build) := by
  intro b hb
  obtain ⟨a, ha, hb, both⟩ := Edit.exists_of_andThen_ok hb
  have first := h₁ a ha
  have named := first.trans (h₂ a e.state first.ready b hb)
  rw [List.append_nil, List.append_nil, Seen.append_nothing] at named
  rw [both]
  exact named.congr (same _ _)

/-- A last step that binds nothing and leaves the tree alone. -/
theorem whenDone {next : α → τ → State → Checked τ β} (h : Upholds names parts sites k S st e)
    (quiet : ∀ a b, (next a e.tree e.state).result = .ok b →
      (next a e.tree e.state).tree = e.tree ∧
        BindsOnly [] e.state (next a e.tree e.state).state) :
    Upholds names parts sites k S st (e.whenDone next) := by
  intro b hb
  unfold Edit.whenDone at hb ⊢
  cases hr : e.result with
  | error f => rw [hr] at hb; cases hb
  | ok a =>
    rw [hr] at hb
    obtain ⟨same, step⟩ := quiet a b hb
    have done := (h a hr).andStep step
    rw [List.append_nil] at done
    exact same.symm ▸ done

/-- What is bound in a scope is gone behind it, and its uses are enclosed. -/
theorem inScope {work : State → Checked τ α}
    (h : Upholds names parts sites k S st.push (work st.push)) :
    Upholds names parts sites k (fun t => (S t).enclosed) st (Checker.inScope work st) :=
  fun a ha => (h a ha).inScope

/-- Two steps in a scope of their own, where `V` is what is seen of both inside. -/
theorem enclosedSteps {work : State → Checked τ α} {rest : υ} {next : α → State → Checked υ β}
    {build : τ → υ → ω} {V : τ → υ → Seen}
    (inside : ∀ a b, (work st.push).result = .ok a →
      (next a (work st.push).state).result = .ok b →
      Upheld names parts sites k (V (work st.push).tree (next a (work st.push).state).tree) st.push
        (next a (work st.push).state).state)
    (same : ∀ t u, (V t u).enclosed.Same (W (build t u))) :
    Upholds names parts sites k W st
      (Checker.inScope (fun st => (work st).andThen rest next build) st) := by
  intro b hb
  obtain ⟨a, ha, hb, both⟩ := Edit.exists_of_andThen_ok (show ((work st.push).andThen rest next
    build).result = .ok b from hb)
  show Upheld _ _ _ _ (W ((work st.push).andThen rest next build).tree) st
    ((work st.push).andThen rest next build).state.pop
  rw [both]
  exact (inside a b ha hb).inScope.congr (same _ _)

/-- A name that is bound and a part that is checked, in a scope of their own. -/
theorem enclosedName {work : State → Checked τ α} {rest : υ} {next : α → State → Checked υ β}
    {build : τ → υ → ω} {sites' : State → List Site}
    (h₁ : Upholds names [] [] k (fun _ => .nothing) st.push (work st.push))
    (h₂ : ∀ a st, Ready k st → Upholds names' parts (sites' st) k T st (next a st))
    (same : ∀ t u, (T u).enclosed.Same (W (build t u))) :
    Upholds (names ++ names') parts (sites' (work st.push).state) k W st
      (Checker.inScope (fun st => (work st).andThen rest next build) st) := by
  refine enclosedSteps (fun a b ha hb => ?_) same
  have first := h₁ a ha
  exact first.trans (h₂ a _ first.ready b hb)

/-- The record of a type is no use of an identifier. -/
theorem recorded {W : Node τ → Seen} {e : Checked τ Ty} {span : Span} {slot : Option TypeId}
    (h : Upholds names parts sites k S st e) (same : ∀ t slot, (S t).Same (W ⟨span, t, slot⟩)) :
    Upholds names parts sites k W st (Checker.recorded span slot e) := by
  intro u hu
  unfold Checker.recorded at hu ⊢
  cases hr : e.result with
  | error f => rw [hr] at hu; cases hu
  | ok t =>
    have done := (h t hr).andStep (.record slot t)
    rw [List.append_nil] at done
    exact done.congr (same _ _)

/-- The type of a name is recorded before the rest of the part is checked. -/
theorem afterName {name : Node Ident} {t : Ty} {D : State → List Site}
    (tail : State → Checked υ β) (build : Node Ident → υ → ω) (ready : Ready k st)
    (h : ∀ st, Ready k st → Upholds names parts (D st) k T st (tail st))
    (same : ∀ slot u, (T u).Same (W (build ⟨name.span, name.value, slot⟩ u))) :
    Upholds names parts (D (st.recordName name t).2) k W st
      ((tail (st.recordName name t).2).rebuild (build (st.recordName name t).1)) := by
  have step : BindsOnly [] st (st.recordName name t).2 := .record name.ty t
  exact afterQuiet ready step ((h _ (step.ready k ready)).rebuild fun u => same _ u)

theorem named (name : Option (Node Ident)) (t : Ty) (ready : Ready k st) :
    Upholds (Binders.ofOptional name) [] [] k (fun _ => .nothing) st
      (Checker.named name t st) := by
  cases name with
  | none => exact succeed ready (.of_eq rfl)
  | some n =>
    intro _ _
    refine (Upheld.of_step ready (.bindName n t)).mono ?_
    simp [Binders.ofOptional]

/-- Parameters bind their own names and uphold nothing yet. -/
theorem checkParams (params : List Param) (ready : Ready k st) :
    Upholds (Binders.ofParams params) [] [] k (fun _ => .nothing) st
      (Checker.checkParams params st) := by
  induction params generalizing st with
  | nil => exact succeed ready (.of_eq rfl)
  | cons p rest ih =>
    obtain ⟨name, declaredAs⟩ := p
    unfold Checker.checkParams
    split
    · exact fail
    · rename_i t _
      have step : BindsOnly (Binders.ofName name) st (st.bind name.value.symbol t) := .bind _ _
      exact after ready step <| afterName (D := fun _ => [])
        (fun st => (Checker.checkParams rest st).conclude fun ts => .ok (t :: ts))
        (fun n rest => Param.mk n declaredAs :: rest) (step.ready k ready)
        (fun _ ready => (ih ready).conclude _) fun _ _ => .of_eq rfl

/-- Parameters and body of a function or method. -/
theorem checkCallable {announced : List Symbol} {typeParams : List (Node Ident)}
    {params : List Param} {returns : Option (Node TypeExpr)} {body : List (Node Stmt)}
    {announce : List Ty → Option Ty → State → State} {sites : State → List Site}
    {checkBody : State → Checked (List (Node Stmt)) Ty} {S : List (Node Stmt) → Seen}
    (hannounce : ∀ types declared st, BindsOnly announced st (announce types declared st))
    (hbody : ∀ st, Ready k st → Upholds [] (Parts.stmts body) (sites st) k S st (checkBody st))
    (ready : Ready k st) :
    Upholds (Binders.ofParams params ++ announced) (Parts.stmts body)
      (Sites.callable typeParams params returns announce sites st) k
      (fun p => (S p.2).enclosed) st
      (Checker.checkCallable typeParams params returns body announce checkBody st) := by
  have step : BindsOnly [] st.push (st.push.bindTypeParams typeParams) := .bindTypeParams _
  have inside : Ready k (st.push.bindTypeParams typeParams) := step.ready k ready.push
  rw [Sites.callable, ← List.nil_append (Edit.onward _ _)]
  refine inScope (S := fun p : List Param × List (Node Stmt) => S p.2) ?_
  refine afterQuiet ready.push step ((checkParams params inside).andThen (T := S)
    (fun types st ready => ?_) fun _ _ => .of_eq rfl)
  cases st.scopes.resolveOptional returns with
  | error f => exact fail
  | ok declared =>
    have announces := hannounce types declared st
    have checked := after ready announces (hbody _ (announces.ready k ready))
    rw [List.append_nil] at checked
    exact checked.whenDone fun _ _ _ => ⟨rfl, .refl⟩

end Upholds

/-! ## Assignments -/

section

variable (receiver : Receiver)

/-- The symbol that an assignment to this target gives a type. -/
def targetSymbol : Expr → Option Symbol
  | .ident i => receiver.symbolOf i
  | _ => none

theorem linkedSymbol_ident (span : Span) (i : Ident) (slot : Option TypeId) :
    linkedSymbol receiver ⟨span, .ident i, slot⟩ = receiver.symbolOf i := by
  cases receiver with
  | none => rfl
  | some self =>
    by_cases h : i.name = SelfReference.name <;>
      simp [linkedSymbol, Relabeling.node, Relabeling.inside, Relabeling.ident, linking,
        Receiver.symbolOf, Expr.symbol?, h]

theorem linkedSymbol_of_name? {n : Node Expr} (h : n.value.name? = none) :
    linkedSymbol receiver n = none := by
  obtain ⟨span, e, slot⟩ := n
  cases e with
  | ident i => cases h
  | _ => rfl

variable {receiver} {target value : Node Expr} {x : Symbol} {st : State}

/-- The checked target refers to the symbol that is given a type. -/
theorem linkedSymbol_checkExpr {u : Ty} {final : TypeTable} (real : st.surveying = false)
    (ok : (checkExpr receiver target st).result = .ok u)
    (hfinal : Final final (checkExpr receiver target st).state) :
    linkedSymbol receiver (checkExpr receiver target st).tree =
      targetSymbol receiver target.value := by
  have typed := (Certifies.checkExpr receiver target st real).holds u ok final hfinal.grows
    hfinal.room
  obtain ⟨span, e, slot⟩ := target
  cases e with
  | ident i => exact linkedSymbol_ident receiver span i _
  | _ => exact linkedSymbol_of_name? receiver typed.name

/-- An identifier that is a target has the type that is looked up, and nothing happens to it yet. -/
theorem checkExpr_of_targetSymbol (st : State) (h : targetSymbol receiver target.value = some x) :
    (checkExpr receiver target st).result = .ok (st.lookup (some x)) ∧
      (Seen.node receiver (checkExpr receiver target st).tree).uses x = [] := by
  obtain ⟨span, e, slot⟩ := target
  cases e with
  | ident i =>
    have h : receiver.symbolOf i = some x := h
    exact ⟨congrArg (fun symbol => Except.ok (st.lookup symbol)) h, rfl⟩
  | _ => cases h

theorem BindsOnly.assigned (receiver : Receiver) (target : Expr) (t : Ty) :
    BindsOnly (targetSymbol receiver target).toList st
      ((st.noteAssignment receiver target t).rebind receiver target t) := by
  have noted : BindsOnly [] st (st.noteAssignment receiver target t) :=
    of_eq (fun _ h => ⟨(State.noteAssignment_surveying receiver target t st).trans h.real,
        (State.noteAssignment_nextClass receiver target t st).trans h.nextClass⟩)
      (State.noteAssignment_scopes receiver target t st)
      (State.noteAssignment_table receiver target t st)
  cases target with
  | ident i =>
    exact noted.trans ((note (.rebound i.name t.widen)).trans (bind (receiver.symbolOf i) t.widen))
  | _ => exact noted

/-- After an assignment the target has the widened type of the value. -/
theorem symbol?_assigned {target : Expr} (h : targetSymbol receiver target = some x) (t : Ty) :
    ((st.noteAssignment receiver target t).rebind receiver target t).scopes.symbol? x =
      some t.widen := by
  cases target with
  | ident i =>
    have h : receiver.symbolOf i = some x := h
    simp only [State.rebind, h, State.bind]
    exact Scopes.symbol?_bind _ x t.widen
  | _ => cases h

/-- An assignment that is accepted: the value fits the type of the target, which then takes on the
type of the value. -/
theorem exists_of_assignment_ok {span : Span} {t : Ty}
    (ok : (checkForm receiver span (.assignment target value) st).result = .ok t) :
    ∃ u, (checkExpr receiver target st).result = .ok u ∧
      (checkExpr receiver value (checkExpr receiver target st).state).result = .ok t ∧
      t.assignable u = true ∧
      checkForm receiver span (.assignment target value) st =
        .succeed t
          (.assignment (checkExpr receiver target st).tree
            (checkExpr receiver value (checkExpr receiver target st).state).tree)
          (((checkExpr receiver value (checkExpr receiver target st).state).state.noteAssignment
            receiver target.value t).rebind receiver target.value t) := by
  rw [checkForm] at ok ⊢
  split at ok
  · rename_i isTarget
    rw [if_pos isTarget]
    obtain ⟨u, hu, accepted, whole⟩ := Edit.exists_of_andThen_ok ok
    rw [whole]
    unfold Edit.whenDone at accepted ⊢
    split at accepted
    · rename_i v hv
      dsimp only at accepted ⊢
      split at accepted
      · cases accepted
      · rename_i fits
        obtain rfl := Except.ok.inj accepted
        refine ⟨u, hu, hv, Failure.assignable_of_unlessAssignable fits, ?_⟩
        rfl
    · cases accepted
  · cases ok

section

variable {final : TypeTable} {declared t : Ty} {value : Option (Option TypeId)} {later : State}

/-- The value was held against the type that the identifier had before. -/
theorem InForce.fits (force : InForce final declared x value st)
    (fits : t.assignable (st.lookup (some x)) = true)
    (keep : ∀ v ∈ value, final.Keeps declared v) : t.assignable declared = true := by
  obtain ⟨current, hcurrent, covers⟩ := force keep
  refine covers t ?_
  simpa [State.lookup, hcurrent] using fits

/-- From an assignment on the value is in force that was assigned.  The assignments before it and
within the value do not matter, for the identifier takes on the type of the value after them. -/
theorem InForce.assigned {slot : Option TypeId} (typed : final.typeOf slot = some t)
    (symbol : later.scopes.symbol? x = some t.widen) :
    InForce final declared x (some slot) later := by
  intro keep
  have kept : declared.KeptBy t := keep slot rfl t typed
  exact ⟨t.widen, symbol, kept.covers⟩

end

namespace Upholds

variable {k : Nat}

/-- An assignment: the identifiers that are not its target go on as they were; the target goes on
with the value. -/
theorem assignment (receiver : Receiver) (span : Span) (slot : Option TypeId)
    (ready : Ready k st)
    (htarget : Upholds [] (Parts.node target) (Sites.node receiver target st) k
      (Seen.node receiver) st (checkExpr receiver target st))
    (hvalue : ∀ st, Ready (nextClass k (Parts.node target)) st →
      Upholds [] (Parts.node value) (Sites.node receiver value st)
        (nextClass k (Parts.node target)) (Seen.node receiver) st (checkExpr receiver value st)) :
    Upholds [] (Parts.node target ++ Parts.node value)
      (Sites.inside receiver (.assignment target value) st) k
      (fun e => Seen.node receiver ⟨span, e, slot⟩) st
      (checkForm receiver span (.assignment target value) st) := by
  intro t ok
  obtain ⟨u, hu, ht, fits, whole⟩ := exists_of_assignment_ok ok
  rw [whole]
  have first := htarget u hu
  have second := hvalue _ first.ready t ht
  have both := first.trans second
  have step : BindsOnly (targetSymbol receiver target.value).toList
      (checkExpr receiver value (checkExpr receiver target st).state).state _ :=
    .assigned receiver target.value t
  have sites : Sites.inside receiver (.assignment target value) st =
      Sites.node receiver target st ++
        Sites.node receiver value (checkExpr receiver target st).state := by
    rw [Sites.inside, Edit.onward_of_ok hu]
  rw [sites]
  refine ⟨step.ready _ both.ready, step.outer.trans both.outer, step.grows.trans both.grows, ?_,
    fun final hfinal => both.honoured final (hfinal.before step.grows), both.few,
    fun final hfinal => both.sited final (hfinal.before step.grows)⟩
  · intro final hfinal x _ hbound declared inForce force
    have hsecond : Final final
        (checkExpr receiver value (checkExpr receiver target st).state).state :=
      hfinal.before step.grows
    have hfirst : Final final (checkExpr receiver target st).state := hsecond.before second.grows
    -- the type of the value is recorded on its node, and later tables still have it
    have typed := ((Certifies.checkExpr receiver value _ first.ready.real).holds t ht final
      hsecond.grows hsecond.room).type
    have refers := linkedSymbol_checkExpr ready.real hu hfirst
    show InForce final declared x (Uses.after inForce ((Seen.node receiver
        ⟨span, .assignment _ _, slot⟩).uses x)) _ ∧
      ∀ r ∈ Uses.reassignments inForce ((Seen.node receiver
        ⟨span, .assignment _ _, slot⟩).uses x), r.Honours final declared
    by_cases same : targetSymbol receiver target.value = some x
    · -- the target is the identifier itself: its check changes nothing and shows the type in force
      rw [Seen.assignment_same span slot (refers.trans same), Uses.after_assignment,
        Uses.reassignments_assignment]
      rw [Parts.binders_append, List.mem_append, not_or] at hbound
      obtain ⟨looked, unused⟩ := checkExpr_of_targetSymbol st same
      have force₁ := (first.kept final hfirst x List.not_mem_nil hbound.1 declared inForce force).1
      rw [unused] at force₁
      obtain ⟨-, honours⟩ := second.kept final hsecond x List.not_mem_nil hbound.2 declared inForce
        force₁
      obtain rfl := Except.ok.inj (hu.symm.trans looked)
      exact ⟨.assigned typed (symbol?_assigned same t),
        List.forall_mem_cons.mpr ⟨fun keep => ⟨t, typed, force.fits fits keep⟩, honours⟩⟩
    · -- another target: the assignment binds another symbol, so the type in force is as before
      have other : linkedSymbol receiver (checkExpr receiver target st).tree ≠ some x :=
        fun refersTo => same (refers.symm.trans refersTo)
      rw [Seen.assignment_other span slot other]
      obtain ⟨force, honours⟩ := both.kept final hsecond x List.not_mem_nil hbound declared inForce
        force
      refine ⟨force.congr (step.symbols x fun mem => same ?_), honours⟩
      exact Option.mem_toList.mp mem

end Upholds

end

/-! ## Bindings -/

/-- An accepted annotation resolves to the type that its binding gets. -/
theorem resolve_of_binding {scopes : Scopes} {declaredAs : Option (Node TypeExpr)} {init t : Ty}
    {span : Span} (h : Rule.binding scopes declaredAs init span = .ok t) :
    ∀ a ∈ declaredAs, scopes.resolve a = .ok t := by
  rintro a rfl
  exact (Rule.binding_eq_ok_iff.mp h).1

theorem BindsOnly.declare {st : State} (name : Node Ident) (t : Ty) :
    BindsOnly (Binders.ofName name) st (st.declare name t).2 :=
  (BindsOnly.note (.bound name.value.name t)).trans (.bindName name t)

/-- A declared name has the declared type. -/
theorem State.symbol?_declare {name : Node Ident} {x : Symbol} (symbol : name.value.symbol = some x)
    (t : Ty) (st : State) : (st.declare name t).2.scopes.symbol? x = some t := by
  show (State.record _ _ _).2.scopes.symbol? x = some t
  rw [State.record_scopes, symbol]
  exact Scopes.symbol?_bind _ x t

/-- The declared type is recorded on the name. -/
theorem State.typeOf_declare {name : Node Ident} {t : Ty} {st : State} {final : TypeTable}
    (real : st.surveying = false) (hfinal : Final final (st.declare name t).2) :
    final.typeOf (st.declare name t).1.ty = some t := by
  have real : ((st.note (.bound name.value.name t)).bind name.value.symbol t).surveying = false :=
    (State.bind_surveying _ _ _).trans real
  obtain ⟨grows, room⟩ := hfinal
  simp only [State.declare, State.recordName, State.record_of_real real] at grows ⊢
  exact grows.get?_nextId room

/-- Bindings were checked in a row.  At the end of the row each of them is in force, and the
assignments in the initial values behind it have honoured it. -/
structure UpheldBindings (receiver : Receiver) (bs : List Binding) (k : Nat) (st : State)
    (bs' : List Binding) (later : State) : Prop
    extends Upheld (Binders.ofBindings bs) (Parts.bindings bs) (Sites.bindings receiver bs st) k
      (Seen.bindings receiver bs') st later where
  names : Binders.ofBindings ((linking receiver).bindings receiver.isSome bs') =
    Binders.ofBindings bs
  row : ∀ final, Final final later → List.Forall₂ (Site.Resolves final) (Sites.row receiver bs st)
    ((linking receiver).bindings receiver.isSome bs')
  reach : ∀ final, Final final later → ∀ x,
    (Binders.ofBindings bs).count x + (Parts.binders k (Parts.bindings bs)).count x ≤ 1 →
    ∀ d ∈ Declaration.inRow x [] ((linking receiver).bindings receiver.isSome bs'),
      d.declares x = true → x ∈ Binders.ofBindings bs ∧
        ∃ t, final.typeOf d.binding.name.ty = some t ∧
          InForce final t x (Uses.after none d.uses) later ∧
          ∀ r ∈ d.reassignments, r.Honours final t

namespace UpheldBindings

variable {receiver : Receiver} {k : Nat} {st later : State} {bs bs' : List Binding}

theorem nil (ready : Ready k st) : UpheldBindings receiver [] k st [] st where
  toUpheld := .refl ready
  names := rfl
  row _ _ := .nil
  reach _ _ _ _ := List.forall_mem_nil _

section

variable {name : Node Ident} {declaredAs : Option (Node TypeExpr)} {init : Node Expr}
  {initTy t : Ty}

/-- The name of a binding has the type that its annotation stands for where the binding is
checked. -/
theorem resolves_declare {s : State} {final : TypeTable} (real : s.surveying = false)
    (accepted : Rule.binding s.scopes declaredAs initTy init.span = .ok t)
    (hfinal : Final final (s.declare name t).2) (init' : Node Expr) :
    Site.Resolves final ⟨⟨name, declaredAs, init⟩, s.scopes⟩
      ⟨(s.declare name t).1, declaredAs, init'⟩ where
  name := rfl
  declaredAs := rfl
  resolved u typed := by
    obtain rfl := Option.some.inj ((State.typeOf_declare real hfinal).symm.trans typed)
    exact resolve_of_binding accepted

/-- One more binding in front: its initial value, then its name, then the others. -/
theorem cons (checked : (checkExpr receiver init st).result = .ok initTy)
    (accepted : Rule.binding (checkExpr receiver init st).state.scopes declaredAs initTy init.span =
      .ok t)
    (first : Upheld [] (Parts.node init) (Sites.node receiver init st) k
      (Seen.node receiver (checkExpr receiver init st).tree) st (checkExpr receiver init st).state)
    (others : UpheldBindings receiver bs (nextClass k (Parts.node init))
      ((checkExpr receiver init st).state.declare name t).2 bs' later) :
    UpheldBindings receiver (⟨name, declaredAs, init⟩ :: bs) k st
      (⟨((checkExpr receiver init st).state.declare name t).1, declaredAs,
        (checkExpr receiver init st).tree⟩ :: bs') later where
  toUpheld := by
    rw [Sites.bindings_cons checked accepted]
    exact first.trans (.after first.ready (.declare name t) others.toUpheld)
  names := congrArg (Binders.ofName name ++ ·) others.names
  row final hfinal := by
    rw [Sites.row_cons checked accepted, Relabeling.bindings,
      Relabeling.optionalTypeExpr_eq (linking_onlyLinks receiver)]
    exact .cons (resolves_declare first.ready.real accepted (hfinal.before others.grows) _)
      (others.row final hfinal)
  reach final hfinal x once d hd symbol := by
    have split : (Binders.ofBindings (⟨name, declaredAs, init⟩ :: bs)).count x =
        (Binders.ofName name).count x + (Binders.ofBindings bs).count x := List.count_append
    rw [split, Parts.bindings, Parts.binders_append, List.count_append] at once
    rcases List.mem_cons.mp hd with rfl | hd
    · have symbol : name.value.symbol = some x := of_decide_eq_true symbol
      have here : Binders.ofName name = [x] := congrArg Option.toList symbol
      rw [here, List.count_singleton_self] at once
      have behind : x ∉ Binders.ofBindings bs := List.count_eq_zero.mp (by omega)
      have inside : x ∉ Parts.binders (nextClass k (Parts.node init)) (Parts.bindings bs) :=
        List.count_eq_zero.mp (by omega)
      -- from here on the identifier has the type of the binding
      obtain ⟨force, honours⟩ := others.kept final hfinal x behind inside t none fun _ =>
        ⟨t, State.symbol?_declare symbol t _, fun _ fits => fits⟩
      have mem : x ∈ Binders.ofName name := here ▸ List.mem_singleton_self x
      refine ⟨List.mem_append_left _ mem, t, ?_, ?_⟩
      · exact State.typeOf_declare first.ready.real (hfinal.before others.grows)
      · show InForce final t x (Uses.after none (_ ++ [])) later ∧
          ∀ r ∈ Uses.reassignments none (_ ++ []), _
        rw [List.append_nil]
        exact ⟨force, honours⟩
    · obtain ⟨mem, rest⟩ := others.reach final hfinal x (by omega) d hd symbol
      exact ⟨List.mem_append_right _ mem, rest⟩

end

/-- What follows the bindings of a part is in the reach of all of them. -/
theorem form {p p' : Part} {parts : List Part} {sites : List Site} {seen : Seen} {s₁ : State}
    (h : UpheldBindings receiver bs k st bs' s₁)
    (next : Upheld [] parts sites (nextClass k (Parts.bindings bs)) seen s₁ later)
    (binders : p.binders k = Binders.ofBindings bs) (number : nextClass k [p] = k)
    (declares : ∀ x, p'.declarations x =
      (Declaration.inRow x (seen.uses x) ((linking receiver).bindings receiver.isSome bs')).filter
        (Declaration.declares x)) :
    Upheld [] (p :: (Parts.bindings bs ++ parts))
      (Sites.row receiver bs st ++ (Sites.bindings receiver bs st ++ sites)) k
      ⟨(Seen.bindings receiver bs' ++ seen).uses, p' :: (Seen.bindings receiver bs' ++ seen).parts⟩
      st later := by
  have checked := h.toUpheld.trans next
  rw [List.append_nil] at checked
  have inside := Upheld.within rfl rfl checked (binders ▸ List.Subset.refl _) number
  refine ⟨inside.ready, inside.outer, inside.grows, inside.kept, ?_, fun x => ?_,
    fun final hfinal x => ?_⟩
  · intro final hfinal x once d hd
    rcases List.mem_append.mp (show d ∈ p'.declarations x ++
      (Seen.bindings receiver bs' ++ seen).declarations x from hd) with own | deeper
    · rw [declares, Declaration.inRow_eq] at own
      obtain ⟨listed, symbol⟩ := List.mem_filter.mp own
      obtain ⟨d, row, rfl⟩ := List.mem_map.mp listed
      rw [Parts.binders, binders, number, Parts.binders_append, List.count_append,
        List.count_append] at once
      obtain ⟨mem, t, typed, force, honours⟩ := h.reach final (hfinal.before next.grows) x
        (by omega) d row symbol
      -- the identifier is bound in the row, so what follows does not bind it again
      have here : 0 < (Binders.ofBindings bs).count x := List.count_pos_iff.mpr mem
      have behind : x ∉ Parts.binders (nextClass k (Parts.bindings bs)) parts :=
        List.count_eq_zero.mp (by omega)
      obtain ⟨-, later⟩ := next.kept final hfinal x List.not_mem_nil behind t _ force
      refine ⟨t, typed, ?_⟩
      show ∀ r ∈ Uses.reassignments none (d.uses ++ seen.uses x), _
      rw [Uses.reassignments_append]
      exact List.forall_mem_append.mpr ⟨honours, later⟩
    · exact inside.honoured final hfinal x once d deeper
  · show (p'.declarations x ++ (Seen.bindings receiver bs' ++ seen).declarations x).length ≤ _
    rw [List.length_append, declares, Declaration.length_filter_inRow, h.names, Parts.binders,
      number, binders, List.count_append]
    exact Nat.add_le_add_left (checked.few x) _
  · show SameBindings final x _
      (p'.declarations x ++ (Seen.bindings receiver bs' ++ seen).declarations x)
    rw [declares]
    exact (SameBindings.inRow (h.row final (hfinal.before next.grows)) _).append
      (checked.sited final hfinal x)

end UpheldBindings

/-- A binding form or a loop with bindings, in a scope of its own. -/
theorem Upholds.bindingForm {receiver : Receiver} {k : Nat} {st : State} {bs : List Binding}
    {parts : List Part} {sites : Unit → State → List Site} {rest : υ}
    {next : Unit → State → Checked υ β} {build : List Binding → υ → ω} {T : υ → Seen}
    {W : ω → Seen} {p : Part} (p' : List Binding → υ → Part)
    (h₁ : ∀ a, (checkBindings receiver bs st.push).result = .ok a →
      UpheldBindings receiver bs k st.push (checkBindings receiver bs st.push).tree
        (checkBindings receiver bs st.push).state)
    (h₂ : ∀ a st, Ready (nextClass k (Parts.bindings bs)) st →
      Upholds [] parts (sites a st) (nextClass k (Parts.bindings bs)) T st (next a st))
    (binders : p.binders k = Binders.ofBindings bs) (number : nextClass k [p] = k)
    (declares : ∀ bs' u x, (p' bs' u).declarations x =
      (Declaration.inRow x ((T u).uses x) ((linking receiver).bindings receiver.isSome bs')).filter
        (Declaration.declares x))
    (same : ∀ bs' u, Seen.Same
      (Seen.enclosed ⟨(Seen.bindings receiver bs' ++ T u).uses,
        p' bs' u :: (Seen.bindings receiver bs' ++ T u).parts⟩)
      (W (build bs' u))) :
    Upholds [] (p :: (Parts.bindings bs ++ parts))
      (Sites.row receiver bs st.push ++ (Sites.bindings receiver bs st.push ++
        (checkBindings receiver bs st.push).onward sites)) k W st
      (Checker.inScope (fun st => (checkBindings receiver bs st).andThen rest next build) st) := by
  refine enclosedSteps (fun a b ha hb => ?_) same
  have row := h₁ a ha
  rw [Edit.onward_of_ok ha]
  exact row.form (h₂ a _ row.ready b hb) binders number (declares _ _)

/-! ## Classes -/

section

variable {k : Nat} {st : State}

/-- A survey binds only the instance. -/
theorem BindsOnly.surveyed (self : Symbol) (ms : List (Node Method)) (fields : List Field) :
    BindsOnly [self] st (surveyMethods self ms (st.beginSurvey self fields)).endSurvey := by
  have hushed : Hushed (st.beginSurvey self fields)
      (surveyMethods self ms (st.beginSurvey self fields)) :=
    hushed_stepClosed.surveyMethods self ms _ rfl
  have scopes := surveyMethods_scopes self ms (st.beginSurvey self fields)
  have bound : BindsOnly [self] st (st.bind (some self) .unknown) := .bind (some self) _
  refine ⟨fun k h => ⟨rfl, hushed.nextClass.trans h.nextClass⟩, ?_, hushed.table ▸ .refl _,
    fun x hx => ?_⟩
  · exact (congrArg Scopes.outer scopes :)
  · exact (congrArg (Scopes.symbol? · x) scopes).trans (bound.symbols x hx)

/-- The second pass over the methods binds the instance and the name of the class. -/
theorem BindsOnly.beginMethods (self : Symbol) (name : Option (Node Ident))
    (found signatures : List Field) (real : st.surveying = false) :
    BindsOnly (self :: Binders.ofOptional name) st
      (st.beginMethods self name found signatures) := by
  have symbol : (name.bind (·.value.symbol)).toList = Binders.ofOptional name := by
    cases name <;> simp [Binders.ofOptional, Binders.ofName]
  have bound : BindsOnly ([] ++ [self] ++ Binders.ofOptional name) st
      (((st.note (.selfTyped self (.object (found ++ signatures)))).bind (some self)
        (.object (found ++ signatures))).bind (name.bind (·.value.symbol))
        (.object (found ++ signatures))) :=
    symbol ▸ ((BindsOnly.note _).trans (.bind (some self) _)).trans (.bind _ _)
  refine ⟨fun k h => h.of_still (.beginMethods self name found signatures real), bound.outer,
    bound.grows, bound.symbols⟩

namespace Upholds

/-- The methods of a class: what the survey binds is bound by the class. -/
theorem checkInstance (self : Symbol) (name : Option (Node Ident)) (declared : List Field)
    {ms : List (Node Method)}
    (hmethods : ∀ found st, Ready k st →
      Upholds (Binders.ofMethods ms) (Parts.methods ms) (Sites.methods self ms st) k
        (Seen.methods (some self)) st (checkMethods self found ms st))
    (ready : Ready k st) :
    Upholds (self :: (Binders.ofOptional name ++ Binders.ofMethods ms)) (Parts.methods ms)
      (Sites.secondPass self name declared ms (Sites.methods self ms) st) k
      (Seen.methods (some self)) st (Checker.checkInstance self name declared ms st) := by
  have surveyed : BindsOnly [self] st _ := .surveyed self ms (Field.merge declared)
  have surveyedReady := surveyed.ready k ready
  unfold Checker.checkInstance Sites.secondPass
  dsimp only
  cases memberSignatures _ _ ms with
  | error f => exact fail
  | ok signatures =>
    refine whenDone ?_ fun _ _ _ => ⟨rfl, .refl⟩
    have begun (found : List Field) := surveyed.trans
      (.beginMethods self name found signatures surveyedReady.real)
    refine mono ?_ (after ready (begun _) (hmethods _ _ ((begun _).ready k ready)))
    intro x hx
    simpa using hx

/-- Leaving a class brings back the survey around it. -/
theorem leaveClass {st₁ : State} {names : List Symbol} {parts : List Part} {sites : List Site}
    {S : τ → Seen} {e : Checked τ α} (real : st.surveying = false)
    (h : Upholds names parts sites k S st₁ e) :
    Upholds names parts sites k S st₁
      (e.mapState fun after => { after with survey := st.survey }) := by
  intro a ha
  have left : BindsOnly [] e.state { e.state with survey := st.survey } :=
    .of_eq (fun _ h => ⟨real, h.nextClass⟩) rfl rfl
  have done := (h a ha).andStep left
  rwa [List.append_nil] at done

/-- The fields of a class, the survey that leaves nothing behind, and the methods of the second
pass. -/
theorem checkMembers {self : Symbol} (name : Option (Node Ident)) {fields : List FieldDecl}
    {ms : List (Node Method)}
    (hfields : Upholds [] (Parts.fieldDecls fields) (Sites.fieldDecls fields st) k
      Seen.fieldDecls st (checkFields fields st))
    (hmethods : ∀ found st, Ready (nextClass k (Parts.fieldDecls fields)) st →
      Upholds (Binders.ofMethods ms) (Parts.methods ms) (Sites.methods self ms st)
        (nextClass k (Parts.fieldDecls fields)) (Seen.methods (some self)) st
        (checkMethods self found ms st)) :
    Upholds (self :: (Binders.ofOptional name ++ Binders.ofMethods ms))
      (Parts.fieldDecls fields ++ Parts.methods ms)
      (Sites.fieldDecls fields st ++ (checkFields fields st).onward fun declared =>
        Sites.secondPass self name declared ms (Sites.methods self ms)) k
      (fun p => Seen.fieldDecls p.1 ++ Seen.methods (some self) p.2) st
      (Checker.checkMembers self name fields ms st) :=
  hfields.andPair fun declared _ ready => checkInstance self name declared hmethods ready

end Upholds

end

end Checker
end StructuralTyping
