import StructuralTyping.Proofs.DiscoveredFields
import StructuralTyping.Proofs.VagueTypes

/-! # What a survey sees of a type

While the methods of a class are surveyed, `self` has no type yet, functions have their signatures
and classes nothing.  So an expression may have another type there than when its method is checked.
Its *grade* says how the two compare: they are the same (`exact`), the first is unknown (`hidden`),
one or the other (`flat`), the first is vaguer (`vague`), or nothing is known (`loose`).

`Grading.expr` computes the grade of an expression from the grades of the symbols in it.  It follows
the rules of the constructs, and has no answer for an expression that asks whether a loose type fits
somewhere.  Types become loose where two of them are compared for equality: two unknown types are
equal, two that the survey does not see need not be, and so a choice between `self.a` and a value of
its type has that type when the method is checked, and is a union while it is surveyed. -/
namespace StructuralTyping

/-- How the type of an expression in a survey compares to its type in the check. -/
inductive Grade where
  | exact
  | hidden
  | flat
  | vague
  | loose
deriving DecidableEq

namespace Grade

/-- The types of an expression of this grade, the one in the survey first. -/
def Relates : Grade → Ty → Ty → Prop
  | .exact, a, b => a = b
  | .hidden, a, _ => a = .unknown
  | .flat, a, b => a = b ∨ a = .unknown
  | .vague, a, b => a.Vaguer b
  | .loose, _, _ => True

/-- Whether the first grade says at least as much as the second. -/
def below : Grade → Grade → Bool
  | _, .loose => true
  | .loose, _ => false
  | _, .vague => true
  | .vague, _ => false
  | _, .flat => true
  | g, h => decide (g = h)

/-- The grade of a type that is asked to fit somewhere. -/
def seen? : Grade → Option Grade
  | .loose => none
  | g => some g

/-- The grade of what is made of two types, and is unknown if one of them is. -/
def join (g h : Grade) : Grade :=
  if g = h ∧ (g = .exact ∨ g = .hidden) then g
  else if g.below .flat && h.below .flat then .flat else .loose

/-- The grade of a conditional; without an alternate it is that of the consequent. -/
def branches (consequent : Grade) : Option Grade → Grade
  | none => consequent
  | some alternate => consequent.join alternate

/-- The grade of an array literal. -/
def array (items : List Grade) : Grade :=
  if items.all (· = .exact) then .exact
  else if items.all (·.below .flat) || items.length = 1 && items.all (·.below .vague) then .vague
  else .loose

/-- The grade of an object literal. -/
def object (values : List Grade) : Grade :=
  if values.all (· = .exact) then .exact
  else if values.all (·.below .vague) then .vague
  else .loose

/-- The grade of an operator with one operand, if a survey that sees the operand cannot fail at it.
-/
def unary (a : Grade) : UnaryOperator → Option Grade
  | .truth => some .exact
  | .typeName => some .exact
  | .step => a.seen?.map fun _ => .exact
  | .negation => a.seen?.map fun _ => .exact

/-- An assignment like `+=` has the type of its target, unless that is unknown. -/
def compound (a b : Grade) : Grade :=
  if a = .exact then if b = .hidden then .flat else b
  else if b = .hidden then a
  else .loose

/-- The grade of an operator with two operands; most ask that both can be seen. -/
def binary (a b : Grade) : BinaryOperator → Option Grade
  | .equality => some .exact
  | .instanceTest => b.seen?.map fun _ => .exact
  | .coalescing => some (a.join b)
  | .compoundAssignment => a.seen?.bind fun _ => b.seen?.map fun _ => a.compound b
  | _ => a.seen?.bind fun _ => b.seen?.map fun _ => .exact

/-- A choice has a union type, or the type of both values if that is the same. -/
def choice (a b : Grade) : Grade := if a = b ∧ (a = .exact ∨ a = .hidden) then a else .loose

/-- The grade of an operator form with these operands. -/
def operator? (name : String) : List Grade → Option (Option Grade)
  | [a] => (UnaryOperator.ofName? name).map a.unary
  | [a, b] => (BinaryOperator.ofName? name).map (a.binary b)
  | [test, a, b] =>
    if name = "ternary" ∨ name = "?:" then some (test.seen?.map fun _ => a.choice b) else none
  | _ => none

/-- The grade of a call that is no operator form; nothing is asked of the arguments of an unknown
function. -/
def application (callee : Grade) (args : List Grade) : Option Grade :=
  if callee = .hidden then some .hidden
  else if args.all (·.below .vague) then callee.seen?
  else none

/-- The grade of a call: that of an operator form, or that of an application. -/
def call (name : Option String) (callee : Grade) (args : List Grade) : Option Grade :=
  match name.bind (operator? · args) with
  | some outcome => outcome
  | none => application callee args

/-- A binding has its annotated type, if there is one, and that of its initial value otherwise. -/
def binding (init : Grade) (declaredAs : Option (Node TypeExpr)) : Option Grade :=
  if declaredAs.isSome then init.seen?.map fun _ => .exact else some init

/-- A function with a declared result has its whole type as its signature. -/
def function (returns : Option (Node TypeExpr)) : Grade :=
  if returns.isSome then .exact else .vague

end Grade

/-! ## Grades and the rules of the constructs -/

namespace Grade

variable {g h : Grade} {a b a' b' u : Ty}

/-- A grade may be exchanged for one that promises less. -/
theorem Relates.of_below (h' : g.below h = true) (rel : g.Relates a b) : h.Relates a b := by
  cases g <;> cases h <;> simp_all [below, Relates, Ty.Vaguer.refl, Ty.Vaguer.unknown]
  rcases rel with rfl | rfl
  · exact .refl _
  · exact .unknown _

/-- A type that can be seen is vaguer in the survey, or the same. -/
theorem Relates.vaguer (seen : g.below .vague = true) (rel : g.Relates a b) : a.Vaguer b :=
  rel.of_below seen

theorem seen?_eq_some : g.seen? = some h ↔ g = h ∧ g.below .vague = true := by
  cases g <;> simp [seen?, below, eq_comm]

/-- Widening keeps the relation. -/
theorem Relates.widen (rel : g.Relates a b) : g.Relates a.widen b.widen := by
  cases g with
  | exact => exact congrArg Ty.widen rel
  | hidden => exact congrArg Ty.widen rel
  | flat => exact rel.imp (congrArg Ty.widen) (congrArg Ty.widen)
  | vague => exact Ty.Vaguer.widen rel
  | loose => trivial

/-- A rule that takes unknown to unknown and vaguer types to vaguer types keeps every grade. -/
theorem Relates.through (rule : Ty → Except Failure Ty) (unknown : rule .unknown = .ok .unknown)
    (vaguer : ∀ {a b u}, a.Vaguer b → rule b = .ok u → ∃ t, rule a = .ok t ∧ t.Vaguer u)
    (seen : g.below .vague = true) (rel : g.Relates a b) (ok : rule b = .ok u) :
    ∃ t, rule a = .ok t ∧ g.Relates t u := by
  cases g with
  | exact => exact ⟨u, rel ▸ ok, rfl⟩
  | hidden => exact ⟨.unknown, rel ▸ unknown, rfl⟩
  | flat =>
    rcases rel with rfl | rfl
    · exact ⟨u, ok, .inl rfl⟩
    · exact ⟨.unknown, unknown, .inr rfl⟩
  | vague => exact vaguer rel ok
  | loose => nomatch seen

/-- An element is related as its array is. -/
theorem Relates.index {baseSpan positionSpan : Span} {i j : Ty} (seen : g.below .vague = true)
    (rel : g.Relates a b) (position : i.Vaguer j)
    (ok : Rule.index baseSpan positionSpan b j = .ok u) :
    ∃ t, Rule.index baseSpan positionSpan a i = .ok t ∧ g.Relates t u := by
  unfold Rule.index at ok
  split at ok
  · rename_i numeric
    have numeric : i.isNumeric = true := position.assignableTo numeric
    have moved : Rule.index baseSpan positionSpan b i = .ok u := by
      unfold Rule.index
      rwa [if_pos numeric]
    exact rel.through (Rule.index baseSpan positionSpan · i) (if_pos numeric) Ty.Vaguer.element seen
      moved
  · nomatch ok

/-- A value fits the target of an assignment in the survey if it does in the check.  A target of
unknown type takes every value. -/
theorem Relates.accepts (rel : g.Relates a b) (rel' : h.Relates a' b')
    (seen : (g = .hidden || g.below .vague && h.below .vague) = true)
    (fits : b'.assignable b = true) : a'.assignable a = true := by
  rcases Bool.or_eq_true_iff.1 seen with hidden | both
  · obtain rfl : g = .hidden := of_decide_eq_true hidden
    rw [show a = .unknown from rel]
    exact Ty.assignable_unknown a'
  · obtain ⟨hg, hh⟩ := Bool.and_eq_true_iff.1 both
    exact (rel'.vaguer hh).assignable (rel.vaguer hg) fits

/-- What is made of two types, and is unknown if one of them is. -/
theorem Relates.join (make : Ty → Ty → Ty) (left : ∀ t, make .unknown t = .unknown)
    (right : ∀ t, make t .unknown = .unknown) (rel : g.Relates a b) (rel' : h.Relates a' b') :
    (g.join h).Relates (make a a') (make b b') := by
  unfold Grade.join
  split
  · rename_i same
    obtain ⟨rfl, rfl | rfl⟩ := same
    · obtain rfl : a = b := rel
      obtain rfl : a' = b' := rel'
      rfl
    · obtain rfl : a = .unknown := rel
      exact left a'
  · split
    · rename_i below
      obtain ⟨hg, hh⟩ := Bool.and_eq_true_iff.1 below
      rcases rel.of_below hg with rfl | rfl
      · rcases rel'.of_below hh with rfl | rfl
        · exact .inl rfl
        · exact .inr (right a)
      · exact .inr (left a')
    · trivial

/-! ### Lists of types -/

/-- Two lists whose entries are related one by one, each according to its grade. -/
inductive Aligned {α : Type} (R : Grade → α → α → Prop) : List Grade → List α → List α → Prop
  | nil : Aligned R [] [] []
  | cons {g : Grade} {x y : α} {gs : List Grade} {xs ys : List α} (head : R g x y)
      (tail : Aligned R gs xs ys) : Aligned R (g :: gs) (x :: xs) (y :: ys)

namespace Aligned

variable {α β : Type} {R : Grade → α → α → Prop} {S : Grade → β → β → Prop} {gs : List Grade}

theorem map {xs ys : List α} {f : α → β} (h : Aligned R gs xs ys)
    (each : ∀ {g x y}, R g x y → S g (f x) (f y)) : Aligned S gs (xs.map f) (ys.map f) := by
  induction h with
  | nil => exact .nil
  | cons head _ ih => exact .cons (each head) ih

/-- What follows from each of the grades holds entry by entry. -/
theorem forall₂ {P : Grade → Prop} {Q : α → α → Prop} {xs ys : List α} (h : Aligned R gs xs ys)
    (all : ∀ g ∈ gs, P g) (each : ∀ {g x y}, P g → R g x y → Q x y) : List.Forall₂ Q xs ys := by
  induction h with
  | nil => exact .nil
  | cons head _ ih =>
    obtain ⟨hg, rest⟩ := List.forall_mem_cons.1 all
    exact .cons (each hg head) (ih rest)

/-- Where all grades are exact, the two lists are the same. -/
theorem eq_of_exact {xs ys : List α} (h : Aligned R gs xs ys)
    (exact : gs.all (· = .exact) = true) (same : ∀ {x y}, R .exact x y → x = y) : xs = ys := by
  have each : List.Forall₂ Eq xs ys :=
    h.forall₂ (fun g hg => of_decide_eq_true (List.all_eq_true.1 exact g hg))
      (by rintro _ x y rfl rel; exact same rel)
  rwa [List.forall₂_eq_eq_eq] at each

/-- Where all grades are flat, the two lists are the same or one entry is unknown. -/
theorem eq_or_unknown_mem {xs ys : List Ty} (h : Aligned Relates gs xs ys)
    (flat : ∀ g ∈ gs, g.below .flat = true) : xs = ys ∨ .unknown ∈ xs := by
  induction h with
  | nil => exact .inl rfl
  | cons head _ ih =>
    obtain ⟨hg, rest⟩ := List.forall_mem_cons.1 flat
    rcases Relates.of_below hg head with rfl | rfl
    · exact (ih rest).imp (fun same => by rw [same]) (List.mem_cons_of_mem _)
    · exact .inr List.mem_cons_self

end Aligned

theorem common?_getD_of_unknown_mem {ts : List Ty} (h : .unknown ∈ ts) :
    (Ty.common? ts).getD .unknown = .unknown := by
  cases common : Ty.common? ts with
  | none => rfl
  | some t => exact ((Ty.common?_eq_some_iff.1 common).2 _ h).symm

/-- An array literal is related as the grade of its items says. -/
theorem Relates.array {gs : List Grade} {as bs : List Ty} (rel : Aligned Relates gs as bs) :
    (Grade.array gs).Relates (Rule.array as) (Rule.array bs) := by
  unfold Grade.array
  split
  · rename_i exact
    exact congrArg Rule.array (rel.eq_of_exact exact id)
  split
  · rename_i seen
    have widened : Aligned Relates gs (as.map Ty.widen) (bs.map Ty.widen) := rel.map .widen
    -- flat items are the same or one is unknown; a single item is the type of all items
    rcases Bool.or_eq_true_iff.1 seen with flat | single
    · rcases widened.eq_or_unknown_mem (List.all_eq_true.1 flat) with same | unknown
      · rw [Rule.array, same, Rule.array]
        exact .refl _
      · rw [Rule.array, common?_getD_of_unknown_mem unknown]
        exact Ty.Vaguer.array (.unknown _)
    · obtain ⟨length, all⟩ := Bool.and_eq_true_iff.1 single
      cases rel with
      | nil => nomatch length
      | cons head tail =>
        cases tail with
        | nil =>
          have seen := List.all_eq_true.1 all _ List.mem_cons_self
          exact Ty.Vaguer.array (head.vaguer seen).widen
        | cons => simp at length
  · trivial

/-! ### Object literals -/

/-- Entries of one name, with related types. -/
def RelatesField (g : Grade) (e f : Field) : Prop := e.name = f.name ∧ g.Relates e.ty f.ty

/-- Fields of the same names with vaguer types, one by one. -/
def VagueFields (es fs : List Field) : Prop :=
  List.Forall₂ (fun e f => e.name = f.name ∧ e.ty.Vaguer f.ty) es fs

namespace VagueFields

variable {es fs : List Field}

/-- A vaguer field in the same place. -/
theorem put {name : String} (h : VagueFields es fs) (hty : a.Vaguer b) :
    VagueFields (Field.put name a es) (Field.put name b fs) := by
  induction h with
  | nil => exact .cons ⟨rfl, hty⟩ .nil
  | @cons e f es fs head tail ih =>
    unfold Field.put
    rw [head.1]
    split
    · exact .cons ⟨rfl, hty⟩ tail
    · exact .cons head ih

/-- Merging keeps the relation between fields. -/
theorem merge (h : VagueFields es fs) : VagueFields (Field.merge es) (Field.merge fs) := by
  have step (done done' : List Field) (start : VagueFields done done') :
      VagueFields (es.foldl (fun fields e => Field.put e.name e.ty fields) done)
        (fs.foldl (fun fields e => Field.put e.name e.ty fields) done') := by
    induction h generalizing done done' with
    | nil => exact start
    | cons head _ ih =>
      refine ih _ _ ?_
      dsimp only
      rw [head.1]
      exact start.put head.2
  exact step [] [] .nil

theorem names (h : VagueFields es fs) : es.map Field.name = fs.map Field.name := by
  induction h with
  | nil => rfl
  | cons head _ ih => rw [List.map_cons, List.map_cons, head.1, ih]

theorem lookup (h : VagueFields es fs) (name : String) (t w : Ty)
    (ht : Field.lookup name es = some t) (hw : Field.lookup name fs = some w) : t.Vaguer w := by
  induction h with
  | nil => nomatch ht
  | @cons e f es fs head _ ih =>
    rw [Field.lookup_cons] at ht hw
    rw [head.1] at ht
    split at ht
    · rename_i same
      rw [if_pos same] at hw
      rw [← Option.some.inj ht, ← Option.some.inj hw]
      exact head.2
    · rename_i other
      rw [if_neg other] at hw
      exact ih ht hw

end VagueFields

/-- An object literal is related as the grade of its values says. -/
theorem Relates.object {gs : List Grade} {es fs : List Field}
    (rel : Aligned RelatesField gs es fs) :
    (Grade.object gs).Relates (.object (Field.merge es)) (.object (Field.merge fs)) := by
  unfold Grade.object
  split
  · rename_i exact
    have same : es = fs := rel.eq_of_exact exact fun {e f} ⟨hname, hty⟩ => by
      cases e
      cases f
      cases hname
      cases hty
      rfl
    rw [same]
    rfl
  split
  · rename_i seen
    have fields : VagueFields es fs :=
      rel.forall₂ (List.all_eq_true.1 seen) fun hg head => ⟨head.1, head.2.vaguer hg⟩
    exact Ty.Vaguer.object fields.merge.names (Field.nodup_merge fs) fields.merge.lookup
  · trivial

end Grade

/-! ### Calls -/

namespace OperatorForm

variable {name : String} {x y : Operand} {expected u : Ty}

theorem require_ok {position : Nat} :
    require name position expected x = .ok () ↔ x.ty.assignable expected = true := by
  unfold require Failure.unless
  split <;> simp_all

theorem requireBoth_ok :
    requireBoth name expected x y = .ok () ↔
      x.ty.assignable expected = true ∧ y.ty.assignable expected = true := by
  constructor
  · intro ok
    obtain ⟨_, first, second⟩ := exists_of_bind_eq_ok ok
    exact ⟨require_ok.1 first, require_ok.1 second⟩
  · rintro ⟨first, second⟩
    rw [requireBoth, require_ok.2 first]
    exact require_ok.2 second

/-- What a step operator asks for. -/
theorem step_ok : unaryTy name x .step = .ok u ↔
    x.isTarget = true ∧ x.ty.assignable .number = true ∧ u = .number := by
  constructor
  · intro ok
    obtain ⟨_, target, ok⟩ := exists_of_bind_eq_ok ok
    obtain ⟨_, fits, ok⟩ := exists_of_bind_eq_ok ok
    refine ⟨?_, require_ok.1 fits, (Except.ok.inj ok).symm⟩
    unfold Failure.unless at target
    split at target
    · assumption
    · nomatch target
  · rintro ⟨target, fits, rfl⟩
    rw [unaryTy, target, require_ok.2 fits]
    rfl

theorem negation_ok : unaryTy name x .negation = .ok u ↔
    x.ty.assignable .boolean = true ∧ u = .boolean := by
  constructor
  · intro ok
    obtain ⟨_, fits, ok⟩ := exists_of_bind_eq_ok ok
    exact ⟨require_ok.1 fits, (Except.ok.inj ok).symm⟩
  · rintro ⟨fits, rfl⟩
    rw [unaryTy, require_ok.2 fits]
    rfl

end OperatorForm

namespace Grade

variable {g h k : Grade} {name : String} {u : Ty}

/-- Operands that may be assigned to alike, with related types. -/
def RelatesOperand (g : Grade) (x y : Operand) : Prop :=
  x.isTarget = y.isTarget ∧ g.Relates x.ty y.ty

/-- An operand that can be seen fits wherever it does in the check. -/
theorem RelatesOperand.assignable {x y : Operand} {expected : Ty} (rel : g.RelatesOperand x y)
    (seen : g.below .vague = true) (fits : y.ty.assignable expected = true) :
    x.ty.assignable expected = true :=
  (rel.2.vaguer seen).assignableTo fits

/-- If an operator accepts its operand in the check, it does in the survey. -/
theorem RelatesOperand.unary {x y : Operand} (rel : g.RelatesOperand x y) {op : UnaryOperator}
    (graded : g.unary op = some k) (ok : OperatorForm.unaryTy name y op = .ok u) :
    ∃ t, OperatorForm.unaryTy name x op = .ok t ∧ k.Relates t u := by
  cases op with
  | truth =>
    cases graded
    exact ⟨u, ok, rfl⟩
  | typeName =>
    cases graded
    exact ⟨u, ok, rfl⟩
  | step =>
    obtain ⟨_, seen, rfl⟩ := Option.map_eq_some_iff.1 graded
    obtain ⟨target, fits, rfl⟩ := OperatorForm.step_ok.1 ok
    have fits := rel.assignable (seen?_eq_some.1 seen).2 fits
    exact ⟨.number, OperatorForm.step_ok.2 ⟨rel.1.trans target, fits, rfl⟩, rfl⟩
  | negation =>
    obtain ⟨_, seen, rfl⟩ := Option.map_eq_some_iff.1 graded
    obtain ⟨fits, rfl⟩ := OperatorForm.negation_ok.1 ok
    have fits := rel.assignable (seen?_eq_some.1 seen).2 fits
    exact ⟨.boolean, OperatorForm.negation_ok.2 ⟨fits, rfl⟩, rfl⟩

/-- A rule that asks both operands to fit a type and has a result of its own. -/
theorem RelatesOperand.both {x y x' y' : Operand} {expected result : Ty}
    (rel : g.RelatesOperand x y) (rel' : h.RelatesOperand x' y')
    (graded : (g.seen?.bind fun _ => h.seen?.map fun _ => Grade.exact) = some k)
    (ok : (OperatorForm.requireBoth name expected y y').bind (fun _ => .ok result) = .ok u) :
    ∃ t, (OperatorForm.requireBoth name expected x x').bind (fun _ => .ok result) = .ok t ∧
      k.Relates t u := by
  obtain ⟨_, seen, graded⟩ := Option.bind_eq_some_iff.1 graded
  obtain ⟨_, seen', rfl⟩ := Option.map_eq_some_iff.1 graded
  obtain ⟨_, fits, ok⟩ := exists_of_bind_eq_ok ok
  obtain ⟨fits, fits'⟩ := OperatorForm.requireBoth_ok.1 fits
  have both : OperatorForm.requireBoth name expected x x' = .ok () :=
    OperatorForm.requireBoth_ok.2 ⟨rel.assignable (seen?_eq_some.1 seen).2 fits,
      rel'.assignable (seen?_eq_some.1 seen').2 fits'⟩
  rw [both]
  exact ⟨result, rfl, Except.ok.inj ok⟩

theorem coalesce_unknown (t : Ty) : t.coalesce .unknown = .unknown := by
  unfold Ty.coalesce
  split
  · rfl
  · rw [if_pos (.inr rfl)]

/-- The type that an assignment like `+=` has when it succeeds. -/
def compoundTy (a b : Ty) : Ty := if a = .unknown then b else a

theorem Relates.unknown (other : g ≠ .exact) (b : Ty) : g.Relates .unknown b := by
  cases g with
  | exact => exact absurd rfl other
  | hidden => rfl
  | flat => exact .inr rfl
  | vague => exact Ty.Vaguer.unknown b
  | loose => trivial

/-- What an assignment like `+=` asks for. -/
theorem compoundAssignment_ok {x y : Operand} :
    OperatorForm.binaryTy name x y .compoundAssignment = .ok u ↔
      y.ty.assignable x.ty = true ∧ u = compoundTy x.ty y.ty := by
  unfold compoundTy
  by_cases unknown : x.ty = .unknown
  · simp [OperatorForm.binaryTy, unknown, eq_comm]
  · simp only [OperatorForm.binaryTy, unknown, if_false]
    constructor
    · intro ok
      obtain ⟨_, fits, ok⟩ := exists_of_bind_eq_ok ok
      exact ⟨Failure.assignable_of_unlessAssignable fits, (Except.ok.inj ok).symm⟩
    · rintro ⟨fits, rfl⟩
      simp [Failure.unlessAssignable, Failure.unless, fits, bind, Except.bind]

theorem exact_below (other : h ≠ .hidden) : Grade.exact.below h = true := by
  cases h with
  | hidden => exact absurd rfl other
  | _ => rfl

/-- The type of such an assignment is related as its grade says. -/
theorem Relates.compound {a b a' b' : Ty} (seen : g.below .vague = true) (rel : g.Relates a b)
    (rel' : h.Relates a' b') :
    (g.compound h).Relates (compoundTy a a') (compoundTy b b') := by
  unfold Grade.compound
  split
  · rename_i exact
    subst exact
    obtain rfl : a = b := rel
    unfold compoundTy
    -- a target of unknown type takes the type of the value, in both passes
    by_cases unknown : a = .unknown
    · rw [if_pos unknown, if_pos unknown]
      split
      · rename_i hidden
        subst hidden
        exact .inr rel'
      · exact rel'
    · rw [if_neg unknown, if_neg unknown]
      split
      · exact .inl rfl
      · rename_i other
        exact Relates.of_below (exact_below other) rfl
  rename_i other
  split
  · rename_i hidden
    subst hidden
    obtain rfl : a' = .unknown := rel'
    have first : compoundTy a .unknown = a := by
      unfold compoundTy
      split <;> simp_all
    rw [first]
    by_cases unknown : b = .unknown
    · -- the target is unknown in the survey too, and so is the whole
      subst unknown
      obtain rfl := (rel.vaguer seen).eq_unknown
      exact .unknown other _
    · rwa [compoundTy, if_neg unknown]
  · trivial

/-- If an operator accepts two operands in the check, it does in the survey. -/
theorem RelatesOperand.binary {x y x' y' : Operand} (rel : g.RelatesOperand x y)
    (rel' : h.RelatesOperand x' y') {op : BinaryOperator} (graded : g.binary h op = some k)
    (ok : OperatorForm.binaryTy name y y' op = .ok u) :
    ∃ t, OperatorForm.binaryTy name x x' op = .ok t ∧ k.Relates t u := by
  cases op with
  | comparison => exact rel.both rel' graded ok
  | logical => exact rel.both rel' graded ok
  | bitwise => exact rel.both rel' graded ok
  | equality =>
    cases graded
    exact ⟨u, ok, rfl⟩
  | instanceTest =>
    obtain ⟨_, seen, rfl⟩ := Option.map_eq_some_iff.1 graded
    exact ⟨u, (rel'.2.vaguer (seen?_eq_some.1 seen).2).instanceTest ok, rfl⟩
  | coalescing =>
    cases graded
    obtain rfl := Except.ok.inj ok
    exact ⟨_, rfl, rel.2.join Ty.coalesce (fun _ => rfl) coalesce_unknown rel'.2⟩
  | compoundAssignment =>
    obtain ⟨_, seen, graded⟩ := Option.bind_eq_some_iff.1 graded
    obtain ⟨_, seen', rfl⟩ := Option.map_eq_some_iff.1 graded
    obtain ⟨fits, rfl⟩ := compoundAssignment_ok.1 ok
    have seen := (seen?_eq_some.1 seen).2
    have fits := (rel'.2.vaguer (seen?_eq_some.1 seen').2).assignable (rel.2.vaguer seen) fits
    exact ⟨_, compoundAssignment_ok.2 ⟨fits, rfl⟩, rel.2.compound seen rel'.2⟩

/-- A choice is related as its grade says. -/
theorem Relates.choice {a b a' b' : Ty} (rel : g.Relates a b) (rel' : h.Relates a' b') :
    (g.choice h).Relates (.unionOf [a, a']) (.unionOf [b, b']) := by
  unfold Grade.choice
  split
  · rename_i same
    obtain ⟨rfl, rfl | rfl⟩ := same
    · rw [show a = b from rel, show a' = b' from rel']
      rfl
    · rw [show a = .unknown from rel, show a' = .unknown from rel']
      rfl
  · trivial

theorem RelatesOperand.choice {test x y test' x' y' : Operand} {gt : Grade}
    (tested : gt.RelatesOperand test test') (rel : g.RelatesOperand x x')
    (rel' : h.RelatesOperand y y') (graded : (gt.seen?.map fun _ => g.choice h) = some k)
    (ok : (OperatorForm.choice test' x' y').ty name = .ok u) :
    ∃ t, (OperatorForm.choice test x y).ty name = .ok t ∧ k.Relates t u := by
  obtain ⟨_, seen, rfl⟩ := Option.map_eq_some_iff.1 graded
  rw [OperatorForm.ty] at ok ⊢
  split at ok
  · rename_i boolean
    obtain rfl := Except.ok.inj ok
    have boolean : test.ty.isBoolean = true :=
      tested.assignable (seen?_eq_some.1 seen).2 boolean
    rw [if_pos boolean]
    exact ⟨_, rfl, rel.2.choice rel'.2⟩
  · nomatch ok

/-- Operands that are related make the same operator form, or none. -/
theorem Aligned.operator {gs : List Grade} {xs ys : List Operand}
    (rel : Aligned RelatesOperand gs xs ys) (name : String) :
    (operator? name gs = none ∧ OperatorForm.of? name xs = none ∧ OperatorForm.of? name ys = none) ∨
    ∃ outcome form form', operator? name gs = some outcome ∧
      OperatorForm.of? name xs = some form ∧ OperatorForm.of? name ys = some form' ∧
      ∀ k u, outcome = some k → form'.ty name = .ok u →
        ∃ t, form.ty name = .ok t ∧ k.Relates t u := by
  match rel with
  | .nil => exact .inl ⟨rfl, rfl, rfl⟩
  | .cons a .nil =>
    simp only [operator?, OperatorForm.of?]
    cases UnaryOperator.ofName? name with
    | none => exact .inl ⟨rfl, rfl, rfl⟩
    | some op => exact .inr ⟨_, _, _, rfl, rfl, rfl, fun _ _ graded ok => a.unary graded ok⟩
  | .cons a (.cons b .nil) =>
    simp only [operator?, OperatorForm.of?]
    cases BinaryOperator.ofName? name with
    | none => exact .inl ⟨rfl, rfl, rfl⟩
    | some op => exact .inr ⟨_, _, _, rfl, rfl, rfl, fun _ _ graded ok => a.binary b graded ok⟩
  | .cons test (.cons a (.cons b .nil)) =>
    by_cases ternary : name = "ternary" ∨ name = "?:"
    · exact .inr ⟨_, _, _, if_pos ternary, if_pos ternary, if_pos ternary,
        fun _ _ graded ok => test.choice a b graded ok⟩
    · exact .inl ⟨if_neg ternary, if_neg ternary, if_neg ternary⟩
  | .cons _ (.cons _ (.cons _ (.cons _ _))) => exact .inl ⟨rfl, rfl, rfl⟩

/-- If arguments are accepted in the check, they are in the survey. -/
theorem Aligned.arguments {gs : List Grade} {xs ys : List Operand}
    (rel : Aligned RelatesOperand gs xs ys) (seen : ∀ g ∈ gs, g.below .vague = true)
    (position : Nat) (params : List Ty) (ok : Rule.arguments position params ys = .ok ()) :
    Rule.arguments position params xs = .ok () := by
  induction rel generalizing position params with
  | nil => exact ok
  | cons head _ ih =>
    obtain ⟨hg, rest⟩ := List.forall_mem_cons.1 seen
    cases params with
    | nil => rfl
    | cons p ps =>
      rw [Rule.arguments] at ok ⊢
      split at ok
      · rename_i fits
        rw [if_pos (head.assignable hg fits)]
        exact ih rest _ _ ok
      · cases ok

theorem Aligned.length {α : Type} {R : Grade → α → α → Prop} {gs : List Grade} {xs ys : List α}
    (rel : Aligned R gs xs ys) : xs.length = ys.length := by
  induction rel with
  | nil => rfl
  | cons _ _ ih => rw [List.length_cons, List.length_cons, ih]

/-- If an application is accepted in the check, it is in the survey. -/
theorem Relates.application {span calleeSpan : Span} {f f' : Ty} {gs : List Grade}
    {xs ys : List Operand} (callee : g.Relates f f') (rel : Aligned RelatesOperand gs xs ys)
    (graded : Grade.application g gs = some k)
    (ok : Rule.application span calleeSpan f' ys = .ok u) :
    ∃ t, Rule.application span calleeSpan f xs = .ok t ∧ k.Relates t u := by
  unfold Grade.application at graded
  split at graded
  · rename_i hidden
    subst hidden
    cases graded
    rw [show f = .unknown from callee]
    exact ⟨.unknown, rfl, rfl⟩
  split at graded
  · rename_i args
    obtain ⟨rfl, seen⟩ := seen?_eq_some.1 graded
    -- the arguments of the survey fit the parameters of the check, then the function gets vaguer
    have ok : Rule.application span calleeSpan f' xs = .ok u := by
      unfold Rule.application at ok ⊢
      split at ok
      · rw [rel.length]
        split at ok
        · rename_i arity
          obtain ⟨_, fits, result⟩ := exists_of_map_eq_ok ok
          rw [if_pos arity, rel.arguments (List.all_eq_true.1 args) 1 _ fits, ← result]
          rfl
        · nomatch ok
      · exact ok
      · nomatch ok
    exact callee.through (Rule.application span calleeSpan · xs) rfl Ty.Vaguer.application seen ok
  · nomatch graded

theorem Aligned.operands {gs : List Grade} {as bs : List Ty} (rel : Aligned Relates gs as bs)
    (args : List (Node Expr)) (length : args.length = gs.length) :
    Aligned RelatesOperand gs (args.zipWith (fun e t => ⟨e.span, e.value.isTarget, t⟩) as)
      (args.zipWith (fun e t => ⟨e.span, e.value.isTarget, t⟩) bs) := by
  induction rel generalizing args with
  | nil =>
    obtain rfl := List.length_eq_zero_iff.1 length
    exact .nil
  | cons head _ ih =>
    cases args with
    | nil => nomatch length
    | cons e rest => exact .cons ⟨rfl, head⟩ (ih rest (Nat.succ.inj length))

/-- If a call is accepted in the check, it is in the survey. -/
theorem Relates.call {span : Span} {callee : Node Expr} {args : List (Node Expr)} {f f' : Ty}
    {gs : List Grade} {as bs : List Ty} (function : g.Relates f f')
    (rel : Aligned Relates gs as bs) (length : args.length = gs.length)
    (graded : Grade.call callee.value.name? g gs = some k)
    (ok : Rule.call span callee args f' bs = .ok u) :
    ∃ t, Rule.call span callee args f as = .ok t ∧ k.Relates t u := by
  have operands := rel.operands args length
  unfold Grade.call at graded
  unfold Rule.call at ok ⊢
  cases called : callee.value.name? with
  | none =>
    rw [called] at graded ok
    exact function.application operands graded ok
  | some name =>
    rw [called] at graded ok
    simp only [Option.bind_some] at graded ok ⊢
    rcases operands.operator name with ⟨none, first, second⟩ | ⟨_, _, _, some, first, second, each⟩
    · rw [none] at graded
      rw [second] at ok
      rw [first]
      exact function.application operands graded ok
    · rw [some] at graded
      rw [second] at ok
      rw [first]
      exact each _ _ graded ok

end Grade
end StructuralTyping
