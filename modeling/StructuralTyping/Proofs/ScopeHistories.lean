import Mathlib.Data.List.Induction
import StructuralTyping.Proofs.ScopeDiscipline

/-! # Scopes and their history

What a name stands for is found by going through the open scopes from the inside out.  Here the
scopes are compared with the list of all that was done to them since they were new.

A type that was set in a scope is discarded when the scope is closed.  Which operation that is can
be read off the history: the scope was opened by the `push` that has only balanced operations
between it and the `set`, and it is closed by the `pop` that has only balanced operations between
the `set` and it (`ScopeEnds`).  Outside of all scopes that were opened nothing is discarded, and
aliases never are.  A lookup answers with the last type set that is not discarded (`Stands`),
whatever was done before (`Scopes.lookups_of_history`).

`Scopes` has one list of scopes, each with its symbols and its type parameters.  The same history
can be gone through with two stacks, of which neither knows the height of the other (`Stacks`): they
are only ever closed together, and only while the stack of symbols has more than one scope.  The two
stacks are at all times what `Scopes` has (`Scopes.toStacks_perform`), so their heights stay the
same.

The proof goes along the history.  A `pop` either closes nothing, or it ends a balanced part that
began with a `push`, and then the scopes are those from before this part: `history_induction` has
a case for each.
-/
namespace StructuralTyping
namespace Scopes

/-! ## Operations -/

/-- What can be set and looked up. -/
inductive Key where
  | symbol (x : Symbol)
  | typeParam (name : String)
  | typeAlias (name : String)
deriving DecidableEq

/-- Whether what is set for the key ends with the scope that it is set in. -/
def Key.isScoped : Key → Bool
  | .typeAlias _ => false
  | _ => true

/-- What can be done with scopes. -/
inductive Op where
  | push
  | pop
  | set (k : Key) (t : Ty)
  | lookup (k : Key)

/-- Gives a key a type, in the innermost scope if the key is scoped. -/
def set (s : Scopes) : Key → Ty → Scopes
  | .symbol x, t => s.bind x t
  | .typeParam name, t => s.bindTypeParam name t
  | .typeAlias name, t => s.defineAlias name t

/-- What a key stands for. -/
def lookup (s : Scopes) : Key → Option Ty
  | .symbol x => s.symbol? x
  | .typeParam name => s.typeParam? name
  | .typeAlias name => s.alias? name

/-- The scopes after an operation. -/
def perform (s : Scopes) : Op → Scopes
  | .push => s.push
  | .pop => s.pop
  | .set k t => s.set k t
  | .lookup _ => s

/-- The scopes after a history that begins with new ones. -/
def after (history : List Op) : Scopes := history.foldl perform {}

/-- The key that an operation looks up. -/
def Op.asked : Op → Option Key
  | .lookup k => some k
  | _ => none

/-- What the lookups among the operations answer, in order. -/
def answers (s : Scopes) : List Op → List (Option Ty)
  | [] => []
  | op :: rest => (op.asked.map s.lookup).toList ++ answers (s.perform op) rest

/-- How many of the operations are lookups. -/
def lookups (ops : List Op) : Nat := ops.countP fun op => op.asked.isSome

/-- How an operation changes a number of scopes; the last one stays open. -/
def Op.count : Nat → Op → Nat
  | n, .push => n + 1
  | n, .pop => max 1 (n - 1)
  | n, _ => n

/-- How many scopes a history leaves open. -/
def height (history : List Op) : Nat := history.foldl Op.count 1

/-- The last operation is performed in the state that the others reach. -/
theorem after_concat (history : List Op) (op : Op) :
    after (history ++ [op]) = (after history).perform op := by
  simp [after]

/-- The lookups of a second run are answered in the state that the first reaches. -/
theorem answers_append (s : Scopes) (ops rest : List Op) :
    s.answers (ops ++ rest) = s.answers ops ++ (ops.foldl perform s).answers rest := by
  induction ops generalizing s with
  | nil => rfl
  | cons op ops ih => simp [answers, ih]

/-- Every lookup is answered, and nothing else is. -/
theorem length_answers (s : Scopes) (ops : List Op) : (s.answers ops).length = lookups ops := by
  unfold lookups
  induction ops generalizing s with
  | nil => rfl
  | cons op ops ih => cases op <;> simp [answers, Op.asked, ih, Nat.add_comm]

/-- A lookup answers with what is found at its time. -/
theorem answers_lookup (before : List Op) (k : Key) (rest : List Op) :
    (answers {} (before ++ .lookup k :: rest))[lookups before]? =
      some ((after before).lookup k) := by
  rw [answers_append, ← length_answers {} before, List.getElem?_append_right (Nat.le_refl _)]
  simp [answers, Op.asked, after]

/-- An operation changes the number of frames as it is counted. -/
theorem depth_perform (s : Scopes) (op : Op) : (s.perform op).depth = Op.count s.depth op := by
  cases op with
  | push => rfl
  | pop => cases h : s.outer <;> simp [perform, pop, depth, frames, h, Op.count]
  | set k t => cases k <;> rfl
  | lookup k => rfl

/-- The number of frames is the height of the history. -/
theorem depth_after (history : List Op) : (after history).depth = height history := by
  induction history using List.reverseRecOn with
  | nil => rfl
  | append_singleton history op ih =>
    rw [after_concat, depth_perform, ih, height, height, List.foldl_append]
    rfl

/-! ## Two stacks -/

/-- Scopes of symbols on one stack and scopes of type parameters on another, innermost first, and
the aliases.  Nothing in here makes the stacks of one height, or keeps them from being empty. -/
structure Stacks where
  symbols : List (List (Symbol × Ty)) := [[]]
  typeParams : List (List (String × Ty)) := [[]]
  aliases : List (String × Ty) := []

namespace Stacks

/-- Adds an entry to the innermost scope, if there is one. -/
def addInnermost {α : Type} (entry : α) : List (List α) → List (List α)
  | [] => []
  | scope :: rest => (entry :: scope) :: rest

/-- Opens a scope on both stacks. -/
def push (s : Stacks) : Stacks :=
  { s with symbols := [] :: s.symbols, typeParams := [] :: s.typeParams }

/-- Closes the innermost scope on both stacks, while there is more than one scope of symbols. -/
def pop (s : Stacks) : Stacks :=
  if 1 < s.symbols.length then
    { s with symbols := s.symbols.tail, typeParams := s.typeParams.tail }
  else s

/-- Gives a key a type: symbols and type parameters each on their own stack. -/
def set (s : Stacks) : Key → Ty → Stacks
  | .symbol x, t => { s with symbols := addInnermost (x, t) s.symbols }
  | .typeParam name, t => { s with typeParams := addInnermost (name, t) s.typeParams }
  | .typeAlias name, t => { s with aliases := (name, t) :: s.aliases }

/-- What a key stands for: the innermost scope that has it counts. -/
def lookup (s : Stacks) : Key → Option Ty
  | .symbol x => s.symbols.findSome? fun scope => scope.lookup x
  | .typeParam name => s.typeParams.findSome? fun scope => scope.lookup name
  | .typeAlias name => s.aliases.lookup name

/-- The stacks after an operation. -/
def perform (s : Stacks) : Op → Stacks
  | .push => s.push
  | .pop => s.pop
  | .set k t => s.set k t
  | .lookup _ => s

/-- The stacks after a history that begins with one empty scope on each. -/
def after (history : List Op) : Stacks := history.foldl perform {}

/-- What the lookups among the operations answer, in order. -/
def answers (s : Stacks) : List Op → List (Option Ty)
  | [] => []
  | op :: rest => (op.asked.map s.lookup).toList ++ answers (s.perform op) rest

end Stacks

/-- The symbols and the type parameters of the open scopes, each on a stack. -/
def toStacks (s : Scopes) : Stacks where
  symbols := s.frames.map Frame.symbols
  typeParams := s.frames.map Frame.typeParams
  aliases := s.aliases

/-- An operation does the same to the two stacks as to the scopes.  For a `pop` this is the guard on
the height: it is met exactly if there is a scope around the innermost one. -/
theorem toStacks_perform (s : Scopes) (op : Op) :
    s.toStacks.perform op = (s.perform op).toStacks := by
  cases op with
  | push => rfl
  | pop =>
    show s.toStacks.pop = s.pop.toStacks
    obtain ⟨inner, outer, aliases⟩ := s
    cases outer with
    | nil => rfl
    | cons f rest => simp [Stacks.pop, toStacks, frames, pop]
  | set k t => cases k <;> rfl
  | lookup k => rfl

/-- Both find the same. -/
theorem toStacks_lookup (s : Scopes) (k : Key) : s.toStacks.lookup k = s.lookup k := by
  cases k with
  | symbol x => exact List.findSome?_map
  | typeParam name => exact List.findSome?_map
  | typeAlias name => rfl

/-- A history leads to the same stacks as scopes. -/
theorem toStacks_after (history : List Op) : Stacks.after history = (after history).toStacks := by
  induction history using List.reverseRecOn with
  | nil => rfl
  | append_singleton history op ih =>
    have last : Stacks.after (history ++ [op]) = (Stacks.after history).perform op := by
      simp [Stacks.after]
    rw [last, ih, toStacks_perform, after_concat]

/-- The lookups of a history get the same answers from both. -/
theorem toStacks_answers (s : Scopes) (ops : List Op) : s.toStacks.answers ops = s.answers ops := by
  induction ops generalizing s with
  | nil => rfl
  | cons op ops ih =>
    have found : s.toStacks.lookup = s.lookup := funext s.toStacks_lookup
    rw [Stacks.answers, answers, found, toStacks_perform, ih]

/-! ## What one operation does to lookups -/

section Lookup

variable (s : Scopes) {k : Key}

/-- A definition is found as soon as it is made. -/
theorem lookup_set (k : Key) (t : Ty) : (s.set k t).lookup k = some t := by
  cases k with
  | symbol x => exact s.symbol?_bind x t
  | typeParam name => exact s.typeParam?_bindTypeParam name t
  | typeAlias name => exact s.alias?_defineAlias name t

/-- A definition says nothing about other keys. -/
theorem lookup_set_of_ne {other : Key} (h : k ≠ other) (t : Ty) :
    (s.set other t).lookup k = s.lookup k := by
  cases other with
  | symbol x =>
    cases k with
    | symbol y => exact s.symbol?_bind_of_ne (fun same => h (congrArg Key.symbol same)) t
    | typeParam name => rfl
    | typeAlias name => rfl
  | typeParam name =>
    cases k with
    | symbol y => rfl
    | typeParam other =>
      exact s.typeParam?_bindTypeParam_of_ne (fun same => h (congrArg Key.typeParam same)) t
    | typeAlias other => rfl
  | typeAlias name =>
    cases k with
    | symbol y => rfl
    | typeParam other => rfl
    | typeAlias other =>
      exact alias?_defineAlias_of_ne (fun same => h (congrArg Key.typeAlias same)) t

/-- A new frame hides nothing. -/
theorem lookup_push (k : Key) : s.push.lookup k = s.lookup k := by
  cases k <;> rfl

/-- For scoped keys only the frames matter. -/
theorem lookup_of_frames {s s' : Scopes} (hk : k.isScoped = true) (h : s.frames = s'.frames) :
    s.lookup k = s'.lookup k := by
  cases k with
  | symbol x => rw [lookup, lookup, symbol?, symbol?, h]
  | typeParam name => rw [lookup, lookup, typeParam?, typeParam?, h]
  | typeAlias name => cases hk

/-- Closing a frame leaves the keys that are not scoped. -/
theorem lookup_pop_of_not_scoped (hk : k.isScoped = false) : s.pop.lookup k = s.lookup k := by
  cases k with
  | symbol x => cases hk
  | typeParam name => cases hk
  | typeAlias name =>
    show s.pop.alias? name = s.alias? name
    unfold pop
    split <;> rfl

end Lookup

/-! ## Balanced operations -/

/-- By how much an operation changes the number of scopes if some are open. -/
def Op.step : Op → Int
  | .push => 1
  | .pop => -1
  | _ => 0

/-- Operations that close the scopes that they open, and no others. -/
inductive Balanced : List Op → Prop
  | nil : Balanced []
  | quiet {op : Op} {ops : List Op} (level : op.step = 0) (rest : Balanced ops) :
      Balanced (op :: ops)
  | scope {inner ops : List Op} (inside : Balanced inner) (rest : Balanced ops) :
      Balanced (.push :: (inner ++ .pop :: ops))

/-- How many more scopes are opened than closed. -/
def rise : List Op → Int
  | [] => 0
  | op :: rest => op.step + rise rest

@[simp] theorem rise_nil : rise [] = 0 := rfl

@[simp] theorem rise_cons (op : Op) (ops : List Op) : rise (op :: ops) = op.step + rise ops := rfl

@[simp] theorem rise_append (ops rest : List Op) : rise (ops ++ rest) = rise ops + rise rest := by
  induction ops with
  | nil => simp
  | cons op ops ih =>
    rw [List.cons_append, rise_cons, rise_cons, ih]
    omega

/-- An operation that keeps the height leaves the frames outside. -/
theorem outer_perform {op : Op} (level : op.step = 0) (s : Scopes) :
    (s.perform op).outer = s.outer := by
  cases op with
  | push => simp [Op.step] at level
  | pop => simp [Op.step] at level
  | set k t => cases k <;> rfl
  | lookup k => rfl

namespace Balanced

variable {ops rest : List Op}

/-- Two balanced runs are one balanced run. -/
theorem append (h : Balanced ops) (hrest : Balanced rest) : Balanced (ops ++ rest) := by
  induction h with
  | nil => exact hrest
  | quiet level _ ih => exact .quiet level ih
  | @scope inner ops inside _ _ ih =>
    have whole : Balanced (.push :: (inner ++ .pop :: (ops ++ rest))) := .scope inside ih
    rwa [List.cons_append, List.append_assoc, List.cons_append]

/-- A balanced run ends at the height where it began. -/
theorem rise_eq_zero (h : Balanced ops) : rise ops = 0 := by
  induction h with
  | nil => rfl
  | quiet level _ ih =>
    rw [rise_cons, level, ih]
    rfl
  | scope _ _ ihInside ih =>
    simp only [rise_cons, rise_append, Op.step]
    omega

/-- At no point have more scopes been closed than opened. -/
theorem zero_le_rise {a b : List Op} (h : Balanced ops) (split : ops = a ++ b) : 0 ≤ rise a := by
  induction h generalizing a b with
  | nil =>
    obtain ⟨rfl, -⟩ := List.append_eq_nil_iff.mp split.symm
    exact Int.le_refl 0
  | quiet level _ ih =>
    rcases a with _ | ⟨op, a⟩
    · exact Int.le_refl 0
    · obtain ⟨rfl, tail⟩ := List.cons.inj split
      have := ih tail
      rw [rise_cons, level]
      omega
  | scope inside _ ihInside ih =>
    rcases a with _ | ⟨op, a⟩
    · exact Int.le_refl 0
    obtain ⟨rfl, tail⟩ := List.cons.inj split
    -- `a` ends inside the scope, or it goes on after the scope
    rcases List.append_eq_append_iff.mp tail with ⟨c, rfl, behind⟩ | ⟨c, rfl, -⟩
    · rcases c with _ | ⟨op, c⟩
      · simp [Op.step, inside.rise_eq_zero]
      · obtain ⟨rfl, later⟩ := List.cons.inj behind
        have := ih later
        simp only [rise_cons, rise_append, Op.step, inside.rise_eq_zero]
        omega
    · have := ihInside rfl
      simp only [rise_cons, Op.step]
      omega

/-- Balanced operations leave the scopes around the innermost one alone. -/
theorem outer_foldl (h : Balanced ops) (s : Scopes) : (ops.foldl perform s).outer = s.outer := by
  induction h generalizing s with
  | nil => rfl
  | quiet level _ ih => rw [List.foldl_cons, ih, outer_perform level]
  | @scope inner ops _ _ ihInside ih =>
    rw [List.foldl_cons, List.foldl_append, List.foldl_cons, ih]
    show ((inner.foldl perform s.push).pop).outer = s.outer
    rw [pop_of_outer (ihInside s.push)]

end Balanced

/-- After a `push` and balanced operations, what is around the innermost scope are the scopes from
before the `push`. -/
theorem outer_after_push {v : List Op} (a : List Op) (hv : Balanced v) :
    (after (a ++ .push :: v)).outer = (after a).frames := by
  rw [after, List.foldl_append, List.foldl_cons, hv.outer_foldl]
  rfl

/-- A `pop` brings back the scopes from before the `push` that belongs to it. -/
theorem frames_after_pop {v : List Op} (a : List Op) (hv : Balanced v) :
    (after (a ++ .push :: v ++ [.pop])).frames = (after a).frames := by
  rw [after_concat, perform, pop_of_outer (outer_after_push a hv)]
  rfl

/-! ## Histories -/

/-- Induction along a history.  A `pop` either finds no `push` that it belongs to, or it ends the
part `v` of the history between such a `push` and itself. -/
@[elab_as_elim]
theorem history_induction {motive : List Op → Prop} (history : List Op) (nil : motive [])
    (push : ∀ h, motive h → motive (h ++ [.push]))
    (set : ∀ h k t, motive h → motive (h ++ [.set k t]))
    (lookup : ∀ h k, motive h → motive (h ++ [.lookup k]))
    (popNone : ∀ h, (∀ a v, Balanced v → h ≠ a ++ .push :: v) → motive h → motive (h ++ [.pop]))
    (popScope : ∀ a v, Balanced v → motive a → motive (a ++ .push :: v) →
      motive (a ++ .push :: v ++ [.pop])) : motive history := by
  induction length : history.length using Nat.strongRecOn generalizing history with
  | _ n ih =>
    rcases List.eq_nil_or_concat' history with rfl | ⟨h, op, rfl⟩
    · exact nil
    have shorter (h' : List Op) (le : h'.length ≤ h.length) : motive h' := by
      refine ih h'.length ?_ h' rfl
      simp only [List.length_append, List.length_singleton] at length
      omega
    have before := shorter h (Nat.le_refl _)
    cases op with
    | push => exact push h before
    | set k t => exact set h k t before
    | lookup k => exact lookup h k before
    | pop =>
      -- a `pop` either ends the latest scope that is still open or finds none
      by_cases opened : ∃ a v, Balanced v ∧ h = a ++ .push :: v
      · obtain ⟨a, v, hv, rfl⟩ := opened
        exact popScope a v hv (shorter a (by simp)) before
      · exact popNone h (fun a v hv same => opened ⟨a, v, hv, same⟩) before

/-- A history that leaves a scope open has a `push` that opened it. -/
theorem exists_push_of_outer {history : List Op} (h : (after history).outer ≠ []) :
    ∃ a v, Balanced v ∧ history = a ++ .push :: v := by
  induction history using history_induction with
  | nil => exact absurd rfl h
  | push history _ => exact ⟨history, [], .nil, rfl⟩
  | set history k t ih =>
    rw [after_concat, outer_perform rfl] at h
    obtain ⟨a, v, hv, rfl⟩ := ih h
    exact ⟨a, v ++ [.set k t], hv.append (.quiet rfl .nil), by simp⟩
  | lookup history k ih =>
    rw [after_concat, outer_perform rfl] at h
    obtain ⟨a, v, hv, rfl⟩ := ih h
    exact ⟨a, v ++ [.lookup k], hv.append (.quiet rfl .nil), by simp⟩
  | popNone history none ih =>
    have last : (after history).outer = [] := by
      by_contra some
      obtain ⟨a, v, hv, same⟩ := ih some
      exact none a v hv same
    refine absurd ?_ h
    rw [after_concat, perform, pop, last]
    exact last
  | popScope a v hv ih _ =>
    have outer : (after (a ++ .push :: v ++ [.pop])).outer = (after a).outer :=
      (List.cons.inj (frames_after_pop a hv)).2
    -- the scope that ends was opened inside the one that we look for
    obtain ⟨a', v', hv', rfl⟩ := ih (outer ▸ h)
    refine ⟨a', v' ++ .push :: (v ++ [.pop]), hv'.append (.scope hv .nil), by simp⟩

/-- If no scope is open, there is only the outermost frame. -/
theorem outer_eq_nil_of_none {history : List Op}
    (none : ∀ a v, Balanced v → history ≠ a ++ .push :: v) : (after history).outer = [] := by
  by_contra some
  obtain ⟨a, v, hv, same⟩ := exists_push_of_outer some
  exact none a v hv same

/-! ## What is discarded and what stands -/

/-- The scope that is innermost after `before` was opened by a `push`, and one of the operations
`rest` closes it. -/
def ScopeEnds (before rest : List Op) : Prop :=
  ∃ a u w c, before = a ++ .push :: u ∧ Balanced u ∧ rest = w ++ .pop :: c ∧ Balanced w

/-- Whether a type that was set for `k` after `before` is discarded by one of the operations `rest`
that came later. -/
def Discarded (k : Key) (before rest : List Op) : Prop :=
  k.isScoped = true ∧ ScopeEnds before rest

/-- What `k` stands for after a history: the last type set for it that is not discarded, or nothing
if there is none. -/
def Stands (history : List Op) (k : Key) : Option Ty → Prop
  | some t => ∃ before rest, history = before ++ .set k t :: rest ∧ ¬Discarded k before rest ∧
      ∀ b t' r, rest = b ++ .set k t' :: r → Discarded k (before ++ .set k t :: b) r
  | none => ∀ before t rest, history = before ++ .set k t :: rest → Discarded k before rest

/-- Where a scope has ended, it has ended whatever came before and comes later. -/
theorem ScopeEnds.mono {before rest : List Op} (h : ScopeEnds before rest) (a c : List Op) :
    ScopeEnds (a ++ before) (rest ++ c) := by
  obtain ⟨a', u, w, c', rfl, hu, rfl, hw⟩ := h
  exact ⟨a ++ a', u, w, c' ++ c, by simp, hu, by simp, hw⟩

/-- What is discarded stays so. -/
theorem Discarded.mono {k : Key} {before rest : List Op} (h : Discarded k before rest)
    (c : List Op) : Discarded k before (rest ++ c) :=
  ⟨h.1, h.2.mono [] c⟩

/-- No scope ends without an operation. -/
theorem not_scopeEnds_nil (before : List Op) : ¬ScopeEnds before [] := by
  rintro ⟨a, u, w, c, -, -, nothing, -⟩
  simp at nothing

/-- A place in two lists is in the first or in the second one. -/
theorem place_cases {α : Type} {xs ys before rest : List α} {x : α}
    (h : xs ++ ys = before ++ x :: rest) :
    (∃ r, xs = before ++ x :: r ∧ rest = r ++ ys) ∨
      ∃ b, before = xs ++ b ∧ ys = b ++ x :: rest := by
  rcases List.append_eq_append_iff.mp h with ⟨b, rfl, hys⟩ | ⟨b, rfl, hrest⟩
  · exact .inr ⟨b, rfl, hys⟩
  · rcases b with _ | ⟨y, b⟩
    · exact .inr ⟨[], by simp, hrest.symm⟩
    · obtain ⟨rfl, rest⟩ := List.cons.inj hrest
      exact .inl ⟨b, rfl, rest⟩

/-- Inside balanced operations, a `set` is in a scope that they close, or there are balanced
operations around it. -/
theorem Balanced.cases_set {ops u w : List Op} {k : Key} {t : Ty} (h : Balanced ops)
    (split : ops = u ++ .set k t :: w) : ScopeEnds u w ∨ Balanced u ∧ Balanced w := by
  induction h generalizing u w with
  | nil => simp at split
  | @quiet op ops level rest ih =>
    rcases u with _ | ⟨op', u⟩
    · obtain ⟨-, rfl⟩ := List.cons.inj split
      exact .inr ⟨.nil, rest⟩
    · obtain ⟨rfl, tail⟩ := List.cons.inj split
      rcases ih tail with ends | ⟨hu, hw⟩
      · exact .inl (by simpa using ends.mono [op] [])
      · exact .inr ⟨.quiet level hu, hw⟩
  | @scope inner ops inside rest ihInside ih =>
    rcases u with _ | ⟨op, u⟩
    · simp at split
    obtain ⟨rfl, tail⟩ := List.cons.inj split
    rcases place_cases tail with ⟨r, hinner, rfl⟩ | ⟨b, rfl, hops⟩
    · -- the definition is inside of the scope, which ends behind it if no inner one does
      rcases ihInside hinner with ends | ⟨hu, hr⟩
      · exact .inl (by simpa using ends.mono [.push] (.pop :: ops))
      · exact .inl ⟨[], u, r, ops, rfl, hu, rfl, hr⟩
    · rcases b with _ | ⟨op, b⟩
      · simp at hops
      · obtain ⟨rfl, later⟩ := List.cons.inj hops
        rcases ih later with ends | ⟨hb, hw⟩
        · have wider := ends.mono (.push :: (inner ++ [.pop])) []
          exact .inl (by simpa using wider)
        · exact .inr ⟨.scope inside hb, hw⟩

/-- A scope that is open before operations which at no point have closed more scopes than they have
opened is open after them. -/
theorem ScopeEnds.of_append {before rest ops : List Op} (h : ScopeEnds before (rest ++ ops))
    (rising : ∀ a b, ops = a ++ b → 0 ≤ rise a) : ScopeEnds before rest := by
  obtain ⟨a, u, w, c, hbefore, hu, split, hw⟩ := h
  rcases place_cases split with ⟨r, hrest, -⟩ | ⟨b, rfl, hops⟩
  · exact ⟨a, u, w, r, hbefore, hu, hrest, hw⟩
  · -- `rest ++ b` is balanced, so `b` does not rise, and the `pop` after it goes too far
    have level := hw.rise_eq_zero
    have start := hw.zero_le_rise rfl
    have next := rising (b ++ [.pop]) c (by simpa using hops)
    simp only [rise_append, rise_cons, rise_nil, Op.step] at level next
    omega

namespace Stands

variable {history : List Op} {k : Key}

/-- What a key stands for stays the same if the types set for it that are discarded by later
operations were discarded before, and those set later are discarded. -/
theorem append {o : Option Ty} (h : Stands history k o) {ops : List Op}
    (kept : ∀ before t rest, history = before ++ .set k t :: rest →
      Discarded k before (rest ++ ops) → Discarded k before rest)
    (gone : ∀ u t w, ops = u ++ .set k t :: w → Discarded k (history ++ u) w) :
    Stands (history ++ ops) k o := by
  cases o with
  | none =>
    intro before t rest split
    rcases place_cases split with ⟨r, hhistory, rfl⟩ | ⟨b, rfl, hops⟩
    · exact (h before t r hhistory).mono ops
    · exact gone b t rest hops
  | some t =>
    obtain ⟨before, rest, rfl, stands, later⟩ := h
    refine ⟨before, rest ++ ops, by simp, fun discarded => stands (kept _ _ _ rfl discarded), ?_⟩
    intro b t' r split
    rcases place_cases split with ⟨r, hrest, rfl⟩ | ⟨b, rfl, hops⟩
    · exact (later b t' r hrest).mono ops
    · simpa using gone b t' r hops

/-- Operations that set nothing for the key and at no point have closed more scopes than they have
opened change nothing. -/
theorem append_of_rising {o : Option Ty} (h : Stands history k o) {ops : List Op}
    (rising : ∀ a b, ops = a ++ b → 0 ≤ rise a) (other : ∀ t, .set k t ∉ ops) :
    Stands (history ++ ops) k o := by
  refine h.append (fun before t rest _ discarded => ?_) fun u t w split => ?_
  · exact ⟨discarded.1, discarded.2.of_append rising⟩
  · exact absurd (split ▸ List.mem_append_right u List.mem_cons_self) (other t)

/-- A definition stands right after it is made. -/
theorem concat_set (history : List Op) (k : Key) (t : Ty) :
    Stands (history ++ [.set k t]) k (some t) := by
  refine ⟨history, [], rfl, fun discarded => not_scopeEnds_nil _ discarded.2, ?_⟩
  intro b t' r split
  simp at split

/-- A `pop` that no `push` belongs to discards nothing. -/
theorem concat_pop_of_none {o : Option Ty} (h : Stands history k o)
    (none : ∀ a v, Balanced v → history ≠ a ++ .push :: v) : Stands (history ++ [.pop]) k o := by
  refine h.append ?_ fun u t w split => ?_
  · rintro before t rest hhistory ⟨hk, a, u, w, c, rfl, hu, split, hw⟩
    rcases place_cases split with ⟨r, hrest, -⟩ | ⟨b, rfl, hb⟩
    · exact ⟨hk, a, u, w, r, rfl, hu, hrest, hw⟩
    · -- it would belong to the `push` that opened the scope
      rcases b with _ | ⟨op, b⟩
      · refine absurd hhistory ?_
        rw [List.append_nil] at hw
        have := none a (u ++ .set k t :: rest) (hu.append (.quiet rfl hw))
        simpa using this
      · simp at hb
  · rcases u with _ | ⟨op, u⟩ <;> simp at split

/-- A scope that was opened and closed leaves no trace but aliases. -/
theorem append_scope {o : Option Ty} (h : Stands history k o) (hk : k.isScoped = true)
    {v : List Op} (hv : Balanced v) : Stands (history ++ .push :: v ++ [.pop]) k o := by
  have whole : Balanced (.push :: (v ++ [.pop])) := .scope hv .nil
  rw [List.append_assoc, List.cons_append]
  refine h.append (fun before t rest _ discarded => ?_) fun u t w split => ⟨hk, ?_⟩
  · exact ⟨hk, discarded.2.of_append fun a b split => whole.zero_le_rise split⟩
  · rcases u with _ | ⟨op, u⟩
    · simp at split
    obtain ⟨rfl, tail⟩ := List.cons.inj split
    rcases place_cases tail with ⟨r, hinside, rfl⟩ | ⟨b, rfl, hb⟩
    · rcases hv.cases_set hinside with ends | ⟨hu, hr⟩
      · have wider := ends.mono (history ++ [.push]) [.pop]
        simpa using wider
      · exact ⟨history, u, r, [], rfl, hu, rfl, hr⟩
    · rcases b with _ | ⟨op, b⟩ <;> simp at hb

/-- An alias stands until it is defined again. -/
theorem concat_of_not_scoped {o : Option Ty} (h : Stands history k o) (hk : k.isScoped = false) :
    Stands (history ++ [.pop]) k o := by
  refine h.append (fun before t rest _ discarded => ?_) fun u t w split => ?_
  · exact absurd discarded.1 (by simp [hk])
  · rcases u with _ | ⟨op, u⟩ <;> simp at split

/-- A key stands for one thing at most. -/
theorem unique {o o' : Option Ty} (h : Stands history k o) (h' : Stands history k o') : o = o' := by
  cases o with
  | none =>
    cases o' with
    | none => rfl
    | some t' =>
      obtain ⟨before, rest, split, stands, -⟩ := h'
      exact absurd (h before t' rest split) stands
  | some t =>
    obtain ⟨before, rest, rfl, stands, later⟩ := h
    cases o' with
    | none => exact absurd (h' before t rest rfl) stands
    | some t' =>
      obtain ⟨before', rest', split, stands', later'⟩ := h'
      rcases place_cases split with ⟨r, rfl, rfl⟩ | ⟨b, rfl, hb⟩
      · exact absurd (later' r t rest (by simp)) (by simpa using stands)
      · rcases b with _ | ⟨op, b⟩
        · obtain ⟨same, -⟩ := List.cons.inj hb
          cases same
          rfl
        · obtain ⟨rfl, hrest⟩ := List.cons.inj hb
          exact absurd (later b t' rest' hrest) stands'

end Stands

/-- A lookup finds what stands. -/
theorem stands_lookup (history : List Op) (k : Key) :
    Stands history k ((after history).lookup k) := by
  induction history using history_induction with
  | nil =>
    have nothing : (after []).lookup k = none := by cases k <;> rfl
    rw [nothing]
    intro before t rest split
    simp at split
  | push history ih =>
    rw [after_concat, perform, lookup_push]
    -- opening a scope ends none, so whatever stood still does
    refine ih.append_of_rising (fun a b split => ?_) (by simp)
    rcases a with _ | ⟨op, a⟩
    · exact Int.le_refl 0
    · obtain ⟨rfl, tail⟩ := List.cons.inj split
      obtain ⟨rfl, -⟩ := List.append_eq_nil_iff.mp tail.symm
      decide
  | set history other t ih =>
    rw [after_concat, perform]
    by_cases same : k = other
    · rw [← same, lookup_set]
      exact .concat_set history k t
    · rw [lookup_set_of_ne _ same]
      have balanced : Balanced [.set other t] := .quiet rfl .nil
      exact ih.append_of_rising (fun a b split => balanced.zero_le_rise split) (by simp [same])
  | lookup history other ih =>
    rw [after_concat, perform]
    have balanced : Balanced [.lookup other] := .quiet rfl .nil
    exact ih.append_of_rising (fun a b split => balanced.zero_le_rise split) (by simp)
  | popNone history none ih =>
    -- with no scope open a `pop` finds the outermost frame and leaves it
    have unchanged : (after history).pop = after history := by
      rw [pop, outer_eq_nil_of_none none]
    rw [after_concat, perform, unchanged]
    exact ih.concat_pop_of_none none
  | popScope a v hv ihBefore ih =>
    cases hk : k.isScoped with
    | true =>
      -- a `pop` that ends a scope brings back the frames from before it
      rw [lookup_of_frames hk (frames_after_pop a hv)]
      exact ihBefore.append_scope hk hv
    | false =>
      rw [after_concat, perform, lookup_pop_of_not_scoped _ hk]
      exact ih.concat_of_not_scoped hk

/-- What a lookup finds is what stands in the history. -/
theorem lookup_eq_iff_stands {history : List Op} {k : Key} {o : Option Ty} :
    (after history).lookup k = o ↔ Stands history k o := by
  constructor
  · rintro rfl
    exact stands_lookup history k
  · exact (stands_lookup history k).unique

/-- **Scopes remember what their history says.**  Whatever is done to new scopes, the stack of
symbols and the stack of type parameters have the same height, which is at least one, and the two
stacks answer as the scopes do.  Every lookup on the way answers with the last type that was set for
the key and not discarded, and with nothing if there is none: types of symbols and type parameters
are discarded with the scope that they were set in, aliases never.  Where only one scope is open,
closing it changes nothing. -/
theorem lookups_of_history (history : List Op) :
    (Stacks.after history = (after history).toStacks ∧
      Stacks.answers {} history = answers {} history) ∧
    ((Stacks.after history).symbols.length = height history ∧
      (Stacks.after history).typeParams.length = height history ∧ 1 ≤ height history) ∧
    (∀ before k rest, history = before ++ .lookup k :: rest →
      ∀ o, (answers {} history)[lookups before]? = some o ↔ Stands before k o) ∧
    (height history = 1 → after (history ++ [.pop]) = after history ∧
      Stacks.after (history ++ [.pop]) = Stacks.after history) := by
  refine ⟨⟨toStacks_after history, toStacks_answers {} history⟩, ⟨?_, ?_, ?_⟩, ?_, fun last => ?_⟩
  · rw [toStacks_after, toStacks, List.length_map]
    exact depth_after history
  · rw [toStacks_after, toStacks, List.length_map]
    exact depth_after history
  · rw [← depth_after]
    exact Nat.le_add_left 1 _
  · rintro before k rest rfl o
    rw [answers_lookup, Option.some_inj]
    exact lookup_eq_iff_stands
  · -- at height one there is only the outermost frame, so there is none to go back to
    have outer : (after history).outer = [] := by
      rw [← depth_after] at last
      exact List.eq_nil_of_length_eq_zero (Nat.succ.inj last)
    have unchanged : after (history ++ [.pop]) = after history := by
      rw [after_concat, perform, pop, outer]
    exact ⟨unchanged, by rw [toStacks_after, toStacks_after, unchanged]⟩

/-- A symbol is set again in a scope of its own, after a `pop` that closes nothing.  When this scope
is closed, the first type is back; an alias that was defined in it is still there, and a type
parameter is not. -/
theorem lookups_of_history_shadowed :
    let x := Key.symbol (.resolved 0)
    let before : List Op := [.set x .number, .pop, .push, .set x .string,
      .set (.typeParam "T") .unknown, .set (.typeAlias "Id") .boolean, .lookup x, .pop]
    let history := before ++ [.lookup x, .lookup (.typeParam "T"), .lookup (.typeAlias "Id")]
    answers {} history = [some .string, some .number, none, some .boolean] ∧
      Stacks.answers {} history = [some .string, some .number, none, some .boolean] ∧
      height history = 1 ∧ Stands before x (some .number) ∧
      after (history ++ [.pop]) = after history := by
  intro x before history
  have answered : answers {} history = [some .string, some .number, none, some .boolean] := rfl
  obtain ⟨⟨-, same⟩, -, found, last⟩ := lookups_of_history history
  refine ⟨answered, same.trans answered, rfl, (found before x _ rfl (some .number)).mp ?_,
    (last rfl).1⟩
  rw [answered]
  rfl

end Scopes
end StructuralTyping
