import StructuralTyping.Proofs.ProgramParts

/-! # Accounts of a tour

A tour goes through the expressions of a tree in the order of the source.  An account of it says for
each of them what the visitor answered there, or that it was not visited.  `Account` is what a tour
has to come to: an expression is left out exactly if it is inside one that was skipped or comes
after one that stopped the tour, and the visitor is called on the others one after another.

`Itinerary` is the same thing step by step.  Itineraries of parts that stand side by side can be put
together (`Itinerary.append`, `Itinerary.append_error`), and each of them gives an account
(`Itinerary.account`).
-/
namespace StructuralTyping

namespace Parts

/-- The expressions among parts. -/
def exprs (parts : List Part) : List (Node Expr) := parts.filterMap Part.expr?

/-- The expressions inside an expression. -/
def within (n : Node Expr) : List (Node Expr) := exprs (inside n.value)

end Parts

open Parts (within)

namespace Tour

/-- What a visitor answers. -/
abbrev Answer (ε : Type) := Except (Refusal ε) Reply

variable {σ ε : Type}

/-- The answer keeps the tour from the expression `d` places after `n`: it stops the tour, or skips
what is inside `n`. -/
def Answer.Bars (n : Node Expr) (d : Nat) : Answer ε → Prop
  | .error _ => True
  | .ok reply => reply.descend = false ∧ d ≤ (within n).length

/-- Calls the visitor on one expression after another. -/
def calls (visit : Visitor σ ε) : List (Node Expr) → σ → List (Answer ε) × σ
  | [], s => ([], s)
  | n :: rest, s =>
    let (answers, last) := calls visit rest (visit n s).2
    ((visit n s).1 :: answers, last)

/-- The expressions that have an answer. -/
def visited (es : List (Node Expr)) (answers : List (Option (Answer ε))) : List (Node Expr) :=
  (es.zip answers).filterMap fun p => p.2.map fun _ => p.1

/-- The answer at place `i` keeps the tour from place `j`. -/
def Bars (es : List (Node Expr)) (answers : List (Option (Answer ε))) (i j : Nat) : Prop :=
  i < j ∧ ∃ n a, es[i]? = some n ∧ answers[i]? = some (some a) ∧ a.Bars n (j - i)

/-- The visitor went through the expressions `es`, starting in the state `s`. -/
structure Account (visit : Visitor σ ε) (es : List (Node Expr)) (s : σ)
    (answers : List (Option (Answer ε))) (result : Except ε Unit) (last : σ) : Prop where
  length : answers.length = es.length
  /-- The visitor is called on the visited expressions, in their order, and on no other. -/
  called : calls visit (visited es answers) s = (answers.reduceOption, last)
  /-- An expression is not visited exactly if an earlier answer keeps the tour from it. -/
  omitted : ∀ j < es.length, answers[j]? = some none ↔ ∃ i, Bars es answers i j
  passed : (∀ a ∈ answers.reduceOption, ∃ reply, a = .ok reply) → result = .ok ()
  /-- The call that fails is the last one. -/
  stopped : ∀ k x, answers.reduceOption[k]? = some (.error x) →
    answers.reduceOption.length = k + 1 ∧ result = .error x.error

/-! ## Expressions that are left out -/

/-- No answers. -/
def unvisited (es : List (Node Expr)) : List (Option (Answer ε)) := es.map fun _ => none

@[simp] theorem length_unvisited (es : List (Node Expr)) :
    (unvisited es : List (Option (Answer ε))).length = es.length :=
  List.length_map _

theorem unvisited_append (es fs : List (Node Expr)) :
    (unvisited (es ++ fs) : List (Option (Answer ε))) = unvisited es ++ unvisited fs :=
  List.map_append

@[simp] theorem visited_cons (n : Node Expr) (a : Answer ε) (es : List (Node Expr))
    (answers : List (Option (Answer ε))) :
    visited (n :: es) (some a :: answers) = n :: visited es answers := rfl

/-- Expressions that are passed over are not among the visited ones. -/
theorem visited_unvisited_append (us es : List (Node Expr)) (answers : List (Option (Answer ε))) :
    visited (us ++ es) (unvisited us ++ answers) = visited es answers := by
  induction us with
  | nil => rfl
  | cons n us ih => exact ih

theorem reduceOption_unvisited_append (us : List (Node Expr))
    (answers : List (Option (Answer ε))) :
    (unvisited us ++ answers).reduceOption = answers.reduceOption := by
  induction us with
  | nil => rfl
  | cons n us ih => exact ih

theorem visited_unvisited (us : List (Node Expr)) :
    visited us (unvisited us : List (Option (Answer ε))) = [] := by
  have none := visited_unvisited_append us [] ([] : List (Option (Answer ε)))
  rwa [List.append_nil, List.append_nil] at none

theorem reduceOption_unvisited (us : List (Node Expr)) :
    (unvisited us : List (Option (Answer ε))).reduceOption = [] := by
  simpa using reduceOption_unvisited_append us ([] : List (Option (Answer ε)))

/-- Places behind the expressions that are left out after a call. -/
theorem bars_append {n : Node Expr} {a : Answer ε} {us es : List (Node Expr)}
    {answers : List (Option (Answer ε))} {i j : Nat} :
    Bars (n :: (us ++ es)) (some a :: (unvisited us ++ answers)) (us.length + i + 1)
        (us.length + j + 1) ↔ Bars es answers i j := by
  have place : us.length + j + 1 - (us.length + i + 1) = j - i := by omega
  have order : us.length + i + 1 < us.length + j + 1 ↔ i < j := by omega
  unfold Bars
  rw [place, order]
  simp [List.getElem?_append_right]

/-- What one call adds: `us` is left out because of its answer, and what comes behind `us` is not.
-/
theorem omitted_cons (n : Node Expr) (a : Answer ε) (us es : List (Node Expr))
    (answers : List (Option (Answer ε)))
    (bars : ∀ d, 0 < d → d ≤ us.length + es.length → (a.Bars n d ↔ d ≤ us.length))
    (omitted : ∀ j < es.length, answers[j]? = some none ↔ ∃ i, Bars es answers i j) :
    ∀ j < (n :: (us ++ es)).length, (some a :: (unvisited us ++ answers))[j]? = some none ↔
      ∃ i, Bars (n :: (us ++ es)) (some a :: (unvisited us ++ answers)) i j := by
  intro j hj
  rw [List.length_cons, List.length_append] at hj
  rcases j with _ | j
  · simp [Bars]
  by_cases inside : j < us.length
  · -- inside of `n`, which the answer bars
    have here : a.Bars n (j + 1) := (bars (j + 1) (by omega) (by omega)).mpr inside
    refine iff_of_true ?_ ⟨0, by omega, n, a, rfl, rfl, here⟩
    simp [List.getElem?_append_left, unvisited, inside]
  · obtain ⟨k, rfl⟩ := Nat.exists_eq_add_of_le (Nat.le_of_not_lt inside)
    rw [List.getElem?_cons_succ, List.getElem?_append_right (by simp), length_unvisited,
      Nat.add_sub_cancel_left, omitted k (by omega)]
    constructor
    · rintro ⟨i, barred⟩
      exact ⟨us.length + i + 1, bars_append.mpr barred⟩
    · rintro ⟨i, barred⟩
      rcases i with _ | i
      · -- the call itself does not reach that far
        obtain ⟨-, m, b, hm, hb, here⟩ := barred
        obtain rfl := Option.some.inj hm
        obtain rfl := Option.some.inj (Option.some.inj hb)
        have := (bars _ (by omega) (by omega)).mp here
        omega
      by_cases inside' : i < us.length
      · -- there are no answers among those that are left out
        obtain ⟨-, m, b, -, hb, -⟩ := barred
        simp [List.getElem?_append_left, unvisited, inside'] at hb
      · obtain ⟨i, rfl⟩ := Nat.exists_eq_add_of_le (Nat.le_of_not_lt inside')
        exact ⟨i, bars_append.mp barred⟩

/-! ## Itineraries -/

/-- A tour of the expressions, call by call. -/
inductive Itinerary (visit : Visitor σ ε) :
    List (Node Expr) → σ → List (Option (Answer ε)) → Except ε Unit → σ → Prop
  | done {s : σ} : Itinerary visit [] s [] (.ok ()) s
  | enter {n : Node Expr} {es : List (Node Expr)} {s s' t : σ} {reply : Reply}
      {answers : List (Option (Answer ε))} {result : Except ε Unit}
      (call : visit n s = (.ok reply, s')) (descend : reply.descend = true)
      (next : Itinerary visit (within n ++ es) s' answers result t) :
      Itinerary visit (n :: (within n ++ es)) s (some (.ok reply) :: answers) result t
  | skip {n : Node Expr} {es : List (Node Expr)} {s s' t : σ} {reply : Reply}
      {answers : List (Option (Answer ε))} {result : Except ε Unit}
      (call : visit n s = (.ok reply, s')) (descend : reply.descend = false)
      (next : Itinerary visit es s' answers result t) :
      Itinerary visit (n :: (within n ++ es)) s
        (some (.ok reply) :: (unvisited (within n) ++ answers)) result t
  | stop {n : Node Expr} {es : List (Node Expr)} {s s' : σ} {x : Refusal ε}
      (call : visit n s = (.error x, s')) :
      Itinerary visit (n :: es) s (some (.error x) :: unvisited es) (.error x.error) s'

namespace Itinerary

variable {visit : Visitor σ ε} {es fs : List (Node Expr)} {s t u : σ}
  {answers answers' : List (Option (Answer ε))} {result result' : Except ε Unit}

/-- After a tour to the end, another one. -/
theorem append (h : Itinerary visit es s answers result t) (ok : result = .ok ())
    (h' : Itinerary visit fs t answers' result' u) :
    Itinerary visit (es ++ fs) s (answers ++ answers') result' u := by
  induction h with
  | done => exact h'
  | enter call descend _ ih =>
    have next := ih ok h'
    rw [List.append_assoc] at next
    rw [List.cons_append, List.cons_append, List.append_assoc]
    exact enter call descend next
  | skip call descend _ ih =>
    rw [List.cons_append, List.cons_append, List.append_assoc, List.append_assoc]
    exact skip call descend (ih ok h')
  | stop => cases ok

/-- After a tour that was stopped, nothing is visited. -/
theorem append_error {x : ε} (h : Itinerary visit es s answers result t)
    (error : result = .error x) :
    Itinerary visit (es ++ fs) s (answers ++ unvisited fs) result t := by
  induction h with
  | done => cases error
  | enter call descend _ ih =>
    have next := ih error
    rw [List.append_assoc] at next
    rw [List.cons_append, List.cons_append, List.append_assoc]
    exact enter call descend next
  | skip call descend _ ih =>
    rw [List.cons_append, List.cons_append, List.append_assoc, List.append_assoc]
    exact skip call descend (ih error)
  | stop call =>
    rw [List.cons_append, List.cons_append, ← unvisited_append]
    exact stop call

/-- There is an entry for every expression, visited or not. -/
theorem length (h : Itinerary visit es s answers result t) : answers.length = es.length := by
  induction h with
  | done => rfl
  | enter _ _ _ ih => rw [List.length_cons, List.length_cons, ih]
  | skip _ _ _ ih => simp [ih]
  | stop _ => simp

/-- The visitor is called for the visited expressions, in order, with the state going from one to
the next. -/
theorem called (h : Itinerary visit es s answers result t) :
    calls visit (visited es answers) s = (answers.reduceOption, t) := by
  induction h with
  | done => rfl
  | enter call _ _ ih =>
    rw [visited_cons, calls, call, ih]
    rfl
  | skip call _ _ ih =>
    rw [visited_cons, visited_unvisited_append, calls, call, ih, List.reduceOption_cons_of_some,
      reduceOption_unvisited_append]
  | stop call =>
    rw [visited_cons, visited_unvisited, calls, call, List.reduceOption_cons_of_some,
      reduceOption_unvisited]
    rfl

/-- An expression is passed over exactly if one before it bars the way. -/
theorem omitted (h : Itinerary visit es s answers result t) :
    ∀ j < es.length, answers[j]? = some none ↔ ∃ i, Bars es answers i j := by
  induction h with
  | done => exact fun _ hj => absurd hj (Nat.not_lt_zero _)
  | @enter n es s s' t reply answers result call descend _ ih =>
    refine omitted_cons n (.ok reply) [] _ answers (fun d positive _ => iff_of_false ?_ ?_) ih
    · rintro ⟨skipped, -⟩
      rw [descend] at skipped
      cases skipped
    · exact Nat.not_le_of_lt positive
  | skip call descend _ ih =>
    refine omitted_cons _ _ _ _ _ (fun d _ _ => ?_) ih
    simp only [Answer.Bars, descend, true_and]
  | @stop n es s s' x call =>
    have omitted := omitted_cons n (.error x) es [] [] (fun d _ hd => iff_of_true trivial hd)
      fun _ hj => absurd hj (Nat.not_lt_zero _)
    rwa [List.append_nil, List.append_nil] at omitted

/-- The result that calls with these answers come to: all of them succeed, or the last one stops the
tour. -/
def Outcome (called : List (Answer ε)) (result : Except ε Unit) : Prop :=
  (result = .ok () ∧ ∀ a ∈ called, ∃ reply, a = .ok reply) ∨
    ∃ before x, called = before ++ [.error x] ∧ (∀ a ∈ before, ∃ reply, a = .ok reply) ∧
      result = .error x.error

/-- A further reply in front changes nothing in the outcome. -/
theorem Outcome.cons {called : List (Answer ε)} (h : Outcome called result) (reply : Reply) :
    Outcome (.ok reply :: called) result := by
  obtain ⟨ok, passed⟩ | ⟨before, x, rfl, passed, error⟩ := h
  · exact .inl ⟨ok, List.forall_mem_cons.mpr ⟨⟨reply, rfl⟩, passed⟩⟩
  · exact .inr ⟨.ok reply :: before, x, rfl, List.forall_mem_cons.mpr ⟨⟨reply, rfl⟩, passed⟩, error⟩

/-- Without a refusal the tour succeeds. -/
theorem Outcome.passed {called : List (Answer ε)} (h : Outcome called result)
    (all : ∀ a ∈ called, ∃ reply, a = .ok reply) : result = .ok () := by
  obtain ⟨ok, -⟩ | ⟨before, x, rfl, -, -⟩ := h
  · exact ok
  · obtain ⟨reply, ok⟩ := all (.error x) (List.mem_append_right _ List.mem_cons_self)
    cases ok

/-- A refusal is the last answer, and its error that of the tour. -/
theorem Outcome.stopped {called : List (Answer ε)} (h : Outcome called result) {k : Nat}
    {x : Refusal ε} (error : called[k]? = some (.error x)) :
    called.length = k + 1 ∧ result = .error x.error := by
  have failed : ∀ {answers : List (Answer ε)}, (∀ a ∈ answers, ∃ reply, a = .ok reply) →
      answers[k]? ≠ some (.error x) := by
    intro answers passed here
    obtain ⟨reply, ok⟩ := passed _ (List.mem_of_getElem? here)
    cases ok
  obtain ⟨-, passed⟩ | ⟨before, y, rfl, passed, stopped⟩ := h
  · exact absurd error (failed passed)
  · have first : before.length ≤ k := by
      by_contra earlier
      rw [List.getElem?_append_left (Nat.lt_of_not_le earlier)] at error
      exact failed passed error
    have last : k < before.length + 1 := by
      simpa using (List.getElem?_eq_some_iff.mp error).1
    obtain rfl : k = before.length := by omega
    rw [List.getElem?_concat_length] at error
    obtain rfl := Except.error.inj (Option.some.inj error)
    exact ⟨List.length_append, stopped⟩

/-- The outcome of a tour can be read off the answers. -/
theorem outcome (h : Itinerary visit es s answers result t) :
    Outcome answers.reduceOption result := by
  induction h with
  | done => exact .inl ⟨rfl, List.forall_mem_nil _⟩
  | enter _ _ _ ih =>
    rw [List.reduceOption_cons_of_some]
    exact ih.cons _
  | skip _ _ _ ih =>
    rw [List.reduceOption_cons_of_some, reduceOption_unvisited_append]
    exact ih.cons _
  | @stop n es s s' x call =>
    rw [List.reduceOption_cons_of_some, reduceOption_unvisited]
    exact .inr ⟨[], x, rfl, List.forall_mem_nil _, rfl⟩

/-- What an itinerary says about a tour, all together. -/
theorem account (h : Itinerary visit es s answers result t) :
    Account visit es s answers result t where
  length := h.length
  called := h.called
  omitted := h.omitted
  passed := h.outcome.passed
  stopped _ _ := h.outcome.stopped

/-- What is inside an expression follows it; a tour that goes everywhere shows that. -/
theorem within_follows {seen : List (Node Expr)} {answers : List (Option (Answer Empty))}
    {result : Except Empty Unit} {last : List (Node Expr)}
    (h : Itinerary collect es seen answers result last) {i : Nat} {n : Node Expr}
    (hn : es[i]? = some n) : within n <+: es.drop (i + 1) := by
  induction h generalizing i with
  | done => cases hn
  | enter call _ _ ih =>
    rcases i with _ | i
    · obtain rfl := Option.some.inj hn
      exact List.prefix_append _ _
    · exact ih hn
  | skip call descend _ _ =>
    obtain ⟨reply, -⟩ := Prod.mk.inj call
    obtain rfl := Except.ok.inj reply
    cases descend
  | @stop n es s s' x call => exact x.error.elim

end Itinerary

end Tour
end StructuralTyping
