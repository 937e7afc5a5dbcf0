import StructuralTyping.Proofs.FailurePlaces

/-! # The diagnostics of a program

The statements of a program are checked one after the other, each from where the one before it
stopped.  `Session.failureAt` is what the check of the statement at a position comes to, and the
diagnostics that a program adds are these failures in the order of the statements, each at a node of
its statement (`Session.diagnostics_located`).
-/
namespace StructuralTyping
namespace Session

/-- The failure of a statement that is checked next. -/
def failure? (n : Node Stmt) (s : Session) : Option Failure :=
  match (Checker.checkStmt none n s.state).result with
  | .ok _ => none
  | .error f => some f

/-- The session after the first `i` statements of a program. -/
def after (p : Program) (i : Nat) (s : Session) : Session :=
  (checkBody p.file (p.body.take i) { s with state := { s.state with journal := #[] } }).2

/-- The failure of the statement at a position of a program, if there is such a statement and its
check fails. -/
def failureAt (p : Program) (i : Nat) (s : Session) : Option Failure :=
  p.body[i]?.bind fun n => (s.after p i).failure? n

/-! ## One diagnostic for each failure -/

/-- A statement adds its failure, if it has one, under the name of the file. -/
theorem diagnostics_checkStmt (file : String) (n : Node Stmt) (s : Session) :
    (s.checkStmt file n).2.diagnostics.toList =
      s.diagnostics.toList ++ ((s.failure? n).map (Diagnostic.mk file)).toList := by
  unfold Session.checkStmt failure?
  dsimp only
  cases (Checker.checkStmt none n s.state).result with
  | ok _ => exact (List.append_nil _).symm
  | error f => exact Array.toList_push

/-- What is found at position 0 comes before what is found further on. -/
theorem filterMap_range_succ {β : Type} (f : Nat → Option β) (k : Nat) :
    (List.range (k + 1)).filterMap f =
      (f 0).toList ++ (List.range k).filterMap fun i => f (i + 1) := by
  rw [List.range_succ_eq_map, List.filterMap_cons, List.filterMap_map]
  cases f 0 <;> rfl

/-- The failures of a body are those of its statements, each after the statements before it. -/
theorem diagnostics_checkBody (file : String) (body : List (Node Stmt)) (s : Session) :
    (checkBody file body s).2.diagnostics.toList = s.diagnostics.toList ++
      (List.range body.length).filterMap fun i =>
        (body[i]?.bind fun n => (checkBody file (body.take i) s).2.failure? n).map
          (Diagnostic.mk file) := by
  induction body generalizing s with
  | nil => exact (List.append_nil _).symm
  | cons n rest ih =>
    -- the rest is checked in the session that the statement leaves
    calc (checkBody file (n :: rest) s).2.diagnostics.toList
        = (checkBody file rest (s.checkStmt file n).2).2.diagnostics.toList := rfl
      _ = s.diagnostics.toList ++ ((s.failure? n).map (Diagnostic.mk file)).toList ++ _ := by
        rw [ih, diagnostics_checkStmt]
      _ = _ := by
        rw [List.length_cons, filterMap_range_succ, List.append_assoc]
        rfl

/-- **Diagnostics tell every failure, in order and in place.**  A program adds one diagnostic for
each of its statements whose check fails, in the order of the statements, and no other.  It has the
file of the program and the span of a node of that statement. -/
theorem diagnostics_located (p : Program) (s : Session) :
    (s.check p).2.diagnostics.toList = s.diagnostics.toList ++
      (List.range p.body.length).filterMap (fun i =>
        (s.failureAt p i).map (Diagnostic.mk p.file)) ∧
    ∀ i f, s.failureAt p i = some f →
      ∃ n, p.body[i]? = some n ∧ f.span ∈ Stmt.nodeSpans n := by
  refine ⟨diagnostics_checkBody p.file p.body _, fun i f hf => ?_⟩
  obtain ⟨n, hn, hf⟩ := Option.bind_eq_some_iff.mp hf
  refine ⟨n, hn, ?_⟩
  have blames : Blames (· ∈ Stmt.nodeSpans n)
      (Checker.checkStmt none n (s.after p i).state).result :=
    Blames.checkStmt none n _ fun part hpart x hx => List.mem_flatMap.mpr ⟨part, hpart, hx⟩
  unfold failure? at hf
  split at hf
  · cases hf
  · rename_i g hg
    obtain rfl := Option.some.inj hf
    exact (blames _ hg).span

/-- A place in a source text of which only line and column matter. -/
def spot (line column : UInt32) : Span := ⟨0, 0, line, column⟩

/-- A condition that is not boolean, a value on its own, and a binding annotated with a type that
does not exist.  The first and the last statement fail. -/
def errata : Program where
  file := "errata"
  body :=
    [⟨spot 1 1, .expr ⟨spot 1 1, .conditional ⟨spot 1 4, .literal (.value .null), none⟩
        ⟨spot 1 10, .block [], none⟩ none, none⟩, none⟩,
      ⟨spot 2 1, .expr ⟨spot 2 1, .literal (.value .null), none⟩, none⟩,
      ⟨spot 3 1, .binding .letBinding [⟨⟨spot 3 6, ⟨"n", none⟩, none⟩,
        some ⟨spot 3 9, .named "Missing", none⟩, ⟨spot 3 19, .literal (.value .null), none⟩⟩] [],
        none⟩]

/-- Two of three statements fail, at a place inside of each. -/
theorem diagnostics_located_errata :
    (({} : Session).check errata).2.diagnostics.toList.map (fun d => (d.file, d.failure.span)) =
        [("errata", spot 1 4), ("errata", spot 3 9)] ∧
      (∃ n, errata.body[0]? = some n ∧ spot 1 4 ∈ Stmt.nodeSpans n) ∧
      ∃ n, errata.body[2]? = some n ∧ spot 3 9 ∈ Stmt.nodeSpans n := by
  obtain ⟨told, located⟩ := diagnostics_located errata {}
  have first : (({} : Session).failureAt errata 0).map Failure.span = some (spot 1 4) := by
    decide +kernel
  have last : (({} : Session).failureAt errata 2).map Failure.span = some (spot 3 9) := by
    decide +kernel
  refine ⟨?_, ?_, ?_⟩
  · rw [told]
    decide +kernel
  · obtain ⟨f, hf, span⟩ := Option.map_eq_some_iff.mp first
    exact span ▸ located 0 f hf
  · obtain ⟨f, hf, span⟩ := Option.map_eq_some_iff.mp last
    exact span ▸ located 2 f hf

end Session
end StructuralTyping
