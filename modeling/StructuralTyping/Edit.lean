/-! # Edits of a tree that may stop

Checking and touring a program fill in its slots as they go and may stop in the middle.  What was
filled in before then stays, and so does the state.  An `Edit` is the outcome of working on one
part of a tree: a result or an error, and in both cases the part as it stands now and the state
reached.

`andThen` works on a second part if the first one succeeded, and leaves the second as it was
otherwise; the two are put together in any case. -/

namespace StructuralTyping

/-- The outcome of working on a part of type `τ`, with state `σ`, errors `ε` and results `α`. -/
structure Edit (σ ε τ α : Type) where
  result : Except ε α
  tree : τ
  state : σ

namespace Edit

variable {σ ε τ υ ω α β : Type}

/-- An edit that returns a value and leaves this tree behind. -/
def succeed (a : α) (tree : τ) (state : σ) : Edit σ ε τ α := ⟨.ok a, tree, state⟩

/-- An edit that fails; the tree it leaves behind may be partly rewritten. -/
def fail (e : ε) (tree : τ) (state : σ) : Edit σ ε τ α := ⟨.error e, tree, state⟩

/-- Puts the part back into its surroundings. -/
def rebuild (f : τ → ω) (e : Edit σ ε τ α) : Edit σ ε ω α := ⟨e.result, f e.tree, e.state⟩

/-- Computes the result from what was found; this may fail. -/
def conclude (e : Edit σ ε τ α) (f : α → Except ε β) : Edit σ ε τ β :=
  ⟨e.result.bind f, e.tree, e.state⟩

/-- Computes the result from what was found and the state reached; this may fail. -/
def concludeWith (e : Edit σ ε τ α) (f : α → σ → Except ε β) : Edit σ ε τ β :=
  ⟨e.result.bind fun a => f a e.state, e.tree, e.state⟩

/-- Changes the state that was reached. -/
def mapState (f : σ → σ) (e : Edit σ ε τ α) : Edit σ ε τ α := { e with state := f e.state }

/-- Goes on with a second part after the first; `rest` is the second part as it stands before. -/
def andThen (first : Edit σ ε τ α) (rest : υ) (next : α → σ → Edit σ ε υ β)
    (build : τ → υ → ω) : Edit σ ε ω β :=
  match first.result with
  | .ok a =>
    let second := next a first.state
    ⟨second.result, build first.tree second.tree, second.state⟩
  | .error e => ⟨.error e, build first.tree rest, first.state⟩

/-- Goes on with the same part, as it stands now, after it was worked on. -/
def whenDone (e : Edit σ ε τ α) (next : α → τ → σ → Edit σ ε τ β) : Edit σ ε τ β :=
  match e.result with
  | .ok a => next a e.tree e.state
  | .error x => ⟨.error x, e.tree, e.state⟩

@[simp] theorem rebuild_result (f : τ → ω) (e : Edit σ ε τ α) :
    (e.rebuild f).result = e.result := rfl

@[simp] theorem rebuild_tree (f : τ → ω) (e : Edit σ ε τ α) : (e.rebuild f).tree = f e.tree := rfl

@[simp] theorem rebuild_state (f : τ → ω) (e : Edit σ ε τ α) :
    (e.rebuild f).state = e.state := rfl

@[simp] theorem conclude_tree (e : Edit σ ε τ α) (f : α → Except ε β) :
    (e.conclude f).tree = e.tree := rfl

@[simp] theorem conclude_state (e : Edit σ ε τ α) (f : α → Except ε β) :
    (e.conclude f).state = e.state := rfl

end Edit

end StructuralTyping
