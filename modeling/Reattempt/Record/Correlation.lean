import Reattempt.Task

/-!
# Correlation ids

A context has a correlation id, which may be absent; records that are written in the context carry
it. `Correlation.scope` does something under an id and restores the id before it, however the
thing ends.
-/

namespace Reattempt

structure Correlation (σ : Type) where
  current : σ → Value
  assign : Value → σ → σ
  current_assign : ∀ v s, current (assign v s) = v

namespace Correlation

variable {σ α : Type} (correlation : Correlation σ)

def get : Task σ Value := Task.gets correlation.current

def set (id : Value) : Task σ Unit := Task.modify (correlation.assign id)

def clear : Task σ Unit := correlation.set .null

def scope (id : Value) (t : Task σ α) : Task σ α := do
  let before ← correlation.get
  correlation.set id
  t.andFinally (correlation.set before)

/-- Do something in a copy of the context, whose changes are lost. -/
def inCopy (t : Task σ α) : Task σ α := do
  correlation.scope (← correlation.get) t

/-- Do something in a context of its own, which starts without an id. -/
def inFresh (t : Task σ α) : Task σ α := correlation.scope .null t

theorem scope_apply (id : Value) (t : Task σ α) (s : σ) :
    correlation.scope id t s =
      ((t (correlation.assign id s)).1,
        correlation.assign (correlation.current s) (t (correlation.assign id s)).2) := by
  rcases h : t (correlation.assign id s) with ⟨a | a, s'⟩ <;>
    simp [scope, get, set, Task.andFinally, Task.bind_apply, Task.endWith, h]

end Correlation

end Reattempt
