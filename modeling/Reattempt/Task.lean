import Reattempt.Failure.Fault

/-!
# Tasks

A task reads and changes a state and ends with a value or escapes with a failure; changes made
before an escape stay. Operations, tests, waits and observers are tasks over a state of the
caller's choice, and so are runs. A task that ran out of patience is told apart from one that
raised a failure.
-/

namespace Reattempt

inductive Escape where
  | raised (f : Failure)
  /-- A loop without an end was cut off. -/
  | unfinished

/-- A computation that changes a state and may escape. -/
def Task (σ α : Type) : Type := σ → Except Escape α × σ

namespace Task

variable {σ α β : Type}

protected def pure (a : α) : Task σ α := fun s => (.ok a, s)

protected def bind (t : Task σ α) (next : α → Task σ β) : Task σ β := fun s =>
  match t s with
  | (.ok a, s') => next a s'
  | (.error e, s') => (.error e, s')

instance : Monad (Task σ) where
  pure := Task.pure
  bind := Task.bind

def escape (e : Escape) : Task σ α := fun s => (.error e, s)

def raise (f : Failure) : Task σ α := escape (.raised f)

def fault (f : Fault) : Task σ α := raise f.toFailure

def ofExcept : Except Fault α → Task σ α
  | .ok a => pure a
  | .error f => fault f

def ending (t : Task σ α) : Task σ (Except Escape α) := fun s =>
  match t s with
  | (outcome, s') => (.ok outcome, s')

def endWith : Except Escape α → Task σ α
  | .ok a => pure a
  | .error e => escape e

def read : Task σ σ := fun s => (.ok s, s)

def gets (view : σ → α) : Task σ α := fun s => (.ok (view s), s)

def modify (change : σ → σ) : Task σ Unit := fun s => (.ok (), change s)

/-- Run a task, then a second one whatever way the first ended; the first ending stands unless
the second escapes. -/
def andFinally (t : Task σ α) (last : Task σ Unit) : Task σ α := do
  let outcome ← t.ending
  last
  endWith outcome

/-! ### How tasks run -/

@[simp]
theorem pure_apply (a : α) (s : σ) : (pure a : Task σ α) s = (.ok a, s) := rfl

theorem bind_apply (t : Task σ α) (next : α → Task σ β) (s : σ) :
    (t >>= next) s =
      match t s with
      | (.ok a, s') => next a s'
      | (.error e, s') => (.error e, s') := rfl

theorem bind_ok {t : Task σ α} {next : α → Task σ β} {s s' : σ} {a : α} (h : t s = (.ok a, s')) :
    (t >>= next) s = next a s' := by
  rw [bind_apply, h]

theorem bind_error {t : Task σ α} {next : α → Task σ β} {s s' : σ} {e : Escape}
    (h : t s = (.error e, s')) : (t >>= next) s = (.error e, s') := by
  rw [bind_apply, h]

@[simp]
theorem escape_apply (e : Escape) (s : σ) : (escape e : Task σ α) s = (.error e, s) := rfl

@[simp]
theorem raise_apply (f : Failure) (s : σ) : (raise f : Task σ α) s = (.error (.raised f), s) := rfl

@[simp]
theorem ending_apply (t : Task σ α) (s : σ) : t.ending s = (.ok (t s).1, (t s).2) := rfl

@[simp]
theorem gets_apply (view : σ → α) (s : σ) : gets view s = (.ok (view s), s) := rfl

@[simp]
theorem modify_apply (change : σ → σ) (s : σ) : modify change s = (.ok (), change s) := rfl

theorem bind_pure_right (t : Task σ α) : (t >>= pure) = t := by
  funext s
  rw [bind_apply]
  rcases h : t s with ⟨a | a, s'⟩ <;> rfl

theorem bind_assoc_apply {γ : Type} (t : Task σ α) (f : α → Task σ β) (g : β → Task σ γ) :
    (t >>= f >>= g) = (t >>= fun a => f a >>= g) := by
  funext s
  simp only [bind_apply]
  rcases h : t s with ⟨a | a, s'⟩ <;> rfl

instance : LawfulMonad (Task σ) :=
  LawfulMonad.mk' (Task σ) bind_pure_right (fun _ _ => rfl) bind_assoc_apply

theorem map_apply (f : α → β) (t : Task σ α) (s : σ) : (f <$> t) s = ((t s).1.map f, (t s).2) := by
  rw [← bind_pure_comp, bind_apply]
  rcases t s with ⟨_ | _, _⟩ <;> rfl

end Task

end Reattempt
