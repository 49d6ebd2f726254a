import Reattempt.Backoff.Delay

/-!
# Cursors

A cursor hands out the delays of a strategy to one execution, up to a limit. The strategy keeps no
state, so cursors over one strategy do not meet.
-/

namespace Reattempt

/-- A position in the delays of a strategy. No limit is written as the absent value. -/
structure Cursor where
  strategy : Strategy
  limit : Value
  attempts : Nat

def isSpentAt (limit attempts : Value) : Except Fault Bool :=
  if limit.isNull then .ok false else attempts.compareBy .atLeast limit

/-- A cursor at the start. The limit of the strategy counts before the one given. -/
def Strategy.start (strategy : Strategy) (fallback : Value) : Cursor :=
  ⟨strategy, if strategy.limit.isNull then fallback else strategy.limit, 0⟩

namespace Cursor

def isSpent (cursor : Cursor) : Except Fault Bool :=
  isSpentAt cursor.limit (.int cursor.attempts)

/-- The next delay and the cursor after it. A spent cursor stays and gives the absent value; when
the strategy fails to compute a delay, the old cursor is still the right one. -/
def next {σ : Type} (calculate : Strategy → Value → Task σ Value) (cursor : Cursor) :
    Task σ (Value × Cursor) := do
  if ← Task.ofExcept cursor.isSpent then pure (.null, cursor)
  else
    let delay ← calculate cursor.strategy (.int cursor.attempts)
    pure (delay, { cursor with attempts := cursor.attempts + 1 })

def quote (cursor : Cursor) : String :=
  recordText "BackoffExecution" [("strategy", cursor.strategy.quote),
    ("attempts", toString cursor.attempts), ("max_attempts", cursor.limit.display)]

end Cursor

end Reattempt
