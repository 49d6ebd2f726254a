import Reattempt.Proofs.Parameters
import Reattempt.Proofs.Settings

/-!
# What is built

What becomes of the settings of a builder. An explicit strategy does not go together with settings
that shape delays; without one, the settings say whether delays grow. Either way the cursors of the
policy hand out so many delays of the strategy and nothing more, where the limit is that of the
explicit strategy or, if it has none, the number of attempts of the builder.
-/

namespace Reattempt

/-! ### Cursors that count -/

section

variable {σ : Type} {calculate : Strategy → Value → Task σ Value} {limit : Value} {n : Nat}

def Strategy.delaysFrom (calculate : Strategy → Value → Task σ Value) (strategy : Strategy)
    (first count : Nat) : Task σ (List Value) :=
  (List.range' first count).mapM fun i : Nat => calculate strategy (.int i)

theorem Strategy.delaysFrom_zero (strategy : Strategy) (first : Nat) :
    strategy.delaysFrom calculate first 0 = pure [] := by
  rw [delaysFrom, List.range'_zero, List.mapM_nil]

theorem Strategy.delaysFrom_succ (strategy : Strategy) (first count : Nat) :
    strategy.delaysFrom calculate first (count + 1) = (do
      let delay ← calculate strategy (.int first)
      let rest ← strategy.delaysFrom calculate (first + 1) count
      pure (delay :: rest)) := by
  rw [delaysFrom, List.range'_succ, List.mapM_cons]
  rfl

/-- A bounded cursor answers with the delays from its position up to its limit, one after the
other, and with nothing from then on. -/
theorem Cursor.answers_counted (bounds : limit.Bounds n) (strategy : Strategy)
    (asks attempts : Nat) :
    (Cursor.mk strategy limit attempts).answers calculate asks =
      (· ++ List.replicate (asks - (n - attempts)) .null) <$>
        strategy.delaysFrom calculate attempts (min asks (n - attempts)) := by
  induction asks generalizing attempts with
  | zero =>
    rw [Nat.zero_min, Strategy.delaysFrom_zero, Nat.zero_sub, map_pure]
    rfl
  | succ asks ih =>
    by_cases met : n ≤ attempts
    · have spent : (Cursor.mk strategy limit attempts).isSpent = .ok true :=
        (bounds.spent attempts).trans (congrArg Except.ok (decide_eq_true met))
      have nothing : n - attempts = 0 := Nat.sub_eq_zero_of_le met
      rw [nothing, Nat.min_zero, Strategy.delaysFrom_zero, Nat.sub_zero, map_pure]
      funext s
      exact answers_spent spent (asks + 1) s
    · have spent : (Cursor.mk strategy limit attempts).isSpent = .ok false :=
        (bounds.spent attempts).trans (congrArg Except.ok (decide_eq_false met))
      -- One delay is taken off the asks and off what the limit leaves.
      have left : n - attempts = n - (attempts + 1) + 1 := by omega
      rw [left, Nat.add_min_add_right, Nat.add_sub_add_right, Strategy.delaysFrom_succ, answers,
        next_unspent spent, bind_assoc, map_bind]
      congr 1
      funext delay
      rw [pure_bind]
      dsimp only
      rw [ih (attempts + 1)]
      simp only [bind_pure_comp, Functor.map_map, List.cons_append]

end

/-- The cursors of a policy hand out so many delays of a strategy, and nothing more. -/
def Policy.HandsOut (policy : Policy) (strategy : Strategy) (count : Nat) : Prop :=
  ∃ cursor, policy.start = .ok cursor ∧
    ∀ (σ : Type) (calculate : Strategy → Value → Task σ Value) (asks : Nat),
      cursor.answers calculate asks =
        (· ++ List.replicate (asks - count) .null) <$>
          strategy.delaysFrom calculate 0 (min asks count)

namespace Policy

variable {policy : Policy} {strategy : Strategy} {limit : Value} {count : Nat} {n : Int}

theorem handsOut_of_start (starts : policy.start = .ok ⟨strategy, limit, 0⟩)
    (bounds : limit.Bounds count) : policy.HandsOut strategy count := by
  refine ⟨_, starts, fun σ calculate asks => ?_⟩
  exact Cursor.answers_counted bounds strategy asks 0

end Policy

/-! ### Settings that shape delays -/

namespace Value

variable {v : Value} {a : Number}

theorem isNull_iff : v.isNull = true ↔ v = .null := by
  cases v <;> simp [isNull]

end Value

namespace PolicyBuilder

variable {builder : PolicyBuilder} {id : Nat} {policy : Policy}

theorem strategy_steady (absent : builder.backoff = .null)
    (steady : builder.multiplier = .null ∧ builder.maxDelay = .null ∧ builder.jitter = .null)
    (delay : Value) : builder.strategy id delay = .ok .null := by
  obtain ⟨multiplier, maxDelay, jitter⟩ := steady
  rw [strategy, absent, multiplier, maxDelay, jitter]
  rfl

theorem strategy_exponential (absent : builder.backoff = .null)
    (grows : builder.multiplier ≠ .null ∨ builder.maxDelay ≠ .null ∨ builder.jitter ≠ .null)
    (delay : Value) :
    builder.strategy id delay = Value.strategy <$>
      Strategy.exponential id delay (builder.multiplier.orDefault (.float defaultMultiplier))
        builder.maxDelay (if builder.jitter.isTruthy then builder.jitter else .float 0.0)
        builder.maxAttempts := by
  have growing : ¬ (builder.multiplier.isNull && builder.maxDelay.isNull && builder.jitter.isNull) =
      true := by
    simp only [Bool.and_eq_true, Value.isNull_iff, not_and_or]
    tauto
  rw [strategy, absent, Value.isNull, if_neg (by decide), if_neg growing]
  rfl

theorem strategy_growing {delay backoff : Value} (absent : builder.backoff = .null)
    (grows : builder.multiplier ≠ .null ∨ builder.maxDelay ≠ .null ∨ builder.jitter ≠ .null)
    (chosen : builder.strategy id delay = .ok backoff) :
    ∃ strategy, backoff = .strategy strategy ∧
      Strategy.exponential id delay (builder.multiplier.orDefault (.float defaultMultiplier))
        builder.maxDelay (if builder.jitter.isTruthy then builder.jitter else .float 0.0)
        builder.maxAttempts = .ok strategy := by
  rw [strategy_exponential absent grows] at chosen
  obtain ⟨strategy, made, same⟩ := ok_of_map chosen
  exact ⟨strategy, same.symm, made⟩

end PolicyBuilder

end Reattempt
