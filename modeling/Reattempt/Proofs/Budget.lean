import Reattempt.Execution.Basic
import Reattempt.Policy.Basic

/-!
# Budgets

How many retries a policy allows. The limit of a policy is that of its explicit strategy, or its
own number of attempts; a cursor with a whole limit is spent when it has handed out as many delays.
-/

namespace Reattempt

/-! ### Whole limits -/

namespace Value

variable {limit : Value} {n : Int}

theorem number_of_whole (whole : limit.whole? = some n) : limit.number? = some (.whole n) := by
  cases limit with
  | bool b | int j =>
    cases whole
    rfl
  | _ => cases whole

theorem present_of_whole (whole : limit.whole? = some n) : limit.isNull = false := by
  cases limit with
  | null => cases whole
  | _ => rfl

theorem compareBy_whole (comparison : Comparison) (i : Int) (whole : limit.whole? = some n) :
    (int i).compareBy comparison limit = .ok (comparison.holds (compare i n)) := by
  have number := number_of_whole whole
  rw [compareBy]
  · rw [number]
    rfl
  all_goals simp

theorem compareBy_int_right (comparison : Comparison) (v : Value) (i : Int) :
    v.compareBy comparison (.int i) =
      match v.number? with
      | some a =>
        match a.compare? (.whole i) with
        | some outcome => .ok (comparison.holds outcome)
        | none => .ok false
      | none => .error (.unordered comparison.symbol v.typeName "int") := by
  rw [compareBy]
  · cases v.number? <;> rfl
  all_goals simp

theorem compareBy_zero (comparison : Comparison) :
    (float 0.0).compareBy comparison (.int 0) = .ok (comparison.holds .eq) := by
  have equal : Decimal.compareInt? 0.0 0 = some .eq := by decide +kernel
  have number : (float 0.0).number? = some (.binary 0.0) := rfl
  rw [compareBy_int_right, number]
  dsimp only
  rw [Number.compare?, equal]

end Value

namespace Comparison

theorem atLeast_holds (i n : Int) : atLeast.holds (compare i n) = decide (n ≤ i) := by
  show (compare i n != .lt) = decide (n ≤ i)
  rcases Int.lt_trichotomy i n with less | same | more
  · rw [Int.compare_eq_lt.mpr less]
    exact (decide_eq_false (by omega)).symm
  · rw [Int.compare_eq_eq.mpr same]
    exact (decide_eq_true (by omega)).symm
  · rw [Int.compare_eq_gt.mpr more]
    exact (decide_eq_true (by omega)).symm

theorem below_holds (i n : Int) : below.holds (compare i n) = decide (i < n) := by
  show (compare i n == .lt) = decide (i < n)
  rcases Int.lt_trichotomy i n with less | same | more
  · rw [Int.compare_eq_lt.mpr less]
    exact (decide_eq_true less).symm
  · rw [Int.compare_eq_eq.mpr same]
    exact (decide_eq_false (by omega)).symm
  · rw [Int.compare_eq_gt.mpr more]
    exact (decide_eq_false (by omega)).symm

end Comparison

namespace Cursor

variable {cursor : Cursor} {n : Int}

theorem asks_whole (whole : cursor.limit.whole? = some n) (patience : Nat) :
    cursor.asks patience = (n - cursor.attempts).toNat + 1 := by
  rw [asks, Value.number_of_whole whole]

end Cursor

namespace Value

/-- A limit that is met as soon as so many delays have been handed out. -/
structure Bounds (limit : Value) (n : Nat) : Prop where
  spent (attempts : Nat) : isSpentAt limit (.int attempts) = .ok (decide (n ≤ attempts))
  asks (strategy : Strategy) (attempts patience : Nat) :
    (Cursor.mk strategy limit attempts).asks patience = n - attempts + 1

theorem bounds_of_whole {limit : Value} {i : Int} (whole : limit.whole? = some i) :
    limit.Bounds i.toNat where
  spent attempts := by
    rw [isSpentAt, present_of_whole whole, if_neg Bool.false_ne_true, compareBy_whole _ _ whole,
      Comparison.atLeast_holds]
    exact congrArg Except.ok (decide_eq_decide.mpr (by omega))
  asks strategy attempts patience := by
    rw [Cursor.asks_whole whole]
    dsimp only
    omega

theorem Bounds.isSpent {cursor : Cursor} {n : Nat} (bounds : cursor.limit.Bounds n) :
    cursor.isSpent = .ok (decide (n ≤ cursor.attempts)) :=
  bounds.spent cursor.attempts

end Value

/-! ### Checked parameters -/

theorem ok_of_bind {ε α β : Type} {x : Except ε α} {f : α → Except ε β} {b : β}
    (h : (x >>= f) = .ok b) : ∃ a, x = .ok a ∧ f a = .ok b := by
  cases x with
  | error e => cases h
  | ok a => exact ⟨a, rfl, h⟩

theorem ok_of_map {ε α β : Type} {x : Except ε α} {f : α → β} {b : β} (h : (f <$> x) = .ok b) :
    ∃ a, x = .ok a ∧ f a = b := by
  cases x with
  | error e => cases h
  | ok a => exact ⟨a, rfl, Except.ok.inj h⟩

theorem refuseWhen_eq_ok {comparison : Comparison} {bound : Int} {parameter rule : String}
    {v : Value} :
    refuseWhen comparison bound parameter rule v = .ok () ↔
      v.compareBy comparison (.int bound) = .ok false := by
  rw [refuseWhen]
  rcases v.compareBy comparison (.int bound) with fault | _ | _ <;> simp [bind, Except.bind, pure,
    Except.pure]

theorem refuseBelow_int {bound i : Int} (within : bound ≤ i) (parameter rule : String) :
    refuseBelow bound parameter rule (.int i) = .ok () := by
  refine refuseWhen_eq_ok.mpr ?_
  rw [Value.compareBy_whole _ _ rfl, Comparison.below_holds, decide_eq_false (by omega)]

theorem refuseBelow_zero (parameter rule : String) :
    refuseBelow 0 parameter rule (.float 0.0) = .ok () :=
  refuseWhen_eq_ok.mpr (Value.compareBy_zero .below)

theorem validatePolicy_int {attempts : Int} {delay : Value} (positive : 1 ≤ attempts)
    (least : delay.compareBy .below (.int 0) = .ok false) :
    validatePolicy (.int attempts) delay = .ok attempts := by
  have delayed : refuseBelow 0 "delay" ">= 0" delay = .ok () := refuseWhen_eq_ok.mpr least
  rw [validatePolicy, wholeAttempts, refuseBelow_int positive, delayed]
  rfl

/-- Only an integer passes as a number of attempts, and it stays what it is. -/
theorem bounds_of_validatePolicy {maxAttempts delay : Value} {attempts : Int}
    (checked : validatePolicy maxAttempts delay = .ok attempts) :
    maxAttempts = .int attempts ∧ 1 ≤ attempts ∧ delay.compareBy .below (.int 0) = .ok false := by
  rw [validatePolicy] at checked
  obtain ⟨i, whole, checked⟩ := ok_of_bind checked
  obtain ⟨_, first, checked⟩ := ok_of_bind checked
  obtain ⟨_, second, checked⟩ := ok_of_bind checked
  cases checked
  cases maxAttempts with
  | int j =>
    cases whole
    have bounded := refuseWhen_eq_ok.mp first
    rw [Value.compareBy_whole _ _ rfl, Comparison.below_holds] at bounded
    have : ¬ attempts < 1 := of_decide_eq_false (Except.ok.inj bounded)
    exact ⟨rfl, by omega, refuseWhen_eq_ok.mp second⟩
  | _ => cases whole

namespace Policy

variable {policy : Policy}

/-- What is checked when a policy is made: its numbers are in bounds, and its backoff, if there is
one, is a strategy. -/
structure Sound (policy : Policy) : Prop where
  checked : validatePolicy (.int policy.maxAttempts) policy.delay = .ok policy.maxAttempts
  backoff : policy.backoff = .null ∨ ∃ strategy, policy.backoff = .strategy strategy

/-- The limit on the retries: that of the explicit strategy if it has one, or else the number of
attempts. -/
def limit (policy : Policy) : Value :=
  match policy.backoff with
  | .strategy strategy => if strategy.limit.isNull then .int policy.maxAttempts else strategy.limit
  | _ => .int policy.maxAttempts

theorem sound_of_make {maxAttempts delay backoff classifier : Value} {setting : Nat}
    (typed : backoff = .null ∨ ∃ strategy, backoff = .strategy strategy)
    (made : make maxAttempts delay setting backoff classifier = .ok policy) : policy.Sound := by
  rw [make] at made
  obtain ⟨attempts, checked, made⟩ := ok_of_bind made
  cases made
  obtain ⟨rfl, -⟩ := bounds_of_validatePolicy checked
  exact ⟨checked, typed⟩

theorem strategy_of_given {strategy : Strategy} (given : policy.backoff = .strategy strategy)
    (id : Nat) : policy.strategy id = .ok (.strategy strategy) := by
  rw [Policy.strategy, given]
  rfl

theorem start_of_given {strategy : Strategy} (given : policy.backoff = .strategy strategy) :
    policy.start = .ok ⟨strategy, policy.limit, 0⟩ := by
  rw [Policy.start, strategy_of_given given, Policy.limit, given]
  rfl

theorem Sound.strategy_of_absent (sound : policy.Sound) (absent : policy.backoff = .null)
    (id : Nat) :
    policy.strategy id = .ok (.strategy ⟨id, .int policy.maxAttempts, .fixed policy.delay, []⟩) := by
  obtain ⟨-, most, least⟩ := bounds_of_validatePolicy sound.checked
  have interval : refuseBelow 0 "interval" "non-negative" policy.delay = .ok () :=
    refuseWhen_eq_ok.mpr least
  have delay : refuseBelow 0 "delay" "non-negative" policy.delay = .ok () :=
    refuseWhen_eq_ok.mpr least
  have limit : validateLimit (.int policy.maxAttempts) = .ok () :=
    refuseBelow_int (show 0 ≤ policy.maxAttempts by omega) ..
  rw [Policy.strategy, absent, Value.isNull, if_pos rfl, Strategy.fixed, interval,
    Strategy.constant, delay, limit]
  rfl

theorem Sound.start_of_absent (sound : policy.Sound) (absent : policy.backoff = .null) :
    policy.start =
      .ok ⟨⟨0, .int policy.maxAttempts, .fixed policy.delay, []⟩, policy.limit, 0⟩ := by
  rw [Policy.start, sound.strategy_of_absent absent 0, Policy.limit, absent]
  rfl

theorem Sound.start (sound : policy.Sound) :
    ∃ strategy, policy.strategy 0 = .ok (.strategy strategy) ∧
      policy.start = .ok ⟨strategy, policy.limit, 0⟩ := by
  rcases sound.backoff with absent | ⟨strategy, given⟩
  · exact ⟨_, sound.strategy_of_absent absent 0, sound.start_of_absent absent⟩
  · exact ⟨strategy, strategy_of_given given 0, start_of_given given⟩

end Policy

end Reattempt
