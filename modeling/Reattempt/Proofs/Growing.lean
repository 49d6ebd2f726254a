import Mathlib.Data.Nat.Fib.Basic
import Reattempt.Proofs.Capping

/-!
# Growing delays

What delays grow to in whole numbers: the linear ones by one base at a time, the Fibonacci ones
like the Fibonacci numbers, and the exponential ones like the powers of the multiplier. A cap cuts
all of them, and keeps their order.
-/

namespace Reattempt

/-! ### Growth -/

inductive Growth where
  | linear
  | fibonacci
  | exponential (multiplier : Nat)

namespace Growth

/-- By how much the base has grown at an attempt. -/
def factor : Growth → Nat → Nat
  | .linear, n => n + 1
  | .fibonacci, n => Nat.fib (n + 1)
  | .exponential multiplier, n => multiplier ^ n

def Grows : Growth → Prop
  | .exponential multiplier => 1 ≤ multiplier
  | _ => True

def delay (growth : Growth) (base : Nat) (cap : Option Nat) (n : Nat) : Nat :=
  match cap with
  | none => base * growth.factor n
  | some most => min (base * growth.factor n) most

variable {growth growth' : Growth} {base most m n : Nat} {cap : Option Nat}

theorem factor_mono (grows : growth.Grows) : Monotone growth.factor := by
  refine monotone_nat_of_le_succ fun n => ?_
  cases growth with
  | linear => exact Nat.le_succ _
  | fibonacci => exact Nat.fib_le_fib_succ
  | exponential multiplier => exact Nat.pow_le_pow_right grows (Nat.le_succ n)

theorem delay_le (less : growth.factor m ≤ growth'.factor n) (base : Nat) (cap : Option Nat) :
    growth.delay base cap m ≤ growth'.delay base cap n := by
  have sizes : base * growth.factor m ≤ base * growth'.factor n := Nat.mul_le_mul_left base less
  cases cap with
  | none => exact sizes
  | some most => exact min_le_min_right most sizes

theorem delay_mono (grows : growth.Grows) : Monotone (growth.delay base cap) := by
  intro m n earlier
  exact delay_le (factor_mono grows earlier) base cap

theorem delay_le_cap : growth.delay base (some most) n ≤ most := Nat.min_le_right ..

theorem delay_stays (grows : growth.Grows) (reached : growth.delay base (some most) m = most)
    (later : m ≤ n) : growth.delay base (some most) n = most := by
  have grown : growth.delay base (some most) m ≤ growth.delay base (some most) n :=
    delay_mono grows later
  rw [reached] at grown
  exact Nat.le_antisymm delay_le_cap grown

theorem fib_le_two_pow (n : Nat) : Nat.fib (n + 1) ≤ 2 ^ n := by
  induction n with
  | zero => decide
  | succ n ih =>
    have less : Nat.fib n ≤ Nat.fib (n + 1) := Nat.fib_le_fib_succ
    rw [Nat.fib_add_two, Nat.pow_succ]
    omega

theorem fibonacci_le_exponential {multiplier : Nat} (doubles : 2 ≤ multiplier) (n : Nat) :
    fibonacci.factor n ≤ (exponential multiplier).factor n :=
  (fib_le_two_pow n).trans (Nat.pow_le_pow_left doubles n)

theorem linear_le_fibonacci (late : 4 ≤ n) : linear.factor n ≤ fibonacci.factor n := by
  show n + 1 ≤ Nat.fib (n + 1)
  exact Nat.le_fib_self (by omega)

end Growth

/-! ### Growing strategies -/

theorem fibonacci_eq_fib (n : Nat) : fibonacci n = Nat.fib n := by
  -- The loop carries two neighbours, so the induction is on the pair.
  have pair : fibonacciPair n = (Nat.fib n, Nat.fib (n + 1)) := by
    induction n with
    | zero => rfl
    | succ n ih =>
      rw [fibonacciPair, ih, Nat.fib_add_two]
  rw [fibonacci, pair]

theorem Number.wholePower_natCast {multiplier : Nat} (grows : 1 ≤ multiplier) (n : Nat) :
    wholePower multiplier n = (multiplier ^ n : Nat) := by
  by_cases one : multiplier = 1
  · subst one
    rw [Nat.one_pow]
    rfl
  · exact wholePower_of_two_le (by omega) n

namespace Growth

variable {growth : Growth} {base : Nat} {cap : Option Nat} {jitter limit : Value}

/-- A cap as a parameter; no cap is the absent value. -/
def capValue : Option Nat → Value
  | none => .null
  | some most => .int most

/-- A strategy that grows in some way. Jitter is a parameter of exponential growth only. -/
def make (growth : Growth) (id : Nat) (base cap jitter limit : Value) : Except Fault Strategy :=
  match growth with
  | .linear => Strategy.linear id base cap limit
  | .fibonacci => Strategy.fibonacci id base cap limit
  | .exponential multiplier => Strategy.exponential id base (.int multiplier) cap jitter limit

def shape (growth : Growth) (base cap jitter : Value) : Shape :=
  match growth with
  | .linear => .linear base cap
  | .fibonacci => .fibonacci base cap
  | .exponential multiplier => .exponential base (.int multiplier) cap jitter

theorem capped_size (growth : Growth) (base n : Nat) (cap : Option Nat) :
    capped (capValue cap) (.int (base * growth.factor n : Nat)) =
      .ok (.int (growth.delay base cap n)) := by
  cases cap with
  | none => rfl
  | some most =>
    have number : (Value.int most).number? = some (.whole most) := rfl
    have sized : (Value.int (base * growth.factor n : Nat)).number? =
        some (.whole (base * growth.factor n : Nat)) := rfl
    rw [capValue, capped_eq number sized, Number.compare?, delay]
    by_cases above : (most : Int) < (base * growth.factor n : Nat)
    · rw [Int.compare_eq_lt.mpr above, if_pos rfl, Nat.min_eq_right (by omega)]
    · have below : compare (most : Int) (base * growth.factor n : Nat) ≠ .lt :=
        fun less => above (Int.compare_eq_lt.mp less)
      rw [if_neg fun same => below (Option.some.inj same), Nat.min_eq_left (by omega)]

theorem capped_product (growth : Growth) (base n : Nat) (cap : Option Nat) :
    ((Value.int base).times (.int (growth.factor n)) >>= capped (capValue cap)) =
      .ok (.int (growth.delay base cap n)) := by
  have size : (Value.int base).times (.int (growth.factor n)) =
      .ok (.int (base * growth.factor n : Nat)) := by
    rw [Int.natCast_mul]
    rfl
  rw [size]
  exact capped_size growth base n cap

/-- In whole numbers a growing strategy calculates the delay of its growth. -/
theorem calculate_shape {strategy : Strategy} (grows : growth.Grows)
    (shaped : strategy.shape = growth.shape (.int base) (capValue cap) jitter)
    (calm : jitter.compareBy .above (.int 0) = .ok false) {σ : Type} (chance : Chance σ) (n : Nat) :
    strategy.calculate chance (.int n) = pure (.int (growth.delay base cap n)) := by
  cases growth with
  | linear =>
    rw [Strategy.calculate, shaped]
    exact congrArg Task.ofExcept (capped_product .linear base n cap)
  | fibonacci =>
    have counted := Shape.fibonacciDelay_counted (.int base) (capValue cap) n
    rw [fibonacci_eq_fib] at counted
    rw [Strategy.calculate, shaped]
    exact congrArg Task.ofExcept (counted.trans (capped_product .fibonacci base n cap))
  | exponential multiplier =>
    have power : (Value.int multiplier).raisedTo (.int n) = .ok (.int (multiplier ^ n : Nat)) := by
      rw [Value.raisedTo_numbers (a := .whole multiplier) (b := .whole n) rfl rfl,
        ← Number.wholePower_natCast grows]
      rfl
    rw [Strategy.calculate_of_calm shaped calm, Shape.exponentialDelay, power]
    exact congrArg Task.ofExcept (capped_product (.exponential multiplier) base n cap)

theorem cap_passes (positive : ∀ most, cap = some most → 0 < most) (parameter rule : String) :
    unlessNull (refuseWhen .atMost 0 parameter rule) (capValue cap) = .ok () := by
  cases cap with
  | none => rfl
  | some most =>
    have above : (0 : Int) < most := Int.natCast_pos.mpr (positive most rfl)
    have apart : compare (most : Int) 0 = .gt := Int.compare_eq_gt.mpr above
    refine refuseWhen_eq_ok.mpr ?_
    rw [capValue, Value.compareBy_whole _ _ rfl, apart]
    rfl

/-- A growing strategy can be made with every base, every positive cap and no jitter. -/
theorem make_ok (grows : growth.Grows) (positive : ∀ most, cap = some most → 0 < most)
    (checked : validateLimit limit = .ok ()) (least : jitter.compareBy .below (.int 0) = .ok false)
    (id base : Nat) : growth.make id (.int base) (capValue cap) jitter limit =
      .ok ⟨id, limit, growth.shape (.int base) (capValue cap) jitter, []⟩ := by
  have parameters {share : Value} (least : share.compareBy .below (.int 0) = .ok false) :
      validateBackoff (.int base) (capValue cap) limit share = .ok () := by
    have calm : refuseBelow 0 "jitter" "non-negative" share = .ok () := refuseWhen_eq_ok.mpr least
    rw [validateBackoff, refuseBelow_int (Int.natCast_nonneg base), cap_passes positive, checked, calm]
    rfl
  have still := parameters (Value.compareBy_zero .below)
  cases growth with
  | linear =>
    rw [make, Strategy.linear, still]
    rfl
  | fibonacci =>
    rw [make, Strategy.fibonacci, still]
    rfl
  | exponential multiplier =>
    have factor : (1 : Int) ≤ multiplier := Int.ofNat_le.mpr grows
    rw [make, Strategy.exponential, parameters least, refuseBelow_int factor]
    rfl

/-- Growing delays in whole numbers. Every base, every positive cap and every multiplier above zero
make a strategy; its delays are those of its growth, whatever chance brings, they never get
smaller, and they stay at the cap once they are there. Fibonacci delays are never above those of a
multiplier above one, and from the fifth attempt on not below the linear ones. -/
theorem make_calculates (id base : Nat)
    (positive : ∀ most, cap = some most → 0 < most) (checked : validateLimit limit = .ok ())
    (least : jitter.compareBy .below (.int 0) = .ok false)
    (calm : jitter.compareBy .above (.int 0) = .ok false) :
    (∀ growth : Growth, growth.Grows → ∃ strategy,
      growth.make id (.int base) (capValue cap) jitter limit = .ok strategy ∧
        (∀ (σ : Type) (chance : Chance σ) (n : Nat),
          strategy.calculate chance (.int n) = pure (.int (growth.delay base cap n))) ∧
        (∀ m n, m ≤ n → growth.delay base cap m ≤ growth.delay base cap n) ∧
        ∀ most m n, cap = some most → growth.delay base cap m = most → m ≤ n →
          growth.delay base cap n = most) ∧
      (∀ multiplier n, 2 ≤ multiplier →
        fibonacci.delay base cap n ≤ (exponential multiplier).delay base cap n) ∧
      ∀ n, 4 ≤ n → linear.delay base cap n ≤ fibonacci.delay base cap n := by
  refine ⟨fun growth grows => ?_, ?_, ?_⟩
  · refine ⟨_, make_ok grows positive checked least id base, ?_, ?_, ?_⟩
    · intro σ chance n
      exact calculate_shape grows rfl calm chance n
    · intro m n earlier
      exact delay_mono grows earlier
    · intro most m n given reached later
      subst given
      exact delay_stays grows reached later
  · intro multiplier n doubles
    exact delay_le (fibonacci_le_exponential doubles n) base cap
  · intro n late
    exact delay_le (linear_le_fibonacci late) base cap

/-- Delays of three, up to a hundred. -/
theorem make_calculates_threes :
    (0 < 100) ∧ validateLimit .null = .ok () ∧
      (Value.float 0.0).compareBy .below (.int 0) = .ok false ∧
      (Value.float 0.0).compareBy .above (.int 0) = .ok false ∧
      ∃ strategy, Strategy.fibonacci 1 (.int 3) (.int 100) .null = .ok strategy ∧
        ∀ chance : Chance Unit, strategy.calculate chance (.int 6) = pure (.int 39) ∧
          strategy.calculate chance (.int 9) = pure (.int 100) := by
  have least : (Value.float 0.0).compareBy .below (.int 0) = .ok false := Value.compareBy_zero .below
  have calm : (Value.float 0.0).compareBy .above (.int 0) = .ok false := Value.compareBy_zero .above
  have positive : ∀ most, some 100 = some most → 0 < most := by
    intro most same
    cases same
    decide
  have checked : validateLimit .null = .ok () := rfl
  obtain ⟨strategies, -, -⟩ := make_calculates 1 3 positive checked least calm
  obtain ⟨strategy, made, calculates, -, -⟩ := strategies fibonacci trivial
  exact ⟨by decide, rfl, least, calm, strategy, made, fun chance =>
    ⟨calculates Unit chance 6, calculates Unit chance 9⟩⟩

end Growth

end Reattempt
