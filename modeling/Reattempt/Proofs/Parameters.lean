import Reattempt.Proofs.Capping
import Reattempt.Proofs.Powers

/-!
# Delays of checked parameters

The checks of parameters refuse what compares below a bound. Nothing compares with a float that is
no number, so it passes them all, and so do infinite floats. A delay that is computed from checked
parameters is never below zero; whether it is a number at all depends on what passed.
-/

namespace Reattempt

namespace Value

variable {v : Value} {a : Number}

def standing? (v : Value) : Option Standing := v.number?.map Number.standing

/-- A number that does not compare below zero. -/
def IsUpward (v : Value) : Prop := ∃ a, v.number? = some a ∧ a.standing ≠ .below

theorem standing?_eq (number : v.number? = some a) : v.standing? = some a.standing := by
  rw [standing?, number, Option.map_some]

theorem compareBy_standing (comparison : Comparison) (number : v.number? = some a) :
    v.compareBy comparison (.int 0) =
      .ok ((a.standing.order?.map comparison.holds).getD false) := by
  rw [compareBy_int_right, number]
  dsimp only
  rw [Number.compare?_zero]
  cases a.standing.order? <;> rfl

theorem number_of_compares {comparison : Comparison} {i : Int} {holds : Bool}
    (compares : v.compareBy comparison (.int i) = .ok holds) : ∃ a, v.number? = some a := by
  rw [compareBy_int_right] at compares
  cases number : v.number? with
  | some a => exact ⟨a, rfl⟩
  | none =>
    rw [number] at compares
    cases compares

theorem isUpward_iff : v.compareBy .below (.int 0) = .ok false ↔ v.IsUpward := by
  constructor
  · intro compares
    obtain ⟨a, number⟩ := number_of_compares compares
    refine ⟨a, number, fun below => ?_⟩
    rw [compareBy_standing .below number, below] at compares
    cases compares
  · rintro ⟨a, number, upward⟩
    rw [compareBy_standing .below number]
    cases stands : a.standing with
    | below => exact absurd stands upward
    | zero | above | infinite | nowhere => rfl

theorem atLeast_zero_iff (number : v.number? = some a) (upward : a.standing ≠ .below) :
    v.compareBy .atLeast (.int 0) = .ok true ↔ a.standing ≠ .nowhere := by
  rw [compareBy_standing .atLeast number]
  cases stands : a.standing with
  | below => exact absurd stands upward
  | zero | above | infinite => exact ⟨fun _ => nofun, fun _ => rfl⟩
  | nowhere => exact ⟨nofun, fun other => absurd rfl other⟩

end Value

/-! ### Products with what is above zero -/

namespace Number

variable {a b c : Number}

theorem standing_product_above (left : a.standing ≠ .below) (right : b.standing = .above)
    (product : a.product b = .ok c) :
    c.standing ≠ .below ∧ (c.standing = .nowhere ↔ a.standing = .nowhere) := by
  have upward : b.standing ≠ .below := by
    rw [right]
    exact nofun
  obtain ⟨above, loses⟩ := standing_product left upward product
  refine ⟨above, loses.trans ?_⟩
  rw [Standing.losesNumber, right]
  simp only [reduceCtorEq, and_false, or_false]

theorem standing_positive {n : Nat} (positive : 0 < n) : (whole n).standing = .above := by
  rw [standing_natural, if_neg (by omega)]

/-- A factor that is a power loses the number where the factor itself does, except in the first
power, and where an infinite one meets zero. -/
theorem standing_product_power {factor : Number} {n : Nat} (left : a.standing ≠ .below)
    (least : b.compare? (.whole 1) ≠ some .lt) (power : b.power (.whole n) = .ok factor)
    (product : a.product factor = .ok c) :
    c.standing ≠ .below ∧
      (c.standing = .nowhere ↔ a.standing = .nowhere ∨ n ≠ 0 ∧
        (b.standing = .nowhere ∨ b.standing = .infinite ∧ a.standing = .zero)) := by
  have stands := standing_power least power
  by_cases none : n = 0
  · rw [if_pos none] at stands
    obtain ⟨above, loses⟩ := standing_product_above left stands product
    refine ⟨above, loses.trans ?_⟩
    simp only [none, ne_eq, not_true_eq_false, false_and, or_false]
  · rw [if_neg none] at stands
    have positions := standing_of_not_below_one least
    have upward : factor.standing ≠ .below := by
      intro below
      rw [← stands, below] at positions
      simp only [reduceCtorEq, or_self] at positions
    have some : b.standing ≠ .zero := by
      intro zero
      rw [zero] at positions
      simp only [reduceCtorEq, or_self] at positions
    obtain ⟨above, loses⟩ := standing_product left upward product
    refine ⟨above, loses.trans ?_⟩
    rw [Standing.losesNumber, stands]
    simp only [none, some, ne_eq, not_false_eq_true, true_and, and_false, or_false]
    rw [and_comm]

end Number

/-! ### Caps -/

/-- No cap, or one that does not compare as zero or below. -/
def Value.IsCap (cap : Value) : Prop :=
  cap.isNull = true ∨ cap.compareBy .atMost (.int 0) = .ok false

theorem Value.IsCap.isUpward {cap : Value} (caps : cap.IsCap) (present : cap.isNull = false) :
    cap.IsUpward := by
  rcases caps with absent | compares
  · rw [present] at absent
    cases absent
  · obtain ⟨a, number⟩ := Value.number_of_compares compares
    refine ⟨a, number, fun below => ?_⟩
    rw [Value.compareBy_standing .atMost number, below] at compares
    cases compares

theorem standing_capped {cap v delay : Value} {size : Number} (caps : cap.IsCap)
    (sized : v.number? = some size) (upward : size.standing ≠ .below)
    (cut : capped cap v = .ok delay) :
    ∃ a, delay.number? = some a ∧ a.standing ≠ .below ∧
      (a.standing = .nowhere ↔ size.standing = .nowhere) := by
  cases present : cap.isNull with
  | true =>
    rw [capped, if_pos present] at cut
    cases cut
    exact ⟨size, sized, upward, Iff.rfl⟩
  | false =>
    obtain ⟨a, number, upward'⟩ := caps.isUpward present
    rw [capped_eq number sized] at cut
    cases cut
    by_cases beyond : a.compare? size = some .lt
    · -- The cap is what is left, and as it compares with the delay, both are numbers.
      have turned : size.compare? a = some .gt := by
        rw [Number.compare?_swap a size, beyond]
        rfl
      have left := Number.isNaN_of_compares turned
      have right := Number.isNaN_of_compares beyond
      rw [if_pos beyond]
      refine ⟨a, number, upward', iff_of_false ?_ ?_⟩
      · rw [← Number.isNaN_iff, left]
        exact Bool.false_ne_true
      · rw [← Number.isNaN_iff, right]
        exact Bool.false_ne_true
    · rw [if_neg beyond]
      exact ⟨size, sized, upward, Iff.rfl⟩

/-! ### Shapes -/

namespace Shape

def cap : Shape → Value
  | .linear _ cap | .fibonacci _ cap | .exponential _ _ cap _ => cap
  | .fixed _ | .constant _ | .table _ => .null

def jitter : Shape → Value
  | .exponential _ _ _ jitter => jitter
  | .fixed _ | .constant _ | .linear _ _ | .fibonacci _ _ | .table _ => .int 0

def grown : Shape → Nat → Except Fault Value
  | .fixed delay, _ | .constant delay, _ => .ok delay
  | .linear base _, n => base.times (.int (n + 1))
  | .fibonacci base _, n => base.times (.int (Reattempt.fibonacci (n + 1)))
  | .exponential base multiplier _ _, n => multiplier.raisedTo (.int n) >>= base.times
  | .table delays, n => tableItem delays (.int n)

def plain (shape : Shape) (n : Nat) : Except Fault Value := shape.grown n >>= capped shape.cap

/-- The checks that are made when a strategy of a growing or constant shape is made. -/
def Checked : Shape → Prop
  | .fixed delay | .constant delay => delay.IsUpward
  | .linear base cap | .fibonacci base cap => base.IsUpward ∧ cap.IsCap
  | .exponential base multiplier cap jitter =>
    base.IsUpward ∧ multiplier.compareBy .below (.int 1) = .ok false ∧ cap.IsCap ∧ jitter.IsUpward
  | .table _ => False

/-- The parameters make a number for a counted attempt: those that count are numbers, and zero is
not multiplied by infinity. -/
def Meaningful : Shape → Nat → Prop
  | .fixed delay, _ | .constant delay, _ => delay.standing? ≠ some .nowhere
  | .linear base _, _ | .fibonacci base _, _ => base.standing? ≠ some .nowhere
  | .exponential base multiplier _ _, n =>
    base.standing? ≠ some .nowhere ∧ (n = 0 ∨ multiplier.standing? ≠ some .nowhere ∧
      ¬ (multiplier.standing? = some .infinite ∧ base.standing? = some .zero))
  | .table _, _ => False

variable {shape : Shape} {n : Nat} {v delay : Value}

theorem Checked.isCap (checked : shape.Checked) : shape.cap.IsCap := by
  cases shape with
  | fixed | constant | table => exact .inl rfl
  | linear | fibonacci => exact checked.2
  | exponential => exact checked.2.2.1

theorem Checked.jitter (checked : shape.Checked) : shape.jitter.IsUpward := by
  cases shape with
  | fixed | constant | linear | fibonacci | table => exact ⟨.whole 0, rfl, nofun⟩
  | exponential => exact checked.2.2.2

theorem fibonacci_pos (n : Nat) : 0 < Reattempt.fibonacci (n + 1) := by
  induction n with
  | zero => decide
  | succ n ih => exact Nat.lt_of_lt_of_le ih (fibonacci_le_succ (n + 1))

theorem standing_times {base : Value} {k : Nat} (upward : base.IsUpward) (positive : 0 < k)
    (times : base.times (.int k) = .ok v) :
    ∃ size, v.number? = some size ∧ size.standing ≠ .below ∧
      (size.standing = .nowhere ↔ base.standing? = some .nowhere) := by
  obtain ⟨a, number, upward⟩ := upward
  rw [Value.times_numbers number (w := .int k) rfl] at times
  obtain ⟨size, product, rfl⟩ := ok_of_map times
  obtain ⟨above, loses⟩ :=
    Number.standing_product_above upward (Number.standing_positive positive) product
  refine ⟨size, Value.number_toValue size, above, ?_⟩
  rw [loses, Value.standing?_eq number, Option.some.injEq]

theorem Checked.grown (checked : shape.Checked) (grows : shape.grown n = .ok v) :
    ∃ size, v.number? = some size ∧ size.standing ≠ .below ∧
      (size.standing = .nowhere ↔ ¬ shape.Meaningful n) := by
  cases shape with
  | fixed delay | constant delay =>
    cases grows
    obtain ⟨a, number, upward⟩ := checked
    refine ⟨a, number, upward, ?_⟩
    rw [Meaningful, Value.standing?_eq number, not_not, Option.some.injEq]
  | linear base cap =>
    obtain ⟨size, sized, upward, loses⟩ := standing_times checked.1 n.succ_pos grows
    exact ⟨size, sized, upward, loses.trans not_not.symm⟩
  | fibonacci base cap =>
    obtain ⟨size, sized, upward, loses⟩ := standing_times checked.1 (fibonacci_pos n) grows
    exact ⟨size, sized, upward, loses.trans not_not.symm⟩
  | exponential base multiplier cap jitter =>
    obtain ⟨⟨a, number, upward⟩, least, -⟩ := checked
    obtain ⟨b, number'⟩ := Value.number_of_compares least
    have least := Strategy.not_below_one number' (refuseWhen_eq_ok.mpr least)
    obtain ⟨factor, power, product⟩ := ok_of_bind grows
    rw [Value.raisedTo_numbers number' (w := .int n) rfl] at power
    obtain ⟨c, raised, rfl⟩ := ok_of_map power
    rw [Value.times_numbers number (Value.number_toValue c)] at product
    obtain ⟨size, multiplied, rfl⟩ := ok_of_map product
    obtain ⟨above, loses⟩ := Number.standing_product_power upward least raised multiplied
    refine ⟨size, Value.number_toValue size, above, loses.trans ?_⟩
    simp only [Meaningful, Value.standing?_eq number, Value.standing?_eq number',
      Option.some.injEq, ne_eq, not_and_or, not_or, not_not]
  | table delays => exact checked.elim

/-- Before jitter, a delay is not below zero, and it is a number exactly if the parameters make
one. -/
theorem Checked.plain (checked : shape.Checked) (delays : shape.plain n = .ok delay) :
    ∃ a, delay.number? = some a ∧ a.standing ≠ .below ∧
      (a.standing = .nowhere ↔ ¬ shape.Meaningful n) := by
  obtain ⟨v, grows, cut⟩ := ok_of_bind delays
  obtain ⟨size, sized, upward, loses⟩ := checked.grown grows
  obtain ⟨a, number, upward', same⟩ := standing_capped checked.isCap sized upward cut
  exact ⟨a, number, upward', same.trans loses⟩

/-- Before jitter, a delay is at most the cap exactly if the parameters make a number and the cap
is one. -/
theorem Checked.within (checked : shape.Checked) (delays : shape.plain n = .ok delay)
    (present : shape.cap.isNull = false) :
    delay.compareBy .atMost shape.cap = .ok true ↔
      shape.Meaningful n ∧ shape.cap.standing? ≠ some .nowhere := by
  obtain ⟨v, grows, cut⟩ := ok_of_bind delays
  obtain ⟨size, sized, -, loses⟩ := checked.grown grows
  obtain ⟨a, number, -⟩ := checked.isCap.isUpward present
  obtain ⟨delay', cut', -, within⟩ := capped_number number sized
  rw [cut] at cut'
  cases cut'
  rw [within, Value.standing?_eq number, ← Bool.not_eq_true, ← Bool.not_eq_true,
    Number.isNaN_iff, Number.isNaN_iff, loses, not_not, ne_eq, Option.some.injEq]

end Shape

end Reattempt
