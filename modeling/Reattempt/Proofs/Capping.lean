import Reattempt.Proofs.Answers
import Reattempt.Proofs.Finiteness
import Reattempt.Proofs.Range

/-!
# Capped strategies

A cap is put on a delay that has been computed. The computation succeeds for ever as long as it
stays with whole numbers; as soon as a float takes part in it, a late attempt leaves the range of
floats, and the strategy fails before its cap counts.
-/

namespace Reattempt

/-! ### Capped values -/

def Value.IsFinite (v : Value) : Prop := ∃ a, v.number? = some a ∧ a.isFinite = true

def Value.IsWhole (v : Value) : Prop := ∃ i, v.number? = some (.whole i)

theorem Value.number_toValue (a : Number) : a.toValue.number? = some a := by
  cases a <;> rfl

variable {cap v : Value} {a size : Number}

theorem capped_eq (number : cap.number? = some a) (sized : v.number? = some size) :
    capped cap v = .ok (if a.compare? size = some .lt then cap else v) := by
  have present : cap.isNull = false := by
    cases cap with
    | null => cases number
    | _ => rfl
  rw [capped, present, if_neg Bool.false_ne_true, Value.smaller,
    Value.compareBy_numbers .below number sized]
  rcases a.compare? size with _ | _ | _ | _ <;> rfl

/-- What a cap leaves of a number is never above the cap, and is at most the cap exactly if both
are numbers that compare. -/
theorem capped_number (number : cap.number? = some a) (sized : v.number? = some size) :
    ∃ delay, capped cap v = .ok delay ∧ delay.compareBy .above cap = .ok false ∧
      (delay.compareBy .atMost cap = .ok true ↔ size.isNaN = false ∧ a.isNaN = false) := by
  refine ⟨_, capped_eq number sized, ?_⟩
  by_cases beyond : a.compare? size = some .lt
  · have turned : size.compare? a = some .gt := by
      rw [Number.compare?_swap a size, beyond]
      rfl
    have ordinary := Number.isNaN_of_compares turned
    rw [if_pos beyond, Value.compareBy_numbers .above number number,
      Value.compareBy_numbers .atMost number number, Number.compare?_self ordinary]
    exact ⟨rfl, fun _ => ⟨Number.isNaN_of_compares beyond, ordinary⟩, fun _ => rfl⟩
  · rw [if_neg beyond, Value.compareBy_numbers .above sized number,
      Value.compareBy_numbers .atMost sized number]
    cases compares : size.compare? a with
    | none =>
      refine ⟨rfl, nofun, fun ⟨sized', ordinary⟩ => ?_⟩
      obtain ⟨outcome, compares'⟩ := Number.compare?_isSome sized' ordinary
      rw [compares] at compares'
      cases compares'
    | some outcome =>
      have turned : a.compare? size = some outcome.swap := by
        rw [Number.compare?_swap size a, compares]
        rfl
      have numbers := And.intro (Number.isNaN_of_compares turned)
        (Number.isNaN_of_compares compares)
      cases outcome with
      | gt => exact absurd turned beyond
      | lt | eq => exact ⟨rfl, fun _ => numbers, fun _ => rfl⟩

/-! ### Calculated delays -/

namespace Strategy

variable {strategy : Strategy} {grown : Nat → Except Fault Number} {n : Nat}

/-- A strategy has a delay for every counted attempt, and the delay is at most the cap. -/
def KeepsCap (strategy : Strategy) (cap : Value) : Prop :=
  ∀ (σ : Type) (chance : Chance σ) (n : Nat) (s : σ), ∃ delay,
    strategy.calculate chance (.int n) s = (.ok delay, s) ∧ delay.compareBy .atMost cap = .ok true

def GrowsBy (strategy : Strategy) (cap : Value) (grown : Nat → Except Fault Number) : Prop :=
  ∀ (σ : Type) (chance : Chance σ) (n : Nat),
    strategy.calculate chance (.int n) =
      Task.ofExcept (grown n >>= fun size => capped cap size.toValue)

theorem GrowsBy.calculate_ok (grows : strategy.GrowsBy cap grown) (bounded : cap.IsFinite)
    {size : Number} (sized : grown n = .ok size) {σ : Type} (chance : Chance σ) (s : σ) :
    ∃ delay, strategy.calculate chance (.int n) s = (.ok delay, s) ∧
      delay.compareBy .above cap = .ok false ∧
      (delay.compareBy .atMost cap = .ok true ↔ size.isNaN = false) := by
  obtain ⟨a, number, finite⟩ := bounded
  have ordinary := Number.isNaN_of_isFinite finite
  obtain ⟨delay, cuts, within, compares⟩ := capped_number number (Value.number_toValue size)
  refine ⟨delay, ?_, within, compares.trans (and_iff_left ordinary)⟩
  have same : (grown n >>= fun size => capped cap size.toValue) = .ok delay := by
    rw [sized]
    exact cuts
  rw [grows, same]
  rfl

theorem GrowsBy.calculate_error (grows : strategy.GrowsBy cap grown) {fault : Fault}
    (fails : grown n = .error fault) {σ : Type} (chance : Chance σ) (s : σ) :
    strategy.calculate chance (.int n) s = (.error (.raised fault.toFailure), s) := by
  rw [grows, fails]
  rfl

theorem GrowsBy.keepsCap_iff (grows : strategy.GrowsBy cap grown) (bounded : cap.IsFinite) :
    strategy.KeepsCap cap ↔ ∀ n, ∃ size, grown n = .ok size ∧ size.isNaN = false := by
  constructor
  · intro keeps n
    let chance : Chance Unit := ⟨fun low _ => pure low, fun _ => pure ()⟩
    obtain ⟨delay, calculated, within⟩ := keeps Unit chance n ()
    cases sized : grown n with
    | error fault =>
      rw [grows.calculate_error sized] at calculated
      cases calculated
    | ok size =>
      obtain ⟨delay', calculated', -, compares⟩ := grows.calculate_ok bounded sized chance ()
      rw [calculated] at calculated'
      cases calculated'
      exact ⟨size, rfl, compares.mp within⟩
  · intro sizes σ chance n s
    obtain ⟨size, sized, number⟩ := sizes n
    obtain ⟨delay, calculated, -, compares⟩ := grows.calculate_ok bounded sized chance s
    exact ⟨delay, calculated, compares.mpr number⟩

end Strategy

/-! ### Growth -/

namespace Number

variable {a b : Number}

/-- Products with whole numbers that pass every bound succeed for ever only if all is whole. -/
theorem product_whole_iff (finite : a.isFinite = true) {factor : Nat → Nat}
    (unbounded : ∃ n, Decimal.range ≤ factor n) :
    (∀ n, ∃ size, a.product (.whole (factor n)) = .ok size ∧ size.isNaN = false) ↔
      ∃ i, a = .whole i := by
  constructor
  · intro sizes
    cases a with
    | whole i => exact ⟨i, rfl⟩
    | binary x =>
      obtain ⟨n, large⟩ := unbounded
      obtain ⟨size, sized, -⟩ := sizes n
      rw [product_of_large x (Int.ofNat_le.mpr large)] at sized
      cases sized
  · rintro ⟨i, rfl⟩ n
    exact ⟨_, rfl, rfl⟩

/-- Powers times a base succeed for ever only if the powers are whole, and the base is whole as
well or the powers do not grow. -/
theorem power_product_iff (finite : a.isFinite = true) (least : b.compare? (.whole 1) ≠ some .lt) :
    (∀ n : Nat, ∃ size, (b.power (.whole n) >>= a.product) = .ok size ∧ size.isNaN = false) ↔
      ∃ i, b = .whole i ∧ (i = 1 ∨ ∃ j, a = .whole j) := by
  constructor
  · intro sizes
    cases b with
    | binary x =>
      -- Here the exponent itself has no float, whatever the multiplier is.
      obtain ⟨size, sized, -⟩ := sizes Decimal.range
      rw [power_of_large x (Nat.le_refl _)] at sized
      cases sized
    | whole i =>
      refine ⟨i, rfl, ?_⟩
      cases a with
      | whole j => exact .inr ⟨j, rfl⟩
      | binary x =>
        have positive : 1 ≤ i := Int.not_lt.mp fun below =>
          least (congrArg some (Int.compare_eq_lt.mpr below))
        refine Classical.byContradiction fun other => ?_
        -- A whole multiplier above one leaves the range after as many steps as the range has bits.
        have large : 2 ≤ i.toNat := by omega
        obtain ⟨size, sized, -⟩ := sizes Decimal.rangeBits
        have whole : i = i.toNat := by omega
        have sized : (binary x).product (.whole (wholePower i Decimal.rangeBits)) = .ok size := sized
        rw [whole, wholePower_of_two_le large, product_of_large] at sized
        · cases sized
        · exact Int.ofNat_le.mpr (Nat.pow_le_pow_left large _)
  · rintro ⟨i, rfl, rfl | ⟨j, rfl⟩⟩ n
    · cases a with
      | whole j => exact ⟨_, rfl, rfl⟩
      | binary x =>
        have power : (whole 1).power (.whole n) = .ok (whole 1) := rfl
        obtain ⟨sized, number⟩ := product_one finite
        rw [power]
        exact ⟨_, sized, number⟩
    · exact ⟨_, rfl, rfl⟩

end Number

theorem fibonacci_le_succ (n : Nat) : fibonacci n ≤ fibonacci (n + 1) := by
  cases n with
  | zero => decide
  | succ n =>
    rw [fibonacci_add_two]
    omega

theorem two_pow_le_fibonacci (n : Nat) : 2 ^ n ≤ fibonacci (2 * n + 1) := by
  induction n with
  | zero => decide
  | succ n ih =>
    have step : fibonacci (2 * (n + 1) + 1) = fibonacci (2 * n + 1) + fibonacci (2 * n + 1 + 1) :=
      fibonacci_add_two (2 * n + 1)
    have more := fibonacci_le_succ (2 * n + 1)
    rw [step, Nat.pow_succ]
    omega

theorem fibonacciAt_counted (n : Nat) :
    fibonacciAt (.int (n + 1)) = .ok (.int (fibonacci (n + 1))) := by
  match n with
  | 0 => rfl
  | 1 => rfl
  | n + 2 =>
    have first : compare (((n + 2 : Nat) : Int) + 1) 0 = .gt := Int.compare_eq_gt.mpr (by omega)
    have second : compare (((n + 2 : Nat) : Int) + 1) 2 = .gt := Int.compare_eq_gt.mpr (by omega)
    rw [fibonacciAt, Value.compareBy_whole _ _ rfl, Value.compareBy_whole _ _ rfl, first, second]
    rfl

theorem Shape.fibonacciDelay_counted (base cap : Value) (n : Nat) :
    Shape.fibonacciDelay base cap (.int n) =
      (base.times (.int (Reattempt.fibonacci (n + 1))) >>= capped cap) := by
  have counted : (Value.int n).plus (.int 1) = .ok (.int (n + 1)) := rfl
  rw [Shape.fibonacciDelay, counted]
  show (fibonacciAt (.int (n + 1)) >>= fun number => base.times number >>= capped cap) = _
  rw [fibonacciAt_counted]
  rfl

/-! ### Capped strategies -/

/-- A strategy that was made with finite parameters and a cap, and that adds no jitter. -/
inductive Strategy.Capped (cap : Value) : Strategy → Prop where
  | linear {id base limit strategy} (finite : base.IsFinite)
      (made : Strategy.linear id base cap limit = .ok strategy) : Capped cap strategy
  | fibonacci {id base limit strategy} (finite : base.IsFinite)
      (made : Strategy.fibonacci id base cap limit = .ok strategy) : Capped cap strategy
  | exponential {id base multiplier jitter limit strategy} (finite : base.IsFinite)
      (finite' : multiplier.IsFinite) (calm : jitter.compareBy .above (.int 0) = .ok false)
      (made : Strategy.exponential id base multiplier cap jitter limit = .ok strategy) :
      Capped cap strategy

/-- Delays grow within the whole numbers, or not at all. -/
def Shape.Exact : Shape → Prop
  | .linear base _ | .fibonacci base _ => base.IsWhole
  | .exponential base multiplier _ _ =>
    multiplier.number? = some (.whole 1) ∨ multiplier.IsWhole ∧ base.IsWhole
  | .fixed _ | .constant _ | .table _ => True

namespace Value

variable {v w : Value} {a b : Number}

theorem times_numbers (left : v.number? = some a) (right : w.number? = some b) :
    v.times w = Number.toValue <$> a.product b := by
  rw [times, left, right]
  rfl

theorem raisedTo_numbers (left : v.number? = some a) (right : w.number? = some b) :
    v.raisedTo w = Number.toValue <$> a.power b := by
  rw [raisedTo, left, right]

theorem isWhole_iff (number : v.number? = some a) : v.IsWhole ↔ ∃ i, a = .whole i := by
  simp only [IsWhole, number, Option.some.injEq]

end Value

structure Strategy.Grown (strategy : Strategy) (cap : Value) (grown : Nat → Except Fault Number) :
    Prop where
  grows : strategy.GrowsBy cap grown
  error (n : Nat) (fault : Fault) (fails : grown n = .error fault) :
    fault.kind = Kind.overflowError
  exact_iff : (∀ n, ∃ size, grown n = .ok size ∧ size.isNaN = false) ↔ strategy.shape.Exact

namespace Strategy

variable {strategy : Strategy}

theorem grown_of_factor (factor : Nat → Nat) {base : Value} {a : Number}
    (number : base.number? = some a) (finite : a.isFinite = true)
    (unbounded : ∃ n, Decimal.range ≤ factor n)
    (calculates : ∀ (σ : Type) (chance : Chance σ) (n : Nat),
      strategy.calculate chance (.int n) =
        Task.ofExcept (base.times (.int (factor n)) >>= capped cap))
    (shape : strategy.shape.Exact ↔ base.IsWhole) :
    strategy.Grown cap fun n => a.product (.whole (factor n)) where
  grows σ chance n := by
    rw [calculates, Value.times_numbers number rfl, bind_map_left]
  error n fault fails := Number.product_error fails
  exact_iff := by
    rw [Number.product_whole_iff finite unbounded, shape, Value.isWhole_iff number]

theorem not_below_one {multiplier : Value} {b : Number} (number : multiplier.number? = some b)
    (checked : refuseBelow 1 "multiplier" ">= 1" multiplier = .ok ()) :
    b.compare? (.whole 1) ≠ some .lt := by
  intro below
  have checked := refuseWhen_eq_ok.mp checked
  rw [Value.compareBy_int_right, number] at checked
  dsimp only at checked
  rw [below] at checked
  cases checked

theorem calculate_of_calm {base multiplier jitter : Value} {σ : Type}
    (shape : strategy.shape = .exponential base multiplier cap jitter)
    (calm : jitter.compareBy .above (.int 0) = .ok false) (chance : Chance σ) (attempt : Value) :
    strategy.calculate chance attempt =
      Task.ofExcept (Shape.exponentialDelay base multiplier cap attempt) := by
  rw [calculate, shape]
  dsimp only
  rw [calm]
  cases Shape.exponentialDelay base multiplier cap attempt <;> rfl

theorem grown_of_power {base multiplier jitter : Value} {a b : Number}
    (shape : strategy.shape = .exponential base multiplier cap jitter)
    (calm : jitter.compareBy .above (.int 0) = .ok false) (number : base.number? = some a)
    (number' : multiplier.number? = some b) (finite : a.isFinite = true)
    (least : b.compare? (.whole 1) ≠ some .lt) :
    strategy.Grown cap fun n => b.power (.whole n) >>= a.product where
  grows σ chance n := by
    rw [calculate_of_calm shape calm, Shape.exponentialDelay,
      Value.raisedTo_numbers number' (w := .int n) rfl, bind_map_left, bind_assoc]
    simp only [Value.times_numbers number (Value.number_toValue _), bind_map_left]
  error n fault fails := by
    cases power : b.power (.whole n) with
    | error cause =>
      rw [power] at fails
      cases fails
      exact Number.power_error least power
    | ok factor =>
      rw [power] at fails
      exact Number.product_error fails
  exact_iff := by
    rw [Number.power_product_iff finite least, shape, Shape.Exact, number', Value.isWhole_iff number,
      Value.isWhole_iff number']
    constructor
    · rintro ⟨i, rfl, rfl | whole⟩
      · exact .inl rfl
      · exact .inr ⟨⟨i, rfl⟩, whole⟩
    · rintro (one | ⟨⟨i, rfl⟩, whole⟩)
      · exact ⟨1, Option.some.inj one, .inl rfl⟩
      · exact ⟨i, rfl, .inr whole⟩

theorem Capped.grown (caps : strategy.Capped cap) : ∃ grown, strategy.Grown cap grown := by
  cases caps with
  | @linear _ base _ _ finite made =>
    obtain ⟨a, number, finite⟩ := finite
    obtain ⟨_, -, made⟩ := ok_of_bind made
    cases made
    exact ⟨_, grown_of_factor Nat.succ number finite ⟨Decimal.range, Nat.le_succ Decimal.range⟩
      (fun σ chance n => rfl) Iff.rfl⟩
  | @fibonacci _ base _ _ finite made =>
    obtain ⟨a, number, finite⟩ := finite
    obtain ⟨_, -, made⟩ := ok_of_bind made
    cases made
    exact ⟨_, grown_of_factor (fun n => Reattempt.fibonacci (n + 1)) number finite
      ⟨2 * Decimal.rangeBits, two_pow_le_fibonacci _⟩
      (fun σ chance n => congrArg Task.ofExcept (Shape.fibonacciDelay_counted base cap n)) Iff.rfl⟩
  | @exponential _ base multiplier jitter _ _ finite finite' calm made =>
    obtain ⟨a, number, finite⟩ := finite
    obtain ⟨b, number', -⟩ := finite'
    obtain ⟨_, -, made⟩ := ok_of_bind made
    obtain ⟨_, checked, made⟩ := ok_of_bind made
    cases made
    exact ⟨_, grown_of_power rfl calm number number' finite (not_below_one number' checked)⟩

end Strategy

/-! ### Executions under capped strategies -/

/-- The operation never returns, no failure is rejected, and nothing but a strategy cuts the run
short. -/
structure KeepsFailing (journal : List (Entry Call)) : Prop where
  smooth : ∀ entry ∈ journal, (∀ strategy attempt, entry.call ≠ .calculate strategy attempt) →
    entry.Smooth .invoke
  fails : ∀ name v, ⟨name, .invoke, .ok v⟩ ∉ journal
  accepted : ∀ name f, ⟨name, .classify f, .ok (.bool false)⟩ ∉ journal

theorem alwaysFails_iff_keepsFailing {journal : List (Entry Call)} :
    AlwaysFails journal ↔ KeepsFailing journal ∧ ∀ entry ∈ journal, ∀ strategy attempt,
      entry.call = .calculate strategy attempt → entry.Smooth .invoke := by
  constructor
  · intro always
    exact ⟨⟨fun entry member _ => always.smooth entry member, always.fails, always.accepted⟩,
      fun entry member _ _ _ => always.smooth entry member⟩
  · rintro ⟨failing, calculated⟩
    refine ⟨fun entry member => ?_, failing.fails, failing.accepted⟩
    by_cases asks : ∃ strategy attempt, entry.call = .calculate strategy attempt
    · obtain ⟨strategy, attempt, asks⟩ := asks
      exact calculated entry member strategy attempt asks
    · exact failing.smooth entry member fun strategy attempt same => asks ⟨strategy, attempt, same⟩

theorem Execution.calculated_smooth {σ : Type} {execution : Execution σ}
    (returns : ∀ cursor, execution.start = .ok cursor → ∀ (attempts : Nat) (s : σ),
      ∃ delay s', execution.calculate cursor.strategy (.int attempts) s = (.ok delay, s'))
    (s : σ) : ∀ entry ∈ execution.journal s, ∀ strategy attempt,
      entry.call = .calculate strategy attempt → entry.Smooth .invoke := by
  intro entry member strategy attempt same
  obtain ⟨⟨before, ends⟩, counted⟩ := execution.journal_answered s entry member
  obtain ⟨cursor, attempts, starts, rfl, rfl⟩ := counted strategy attempt same
  obtain ⟨delay, after, calculated⟩ := returns cursor starts attempts before
  have ends : entry.ending = .ok delay := by
    rw [ends, same]
    exact congrArg Prod.fst calculated
  exact Entry.smooth_of_ok ends

namespace Strategy

variable {strategy : Strategy}

theorem KeepsCap.always {σ ℓ : Type} {template : Template σ ℓ} {operation : Operation σ} {s : σ}
    {policy : Policy} (keeps : strategy.KeepsCap cap) (held : template.policy s = some policy)
    (given : policy.backoff = .strategy strategy)
    (failing : KeepsFailing (template.journal operation s)) :
    AlwaysFails (template.journal operation s) := by
  refine alwaysFails_iff_keepsFailing.mpr
    ⟨failing, (template.started operation s).calculated_smooth ?_ s⟩
  intro cursor starts attempts s'
  rw [Template.started_start held, Policy.start_of_given given] at starts
  cases starts
  obtain ⟨delay, calculated, -⟩ := keeps σ template.chance attempts s'
  exact ⟨delay, s', calculated⟩

/-- A capped strategy always has a delay within its cap exactly if its growth is exact. In any case
a delay is never above the cap, and what fails leaves the range. Under a policy with a strategy
that keeps its cap, an operation that keeps failing is given up with all its failures. -/
theorem Capped.keepsCap_iff_exact (caps : strategy.Capped cap) (bounded : cap.IsFinite) :
    (strategy.KeepsCap cap ↔ strategy.shape.Exact) ∧
      (∀ (σ : Type) (chance : Chance σ) (n : Nat) (s : σ),
        (∃ delay, strategy.calculate chance (.int n) s = (.ok delay, s) ∧
          delay.compareBy .above cap = .ok false) ∨
        ∃ fault : Fault, fault.kind = Kind.overflowError ∧
          strategy.calculate chance (.int n) s = (.error (.raised fault.toFailure), s)) ∧
      (strategy.KeepsCap cap →
        ∀ (σ ℓ : Type) (template : Template σ ℓ) (operation : Operation σ) (s : σ)
          (policy : Policy) (n : Nat), template.policy s = some policy →
            policy.backoff = .strategy strategy → policy.limit.Bounds n →
              KeepsFailing (template.journal operation s) →
                ∃ message last earlier, (template.execute operation s).1 =
                    .error (.raised (.exhausted message last earlier operation.self)) ∧
                  earlier.length ≤ n ∧
                  Execution.FailedWith (template.journal operation s) (earlier ++ [last])) := by
  obtain ⟨grown, grows, overflows, exact_iff⟩ := caps.grown
  refine ⟨(grows.keepsCap_iff bounded).trans exact_iff, ?_, ?_⟩
  · intro σ chance n s
    cases sized : grown n with
    | ok size =>
      obtain ⟨delay, calculated, within, -⟩ := grows.calculate_ok bounded sized chance s
      exact .inl ⟨delay, calculated, within⟩
    | error fault => exact .inr ⟨fault, overflows n fault sized, grows.calculate_error sized chance s⟩
  · intro keeps σ ℓ template operation s policy n held given bounds failing
    have always := keeps.always held given failing
    have starts : (template.started operation s).start = _ :=
      (Template.started_start held).trans (Policy.start_of_given given)
    exact (Template.execute_passage always.smooth).spends starts bounds always.fails
      always.accepted

theorem exponential_made {base multiplier : Value}
    (first : base.compareBy .below (.int 0) = .ok false)
    (second : multiplier.compareBy .below (.int 1) = .ok false) :
    Strategy.exponential 1 base multiplier (.float 5.0) (.float 0.0) .null =
      .ok ⟨1, .null, .exponential base multiplier (.float 5.0) (.float 0.0), []⟩ := by
  have based : refuseBelow 0 "base_delay" "non-negative" base = .ok () :=
    refuseWhen_eq_ok.mpr first
  have grows : refuseBelow 1 "multiplier" ">= 1" multiplier = .ok () :=
    refuseWhen_eq_ok.mpr second
  rw [Strategy.exponential, validateBackoff, based, refuseBelow_zero, grows]
  rfl

/-- Doubling whole delays are cut at the cap for ever. -/
theorem Capped.keepsCap_iff_exact_doubling :
    let strategy : Strategy := ⟨1, .null, .exponential (.int 1) (.int 2) (.float 5.0) (.float 0.0), []⟩
    let policy : Policy := ⟨4, .float 1.0, 0, .strategy strategy, .classifier .all⟩
    strategy.Capped (.float 5.0) ∧ (Value.float 5.0).IsFinite ∧ strategy.KeepsCap (.float 5.0) ∧
      KeepsFailing ((Template.quiet policy).journal (.failing 9) 0) ∧
      ∃ message last earlier, ((Template.quiet policy).execute (.failing 9) 0).1 =
          .error (.raised (.exhausted message last earlier (.operation 0))) ∧
        earlier.length ≤ 4 ∧ Execution.FailedWith
          ((Template.quiet policy).journal (.failing 9) 0) (earlier ++ [last]) := by
  intro strategy policy
  have bounded : (Value.float 5.0).IsFinite := ⟨.binary 5.0, rfl, by decide⟩
  have caps : strategy.Capped (.float 5.0) :=
    .exponential ⟨.whole 1, rfl, rfl⟩ ⟨.whole 2, rfl, rfl⟩ (Value.compareBy_zero .above)
      (exponential_made rfl rfl)
  have always : AlwaysFails ((Template.quiet policy).journal (.failing 9) 0) := by
    decide +kernel
  have failing := (alwaysFails_iff_keepsFailing.mp always).1
  obtain ⟨keeps_iff, -, gives_up⟩ := caps.keepsCap_iff_exact bounded
  have keeps : strategy.KeepsCap (.float 5.0) := keeps_iff.mpr (.inr ⟨⟨2, rfl⟩, ⟨1, rfl⟩⟩)
  have bounds : policy.limit.Bounds 4 := Value.bounds_of_whole (i := 4) rfl
  exact ⟨caps, bounded, keeps, failing,
    gives_up keeps Nat Unit (Template.quiet policy) (.failing 9) 0 policy 4 rfl rfl bounds failing⟩

theorem power_overflows {x exponent : Float} {n : Nat} (exact : Decimal.ofInt? n = some exponent)
    (least : Decimal.compareInt? x 1 ≠ some .lt)
    (fails : (Decimal.powerFloat x exponent).isOk = false) :
    Number.power (.binary x) (.whole n) = .error .resultTooLarge := by
  rw [Number.power_of_float, Number.toFloat, exact]
  simp only [bind, Except.bind, Number.floatPower]
  cases power : Decimal.powerFloat x exponent with
  | ok z =>
    rw [power] at fails
    cases fails
  | error cause => rw [Decimal.powerFloat_error least power]

theorem power_doubling :
    Number.power (.binary 2.0) (.whole (1024 : Nat)) = .error .resultTooLarge := by
  have exponent : Decimal.ofInt? (1024 : Nat) = some 1024.0 := by decide +kernel
  have least : Decimal.compareInt? 2.0 1 ≠ some .lt := by decide +kernel
  exact power_overflows exponent least (by decide +kernel)

/-- Doubling float delays leave the range before the cap counts. -/
theorem capped_overflows :
    let strategy : Strategy :=
      ⟨1, .null, .exponential (.float 1.0) (.float 2.0) (.float 5.0) (.float 0.0), []⟩
    strategy.Capped (.float 5.0) ∧ (Value.float 5.0).IsFinite ∧ ¬ strategy.KeepsCap (.float 5.0) ∧
      ∀ (chance : Chance Unit), strategy.calculate chance (.int 1024) () =
        (.error (.raised Fault.resultTooLarge.toFailure), ()) := by
  intro strategy
  have bounded : (Value.float 5.0).IsFinite := ⟨.binary 5.0, rfl, by decide⟩
  have caps : strategy.Capped (.float 5.0) :=
    .exponential ⟨.binary 1.0, rfl, by decide⟩ ⟨.binary 2.0, rfl, by decide⟩ (Value.compareBy_zero .above)
      (exponential_made rfl rfl)
  have fails (chance : Chance Unit) : strategy.calculate chance (.int 1024) () =
      (.error (.raised Fault.resultTooLarge.toFailure), ()) := by
    rw [calculate_of_calm rfl (Value.compareBy_zero .above), Shape.exponentialDelay,
      Value.raisedTo_numbers (a := .binary 2.0) (b := .whole (1024 : Nat)) rfl rfl,
      power_doubling]
    rfl
  refine ⟨caps, bounded, fun keeps => ?_, fails⟩
  let chance : Chance Unit := ⟨fun low _ => pure low, fun _ => pure ()⟩
  obtain ⟨delay, calculated, -⟩ := keeps Unit chance 1024 ()
  have failed : strategy.calculate chance (.int 1024) () = _ := fails chance
  cases calculated.symm.trans failed

end Strategy

end Reattempt
