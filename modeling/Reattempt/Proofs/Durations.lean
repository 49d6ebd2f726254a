import Reattempt.Proofs.Parameters
import Reattempt.Request

/-!
# Delays of policies

Whatever way a policy was obtained, its strategy was checked, so no delay that its cursors hand out
is below zero. The checks do not make every delay a duration: what is no number passes them, and a
product of zero and infinity is no number either. The delays that are durations are told apart here.
-/

namespace Reattempt

/-! ### Tasks that end with a value -/

namespace Task

variable {σ α β : Type} {s s'' : σ}

theorem ok_of_bind {t : Task σ α} {next : α → Task σ β} {b : β}
    (h : (t >>= next) s = (.ok b, s'')) : ∃ a s', t s = (.ok a, s') ∧ next a s' = (.ok b, s'') := by
  rw [bind_apply] at h
  rcases run : t s with ⟨e | a, s'⟩
  · rw [run] at h
    cases h
  · rw [run] at h
    exact ⟨a, s', rfl, h⟩

theorem ok_of_ofExcept {outcome : Except Fault α} {a : α}
    (h : ofExcept outcome s = (.ok a, s'')) : outcome = .ok a ∧ s = s'' := by
  cases outcome with
  | error fault => cases h
  | ok b =>
    cases h
    exact ⟨rfl, rfl⟩

end Task

/-! ### Finite numbers -/

namespace Number

variable {a b : Number}

theorem standing_of_isFinite (finite : a.isFinite = true) :
    a.standing ≠ .nowhere ∧ a.standing ≠ .infinite := by
  constructor
  · rw [ne_eq, ← isNaN_iff, isNaN_of_isFinite finite]
    exact Bool.false_ne_true
  · cases a with
    | whole i => exact (standing_whole_ne i).2
    | binary x =>
      intro infinite
      have ends := Decimal.isInf_of_isFinite finite
      rw [Decimal.isInf_of_infinite infinite] at ends
      cases ends

theorem standing_of_atMost {outcome : Ordering} (compares : a.compare? b = some outcome)
    (atMost : outcome ≠ .gt) (finite : b.isFinite = true) : a.standing ≠ .infinite := by
  cases a with
  | whole i => exact (standing_whole_ne i).2
  | binary x =>
    intro infinite
    cases b with
    | whole j =>
      rw [compare?, Decimal.compareInt?, Decimal.binary_of_infinite infinite] at compares
      exact atMost (Option.some.inj compares).symm
    | binary y =>
      have finite : y.toModel.unpack.isFinite = true := finite
      rw [compare?_binary, Decimal.unpack_of_infinite infinite] at compares
      cases unpacked : y.toModel.unpack with
      | notANumber | infinity =>
        rw [unpacked] at finite
        cases finite
      | zero | finite =>
        rw [unpacked] at compares
        exact atMost (Option.some.inj compares).symm

end Number

/-! ### Jitter -/

/-- Random values from zero to what is above zero, as they are promised: none is below zero, and
those up to a finite bound lie between zero and the bound. -/
structure Chance.Fair {σ : Type} (chance : Chance σ) : Prop where
  notBelow {high share : Value} {s s' : σ} (positive : high.compareBy .above (.int 0) = .ok true)
    (draws : chance.uniform (.int 0) high s = (.ok share, s')) :
    share.compareBy .below (.int 0) = .ok false
  between {high share : Value} {s s' : σ} (positive : high.compareBy .above (.int 0) = .ok true)
    (finite : high.IsFinite) (draws : chance.uniform (.int 0) high s = (.ok share, s')) :
    share.compareBy .atLeast (.int 0) = .ok true ∧ share.compareBy .atMost high = .ok true

theorem Value.plus_numbers {v w : Value} {a b : Number} (left : v.number? = some a)
    (right : w.number? = some b) :
    v.plus w = Number.toValue <$> a.combine (· + ·) (· + ·) b := by
  unfold plus
  rw [left, right]

section

variable {σ : Type} {chance : Chance σ} {jitter size delay : Value} {a : Number} {s s' : σ}

theorem Chance.Fair.share (fair : chance.Fair) (positive : jitter.compareBy .above (.int 0) = .ok true)
    {share : Value} (draws : chance.uniform (.int 0) jitter s = (.ok share, s')) :
    ∃ c, share.number? = some c ∧ c.standing ≠ .below ∧
      (jitter.IsFinite → c.standing ≠ .nowhere ∧ c.standing ≠ .infinite) := by
  obtain ⟨c, number, upward⟩ := Value.isUpward_iff.mp (fair.notBelow positive draws)
  refine ⟨c, number, upward, fun bounded => ?_⟩
  obtain ⟨least, most⟩ := fair.between positive bounded draws
  obtain ⟨high, number', finite⟩ := bounded
  rw [Value.compareBy_numbers .atMost number number'] at most
  refine ⟨(Value.atLeast_zero_iff number upward).mp least, ?_⟩
  cases compares : c.compare? high with
  | none =>
    rw [compares] at most
    cases most
  | some outcome =>
    rw [compares] at most
    refine Number.standing_of_atMost compares (fun beyond => ?_) finite
    rw [beyond] at most
    cases most

theorem standing_addJitter (fair : chance.Fair)
    (positive : jitter.compareBy .above (.int 0) = .ok true) (sized : size.number? = some a)
    (upward : a.standing ≠ .below) (added : addJitter chance jitter size s = (.ok delay, s')) :
    ∃ b, delay.number? = some b ∧ b.standing ≠ .below ∧
      (jitter.IsFinite → size.IsFinite → b.standing ≠ .nowhere) := by
  unfold addJitter at added
  obtain ⟨share, _, draws, added⟩ := Task.ok_of_bind added
  obtain ⟨extra, _, times, added⟩ := Task.ok_of_bind added
  -- The notice, with both numbers written out, has no part in the sum.
  obtain ⟨_, _, -, added⟩ := Task.ok_of_bind added
  obtain ⟨_, _, -, added⟩ := Task.ok_of_bind added
  obtain ⟨_, _, -, added⟩ := Task.ok_of_bind added
  obtain ⟨plus, -⟩ := Task.ok_of_ofExcept added
  obtain ⟨times, -⟩ := Task.ok_of_ofExcept times
  obtain ⟨c, number, upward', bounded⟩ := fair.share positive draws
  rw [Value.times_numbers number sized] at times
  obtain ⟨e, product, rfl⟩ := ok_of_map times
  rw [Value.plus_numbers sized (Value.number_toValue e)] at plus
  obtain ⟨b, sum, rfl⟩ := ok_of_map plus
  obtain ⟨above, loses⟩ := Number.standing_product upward' upward product
  obtain ⟨above', loses'⟩ := Number.standing_sum upward above sum
  refine ⟨b, Value.number_toValue b, above', fun calm finite nothing => ?_⟩
  obtain ⟨a', sized', finite⟩ := finite
  rw [sized] at sized'
  cases sized'
  obtain ⟨number, ends⟩ := Number.standing_of_isFinite finite
  obtain ⟨number', ends'⟩ := bounded calm
  rcases loses'.mp nothing with first | second
  · exact number first
  · rcases loses.mp second with first | second | ⟨-, second⟩ | ⟨first, -⟩
    · exact number' first
    · exact number second
    · exact ends second
    · exact ends' first

end

/-! ### Delays of checked strategies -/

theorem bounds_of_validateBackoff {base cap limit jitter : Value}
    (checked : validateBackoff base cap limit jitter = .ok ()) :
    base.IsUpward ∧ cap.IsCap ∧ jitter.IsUpward := by
  unfold validateBackoff at checked
  obtain ⟨_, based, checked⟩ := ok_of_bind checked
  obtain ⟨_, caps, checked⟩ := ok_of_bind checked
  obtain ⟨_, -, calm⟩ := ok_of_bind checked
  refine ⟨Value.isUpward_iff.mp (refuseWhen_eq_ok.mp based), ?_,
    Value.isUpward_iff.mp (refuseWhen_eq_ok.mp calm)⟩
  unfold unlessNull at caps
  split at caps
  · next absent => exact .inl absent
  · exact .inr (refuseWhen_eq_ok.mp caps)

theorem Strategy.BuiltIn.checked {strategy : Strategy} (builtIn : strategy.BuiltIn) :
    strategy.shape.Checked := by
  cases builtIn with
  | constant made =>
    unfold Strategy.constant at made
    obtain ⟨_, delayed, made⟩ := ok_of_bind made
    obtain ⟨_, -, made⟩ := ok_of_bind made
    cases made
    exact Value.isUpward_iff.mp (refuseWhen_eq_ok.mp delayed)
  | fixed made =>
    unfold Strategy.fixed at made
    obtain ⟨_, delayed, made⟩ := ok_of_bind made
    split at made
    · cases made
    · obtain ⟨_, -, made⟩ := ok_of_bind made
      cases made
      exact Value.isUpward_iff.mp (refuseWhen_eq_ok.mp delayed)
  | linear made | fibonacci made =>
    obtain ⟨_, checked, made⟩ := ok_of_bind made
    cases made
    obtain ⟨based, caps, -⟩ := bounds_of_validateBackoff checked
    exact ⟨based, caps⟩
  | exponential made =>
    unfold Strategy.exponential at made
    obtain ⟨_, checked, made⟩ := ok_of_bind made
    obtain ⟨_, least, made⟩ := ok_of_bind made
    cases made
    obtain ⟨based, caps, calm⟩ := bounds_of_validateBackoff checked
    exact ⟨based, refuseWhen_eq_ok.mp least, caps, calm⟩

namespace Shape

def IsCalm (shape : Shape) : Prop := shape.jitter.compareBy .above (.int 0) = .ok false

structure Fits (shape : Shape) (n : Nat) (delay : Value) : Prop where
  notBelow : delay.compareBy .below (.int 0) = .ok false
  calm : shape.IsCalm → (delay.compareBy .atLeast (.int 0) = .ok true ↔ shape.Meaningful n)
  within : shape.IsCalm → shape.cap.isNull = false →
    (delay.compareBy .atMost shape.cap = .ok true ↔
      shape.Meaningful n ∧ shape.cap.standing? ≠ some .nowhere)
  jittered : shape.jitter.IsFinite → (∀ size, shape.plain n = .ok size → size.IsFinite) →
    delay.compareBy .atLeast (.int 0) = .ok true

variable {shape : Shape} {n : Nat} {delay : Value}

theorem Checked.fits_plain (checked : shape.Checked) (delays : shape.plain n = .ok delay) :
    shape.Fits n delay := by
  obtain ⟨a, number, upward, loses⟩ := checked.plain delays
  have least : delay.compareBy .atLeast (.int 0) = .ok true ↔ shape.Meaningful n := by
    rw [Value.atLeast_zero_iff number upward, ne_eq, loses, not_not]
  refine ⟨Value.isUpward_iff.mpr ⟨a, number, upward⟩, fun _ => least,
    fun _ present => checked.within delays present, fun _ finite => ?_⟩
  obtain ⟨a', number', finite⟩ := finite delay delays
  rw [number] at number'
  cases number'
  exact (Value.atLeast_zero_iff number upward).mpr (Number.standing_of_isFinite finite).1

theorem Checked.fits_jittered (checked : shape.Checked) {size : Value}
    (delays : shape.plain n = .ok size)
    (positive : shape.jitter.compareBy .above (.int 0) = .ok true) {σ : Type} {chance : Chance σ}
    {s s' : σ} (fair : chance.Fair)
    (added : addJitter chance shape.jitter size s = (.ok delay, s')) : shape.Fits n delay := by
  obtain ⟨a, sized, upward, -⟩ := checked.plain delays
  obtain ⟨b, number, upward', finite⟩ := standing_addJitter fair positive sized upward added
  have jitters : ¬ shape.IsCalm := by
    intro calm
    rw [IsCalm, positive] at calm
    cases calm
  exact ⟨Value.isUpward_iff.mpr ⟨b, number, upward'⟩, fun calm => absurd calm jitters,
    fun calm => absurd calm jitters, fun calm finite' =>
      (Value.atLeast_zero_iff number upward').mpr (finite calm (finite' size delays))⟩

end Shape

theorem Strategy.fits_of_calculate {strategy : Strategy} (checked : strategy.shape.Checked)
    {σ : Type} {chance : Chance σ} (fair : chance.Fair) {n : Nat} {s s' : σ} {delay : Value}
    (calculated : strategy.calculate chance (.int n) s = (.ok delay, s')) :
    strategy.shape.Fits n delay := by
  unfold Strategy.calculate at calculated
  cases shape : strategy.shape with
  | fixed delay' | constant delay' =>
    rw [shape] at checked calculated
    cases calculated
    exact checked.fits_plain rfl
  | linear base cap =>
    rw [shape] at checked calculated
    exact checked.fits_plain (Task.ok_of_ofExcept calculated).1
  | fibonacci base cap =>
    rw [shape] at checked calculated
    have delays := (Task.ok_of_ofExcept calculated).1
    rw [Shape.fibonacciDelay_counted] at delays
    exact checked.fits_plain delays
  | exponential base multiplier cap jitter =>
    rw [shape] at checked calculated
    obtain ⟨size, _, delays, calculated⟩ := Task.ok_of_bind calculated
    obtain ⟨jitters, _, asked, calculated⟩ := Task.ok_of_bind calculated
    have delays : (Shape.exponential base multiplier cap jitter).plain n = .ok size :=
      (bind_assoc ..).trans (Task.ok_of_ofExcept delays).1
    cases jitters with
    | true => exact checked.fits_jittered delays (Task.ok_of_ofExcept asked).1 fair calculated
    | false =>
      cases calculated
      exact checked.fits_plain delays
  | table delays =>
    rw [shape] at checked
    exact checked.elim

/-! ### Cursors -/

namespace Cursor

variable {σ : Type} {calculate : Strategy → Value → Task σ Value} {cursor after : Cursor}
  {delay : Value} {s s' : σ}

/-- A step of a cursor hands out a calculated delay and moves on, or the cursor is spent. -/
theorem next_ok (answered : cursor.next calculate s = (.ok (delay, after), s')) :
    cursor.isSpent = .ok true ∨
      (calculate cursor.strategy (.int cursor.attempts) s = (.ok delay, s') ∧
        after = { cursor with attempts := cursor.attempts + 1 }) := by
  unfold next at answered
  obtain ⟨spent, _, asked, rest⟩ := Task.ok_of_bind answered
  obtain ⟨met, rfl⟩ := Task.ok_of_ofExcept asked
  cases spent with
  | true => exact .inl met
  | false =>
    obtain ⟨_, _, calculated, ends⟩ := Task.ok_of_bind rest
    cases ends
    exact .inr ⟨calculated, rfl⟩

/-- What holds of every delay of a strategy holds of all that its cursors hand out, from whatever
position they are asked. -/
theorem answers_hold {holds : Nat → Value → Prop} {strategy : Strategy} {limit : Value}
    (each : ∀ (n : Nat) s delay s', calculate strategy (.int n) s = (.ok delay, s') → holds n delay)
    (asks n : Nat) {s s' : σ} {answers : List Value}
    (answered : (Cursor.mk strategy limit n).answers calculate asks s = (.ok answers, s')) :
    ∀ i delay, answers[i]? = some delay → delay.isNull = false → holds (n + i) delay := by
  induction asks generalizing n s answers with
  | zero =>
    cases answered
    intro i delay found
    cases found
  | succ asks ih =>
    intro i delay found present
    have steps := answered
    unfold Cursor.answers at steps
    obtain ⟨⟨first, after⟩, _, step, steps'⟩ := Task.ok_of_bind steps
    obtain ⟨rest, _, more, ends⟩ := Task.ok_of_bind steps'
    rcases next_ok step with spent | ⟨calculated, rfl⟩
    · -- A spent cursor stays spent, so that nothing is handed out any more.
      rw [answers_spent spent] at answered
      cases answered
      obtain ⟨-, rfl⟩ := List.mem_replicate.mp (List.mem_of_getElem? found)
      cases present
    · cases ends
      cases i with
      | zero =>
        cases found
        exact each n _ _ _ calculated
      | succ i =>
        have later := ih (n + 1) more i delay found present
        rwa [Nat.add_right_comm, Nat.add_assoc] at later

end Cursor

/-! ### Policies -/

namespace Policy

variable {policy : Policy}

/-- A policy that was obtained in one of the ways there are: made from fields, built from settings,
by merging fields into another one, from a number of attempts alone, or for requests. A backoff
that is given on the way is a built-in strategy. -/
inductive Obtained : Policy → Prop where
  | made {setting fields policy} (typed : ∀ backoff, ("backoff", backoff) ∈ fields → backoff.IsBuiltIn)
      (made : Policy.ofArguments setting fields = .ok policy) : Obtained policy
  | built {builder : PolicyBuilder} {id policy} (typed : builder.backoff.IsBuiltIn)
      (built : builder.build id = .ok policy) : Obtained policy
  | merged {policy setting overrides merged} (obtained : Obtained policy)
      (typed : ∀ backoff, ("backoff", backoff) ∈ overrides → backoff.IsBuiltIn)
      (made : policy.merge setting overrides = .ok merged) : Obtained merged
  | limited {maxAttempts policy}
      (made : Policy.ofArguments 0 [("max_attempts", maxAttempts)] = .ok policy) : Obtained policy
  | forRequests {setting test arguments policy}
      (made : Policy.forRequests setting test arguments = .ok policy) : Obtained policy

theorem isBuiltIn_get {fields : Arguments} {fallback : Value} (default : fallback.IsBuiltIn)
    (typed : ∀ backoff, ("backoff", backoff) ∈ fields → backoff.IsBuiltIn) :
    (fields.get "backoff" fallback).IsBuiltIn := by
  rw [Arguments.get]
  cases found : fields.lookup "backoff" with
  | none => exact default
  | some backoff =>
    obtain ⟨before, later, rfl, -⟩ := List.lookup_eq_some_iff.mp found
    exact typed backoff (List.mem_append_right before List.mem_cons_self)

theorem accepted_of_replace {setting : Nat} {changes : Arguments} {replaced : Policy}
    (default : policy.backoff.IsBuiltIn)
    (typed : ∀ backoff, ("backoff", backoff) ∈ changes → backoff.IsBuiltIn)
    (made : policy.replace setting changes = .ok replaced) : replaced.Accepted := by
  unfold replace at made
  obtain ⟨_, -, made⟩ := ok_of_bind made
  exact .made (isBuiltIn_get default typed) made

theorem Obtained.accepted (obtained : policy.Obtained) : policy.Accepted := by
  induction obtained with
  | made typed made => exact accepted_of_replace (.inl rfl) typed made
  | built typed built => exact .built typed built
  | merged _ typed made ih =>
    refine accepted_of_replace ih.sound.2 (fun backoff given => ?_) made
    exact typed backoff (List.mem_filter.mp given).1
  | limited made =>
    refine accepted_of_replace (.inl rfl) (fun backoff given => ?_) made
    have name : "backoff" = "max_attempts" := congrArg Prod.fst (List.mem_singleton.mp given)
    exact absurd name (by decide)
  | forRequests made =>
    unfold Policy.forRequests at made
    obtain ⟨_, -, made⟩ := ok_of_bind made
    obtain ⟨_, -, made⟩ := ok_of_bind made
    obtain ⟨first, limited, made⟩ := ok_of_bind made
    obtain ⟨second, delayed, made⟩ := ok_of_bind made
    obtain ⟨third, tested, made⟩ := ok_of_bind made
    cases limited
    obtain ⟨_, -, delayed⟩ := ok_of_bind delayed
    cases delayed
    cases tested
    exact .built (.inl rfl) made

theorem Accepted.start (accepted : policy.Accepted) :
    ∃ strategy, strategy.BuiltIn ∧ policy.strategy 0 = .ok (.strategy strategy) ∧
      policy.start = .ok ⟨strategy, policy.limit, 0⟩ := by
  obtain ⟨sound, absent | ⟨strategy, given, builtIn⟩⟩ := accepted.sound
  · have same := sound.strategy_of_absent absent 0
    have chosen := same
    rw [Policy.strategy, absent, Value.isNull, if_pos rfl] at chosen
    obtain ⟨strategy, made, strategy_eq⟩ := ok_of_map chosen
    cases strategy_eq
    exact ⟨_, .fixed made, same, sound.start_of_absent absent⟩
  · exact ⟨strategy, builtIn, strategy_of_given given 0, start_of_given given⟩

/-- Every delay that a cursor of a policy hands out is not below zero. Without jitter it is at least
zero exactly if the parameters make a number for the attempt, and then it is at most the cap,
unless the cap is no number. With jitter it is at least zero if the jitter and the delay before it
are finite. -/
theorem Obtained.delays_fit (obtained : policy.Obtained) {σ : Type} {chance : Chance σ}
    (fair : chance.Fair) :
    ∃ cursor, policy.start = .ok cursor ∧
      policy.strategy 0 = .ok (.strategy cursor.strategy) ∧
      ∀ (n asks : Nat) (s s' : σ) (answers : List Value),
        ({ cursor with attempts := n } : Cursor).answers (Strategy.calculate chance) asks s =
            (.ok answers, s') →
          ∀ i delay, answers[i]? = some delay → delay.isNull = false →
            cursor.strategy.shape.Fits (n + i) delay := by
  obtain ⟨strategy, builtIn, chosen, starts⟩ := obtained.accepted.start
  refine ⟨_, starts, chosen, fun n asks s s' answers answered => ?_⟩
  refine Cursor.answers_hold (fun (k : Nat) s delay s' calculated => ?_) asks n answered
  exact Strategy.fits_of_calculate builtIn.checked fair calculated

end Policy

def Chance.least (σ : Type) : Chance σ := ⟨fun low _ => pure low, fun _ => pure ()⟩

theorem Chance.least_fair (σ : Type) : (Chance.least σ).Fair where
  notBelow positive draws := by
    cases draws
    rfl
  between {high} _ _ _ positive _ draws := by
    cases draws
    obtain ⟨a, number⟩ := Value.number_of_compares positive
    rw [Value.compareBy_standing .above number] at positive
    have zero : (Value.int 0).number? = some (.whole 0) := rfl
    rw [Value.compareBy_numbers .atMost zero number, Number.compare?_swap a, Number.compare?_zero]
    refine ⟨rfl, ?_⟩
    cases order : a.standing.order? with
    | none =>
      rw [order] at positive
      cases positive
    | some outcome =>
      rw [order] at positive
      cases outcome with
      | gt => rfl
      | lt | eq => cases positive

namespace Policy

/-- Doubling delays under a cap, in a policy that was merged from two others. -/
theorem Obtained.delays_fit_doubling :
    let strategy : Strategy := ⟨1, .null, .exponential (.int 1) (.int 2) (.float 5.0) (.float 0.0), []⟩
    let policy : Policy := ⟨4, .float 1.0, 0, .strategy strategy, .classifier .all⟩
    policy.Obtained ∧ (Chance.least Unit).Fair ∧
      ∀ (n asks : Nat) (s s' : Unit) (answers : List Value),
        (Cursor.mk strategy (.int 4) n).answers (Strategy.calculate (Chance.least Unit)) asks s =
            (.ok answers, s') →
          ∀ delay ∈ answers, delay.isNull = false →
            delay.compareBy .atLeast (.int 0) = .ok true ∧
              delay.compareBy .atMost (.float 5.0) = .ok true := by
  intro strategy policy
  have made : Strategy.exponential 1 (.int 1) (.int 2) (.float 5.0) (.float 0.0) .null =
      .ok strategy := Strategy.exponential_made rfl rfl
  have limited : ofArguments 0 [("max_attempts", .int 4)] =
      .ok { policy with backoff := .null } := by rfl
  have merged : ({ policy with backoff := .null } : Policy).merge 0
      [("backoff", .strategy strategy)] = .ok policy := by rfl
  have typed (backoff : Value) (given : ("backoff", backoff) ∈ [("backoff", .strategy strategy)]) :
      backoff.IsBuiltIn := by
    cases List.mem_singleton.mp given
    exact .inr ⟨strategy, rfl, .exponential made⟩
  have obtained : policy.Obtained := .merged (.limited limited) typed merged
  have fair := Chance.least_fair Unit
  refine ⟨obtained, fair, fun n asks s s' answers answered delay member present => ?_⟩
  obtain ⟨cursor, starts, -, fits⟩ := obtained.delays_fit fair
  cases starts.symm.trans (start_of_given rfl)
  obtain ⟨i, found⟩ := List.mem_iff_getElem?.mp member
  have fit := fits n asks s s' answers answered i delay found present
  have calm : strategy.shape.IsCalm := Value.compareBy_zero .above
  have meaningful : strategy.shape.Meaningful (n + i) := ⟨by decide, .inr ⟨by decide, by decide⟩⟩
  have number : strategy.shape.cap.standing? ≠ some .nowhere := by decide
  exact ⟨(fit.calm calm).mpr meaningful, (fit.within calm rfl).mpr ⟨meaningful, number⟩⟩

/-- A policy with a delay that is no number, which is no duration. -/
theorem obtained_without_durations :
    let delay : Value := .float (0.0 / 0.0)
    let policy : Policy := ⟨3, delay, 1, .null, .classifier .all⟩
    policy.Obtained ∧ (∃ cursor, policy.start = .ok cursor ∧ ∀ (chance : Chance Unit),
      ∃ after, cursor.next (Strategy.calculate chance) () = (.ok (delay, after), ())) ∧
      delay.compareBy .atLeast (.int 0) = .ok false := by
  intro delay policy
  have made : ofArguments 1 [("delay", delay)] = .ok policy := by rfl
  have obtained : policy.Obtained := by
    refine .made (fun backoff given => ?_) made
    have name : "backoff" = "delay" := congrArg Prod.fst (List.mem_singleton.mp given)
    exact absurd name (by decide)
  have starts := obtained.accepted.sound.1.start_of_absent rfl
  exact ⟨obtained, ⟨_, starts, fun chance => ⟨_, rfl⟩⟩, by rfl⟩

end Policy

end Reattempt
