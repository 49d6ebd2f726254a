import Reattempt.Proofs.Merging

/-!
# Checks that agree

The bounds of a delay and of a number of attempts are checked when a policy is made, when a strategy
is made and when either is made by other means. The checks agree, by `checks_agree`: what a
policy has accepted, its own strategy accepts; all strategies of one delay and one limit accept the
same and refuse with failures of the same kind; and merging and building refuse what the policy
itself would have refused.
-/

namespace Reattempt

variable {σ ℓ α : Type}

/-! ### Refusals -/

def refusal : Except Fault α → Option Fault
  | .ok _ => none
  | .error fault => some fault

/-- The kind of failure with which something is refused, if it is. -/
def refusedAs (outcome : Except Fault α) : Option Kind := (refusal outcome).map Fault.kind

theorem refusal_bind (check : Except Fault Unit) (next : Unit → Except Fault α) :
    refusal (check >>= next) = (refusal check).or (refusal (next ())) := by
  cases check <;> rfl

theorem refusedAs_bind (check : Except Fault Unit) (next : Unit → Except Fault α) :
    refusedAs (check >>= next) = (refusedAs check).or (refusedAs (next ())) := by
  cases check <;> rfl

theorem refusedAs_of_ok {a : α} {outcome : Except Fault α} (accepted : outcome = .ok a) :
    refusedAs outcome = none := by
  rw [accepted]
  rfl

/-- How a parameter is called does not decide the kind of the failure. -/
theorem refusedAs_refuseBelow (bound : Int) (parameter rule parameter' rule' : String) (v : Value) :
    refusedAs (refuseBelow bound parameter rule v) =
      refusedAs (refuseBelow bound parameter' rule' v) := by
  rw [refuseBelow, refuseWhen, refuseWhen]
  rcases v.compareBy .below (.int bound) with fault | _ | _ <;> rfl

/-! ### Strategies of one delay and one limit -/

def StrategyClass.delayName : StrategyClass → String
  | .fixed => "interval"
  | .constant => "delay"
  | _ => "base_delay"

namespace Strategy

variable {delay limit : Value}

/-- A strategy of a class from a delay and a limit, where everything else is left out. -/
def ofDelay (cls : StrategyClass) (id : Nat) (delay limit : Value) : Except Fault Strategy :=
  ofArguments cls id [(cls.delayName, delay), ("max_attempts", limit)]

def refusedFor (delay limit : Value) : Option Kind :=
  (refusedAs (refuseBelow 0 "delay" "non-negative" delay)).or (refusedAs (validateLimit limit))

theorem constant_refused (id : Nat) :
    refusedAs (constant id delay limit) = refusedFor delay limit := by
  rw [constant, refusedAs_bind, refusedAs_bind]
  exact congrArg _ (Option.or_none)

/-- Without a cap, and with a jitter that passes, the checks of growing strategies are no others. -/
theorem validateBackoff_refused {jitter : Value}
    (passes : refuseBelow 0 "jitter" "non-negative" jitter = .ok ()) :
    refusedAs (validateBackoff delay .null limit jitter) = refusedFor delay limit := by
  rw [validateBackoff, refusedAs_bind, refusedAs_bind, refusedAs_bind, refusedAs_of_ok passes,
    Option.or_none, refusedAs_refuseBelow 0 "base_delay" "non-negative" "delay" "non-negative"]
  rfl

theorem linear_refused (id : Nat) :
    refusedAs (linear id delay .null limit) = refusedFor delay limit := by
  rw [linear, refusedAs_bind, validateBackoff_refused (refuseBelow_zero _ _)]
  exact Option.or_none

theorem fibonacci_refused (id : Nat) :
    refusedAs (fibonacci id delay .null limit) = refusedFor delay limit := by
  rw [fibonacci, refusedAs_bind, validateBackoff_refused (refuseBelow_zero _ _)]
  exact Option.or_none

theorem exponential_refused (id : Nat) :
    refusedAs (exponential id delay (.float defaultMultiplier) .null (.float 0.0) limit) =
      refusedFor delay limit := by
  have multiplier : refuseBelow 1 "multiplier" ">= 1" (.float defaultMultiplier) = .ok () := rfl
  rw [exponential, refusedAs_bind, validateBackoff_refused (refuseBelow_zero _ _), multiplier]
  exact Option.or_none

/-- A strategy that always has a limit refuses the lack of one, after it has checked the delay. -/
theorem fixed_refused (id : Nat) :
    refusedAs (fixed id delay limit) =
      if limit.isNull then some ((refusedFor delay limit).getD Kind.valueError)
      else refusedFor delay limit := by
  rw [fixed, refusedAs_bind, refusedAs_refuseBelow 0 "interval" "non-negative" "delay" "non-negative"]
  cases absent : limit.isNull with
  | true =>
    have unlimited : validateLimit limit = .ok () := by rw [validateLimit, unlessNull, if_pos absent]
    rw [if_pos rfl, if_pos rfl, refusedFor, refusedAs_of_ok unlimited, Option.or_none]
    cases refusedAs (refuseBelow 0 "delay" "non-negative" delay) <;> rfl
  | false =>
    have same : refusedAs (constant id delay limit >>= fun strategy =>
        pure { strategy with shape := .fixed delay }) = refusedAs (constant id delay limit) := by
      cases constant id delay limit <;> rfl
    rw [if_neg Bool.false_ne_true, if_neg Bool.false_ne_true, same, constant_refused, refusedFor,
      ← Option.or_assoc, Option.or_self]

theorem ofDelay_constant (id : Nat) :
    ofDelay .constant id delay limit = constant id delay limit := rfl

theorem ofDelay_fixed (id : Nat) : ofDelay .fixed id delay limit = fixed id delay limit := rfl

theorem ofDelay_growing (id : Nat) :
    ∀ cls ∈ [StrategyClass.linear, .fibonacci, .exponential],
      refusedAs (ofDelay cls id delay limit) = refusedFor delay limit := by
  intro cls member
  simp only [List.mem_cons, List.not_mem_nil, or_false] at member
  rcases member with rfl | rfl | rfl
  · exact linear_refused id
  · exact fibonacci_refused id
  · exact exponential_refused id

end Strategy

/-! ### Policies -/

def checkAttempts (maxAttempts : Value) : Except Fault Unit := do
  let _ ← wholeAttempts maxAttempts
  refuseBelow 1 "max_attempts" ">= 1" maxAttempts

theorem refusal_validatePolicy (maxAttempts delay : Value) :
    refusal (validatePolicy maxAttempts delay) =
      (refusal (checkAttempts maxAttempts)).or (refusal (refuseBelow 0 "delay" ">= 0" delay)) := by
  rw [validatePolicy, checkAttempts]
  cases wholeAttempts maxAttempts with
  | error fault => rfl
  | ok attempts =>
    cases refuseBelow 1 "max_attempts" ">= 1" maxAttempts with
    | error fault => rfl
    | ok _ => cases refuseBelow 0 "delay" ">= 0" delay <;> rfl

/-- Where the default passes, only a setting that is there can be refused. -/
theorem Arguments.refusal_get {check : Value → Except Fault α} {default : Value}
    (passes : refusal (check default) = none) (arguments : Arguments) (name : String) :
    refusal (check (arguments.get name default)) =
      (arguments.lookup name).bind fun v => refusal (check v) := by
  rw [get]
  cases arguments.lookup name with
  | none => exact passes
  | some v => rfl

namespace Policy

variable {policy : Policy} {setting later : Nat} {overrides changes : Arguments}

theorem refusal_make (maxAttempts delay : Value) (setting : Nat) (backoff classifier : Value) :
    refusal (make maxAttempts delay setting backoff classifier) =
      refusal (validatePolicy maxAttempts delay) := by
  rw [make]
  cases validatePolicy maxAttempts delay <;> rfl

/-- The policy whose fields are replaced has no part in a refusal. -/
theorem refusal_replace (made : policy.IsMade) (setting : Nat) (changes : Arguments) :
    refusal (policy.replace setting changes) =
      (refusal (changes.check "RetryPolicy.__init__" Arguments.receiver [] fieldNames)).or
        (((changes.lookup "max_attempts").bind fun v => refusal (checkAttempts v)).or
          ((changes.lookup "delay").bind fun v => refusal (refuseBelow 0 "delay" ">= 0" v))) := by
  have passes := refusal_validatePolicy (.int policy.maxAttempts) policy.delay
  rw [isMade_iff.mp made] at passes
  obtain ⟨attempts, delay⟩ := Option.or_eq_none_iff.mp passes.symm
  rw [replace, refusal_bind, refusal_make, refusal_validatePolicy, Arguments.refusal_get attempts,
    Arguments.refusal_get delay]

/-- Overrides are refused if and only if they are refused as the fields of a policy, and with the
same fault. -/
theorem merge_refused (made : policy.IsMade) (present : ∀ override ∈ overrides, override.2 ≠ .null) :
    refusal (policy.merge setting overrides) = refusal (ofArguments later overrides) := by
  have all : overrides.given = overrides := by
    refine List.filter_eq_self.mpr fun override member => ?_
    rw [Bool.not_eq_true', ← Bool.not_eq_true, Value.isNull_iff]
    exact present override member
  rw [merge, show overrides.filter _ = overrides.given from rfl, all, refusal_replace made,
    ofArguments, refusal_replace default_isMade]

theorem ofArguments_numbers (maxAttempts delay : Value) :
    ofArguments setting [("max_attempts", maxAttempts), ("delay", delay)] =
      make maxAttempts delay setting .null (.classifier .all) := rfl

end Policy

namespace PolicyBuilder

variable {builder : PolicyBuilder} {id setting : Nat} {delay : Float}

/-- A builder that shapes no delays refuses what its policy refuses. -/
theorem build_refused (absent : builder.backoff = .null)
    (steady : builder.multiplier = .null ∧ builder.maxDelay = .null ∧ builder.jitter = .null)
    (seconds : builder.delay = .float delay) :
    refusal (builder.build id) =
      refusal (Policy.ofArguments setting
        [("max_attempts", builder.maxAttempts), ("delay", builder.delay)]) := by
  rw [Policy.ofArguments_numbers, Policy.refusal_make, build, seconds]
  rw [strategy_steady absent steady]
  exact Policy.refusal_make ..

def IsUsable (builder : PolicyBuilder) : Prop :=
  ∃ maxAttempts delay id policy,
    { builder with maxAttempts := maxAttempts, delay := delay : PolicyBuilder }.build id = .ok policy

theorem exponential_of_checked {base base' multiplier cap jitter limit limit' : Value}
    {strategy : Strategy} {id' : Nat}
    (checked : Strategy.exponential id base multiplier cap jitter limit = .ok strategy)
    (delayed : refuseBelow 0 "base_delay" "non-negative" base' = .ok ())
    (limited : validateLimit limit' = .ok ()) :
    ∃ strategy', Strategy.exponential id' base' multiplier cap jitter limit' = .ok strategy' := by
  obtain ⟨_, first, checked⟩ := ok_of_bind checked
  obtain ⟨_, second, checked⟩ := ok_of_bind checked
  obtain ⟨_, -, first⟩ := ok_of_bind first
  obtain ⟨_, capped, first⟩ := ok_of_bind first
  obtain ⟨_, -, shaken⟩ := ok_of_bind first
  refine ⟨⟨id', limit', .exponential base' multiplier cap jitter, []⟩, ?_⟩
  rw [Strategy.exponential, validateBackoff, delayed, capped, limited, shaken, second]
  rfl

/-- A builder that shapes delays accepts what its policy accepts, as long as the shape itself is
accepted. -/
theorem build_accepts_iff (absent : builder.backoff = .null) (usable : builder.IsUsable)
    (seconds : builder.delay = .float delay) :
    (∃ policy, builder.build id = .ok policy) ↔
      ∃ policy, Policy.ofArguments setting
        [("max_attempts", builder.maxAttempts), ("delay", builder.delay)] = .ok policy := by
  have same : builder.delay.orDefault (.float defaultDelay) = builder.delay := by rw [seconds]; rfl
  rw [Policy.ofArguments_numbers]
  constructor
  · rintro ⟨policy, built⟩
    obtain ⟨-, delayed, -, -, -, checked⟩ := build_ok_iff.mp built
    rw [delayed, same] at checked
    exact ⟨⟨policy.maxAttempts, builder.delay, setting, .null, .classifier .all⟩,
      Policy.make_ok_iff.mpr ⟨checked, rfl⟩⟩
  · rintro ⟨policy, made⟩
    have checked := (Policy.make_ok_iff.mp made).1
    obtain ⟨whole, positive, least⟩ := bounds_of_validatePolicy checked
    obtain ⟨backoff, chosen⟩ : ∃ backoff, builder.strategy id builder.delay = .ok backoff := by
      by_cases steady : builder.multiplier = .null ∧ builder.maxDelay = .null ∧ builder.jitter = .null
      · exact ⟨_, strategy_steady absent steady _⟩
      · have grows : builder.multiplier ≠ .null ∨ builder.maxDelay ≠ .null ∨
            builder.jitter ≠ .null := by
          simpa only [not_and_or] using steady
        obtain ⟨maxAttempts, other, _, _, built⟩ := usable
        let usable := { builder with maxAttempts := maxAttempts, delay := other : PolicyBuilder }
        obtain ⟨strategy, -, shaped⟩ :=
          @strategy_growing usable _ _ _ absent grows (build_ok_iff.mp built).backoff
        have limited : validateLimit builder.maxAttempts = .ok () := by
          rw [whole]
          exact refuseBelow_int (by omega) ..
        obtain ⟨strategy', made⟩ :=
          exponential_of_checked shaped (refuseWhen_eq_ok.mpr least) limited
        rw [strategy_exponential absent grows, made]
        exact ⟨_, rfl⟩
    rw [← same] at chosen checked
    exact ⟨⟨policy.maxAttempts, builder.delay.orDefault (.float defaultDelay),
      if builder.delay.isNull then 0 else builder.delaySetting, backoff, .classifier builder.rules⟩,
      build_ok_iff.mpr ⟨whole, rfl, rfl, chosen, rfl, checked⟩⟩

end PolicyBuilder

/-! ### Executions -/

/-- The first failure is classified before anything else is asked. -/
def ClassifiesFirst (journal : List (Entry Call)) : Prop :=
  ∀ name f, journal[1]? = some ⟨name, .invoke, .error (.raised f)⟩ → f.isOrdinary = true →
    ∃ name' ending, journal[2]? = some ⟨name', .classify f, ending⟩

namespace Execution

variable (execution : Execution σ)

theorem decided_writes (asks : Nat) (cursor : Cursor) (earlier : List Failure) (last : Failure)
    (accepted : Bool) :
    Task.Writes (execution.recorded.decided asks cursor earlier last accepted) fun _ _ => True := by
  have matched := execution.recorded_related.matched Task.mirrors_congruence
  have mirrors := decided_matched Task.mirrors_congruence matched asks cursor
    (Task.mirrors_entered _ _ _ _) earlier last
    (retry_matched Task.mirrors_congruence matched asks _ (fun _ => Task.mirrors_entered _ _ _ _) _)
    accepted
  intro s journal
  obtain ⟨entries, same⟩ := mirrors s journal
  exact ⟨entries, by rw [same], trivial⟩

theorem retry_classifies (asks : Nat) (cursor : Cursor) (earlier : List Failure) (last : Failure) :
    Task.Writes (execution.recorded.retry (asks + 1) cursor earlier last) fun entries _ =>
      ∃ name ending rest, entries = ⟨name, .classify last, ending⟩ :: rest := by
  have verdict : Task.Writes (execution.recorded.accepts last) fun entries _ =>
      ∃ name ending, entries = [⟨name, .classify last, ending⟩] := fun _ _ => ⟨_, rfl, _, _, rfl⟩
  rw [retry_succ]
  refine verdict.bind (execution.decided_writes asks cursor earlier last) ?_ ?_
  · rintro _ _ ⟨name, ending, rfl⟩
    exact ⟨name, ending, [], rfl⟩
  · rintro _ _ more _ ⟨name, ending, rfl⟩ -
    exact ⟨name, ending, more, rfl⟩

def StartsRetrying (entries : List (Entry Call)) : Prop :=
  ∃ name outcome rest, entries = ⟨name, .invoke, outcome⟩ :: rest ∧
    ∀ f, outcome = .error (.raised f) → f.isOrdinary = true →
      ∃ name' ending more, rest = ⟨name', .classify f, ending⟩ :: more

theorem attempt_classifies {next : Except Failure Value → Task (σ × List (Entry Call)) Value}
    (classifies : ∀ f, Task.Writes (next (.error f)) fun entries _ =>
      ∃ name ending rest, entries = ⟨name, .classify f, ending⟩ :: rest)
    (returns : ∀ result, Task.Writes (next (.ok result)) fun _ _ => True) :
    Task.Writes (execution.recorded.attempt >>= next) fun entries _ => StartsRetrying entries := by
  have invokes : Task.Writes execution.recorded.attempt fun entries ending =>
      ∃ name outcome, entries = [⟨name, .invoke, outcome⟩] ∧ ending = taken outcome := by
    intro s journal
    rw [attempt_apply]
    refine ⟨_, rfl, _, _, rfl, ?_⟩
    rw [congrFun Except.map_id]
    rfl
  have goes (outcome : Except Failure Value) : Task.Writes (next outcome) fun entries _ =>
      ∀ f, outcome = .error f → ∃ name ending rest, entries = ⟨name, .classify f, ending⟩ :: rest := by
    cases outcome with
    | ok result => exact (returns result).mono fun _ _ _ f failed => by cases failed
    | error f =>
      refine (classifies f).mono fun _ _ classified g same => ?_
      cases same
      exact classified
  have ordinary {f : Failure} (h : f.isOrdinary = true) : taken (.error (.raised f)) = .ok (.error f) :=
    if_pos h
  refine invokes.bind goes ?_ ?_
  · rintro _ e ⟨name, outcome, rfl, escapes⟩
    refine ⟨name, outcome, [], rfl, fun f failed common => ?_⟩
    rw [failed, ordinary common] at escapes
    cases escapes
  · rintro _ a more _ ⟨name, outcome, rfl, goesOn⟩ classified
    refine ⟨name, outcome, more, rfl, fun f failed common => classified f ?_⟩
    rw [failed, ordinary common] at goesOn
    exact Except.ok.inj goesOn

/-- An execution that has a cursor to start with gets from the first failure to its verdict. -/
theorem journal_classifiesFirst {cursor : Cursor} (start : execution.start = .ok cursor) {asks : Nat}
    (enough : cursor.asks execution.patience = asks + 1) (s : σ) :
    ClassifiesFirst (execution.journal s) := by
  have announces : Task.Writes (execution.recorded.announce 0 startText) fun entries _ =>
      ∃ entry, entries = [entry] := fun _ _ => ⟨_, rfl, _, rfl⟩
  have runs : Task.Writes execution.recorded.run fun entries _ =>
      ∃ entry rest, entries = entry :: rest ∧ (rest = [] ∨ StartsRetrying rest) := by
    refine announces.bind (fun _ => execution.attempt_classifies (fun f => ?_) fun result =>
      Task.writes_pure trivial) ?_ ?_
    · have start : execution.recorded.start = .ok cursor := start
      have patience : execution.recorded.patience = execution.patience := rfl
      dsimp only
      rw [start, Task.ofExcept, pure_bind, patience, enough]
      exact execution.retry_classifies asks cursor [] f
    · rintro _ _ ⟨entry, rfl⟩
      exact ⟨entry, [], rfl, .inl rfl⟩
    · rintro _ _ more _ ⟨entry, rfl⟩ starts
      exact ⟨entry, more, rfl, .inr starts⟩
  obtain ⟨entries, adds, entry, rest, same, shape⟩ := runs s []
  rw [recorded_run] at adds
  rw [show execution.journal s = entries from adds, same]
  intro name f invoked common
  rcases shape with rfl | ⟨name', outcome, more, rfl, classified⟩
  · cases invoked
  · cases invoked
    obtain ⟨name', ending, later, rfl⟩ := classified f rfl common
    exact ⟨name', ending, rfl⟩

end Execution

namespace Policy

variable {policy : Policy} {maxAttempts delay classifier : Value} {setting : Nat}

/-- A policy without an explicit strategy makes one that its checks have let pass already. -/
theorem starts_of_make (made : make maxAttempts delay setting .null classifier = .ok policy) :
    (∀ id, ∃ strategy, policy.strategy id = .ok (.strategy strategy)) ∧
      ∃ cursor, policy.start = .ok cursor ∧ cursor.limit = .int policy.maxAttempts := by
  have sound := sound_of_make (.inl rfl) made
  have absent : policy.backoff = .null := congrArg Policy.backoff (make_ok_iff.mp made).2
  have limit : policy.limit = .int policy.maxAttempts := by rw [Policy.limit, absent]
  exact ⟨fun id => ⟨_, sound.strategy_of_absent absent id⟩, _, sound.start_of_absent absent, limit⟩

theorem classifiesFirst_of_make
    (made : make maxAttempts delay setting .null classifier = .ok policy) (template : Template σ ℓ)
    (operation : Operation σ) (s : σ) (held : template.policy s = some policy) :
    ClassifiesFirst (template.journal operation s) := by
  obtain ⟨-, cursor, starts, limit⟩ := starts_of_make made
  have whole : cursor.limit.whole? = some policy.maxAttempts := by rw [limit]; rfl
  exact (template.started operation s).journal_classifiesFirst
    ((Template.started_start held).trans starts) (Cursor.asks_whole whole _) s

end Policy

/-! ### Agreement -/

structure ChecksAgree (maxAttempts delay : Value) : Prop where
  /-- What a policy has accepted never fails later, and so no execution fails between its first
  failure and the verdict on it. -/
  starts : ∀ setting classifier policy,
    Policy.make maxAttempts delay setting .null classifier = .ok policy →
      (∀ id, ∃ strategy, policy.strategy id = .ok (.strategy strategy)) ∧
      (∃ cursor, policy.start = .ok cursor) ∧
      ∀ {σ ℓ : Type} (template : Template σ ℓ) (operation : Operation σ) (s : σ),
        template.policy s = some policy → ClassifiesFirst (template.journal operation s)
  growing : ∀ cls ∈ [StrategyClass.linear, .fibonacci, .exponential], ∀ id id',
    refusedAs (Strategy.ofDelay cls id delay maxAttempts) =
      refusedAs (Strategy.ofDelay .constant id' delay maxAttempts)
  fixed : maxAttempts ≠ .null → ∀ id id',
    refusedAs (Strategy.ofDelay .fixed id delay maxAttempts) =
      refusedAs (Strategy.ofDelay .constant id' delay maxAttempts)
  /-- Without a limit one strategy is refused that the others are not, with the kind that a delay
  out of bounds is refused with. -/
  unlimited : maxAttempts = .null → ∀ id id',
    refusedAs (Strategy.ofDelay .fixed id delay maxAttempts) =
      some ((refusedAs (Strategy.ofDelay .constant id' delay maxAttempts)).getD Kind.valueError)
  merges : ∀ policy : Policy, policy.IsMade → ∀ overrides : Arguments,
    (∀ override ∈ overrides, override.2 ≠ .null) → ∀ setting setting',
      refusal (policy.merge setting overrides) = refusal (Policy.ofArguments setting' overrides)
  builds : ∀ builder : PolicyBuilder, builder.maxAttempts = maxAttempts → builder.delay = delay →
    (∃ seconds, delay = .float seconds) → builder.backoff = .null → ∀ id setting,
      let made := Policy.ofArguments setting [("max_attempts", maxAttempts), ("delay", delay)]
      (builder.multiplier = .null ∧ builder.maxDelay = .null ∧ builder.jitter = .null →
        refusal (builder.build id) = refusal made) ∧
      (builder.IsUsable → ((∃ policy, builder.build id = .ok policy) ↔ ∃ policy, made = .ok policy))

/-- The checks agree for all values. -/
theorem checks_agree (maxAttempts delay : Value) : ChecksAgree maxAttempts delay where
  starts _ _ _ made :=
    have ⟨strategies, cursor, starts, _⟩ := Policy.starts_of_make made
    ⟨strategies, ⟨cursor, starts⟩, Policy.classifiesFirst_of_make made⟩
  growing cls member id id' := by
    rw [Strategy.ofDelay_growing id cls member, Strategy.ofDelay_constant,
      Strategy.constant_refused]
  fixed present id id' := by
    rw [Strategy.ofDelay_fixed, Strategy.fixed_refused, Strategy.ofDelay_constant,
      Strategy.constant_refused, if_neg (mt Value.isNull_iff.mp present)]
  unlimited absent id id' := by
    rw [Strategy.ofDelay_fixed, Strategy.fixed_refused, Strategy.ofDelay_constant,
      Strategy.constant_refused, if_pos (Value.isNull_iff.mpr absent)]
  merges _ made _ present _ _ := Policy.merge_refused made present
  builds := by
    rintro builder rfl rfl ⟨seconds, delayed⟩ absent id setting
    exact ⟨fun steady => PolicyBuilder.build_refused absent steady delayed,
      fun usable => PolicyBuilder.build_accepts_iff absent usable delayed⟩

/-- A delay below zero is refused everywhere, and a policy that is accepted gets to its verdicts. -/
theorem checks_agree_negative :
    let policy : Policy := ⟨2, .int 0, 0, .null, .classifier .all⟩
    refusedAs (Strategy.ofDelay .fibonacci 1 (.int (-1)) (.int 0)) = some Kind.valueError ∧
      refusedAs (Strategy.ofDelay .fixed 1 (.int (-1)) (.int 0)) = some Kind.valueError ∧
      refusal (policy.merge 1 [("delay", .int (-1))]) =
        some (.outOfBounds "delay" ">= 0" "-1") ∧
      ClassifiesFirst ((Template.quiet policy).journal (.failing 2) 0) := by
  intro policy
  have made : Policy.make (.int 2) (.int 0) 0 .null (.classifier .all) = .ok policy := rfl
  have refused : refusedAs (Strategy.ofDelay .constant 1 (.int (-1)) (.int 0)) =
      some Kind.valueError := rfl
  have agree := checks_agree (.int 0) (.int (-1))
  refine ⟨?_, ?_, ?_, ?_⟩
  · rw [agree.growing .fibonacci (by simp) 1 1, refused]
  · rw [agree.fixed nofun 1 1, refused]
  · rw [agree.merges policy ⟨_, _, _, _, _, made⟩ _ (by simp) 1 1]
    rfl
  · exact ((checks_agree (.int 2) (.int 0)).starts _ _ _ made).2.2 _ _ _ rfl

end Reattempt
