import Reattempt.Proofs.Outcome
import Reattempt.Proofs.Pacing

/-!
# The protocol of a run

What a run shows to its surroundings: an invocation, then rounds, and a last occasion when it gives
up. A round is a wait, the occasion before a retry, an invocation and the occasion that reports it.
-/

namespace Reattempt

variable {σ : Type}

/-! ### Rounds -/

/-- A retry: how long it waits, and what its invocation comes to. -/
structure Round where
  delay : Value
  outcome : Except Failure Value

namespace Round

def report (round : Round) : Occasion :=
  match round.outcome with
  | .ok result => .retrySuccess result
  | .error f => .retryFailure f

def shown (round : Round) : List (Call × Except Escape Value) :=
  [(.wait round.delay, .ok .null), (.observe .beforeRetry, .ok .null),
    (.invoke, round.outcome.mapError .raised), (.observe round.report, .ok .null)]

end Round

def shown (journal : List (Entry Call)) : List (Call × Except Escape Value) :=
  journal.filterMap fun
    | ⟨_, .invoke, ending⟩ => some (.invoke, ending)
    | ⟨_, .wait delay, ending⟩ => some (.wait delay, ending)
    | ⟨_, .observe occasion, ending⟩ => some (.observe occasion, ending)
    | _ => none

def calculations (journal : List (Entry Call)) : List (Call × Except Escape Value) :=
  journal.filterMap fun
    | ⟨_, .calculate strategy attempt, ending⟩ => some (.calculate strategy attempt, ending)
    | _ => none

def Strategy.calculations (strategy : Strategy) (attempts : Nat) (rounds : List Round) :
    List (Call × Except Escape Value) :=
  (rounds.zipIdx attempts).map fun (round, i) => (.calculate strategy (.int i), .ok round.delay)

def Exhausted (ending : Except Escape Value) : Prop :=
  ∃ f, ending = .error (.raised f) ∧ f.isExhaustion = true

/-- How a run with given outcomes closes: all but the last one are failures, a result is returned,
and the last failure is told exactly when the run gives up. -/
structure Closes (outcomes : List (Except Failure Value))
    (final : List (Call × Except Escape Value)) (ending : Except Escape Value) : Prop where
  failures : ∀ outcome ∈ outcomes.dropLast, ∃ f, outcome = .error f
  returned : ∀ result, outcomes.getLast? = some (.ok result) → ending = .ok result
  told : Exhausted ending → ∃ last, outcomes.getLast? = some (.error last) ∧
    final = [(.observe (.exhaustion last), .ok .null)]
  silent : ¬ Exhausted ending → final = []

namespace Closes

theorem result {v : Value} : Closes [.ok v] [] (.ok v) where
  failures _ member := absurd member List.not_mem_nil
  returned result last := by
    cases last
    rfl
  told exhausted := by
    obtain ⟨f, raised, -⟩ := exhausted
    cases raised
  silent _ := rfl

theorem exhaustion {message : String} {last : Failure} {earlier : List Failure}
    {operation : Value} :
    Closes [.error last] [(.observe (.exhaustion last), .ok .null)]
      (.error (.raised (.exhausted message last earlier operation))) where
  failures _ member := absurd member List.not_mem_nil
  returned _ last := by cases last
  told _ := ⟨last, rfl, rfl⟩
  silent other := absurd ⟨_, rfl, by rfl⟩ other

theorem cut {last : Failure} {e : Escape} (other : ¬ Exhausted (.error e)) :
    Closes [.error last] [] (.error e) where
  failures _ member := absurd member List.not_mem_nil
  returned _ last := by cases last
  told exhausted := absurd exhausted other
  silent _ := rfl

theorem cons {f : Failure} {outcome : Except Failure Value} {outcomes : List (Except Failure Value)}
    {final : List (Call × Except Escape Value)} {ending : Except Escape Value}
    (rest : Closes (outcome :: outcomes) final ending) :
    Closes (.error f :: outcome :: outcomes) final ending where
  failures other member := by
    rcases List.mem_cons.mp member with rfl | member
    · exact ⟨f, rfl⟩
    · exact rest.failures other member
  returned result last := rest.returned result last
  told exhausted := rest.told exhausted
  silent other := rest.silent other

end Closes

theorem Fault.not_exhausted (fault : Fault) : ¬ Exhausted (.error (.raised fault.toFailure)) := by
  rintro ⟨f, raised, exhaustion⟩
  cases raised
  have other : fault.kind.isA Kind.exhausted = false := by
    unfold Fault.kind
    split <;> decide
  exact absurd (exhaustion.symm.trans other) (by simp)

/-! ### Rounds of a run -/

namespace Execution

variable {execution : Execution σ} {asks : Nat} {cursor : Cursor} {earlier : List Failure}
  {last : Failure} {entries : List (Entry Call)} {ending : Except Escape Value}

theorem Course.rounds (course : execution.Course asks cursor earlier last entries ending) :
    ∃ rounds final, shown entries = rounds.flatMap Round.shown ++ final ∧
      Closes (.error last :: rounds.map Round.outcome) final ending ∧
      (GivesDelays entries →
        calculations entries = cursor.strategy.calculations cursor.attempts rounds) ∧
      waits entries = rounds.map Round.delay := by
  induction course with
  | cutOff => exact ⟨[], [], rfl, .cut (by rintro ⟨f, raised, -⟩; cases raised), fun _ => rfl, rfl⟩
  | rejected => exact ⟨[], _, rfl, .exhaustion, fun _ => rfl, rfl⟩
  | faulted => exact ⟨[], [], rfl, .cut (Fault.not_exhausted _), fun _ => rfl, rfl⟩
  | spent => exact ⟨[], _, rfl, .exhaustion, fun _ => rfl, rfl⟩
  | @withheld _ _ _ _ _ _ _ _ delay _ absent =>
    refine ⟨[], _, rfl, .exhaustion, fun delays => ?_, rfl⟩
    exact absurd absent (delays.present (.tail _ (.head _)))
  | @succeeded _ _ _ _ _ _ _ _ _ _ _ delay result =>
    exact ⟨[⟨delay, .ok result⟩], [], rfl, .cons .result, fun _ => rfl, rfl⟩
  | @failed _ cursor _ _ _ _ _ _ _ _ _ delay next _ _ _ _ _ ih =>
    obtain ⟨rounds, final, shows, closes, asks, waited⟩ := ih
    refine ⟨⟨delay, .error next⟩ :: rounds, final, ?_, closes.cons, fun delays => ?_, ?_⟩
    · exact congrArg (Round.shown ⟨delay, .error next⟩ ++ ·) shows
    · rw [Strategy.calculations, List.zipIdx_cons, List.map_cons]
      exact congrArg ((Call.calculate cursor.strategy (.int cursor.attempts), .ok delay) :: ·)
        (asks (delays.drop 7))
    · exact congrArg (delay :: ·) waited

theorem Passage.rounds (passage : execution.Passage entries ending) :
    ∃ (first : Except Failure Value) (rounds : List Round)
      (final : List (Call × Except Escape Value)),
      shown entries = (.invoke, first.mapError .raised) :: (rounds.flatMap Round.shown ++ final) ∧
      Closes (first :: rounds.map Round.outcome) final ending ∧
      (∀ cursor, execution.start = .ok cursor → GivesDelays entries →
        calculations entries = cursor.strategy.calculations cursor.attempts rounds) ∧
      waits entries = rounds.map Round.delay := by
  cases passage with
  | @immediate _ _ result => exact ⟨.ok result, [], [], rfl, .result, fun _ _ _ => rfl, rfl⟩
  | @unstarted _ _ first =>
    exact ⟨.error first, [], [], rfl, .cut (Fault.not_exhausted _), fun _ _ _ => rfl, rfl⟩
  | @retried _ _ first cursor _ _ start course =>
    obtain ⟨rounds, final, shows, closes, asks, waited⟩ := course.rounds
    refine ⟨.error first, rounds, final, ?_, closes, fun cursor' start' delays => ?_, waited⟩
    · exact congrArg ((Call.invoke, .error (.raised first)) :: ·) shows
    · rw [start] at start'
      cases start'
      exact asks (delays.drop 2)

end Execution

/-! ### Counting the calls of rounds -/

namespace Call

def isInvocation : Call → Bool
  | invoke => true
  | _ => false

def announcesRetry : Call → Bool
  | observe .beforeRetry => true
  | _ => false

end Call

theorem Round.countP_isInvocation (round : Round) :
    (round.shown.countP fun call => call.1.isInvocation) = 1 := rfl

theorem Round.countP_announcesRetry (round : Round) :
    (round.shown.countP fun call => call.1.announcesRetry) = 1 := by
  obtain ⟨delay, outcome⟩ := round
  cases outcome <;> rfl

theorem countP_rounds {p : Call × Except Escape Value → Bool}
    (once : ∀ round : Round, round.shown.countP p = 1) (rounds : List Round) :
    (rounds.flatMap Round.shown).countP p = rounds.length := by
  induction rounds with
  | nil => rfl
  | cons round rounds ih =>
    rw [List.flatMap_cons, List.countP_append, once, ih, List.length_cons, Nat.add_comm]

theorem Closes.countP_final {outcomes : List (Except Failure Value)}
    {final : List (Call × Except Escape Value)} {ending : Except Escape Value}
    (closes : Closes outcomes final ending) {p : Call × Except Escape Value → Bool}
    (never : ∀ last, p (.observe (.exhaustion last), .ok .null) = false) : final.countP p = 0 := by
  by_cases exhausted : Exhausted ending
  · obtain ⟨last, -, rfl⟩ := closes.told exhausted
    rw [List.countP_singleton, never]
    rfl
  · rw [closes.silent exhausted]
    rfl

/-! ### Executions on templates -/

namespace Template

variable {ℓ : Type} {template : Template σ ℓ} {operation : Operation σ} {s : σ}

theorem started_strategy {policy : Policy} {strategy : Strategy}
    (held : template.policy s = some policy) (made : policy.strategy 0 = .ok (.strategy strategy)) :
    (template.started operation s).start = .ok (strategy.start (.int policy.maxAttempts)) := by
  rw [started_start held, Policy.start, made]
  rfl

/-- Leaves are told with the policy that the template has when the execution starts and with its
operation; how they would take anything else makes no difference. -/
theorem started_notify {notify : Option Policy → Operation σ → Occasion → ℓ → Task σ Unit}
    (agrees : ∀ occasion leaf, notify (template.policy s) operation occasion leaf =
      template.notify (template.policy s) operation occasion leaf) :
    ({ template with notify } : Template σ ℓ).started operation s =
      template.started operation s := by
  have same : ({ template with notify } : Template σ ℓ).observe (template.policy s)
      (template.listener s) operation =
      template.observe (template.policy s) (template.listener s) operation := by
    funext occasion
    unfold observe
    dsimp only
    rw [funext (agrees occasion)]
  unfold started execution
  dsimp only
  rw [same]

/-- An execution that no call cuts short keeps the protocol. It shows one invocation, then rounds,
and at the end, exactly when it gives up, the occasion that tells the last failure. If the strategy
gives a delay whenever it is asked, it is asked for the delays of the rounds, with 0, 1, 2 and so
on; each leaf is told with the policy and the operation of this execution; and pauses suspend for
the positive delays, in order. -/
theorem execute_protocol (smooth : ∀ entry ∈ template.journal operation s, entry.Smooth .invoke) :
    ∃ (first : Except Failure Value) (rounds : List Round)
      (final : List (Call × Except Escape Value)),
      shown (template.journal operation s) =
        (.invoke, first.mapError .raised) :: (rounds.flatMap Round.shown ++ final) ∧
      Closes (first :: rounds.map Round.outcome) final (template.execute operation s).1 ∧
      ((shown (template.journal operation s)).countP fun call => call.1.announcesRetry) + 1 =
        ((shown (template.journal operation s)).countP fun call => call.1.isInvocation) ∧
      (∀ policy strategy, template.policy s = some policy →
        policy.strategy 0 = .ok (.strategy strategy) →
        GivesDelays (template.journal operation s) →
        calculations (template.journal operation s) = strategy.calculations 0 rounds) ∧
      (∀ notify : Option Policy → Operation σ → Occasion → ℓ → Task σ Unit,
        (∀ occasion leaf, notify (template.policy s) operation occasion leaf =
          template.notify (template.policy s) operation occasion leaf) →
        ({ template with notify } : Template σ ℓ).execute operation s =
          template.execute operation s) ∧
      (∀ suspend, template.wait = pause template.examination.tell suspend → Refuses suspend →
        ((template.started operation s).noting suspend).run (s, []) =
          ((template.execute operation s).1, ((template.execute operation s).2,
            (rounds.map Round.delay).filter Value.isPositive))) := by
  obtain ⟨first, rounds, final, shows, closes, asks, waited⟩ := (execute_passage smooth).rounds
  refine ⟨first, rounds, final, shows, closes, ?_, ?_, ?_, ?_⟩
  · rw [shows, List.countP_cons_of_neg (by simp [Call.announcesRetry]),
      List.countP_cons_of_pos (by rfl), List.countP_append, List.countP_append,
      countP_rounds Round.countP_announcesRetry, countP_rounds Round.countP_isInvocation,
      closes.countP_final fun _ => rfl, closes.countP_final fun _ => rfl]
  · intro policy strategy held made
    exact asks _ (started_strategy held made)
  · intro notify agrees
    rw [execute_apply, execute_apply, started_notify agrees]
  · intro suspend pauses refuses
    rw [← waited, execute_eq_run smooth]
    exact (template.started operation s).noting_run pauses refuses smooth

def suspendOnly (d : Value) : Task Nat Unit :=
  if d.isPositive then pure () else Task.fault .timeNotNumber

theorem refuses_suspendOnly : Refuses suspendOnly := by
  intro d s _ other
  rw [suspendOnly, other]
  exact ⟨_, rfl⟩

theorem execute_protocol_failing_once :
    let policy : Policy := ⟨1, .int 2, 0, .null, .classifier .all⟩
    let template : Template Nat Unit :=
      { quiet policy with wait := pause (quiet policy).examination.tell suspendOnly }
    Undisturbed (template.journal (.failing 1) 0) ∧
      ∃ (first : Except Failure Value) (rounds : List Round)
        (final : List (Call × Except Escape Value)),
        shown (template.journal (.failing 1) 0) =
          (.invoke, first.mapError .raised) :: (rounds.flatMap Round.shown ++ final) ∧
        Closes (first :: rounds.map Round.outcome) final (template.execute (.failing 1) 0).1 ∧
        calculations (template.journal (.failing 1) 0) =
          Strategy.calculations ⟨0, .int 1, .fixed (.int 2), []⟩ 0 rounds ∧
        ((template.started (.failing 1) 0).noting suspendOnly).run (0, []) =
          ((template.execute (.failing 1) 0).1, ((template.execute (.failing 1) 0).2,
            (rounds.map Round.delay).filter Value.isPositive)) := by
  intro policy template
  have undisturbed : Undisturbed (template.journal (.failing 1) 0) := by decide
  obtain ⟨first, rounds, final, shows, closes, -, asks, -, paced⟩ :=
    execute_protocol undisturbed.smooth
  exact ⟨undisturbed, first, rounds, final, shows, closes,
    asks policy _ rfl rfl undisturbed.delays, paced suspendOnly rfl refuses_suspendOnly⟩

end Template

end Reattempt
