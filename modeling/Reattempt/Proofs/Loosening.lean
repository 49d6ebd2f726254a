import Reattempt.Proofs.Answers
import Reattempt.Proofs.Protocol

/-!
# Looser policies

An execution under a looser policy, one with a higher limit that lets more failures pass, goes on
from where the execution under the tighter one ends. Both stop at the first outcome that stops them,
and what stops the looser one stops the tighter one at the latest, by `stops_le`.
-/

namespace Reattempt

variable {σ τ ℓ κ α : Type}

/-! ### Parts of a journal -/

def efforts (journal : List (Entry Call)) : List (Call × Except Escape Value) :=
  journal.filterMap fun
    | ⟨_, .invoke, ending⟩ => some (.invoke, ending)
    | ⟨_, .wait delay, ending⟩ => some (.wait delay, ending)
    | _ => none

def raised (journal : List (Entry Call)) : List Failure :=
  (invocations journal).filterMap fun
    | .error (.raised f) => some f
    | _ => none

theorem follows_cons {item : α} {items : List α} {sequence : Nat → α} (first : item = sequence 0)
    (rest : Follows items fun i => sequence (i + 1)) : Follows (item :: items) sequence := by
  intro i other found
  cases i with
  | zero =>
    obtain rfl : item = other := Option.some.inj found
    exact first
  | succ i => exact rest i other found

theorem follows_nil (sequence : Nat → α) : Follows [] sequence := by
  intro i item found
  cases found

/-! ### Sequences that decide a run -/

/-- The verdict on an outcome; a result is not judged. -/
def verdictOf (accepts : Failure → Bool) : Except Failure Value → Bool
  | .ok _ => true
  | .error f => accepts f

def effort (delay : Value) (outcome : Except Failure Value) : List (Call × Except Escape Value) :=
  [(.wait delay, .ok .null), (.invoke, outcome.mapError .raised)]

namespace Execution

variable {execution : Execution σ} {asks : Nat} {cursor : Cursor} {earlier : List Failure}
  {last : Failure} {entries : List (Entry Call)} {ending : Except Escape Value}
  {outcome : Nat → Except Failure Value} {accepts : Failure → Bool} {delay : Nat → Value}

theorem Course.judged (course : execution.Course asks cursor earlier last entries ending)
    (failed : outcome 0 = .error last)
    (invoked : Follows (invocations entries) fun i => (outcome (i + 1)).mapError .raised)
    (classified : ClassifiedBy accepts entries) :
    Follows (classifications entries) fun i => .ok (.bool (verdictOf accepts (outcome i))) := by
  induction course generalizing outcome with
  | cutOff => exact follows_nil _
  | rejected | faulted | spent | withheld | succeeded =>
    have judged := classified _ (.head _) _ rfl
    refine follows_cons ?_ (follows_nil _)
    rw [failed]
    exact judged
  | @failed _ _ _ _ _ _ _ _ _ _ _ _ next _ _ _ _ _ ih =>
    have judged := classified _ (.head _) _ rfl
    have failed' : .error next = outcome 1 := mapError_raised_inj invoked.uncons.1
    refine follows_cons ?_ (ih failed'.symm invoked.uncons.2 fun entry member =>
      classified entry (List.mem_append_right [_, _, _, _, _, _, _] member))
    rw [failed]
    exact judged

theorem Course.efforts (course : execution.Course asks cursor earlier last entries ending)
    (invoked : Follows (invocations entries) fun i => (outcome i).mapError .raised)
    (calculated : CalculatedBy delay entries) :
    efforts entries = (List.range (invocations entries).length).flatMap fun i =>
      effort (delay (cursor.attempts + i)) (outcome i) := by
  induction course generalizing outcome with
  | cutOff | rejected | faulted | spent | withheld => rfl
  | @succeeded _ cursor _ _ _ _ _ _ _ _ _ d result =>
    have computed : d = delay cursor.attempts :=
      Except.ok.inj (calculated _ (.tail _ (.head _)) _ _ rfl)
    have returned : .ok result = (outcome 0).mapError Escape.raised := invoked.uncons.1
    show [(Call.wait d, _), (Call.invoke, Except.ok result)] =
      effort (delay cursor.attempts) _ ++ []
    rw [computed, returned]
    rfl
  | @failed _ cursor _ _ _ _ _ _ _ _ _ d next entries _ _ _ _ ih =>
    have computed : d = delay cursor.attempts :=
      Except.ok.inj (calculated _ (.tail _ (.head _)) _ _ rfl)
    have failed : .error (.raised next) = (outcome 0).mapError Escape.raised := invoked.uncons.1
    have rest := ih invoked.uncons.2 fun entry member =>
      calculated entry (List.mem_append_right [_, _, _, _, _, _, _] member)
    show (Call.wait d, _) :: (Call.invoke, Except.error (Escape.raised next)) ::
        Reattempt.efforts entries =
      (List.range ((invocations entries).length + 1)).flatMap fun i =>
        effort (delay (cursor.attempts + i)) (outcome i)
    rw [List.range_succ_eq_map, List.flatMap_cons, List.flatMap_map, rest, computed, failed]
    -- The cursor has moved on by one, and so have the sequences.
    have moved : (fun i => effort (delay (cursor.attempts + 1 + i)) (outcome (i + 1))) =
        fun i => effort (delay (cursor.attempts + (i + 1))) (outcome (i + 1)) := by
      funext i
      rw [Nat.add_right_comm, Nat.add_assoc]
    rw [moved]
    rfl

theorem Passage.judged (passage : execution.Passage entries ending)
    (invoked : Follows (invocations entries) fun i => (outcome i).mapError .raised)
    (classified : ClassifiedBy accepts entries) :
    Follows (classifications entries) fun i => .ok (.bool (verdictOf accepts (outcome i))) := by
  cases passage with
  | immediate | unstarted => exact follows_nil _
  | @retried _ _ first _ _ _ _ course =>
    have failed : .error first = outcome 0 := mapError_raised_inj invoked.uncons.1
    exact course.judged failed.symm invoked.uncons.2 fun entry member =>
      classified entry (List.mem_append_right [_, _] member)

end Execution

def effortsUntil (outcome : Nat → Except Failure Value) (delay : Nat → Value) (k : Nat) :
    List (Call × Except Escape Value) :=
  (.invoke, (outcome 0).mapError .raised) ::
    (List.range k).flatMap fun i => effort (delay i) (outcome (i + 1))

theorem Execution.Passage.efforts {execution : Execution σ} {entries : List (Entry Call)}
    {ending : Except Escape Value} {outcome : Nat → Except Failure Value} {delay : Nat → Value}
    {strategy : Strategy} {bound : Value} {k : Nat} (passage : execution.Passage entries ending)
    (start : execution.start = .ok ⟨strategy, bound, 0⟩)
    (invoked : Follows (invocations entries) fun i => (outcome i).mapError .raised)
    (calculated : CalculatedBy delay entries) (counted : (invocations entries).length = k + 1) :
    efforts entries = effortsUntil outcome delay k := by
  cases passage with
  | @immediate _ _ result =>
    obtain rfl : 0 = k := Nat.succ.inj counted
    exact congrArg (fun ending => [(Call.invoke, ending)]) invoked.uncons.1
  | unstarted fault =>
    rw [start] at fault
    cases fault
  | @retried _ _ first cursor entries _ started course =>
    rw [start] at started
    cases started
    obtain rfl : (invocations entries).length = k := Nat.succ.inj counted
    have rest := course.efforts invoked.uncons.2 fun entry member =>
      calculated entry (List.mem_append_right [_, _] member)
    have failed : .error (.raised first) = (outcome 0).mapError Escape.raised := invoked.uncons.1
    show (Call.invoke, Except.error (Escape.raised first)) :: Reattempt.efforts entries = _
    rw [rest, failed, effortsUntil]
    simp only [Nat.zero_add]

/-! ### Comparing where runs stop -/

section

variable {outcome : Nat → Except Failure Value} {verdict verdict' : Nat → Bool}
  {limit limit' k k' : Nat}

/-- What stops the looser run stops the tighter one, if that has not stopped before. -/
theorem stops_le (limits : limit ≤ limit') (includes : ∀ i, verdict i = true → verdict' i = true)
    (least : IsLeast {i | Stops outcome verdict limit i} k)
    (stops : Stops outcome verdict' limit' k') : k ≤ k' := by
  obtain ⟨-, least⟩ := least
  rcases stops with returned | rejected | met
  · exact least (.inl returned)
  · refine least (.inr (.inl ?_))
    cases verdict : verdict k' with
    | false => rfl
    | true =>
      rw [includes k' verdict] at rejected
      cases rejected
  · have reached : k ≤ limit := least (.inr (.inr rfl))
    omega

theorem isPrefix_range (earlier : k ≤ k') : List.range k <+: List.range k' := by
  obtain ⟨more, rfl⟩ := Nat.exists_eq_add_of_le earlier
  exact ⟨_, List.range_add.symm⟩

theorem isPrefix_effortsUntil (outcome : Nat → Except Failure Value) (delay : Nat → Value)
    (earlier : k ≤ k') : effortsUntil outcome delay k <+: effortsUntil outcome delay k' := by
  obtain ⟨more, same⟩ := isPrefix_range earlier
  rw [effortsUntil, effortsUntil, ← same, List.flatMap_append]
  exact ⟨_, rfl⟩

theorem failures_of_failed {failures : List Failure}
    (failed : (List.range k).map outcome = failures.map .error) :
    ((List.range k).map fun i => (outcome i).mapError Escape.raised) =
      failures.map fun f => .error (.raised f) := by
  have raised := congrArg (List.map (Except.mapError Escape.raised)) failed
  rw [List.map_map, List.map_map] at raised
  exact raised

end

/-! ### Executions under two policies -/

namespace Template

variable {template : Template σ ℓ} {operation : Operation σ} {s : σ} {limit limit' : Nat}
  {outcome : Nat → Except Failure Value} {accepts accepts' : Failure → Bool} {delay : Nat → Value}

/-- An execution that no call cuts short, which the outcomes of its operation, a pure classifier and
the delays of a pure strategy decide. -/
structure Regular (template : Template σ ℓ) (operation : Operation σ) (s : σ) (limit : Nat)
    (outcome : Nat → Except Failure Value) (accepts : Failure → Bool) (delay : Nat → Value) : Prop
    extends template.Governed operation limit s where
  invoked : Follows (invocations (template.journal operation s)) fun i =>
    (outcome i).mapError .raised
  classified : Execution.ClassifiedBy accepts (template.journal operation s)
  calculated : Execution.CalculatedBy delay (template.journal operation s)

theorem Regular.settles (regular : template.Regular operation s limit outcome accepts delay) :
    ∃ k, IsLeast {i | Stops outcome (fun i => verdictOf accepts (outcome i)) limit i} k ∧
      invocations (template.journal operation s) =
        (List.range (k + 1)).map (fun i => (outcome i).mapError .raised) ∧
      efforts (template.journal operation s) = effortsUntil outcome delay k ∧
      ∃ earlier : List Failure, (List.range k).map outcome = earlier.map .error ∧
        Execution.Concludes operation.self earlier (template.execute operation s).1
          (outcome k) := by
  obtain ⟨strategy, bound, start, bounds⟩ := regular.allows.start
  have passage := regular.passage
  obtain ⟨k, least, calls, earlier, failed, -, ends⟩ := passage.account_of_bounds start bounds
    regular.undisturbed.delays regular.invoked (passage.judged regular.invoked regular.classified)
  refine ⟨k, least, calls, ?_, earlier, failed, ends⟩
  refine passage.efforts start regular.invoked regular.calculated ?_
  rw [calls, List.length_map, List.length_range]

theorem raised_of_concludes {k : Nat} {earlier : List Failure} {last : Failure}
    {ending : Except Escape Value}
    (calls : invocations (template.journal operation s) =
      (List.range (k + 1)).map fun i => (outcome i).mapError .raised)
    (failed : (List.range k).map outcome = earlier.map .error) (final : outcome k = .error last)
    (ends : Execution.Concludes operation.self earlier ending (outcome k)) :
    ∃ error, ending = .error (.raised error) ∧ error.kind = Kind.exhausted ∧
      error.detail.failures = (raised (template.journal operation s)).map .failure := by
  have all : (List.range (k + 1)).map outcome = (earlier ++ [last]).map .error := by
    rw [List.range_succ, List.map_append, failed, List.map_append, List.map_singleton, final]
    rfl
  have carried : raised (template.journal operation s) = earlier ++ [last] := by
    rw [raised, calls, failures_of_failed all, List.filterMap_map]
    exact List.filterMap_some
  rw [final] at ends
  obtain ⟨name, gave_up⟩ := ends
  refine ⟨_, gave_up, rfl, ?_⟩
  show earlier.map Value.failure ++ [Value.failure last] = _
  rw [carried, List.map_append, List.map_singleton]

/-- Under a policy with a higher limit, which lets every failure pass that the tighter one lets
pass, an execution does what it does under the tighter one and may go on. What succeeds under the
tighter policy succeeds the same way; what fails under the looser one fails under the tighter one,
with the first of the same failures. -/
theorem execute_loosened {second : Template τ κ} {other : Operation τ} {s' : τ}
    (tight : template.Regular operation s limit outcome accepts delay)
    (loose : second.Regular other s' limit' outcome accepts' delay) (limits : limit ≤ limit')
    (includes : ∀ f, accepts f = true → accepts' f = true) :
    efforts (template.journal operation s) <+: efforts (second.journal other s') ∧
      raised (template.journal operation s) <+: raised (second.journal other s') ∧
      (∀ v, (template.execute operation s).1 = .ok v → (second.execute other s').1 = .ok v ∧
        invocations (second.journal other s') = invocations (template.journal operation s)) ∧
      ∀ e, (second.execute other s').1 = .error e → ∃ error error',
        (template.execute operation s).1 = .error (.raised error) ∧ e = .raised error' ∧
        error.kind = Kind.exhausted ∧ error'.kind = Kind.exhausted ∧
        error.detail.failures = (raised (template.journal operation s)).map .failure ∧
        error'.detail.failures = (raised (second.journal other s')).map .failure ∧
        error.detail.failures <+: error'.detail.failures := by
  obtain ⟨k, least, calls, exerts, earlier, failed, ends⟩ := tight.settles
  obtain ⟨k', least', calls', exerts', earlier', failed', ends'⟩ := loose.settles
  have passes (i : Nat) (passed : verdictOf accepts (outcome i) = true) :
      verdictOf accepts' (outcome i) = true := by
    cases final : outcome i with
    | ok v => rfl
    | error f =>
      rw [final] at passed
      exact includes f passed
  have first : k ≤ k' := stops_le limits passes least least'.1
  have invoked : invocations (template.journal operation s) <+:
      invocations (second.journal other s') := by
    rw [calls, calls']
    exact (isPrefix_range (Nat.succ_le_succ first)).map _
  have failures : raised (template.journal operation s) <+: raised (second.journal other s') :=
    invoked.filterMap _
  refine ⟨?_, failures, ?_, ?_⟩
  · rw [exerts, exerts']
    exact isPrefix_effortsUntil outcome delay first
  · intro v returned
    rw [returned] at ends
    cases final : outcome k with
    | error last =>
      rw [final] at ends
      obtain ⟨name, gave_up⟩ := ends
      cases gave_up
    | ok result =>
      rw [final] at ends
      -- A result stops the looser run too.
      obtain rfl : k = k' := Nat.le_antisymm first (least'.2 (.inl ⟨result, final⟩))
      rw [final] at ends'
      exact ⟨ends'.trans ends.symm, calls'.trans calls.symm⟩
  · intro e gave_up
    rw [gave_up] at ends'
    cases final' : outcome k' with
    | ok result =>
      rw [final'] at ends'
      cases ends'
    | error last' =>
      have final : ∃ last, outcome k = .error last := by
        rcases Nat.lt_or_eq_of_le first with before | rfl
        · have present : outcome k ∈ earlier'.map .error := by
            rw [← failed']
            exact List.mem_map_of_mem (List.mem_range.mpr before)
          obtain ⟨last, -, same⟩ := List.mem_map.mp present
          exact ⟨last, same.symm⟩
        · exact ⟨last', final'⟩
      obtain ⟨last, final⟩ := final
      obtain ⟨error, raises, kind, carries⟩ := raised_of_concludes calls failed final ends
      obtain ⟨error', raises', kind', carries'⟩ := raised_of_concludes calls' failed' final' ends'
      refine ⟨error, error', raises, Except.error.inj raises', kind, kind', carries, carries', ?_⟩
      rw [carries, carries']
      exact failures.map _

theorem quiet_regular {policy : Policy} {strategy : Strategy} {bound : Value} {n : Nat}
    {operation : Operation Nat} {s : Nat} (passes : policy.classifier = .classifier .all)
    (start : policy.start = .ok ⟨strategy, bound, 0⟩) (shape : strategy.shape = .fixed (.int 0))
    (governed : (quiet policy).Governed operation n s)
    (invoked : Follows (invocations ((quiet policy).journal operation s)) fun i =>
      (outcome i).mapError .raised) :
    (quiet policy).Regular operation s n outcome (fun _ => true) fun _ => .int 0 where
  toGoverned := governed
  invoked
  classified := Execution.journal_classifiedBy
    (fun f s => congrArg Prod.fst (quiet_accepts passes f s)) s
  calculated := Execution.journal_calculatedBy (fun cursor starts i s =>
    congrArg Prod.fst (quiet_calculates start shape cursor starts i s)) s

/-- An operation that fails once is given up without retries, and succeeds if one is allowed. -/
theorem execute_loosened_failing_once :
    let strategy (n : Int) : Strategy := ⟨0, .int n, .fixed (.int 0), []⟩
    let policy (n : Int) : Policy := ⟨1, .int 0, 0, .strategy (strategy n), .classifier .all⟩
    let outcome : Nat → Except Failure Value := fun i =>
      if i < 1 then .error (.plain i Kind.valueError []) else .ok (.int i)
    let first := quiet (policy 0)
    let second := quiet (policy 1)
    first.Regular (.failing 1) 0 0 outcome (fun _ => true) (fun _ => .int 0) ∧
      second.Regular (.failing 1) 0 1 outcome (fun _ => true) (fun _ => .int 0) ∧
      efforts (first.journal (.failing 1) 0) <+: efforts (second.journal (.failing 1) 0) ∧
      raised (first.journal (.failing 1) 0) <+: raised (second.journal (.failing 1) 0) ∧
      (second.execute (.failing 1) 0).1 = .ok (.int 1) := by
  intro strategy policy outcome first second
  have tight : first.Regular (.failing 1) 0 0 outcome (fun _ => true) fun _ => .int 0 :=
    quiet_regular rfl rfl rfl
      ⟨⟨policy 0, rfl, ⟨rfl, .inr ⟨_, rfl⟩⟩, Value.bounds_of_whole (i := 0) rfl⟩, by decide⟩
      (follows_range (n := 1) rfl)
  have loose : second.Regular (.failing 1) 0 1 outcome (fun _ => true) fun _ => .int 0 :=
    quiet_regular rfl rfl rfl
      ⟨⟨policy 1, rfl, ⟨rfl, .inr ⟨_, rfl⟩⟩, Value.bounds_of_whole (i := 1) rfl⟩, by decide⟩
      (follows_range (n := 2) rfl)
  obtain ⟨exerts, fails, -⟩ := execute_loosened tight loose (by decide) fun _ passed => passed
  exact ⟨tight, loose, exerts, fails, rfl⟩

end Template

end Reattempt
