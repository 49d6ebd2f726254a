import Mathlib.Order.Bounds.Defs
import Reattempt.Proofs.Budget
import Reattempt.Proofs.Course

/-!
# Outcomes

What an execution comes to, told from the outcomes of the operation and the verdicts on its
failures alone: it stops at the first outcome that is a result, is rejected, or meets the limit.
-/

namespace Reattempt

variable {σ α : Type}

/-! ### Parts of a journal -/

def invocations (journal : List (Entry Call)) : List (Except Escape Value) :=
  journal.filterMap fun
    | ⟨_, .invoke, ending⟩ => some ending
    | _ => none

def classifications (journal : List (Entry Call)) : List (Except Escape Value) :=
  journal.filterMap fun
    | ⟨_, .classify _, ending⟩ => some ending
    | _ => none

theorem invocations_append (entries more : List (Entry Call)) :
    invocations (entries ++ more) = invocations entries ++ invocations more :=
  List.filterMap_append

def judgements (journal : List (Entry Call)) : List Call :=
  journal.filterMap fun
    | ⟨_, .classify f, _⟩ => some (.classify f)
    | ⟨_, .calculate strategy attempt, _⟩ => some (.calculate strategy attempt)
    | _ => none

def Follows (items : List α) (sequence : Nat → α) : Prop :=
  ∀ i item, items[i]? = some item → item = sequence i

theorem Follows.uncons {item : α} {items : List α} {sequence : Nat → α}
    (h : Follows (item :: items) sequence) :
    item = sequence 0 ∧ Follows items fun i => sequence (i + 1) :=
  ⟨h 0 item rfl, fun i other found => h (i + 1) other found⟩

theorem follows_range {n : Nat} {items : List α} {sequence : Nat → α}
    (h : items = (List.range n).map sequence) : Follows items sequence := by
  intro i item found
  have within : i < n := by
    have := (List.getElem?_eq_some_iff.mp found).1
    rwa [h, List.length_map, List.length_range] at this
  rw [h, List.getElem?_map, List.getElem?_range within] at found
  exact (Option.some.inj found).symm

theorem mapError_raised_inj {outcome outcome' : Except Failure α}
    (h : outcome.mapError Escape.raised = outcome'.mapError .raised) : outcome = outcome' := by
  cases outcome <;> cases outcome' <;> cases h <;> rfl

/-! ### Where a run stops -/

/-- A run stops at an outcome that is a result, at a failure that is rejected, and at the limit. -/
def Stops (outcome : Nat → Except Failure Value) (verdict : Nat → Bool) (limit i : Nat) : Prop :=
  (∃ result, outcome i = .ok result) ∨ verdict i = false ∨ i = limit

variable {outcome : Nat → Except Failure Value} {verdict : Nat → Bool} {limit k : Nat}

theorem isLeast_stops_zero (stops : Stops outcome verdict limit 0) :
    IsLeast {i | Stops outcome verdict limit i} 0 :=
  ⟨stops, fun _ _ => Nat.zero_le _⟩

theorem isLeast_stops_succ {last : Failure} (failed : outcome 0 = .error last)
    (accepted : verdict 0 = true) (within : limit ≠ 0)
    (rest : IsLeast {i | Stops (fun i => outcome (i + 1)) (fun i => verdict (i + 1)) (limit - 1) i} k) :
    IsLeast {i | Stops outcome verdict limit i} (k + 1) := by
  obtain ⟨stops, least⟩ := rest
  constructor
  · rcases stops with result | rejected | met
    · exact .inl result
    · exact .inr (.inl rejected)
    · exact .inr (.inr (by omega))
  · intro i stops'
    cases i with
    | zero =>
      rcases stops' with ⟨result, returned⟩ | rejected | met
      · rw [failed] at returned
        cases returned
      · rw [accepted] at rejected
        cases rejected
      · exact absurd met.symm within
    | succ i =>
      refine Nat.succ_le_succ (least ?_)
      rcases stops' with result | rejected | met
      · exact .inl result
      · exact .inr (.inl rejected)
      · exact .inr (.inr (by omega))

/-! ### What a run comes to -/

namespace Execution

def lastJudgement : Except Failure Value → List Call
  | .ok _ => []
  | .error last => [.classify last]

/-- The judgements on failures that are retried: each is classified, and then a delay is asked
for. -/
def roundJudgements (strategy : Strategy) (attempts : Nat) (history : List Failure) : List Call :=
  (history.zipIdx attempts).flatMap fun (f, i) => [.classify f, .calculate strategy (.int i)]

def Concludes (operation : Value) (history : List Failure) (ending : Except Escape Value) :
    Except Failure Value → Prop
  | .ok result => ending = .ok result
  | .error last => ∃ name, ending = .error (.raised
      (.exhausted (exhaustedMessage name) last history operation))

/-- What the part of a run after its first invocation comes to, when it stops at an index: the
failures until then, the invocations, the judgements and the ending. -/
structure Account (execution : Execution σ) (cursor : Cursor) (earlier : List Failure)
    (outcome : Nat → Except Failure Value) (k : Nat) (entries : List (Entry Call))
    (ending : Except Escape Value) : Prop where
  invoked : invocations entries = (List.range k).map fun i => (outcome (i + 1)).mapError .raised
  history : ∃ history : List Failure, (List.range k).map outcome = history.map .error ∧
    judgements entries =
      roundJudgements cursor.strategy cursor.attempts history ++ lastJudgement (outcome k) ∧
    Concludes execution.operation (earlier ++ history) ending (outcome k)

variable {execution : Execution σ} {cursor : Cursor} {earlier : List Failure} {last : Failure}
  {asks n : Nat} {entries : List (Entry Call)} {ending : Except Escape Value}

theorem Account.stopped {name : String} (failed : outcome 0 = .error last)
    (invoked : invocations entries = []) (judged : judgements entries = [.classify last])
    (ends : ending = .error (.raised
      (.exhausted (exhaustedMessage name) last earlier execution.operation))) :
    execution.Account cursor earlier outcome 0 entries ending := by
  refine ⟨invoked, [], rfl, ?_, ?_⟩
  · rw [judged, failed]
    rfl
  · rw [failed, List.append_nil]
    exact ⟨name, ends⟩

theorem Account.round {more : List (Entry Call)}
    (rest : execution.Account { cursor with attempts := cursor.attempts + 1 } (earlier ++ [last])
      (fun i => outcome (i + 1)) k more ending)
    (failed : outcome 0 = .error last)
    (invoked : invocations entries = (outcome 1).mapError .raised :: invocations more)
    (judged : judgements entries = .classify last ::
      .calculate cursor.strategy (.int cursor.attempts) :: judgements more) :
    execution.Account cursor earlier outcome (k + 1) entries ending := by
  obtain ⟨history, failures, judges, ends⟩ := rest.history
  constructor
  · rw [invoked, rest.invoked, List.range_succ_eq_map, List.map_cons, List.map_map]
    rfl
  · refine ⟨last :: history, ?_, ?_, ?_⟩
    · rw [List.range_succ_eq_map, List.map_cons, List.map_map, failed]
      exact congrArg (Except.error last :: ·) failures
    · rw [judged, judges, roundJudgements, roundJudgements, List.zipIdx_cons, List.flatMap_cons]
      rfl
    · rw [List.append_cons]
      exact ends

/-- The induction over the rounds: the cursor stands as far before the limit as the sequences have
moved on. -/
theorem Course.account (course : execution.Course asks cursor earlier last entries ending)
    (bounds : cursor.limit.Bounds n) (enough : asks = n - cursor.attempts + 1)
    (delays : GivesDelays entries)
    (failed : outcome 0 = .error last)
    (invoked : Follows (invocations entries) fun i => (outcome (i + 1)).mapError .raised)
    (judged : Follows (classifications entries) fun i => .ok (.bool (verdict i))) :
    ∃ k, IsLeast {i | Stops outcome verdict (n - cursor.attempts) i} k ∧
      execution.Account cursor earlier outcome k entries ending := by
  induction course generalizing outcome verdict with
  | cutOff => cases enough
  | rejected =>
    have rejects : false = verdict 0 := by simpa using judged.uncons.1
    exact ⟨0, isLeast_stops_zero (.inr (.inl rejects.symm)), .stopped failed rfl rfl rfl⟩
  | faulted spent =>
    rw [bounds.isSpent] at spent
    cases spent
  | spent spent =>
    rw [bounds.isSpent] at spent
    have met : n ≤ _ := of_decide_eq_true (Except.ok.inj spent)
    exact ⟨0, isLeast_stops_zero (.inr (.inr (by omega))), .stopped failed rfl rfl rfl⟩
  | withheld _ absent => exact absurd absent (delays.present (.tail _ (.head _)))
  | @succeeded _ cursor _ _ _ _ _ _ _ _ _ _ result spent =>
    rw [bounds.isSpent] at spent
    have within : ¬ n ≤ cursor.attempts := of_decide_eq_false (Except.ok.inj spent)
    have accepts : true = verdict 0 := by simpa using judged.uncons.1
    have returned : .ok result = outcome 1 := mapError_raised_inj invoked.uncons.1
    refine ⟨1, isLeast_stops_succ failed accepts.symm (by omega)
      (isLeast_stops_zero (.inl ⟨result, returned.symm⟩)), ?_⟩
    refine Account.round ⟨rfl, [], rfl, ?_, ?_⟩ failed ?_ (show _ = _ :: _ :: judgements [] from rfl)
    · rw [← returned]
      rfl
    · rw [← returned]
      exact rfl
    · rw [← returned]
      rfl
  | @failed _ cursor _ _ _ _ _ _ _ _ _ _ next _ _ spent _ _ ih =>
    rw [bounds.isSpent] at spent
    have within : ¬ n ≤ cursor.attempts := of_decide_eq_false (Except.ok.inj spent)
    have accepts : true = verdict 0 := by simpa using judged.uncons.1
    have failed' : .error next = outcome 1 := mapError_raised_inj invoked.uncons.1
    obtain ⟨k, least, account⟩ := @ih (fun i => outcome (i + 1)) (fun i => verdict (i + 1))
      bounds (by dsimp only; omega) (delays.drop 7) failed'.symm invoked.uncons.2 judged.uncons.2
    refine ⟨k + 1, isLeast_stops_succ failed accepts.symm (by omega) ?_, ?_⟩
    · -- The cursor has moved on by one, so one retry less is left.
      rw [Nat.sub_sub]
      exact least
    · refine account.round failed ?_ rfl
      rw [← failed']
      rfl

theorem Passage.account_of_bounds {strategy : Strategy} {bound : Value}
    (passage : execution.Passage entries ending)
    (start : execution.start = .ok ⟨strategy, bound, 0⟩) (bounds : bound.Bounds n)
    (delays : GivesDelays entries)
    (invoked : Follows (invocations entries) fun i => (outcome i).mapError .raised)
    (judged : Follows (classifications entries) fun i => .ok (.bool (verdict i))) :
    ∃ k, IsLeast {i | Stops outcome verdict n i} k ∧
      invocations entries = (List.range (k + 1)).map (fun i => (outcome i).mapError .raised) ∧
      ∃ history : List Failure, (List.range k).map outcome = history.map .error ∧
        judgements entries = roundJudgements strategy 0 history ++ lastJudgement (outcome k) ∧
        Concludes execution.operation history ending (outcome k) := by
  cases passage with
  | @immediate _ _ result =>
    have returned : .ok result = outcome 0 := mapError_raised_inj invoked.uncons.1
    refine ⟨0, isLeast_stops_zero (.inl ⟨result, returned.symm⟩), ?_, [], rfl, ?_, ?_⟩
    · show _ = [(outcome 0).mapError Escape.raised]
      rw [← returned]
      rfl
    · rw [← returned]
      rfl
    · rw [← returned]
      exact rfl
  | unstarted fault =>
    rw [start] at fault
    cases fault
  | @retried _ _ first _ entries _ start' course =>
    rw [start] at start'
    cases start'
    have failed : .error first = outcome 0 := mapError_raised_inj invoked.uncons.1
    obtain ⟨k, least, account⟩ := course.account bounds (bounds.asks strategy 0 _) (delays.drop 2)
      failed.symm invoked.uncons.2 judged
    refine ⟨k, least, ?_, account.history⟩
    rw [List.range_succ_eq_map, List.map_cons, List.map_map, ← failed]
    exact congrArg (Except.error (Escape.raised first) :: ·) account.invoked

theorem Passage.account {strategy : Strategy} {bound : Value}
    (passage : execution.Passage entries ending)
    (start : execution.start = .ok ⟨strategy, bound, 0⟩) (whole : bound.whole? = some (n : Int))
    (delays : GivesDelays entries)
    (invoked : Follows (invocations entries) fun i => (outcome i).mapError .raised)
    (judged : Follows (classifications entries) fun i => .ok (.bool (verdict i))) :
    ∃ k, IsLeast {i | Stops outcome verdict n i} k ∧
      invocations entries = (List.range (k + 1)).map (fun i => (outcome i).mapError .raised) ∧
      ∃ history : List Failure, (List.range k).map outcome = history.map .error ∧
        judgements entries = roundJudgements strategy 0 history ++ lastJudgement (outcome k) ∧
        Concludes execution.operation history ending (outcome k) :=
  passage.account_of_bounds start (Value.bounds_of_whole whole) delays invoked judged

end Execution

/-! ### Executions on templates -/

namespace Template

variable {ℓ : Type} {template : Template σ ℓ} {operation : Operation σ} {s : σ} {policy : Policy}

theorem started_start (held : template.policy s = some policy) :
    (template.started operation s).start = policy.start := by
  rw [started, held, execution]

/-- The policy of this moment is one that can be made, and its limit bounds the retries. -/
def Allows (template : Template σ ℓ) (limit : Nat) (s : σ) : Prop :=
  ∃ policy, template.policy s = some policy ∧ policy.Sound ∧ policy.limit.Bounds limit

theorem Allows.start (allows : template.Allows limit s) :
    ∃ strategy bound, (template.started operation s).start = .ok ⟨strategy, bound, 0⟩ ∧
      bound.Bounds limit := by
  obtain ⟨policy, held, sound, bounds⟩ := allows
  obtain ⟨strategy, -, start⟩ := sound.start
  exact ⟨strategy, policy.limit, (started_start held).trans start, bounds⟩

structure Governed (template : Template σ ℓ) (operation : Operation σ) (limit : Nat) (s : σ) :
    Prop where
  allows : template.Allows limit s
  undisturbed : Undisturbed (template.journal operation s)

theorem Governed.passage (governed : template.Governed operation limit s) :
    (template.started operation s).Passage (template.journal operation s)
      (template.execute operation s).1 :=
  execute_passage governed.undisturbed.smooth

/-- An execution comes to what the outcomes of the operation and the verdicts on its failures say.
It stops at the first outcome that is a result, is rejected or meets the limit, which is that of
the strategy or else that of the policy. A result is returned; the last failure is raised inside
one that carries all others. Every failure is classified once, before any delay is asked for and
even where the limit is met. No call cuts the execution short, and the strategy gives a delay
whenever it is asked. -/
theorem execute_outcome (held : template.policy s = some policy) (sound : policy.Sound)
    (whole : policy.limit.whole? = some (limit : Int))
    (undisturbed : Undisturbed (template.journal operation s))
    (invoked : Follows (invocations (template.journal operation s)) fun i =>
      (outcome i).mapError .raised)
    (judged : Follows (classifications (template.journal operation s)) fun i =>
      .ok (.bool (verdict i))) :
    ∃ k, IsLeast {i | Stops outcome verdict limit i} k ∧
      invocations (template.journal operation s) =
        (List.range (k + 1)).map (fun i => (outcome i).mapError .raised) ∧
      ∃ (history : List Failure) (strategy : Strategy),
        (List.range k).map outcome = history.map .error ∧
        policy.strategy 0 = .ok (.strategy strategy) ∧
        judgements (template.journal operation s) =
          Execution.roundJudgements strategy 0 history ++ Execution.lastJudgement (outcome k) ∧
        match outcome k with
        | .ok result => (template.execute operation s).1 = .ok result
        | .error last => ∃ error, (template.execute operation s).1 = .error (.raised error) ∧
            error.kind = Kind.exhausted ∧ error.cause = some last ∧
            error.detail.last? = some (.failure last) ∧
            error.detail.history = history.map .failure ∧
            error.detail.failures = (history ++ [last]).map .failure ∧
            error.detail.attempts = k + 1 := by
  obtain ⟨strategy, made, start⟩ := sound.start
  rw [← started_start held] at start
  obtain ⟨k, least, calls, history, failures, judges, ends⟩ :=
    (execute_passage undisturbed.smooth).account start whole undisturbed.delays invoked judged
  refine ⟨k, least, calls, history, strategy, failures, made, judges, ?_⟩
  cases last : outcome k with
  | ok result =>
    rw [last] at ends
    exact ends
  | error last' =>
    rw [last] at ends
    obtain ⟨name, ends⟩ := ends
    have counted : history.length = k := by
      have lengths := congrArg List.length failures
      rw [List.length_map, List.length_map, List.length_range] at lengths
      exact lengths.symm
    refine ⟨_, ends, rfl, rfl, rfl, rfl, ?_, ?_⟩
    · rw [List.map_append]
      rfl
    · show (history.map Value.failure).length + 1 = k + 1
      rw [List.length_map, counted]

/-- A template that lets every failure pass, waits for nothing and tells nobody. -/
def quiet (policy : Policy) : Template Nat Unit where
  flavour := .direct
  policy _ := some policy
  listener _ := some (.leaf ())
  examination := ⟨fun _ _ => pure (.bool true), fun _ => pure ()⟩
  chance := ⟨fun low _ => pure low, fun _ => pure ()⟩
  wait _ := pure ()
  notify _ _ _ _ := pure ()
  members _ _ := []
  patience := 9

end Template

def Operation.failing (times : Nat) : Operation Nat where
  name _ := "sample"
  self := .operation 0
  invoke := fun s =>
    (if s < times then .error (.raised (.plain s Kind.valueError [])) else .ok (.ready (.int s)),
      s + 1)

theorem Template.execute_outcome_failing_twice :
    let policy : Policy := ⟨1, .int 0, 0, .null, .classifier .all⟩
    let outcome : Nat → Except Failure Value := fun i =>
      if i < 2 then .error (.plain i Kind.valueError []) else .ok (.int i)
    policy.Sound ∧ policy.limit.whole? = some 1 ∧
      Undisturbed ((quiet policy).journal (.failing 2) 0) ∧
      ∃ k, IsLeast {i | Stops outcome (fun _ => true) 1 i} k ∧
        invocations ((quiet policy).journal (.failing 2) 0) =
          (List.range (k + 1)).map fun i => (outcome i).mapError .raised := by
  intro policy outcome
  have sound : policy.Sound := ⟨rfl, .inl rfl⟩
  have undisturbed : Undisturbed ((quiet policy).journal (.failing 2) 0) := by
    decide
  have invoked : Follows (invocations ((quiet policy).journal (.failing 2) 0)) fun i =>
      (outcome i).mapError .raised := follows_range (n := 2) rfl
  have judged : Follows (classifications ((quiet policy).journal (.failing 2) 0)) fun _ =>
      .ok (.bool true) := follows_range (n := 2) rfl
  obtain ⟨k, least, calls, -⟩ :=
    execute_outcome rfl sound rfl undisturbed invoked judged
  exact ⟨sound, rfl, undisturbed, k, least, calls⟩

end Reattempt
