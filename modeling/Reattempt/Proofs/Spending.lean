import Reattempt.Proofs.Outcome

/-!
# Spending

What a run takes from its budget, however it ends and whatever its calls do. It asks for the delays
of its own cursor one after the other, and invokes its operation once more than it has asked at
most, by `Execution.run_spends`.
-/

namespace Reattempt

variable {σ α β : Type}

def asked (journal : List (Entry Call)) : List Call :=
  journal.filterMap fun
    | ⟨_, .calculate strategy attempt, _⟩ => some (.calculate strategy attempt)
    | _ => none

theorem asked_append (entries more : List (Entry Call)) :
    asked (entries ++ more) = asked entries ++ asked more :=
  List.filterMap_append

/-- A call that takes nothing from the budget. -/
def Call.isFree : Call → Bool
  | invoke => false
  | calculate _ _ => false
  | _ => true

namespace Task

/-- A task that asks for delays and invokes as often as is stated, however it ends. -/
def Spends (t : Task (σ × List (Entry Call)) α) (stated : List Call → Nat → Prop) : Prop :=
  Writes t fun entries _ => stated (asked entries) (invocations entries).length

variable {t : Task (σ × List (Entry Call)) α} {f : α → Task (σ × List (Entry Call)) β}
  {first next stated : List Call → Nat → Prop}

theorem Spends.bind (ht : Spends t first) (hf : ∀ a, Spends (f a) next)
    (escapes : ∀ delays n, first delays n → stated delays n)
    (goesOn : ∀ delays n more m, first delays n → next more m → stated (delays ++ more) (n + m)) :
    Spends (t >>= f) stated := by
  unfold Spends at ht hf ⊢
  refine ht.bind hf (fun _ _ holds => escapes _ _ holds) ?_
  intro entries a more ending holds holds'
  rw [asked_append, invocations_append, List.length_append]
  exact goesOn _ _ _ _ holds holds'

def Idle (t : Task (σ × List (Entry Call)) α) : Prop :=
  Spends t fun delays n => delays = [] ∧ n = 0

theorem Idle.bind (idle : Idle t) (none : stated [] 0) (hf : ∀ a, Spends (f a) stated) :
    Spends (t >>= f) stated := by
  refine Spends.bind idle hf ?_ ?_
  · rintro _ _ ⟨rfl, rfl⟩
    exact none
  · rintro _ _ more m ⟨rfl, rfl⟩ holds
    rw [List.nil_append, Nat.zero_add]
    exact holds

theorem Idle.spends (idle : Idle t) (none : stated [] 0) : Spends t stated := by
  unfold Idle Spends at idle
  unfold Spends
  refine idle.mono ?_
  rintro entries _ ⟨noDelays, noInvocations⟩
  rw [noDelays, noInvocations]
  exact none

theorem spends_escape {e : Escape} (none : stated [] 0) :
    Spends (escape e : Task (σ × List (Entry Call)) β) stated := by
  unfold Spends
  exact writes_escape none

theorem idle_pure (b : β) : Idle (pure b : Task (σ × List (Entry Call)) β) := by
  unfold Idle Spends
  exact writes_pure ⟨rfl, rfl⟩

theorem idle_gets (view : σ → β) : Idle (Task.gets fun s : σ × List (Entry Call) => view s.1) := by
  unfold Idle Spends
  exact writes_gets fun _ => ⟨rfl, rfl⟩

theorem idle_entered (call : Call) (free : call.isFree = true) (name : σ → String)
    (shown : α → Value) (t : Task σ α) : Idle (t.entered name call shown) := by
  refine fun s journal => ⟨_, rfl, ?_⟩
  cases call with
  | invoke | calculate => cases free
  | _ => exact ⟨rfl, rfl⟩

end Task

namespace Execution

variable {execution : Execution σ}

theorem accepts_idle (f : Failure) : Task.Idle (execution.recorded.accepts f) :=
  Task.idle_entered (.classify f) rfl _ _ _

theorem wait_idle (delay : Value) : Task.Idle (execution.recorded.wait delay) :=
  Task.idle_entered (.wait delay) rfl _ _ _

theorem observe_idle (occasion : Occasion) : Task.Idle (execution.recorded.observe occasion) :=
  Task.idle_entered (.observe occasion) rfl _ _ _

theorem announce_idle (attempt : Nat) (text : String → String) :
    Task.Idle (execution.recorded.announce attempt text) :=
  (Task.idle_gets _).bind ⟨rfl, rfl⟩ fun name =>
    Task.idle_entered (.tell (execution.notice attempt text name)) rfl _ _ _

theorem giveUp_idle (earlier : List Failure) (last : Failure) :
    Task.Idle (execution.recorded.giveUp earlier last) :=
  (Task.idle_gets _).bind ⟨rfl, rfl⟩ fun _ => (observe_idle _).bind ⟨rfl, rfl⟩ fun _ =>
    Task.spends_escape ⟨rfl, rfl⟩

theorem attempt_spends :
    Task.Spends execution.recorded.attempt fun delays n => delays = [] ∧ n = 1 := by
  intro s journal
  rw [attempt_apply]
  exact ⟨_, rfl, rfl, rfl⟩

/-- So many delays are asked for, from a position on and up to a limit, and no more invocations are
made than there is allowance for besides. -/
def Within (strategy : Strategy) (limit position allowance : Nat) (delays : List Call) (n : Nat) :
    Prop :=
  ∃ k, delays = (List.range' position k).map (fun i => .calculate strategy (.int i)) ∧
    n ≤ k + allowance ∧ (k = 0 ∨ position + k ≤ limit)

variable {strategy : Strategy} {limit position allowance : Nat}

theorem within_nothing : Within strategy limit position allowance [] 0 :=
  ⟨0, rfl, Nat.zero_le _, .inl rfl⟩

theorem within_calculate {f : Value → Task (σ × List (Entry Call)) α} (within : position < limit)
    (rest : ∀ delay, Task.Spends (f delay) (Within strategy limit (position + 1) 1)) :
    Task.Spends (execution.recorded.calculate strategy (.int position) >>= f)
      (Within strategy limit position 0) := by
  have asks : Task.Spends (execution.recorded.calculate strategy (.int position)) fun delays n =>
      delays = [.calculate strategy (.int position)] ∧ n = 0 := fun _ _ => ⟨_, rfl, rfl, rfl⟩
  refine asks.bind rest ?_ ?_
  · rintro _ _ ⟨rfl, rfl⟩
    exact ⟨1, rfl, Nat.zero_le _, .inr within⟩
  · rintro _ _ more n ⟨rfl, rfl⟩ ⟨k, same, bounded, last⟩
    refine ⟨k + 1, ?_, by omega, .inr (by omega)⟩
    rw [same, List.range'_succ, List.map_cons]
    rfl

theorem within_attempt {f : Except Failure Value → Task (σ × List (Entry Call)) α}
    (rest : ∀ outcome, Task.Spends (f outcome) (Within strategy limit position 0)) :
    Task.Spends (execution.recorded.attempt >>= f) (Within strategy limit position 1) := by
  refine attempt_spends.bind rest ?_ ?_
  · rintro _ _ ⟨rfl, rfl⟩
    exact ⟨0, rfl, Nat.le_refl 1, .inl rfl⟩
  · rintro _ _ more n ⟨rfl, rfl⟩ ⟨k, same, bounded, last⟩
    exact ⟨k, same, by omega, last⟩

/-- The induction over the attempts: each invocation is paid for by a delay, which moves the
cursor. -/
theorem retry_spends (asks : Nat) (cursor : Cursor) (bounds : cursor.limit.Bounds limit)
    (earlier : List Failure) (last : Failure) :
    Task.Spends (execution.recorded.retry asks cursor earlier last)
      (Within cursor.strategy limit cursor.attempts 0) := by
  induction asks generalizing cursor earlier last with
  | zero => exact Task.spends_escape within_nothing
  | succ asks ih =>
    have gives_up (attempt : Nat) (text : String → String) {position allowance : Nat} :
        Task.Spends (do
          execution.recorded.announce attempt text
          execution.recorded.giveUp earlier last)
          (Within cursor.strategy limit position allowance) :=
      (announce_idle _ _).bind within_nothing fun _ => (giveUp_idle _ _).spends within_nothing
    rw [retry]
    refine (accepts_idle _).bind within_nothing fun accepted => ?_
    cases accepted with
    | false => exact gives_up _ _
    | true =>
      rw [if_pos rfl]
      cases spent : cursor.isSpent with
      | error fault =>
        rw [Cursor.next_fault spent, Task.escape_bind]
        exact Task.spends_escape within_nothing
      | ok done =>
        cases done with
        | true =>
          rw [Cursor.next_spent spent, pure_bind]
          exact gives_up _ _
        | false =>
          have within : ¬ limit ≤ cursor.attempts :=
            of_decide_eq_false (Except.ok.inj (bounds.isSpent.symm.trans spent))
          rw [Cursor.next_unspent spent, bind_assoc]
          refine within_calculate (by omega) fun delay => ?_
          rw [pure_bind]
          dsimp only
          cases delay.isNull with
          | true => exact gives_up _ _
          | false =>
            refine (wait_idle _).bind within_nothing fun _ => ?_
            refine (observe_idle _).bind within_nothing fun _ => ?_
            refine (announce_idle _ _).bind within_nothing fun _ => ?_
            refine within_attempt fun outcome => ?_
            cases outcome with
            | ok result =>
              exact (observe_idle _).bind within_nothing fun _ =>
                (Task.idle_pure _).spends within_nothing
            | error f =>
              exact (observe_idle _).bind within_nothing fun _ =>
                ih { cursor with attempts := cursor.attempts + 1 } bounds _ f

theorem run_spends {cursor : Cursor} (start : execution.start = .ok cursor)
    (bounds : cursor.limit.Bounds limit) :
    Task.Spends execution.recorded.run (Within cursor.strategy limit cursor.attempts 1) := by
  refine (announce_idle _ _).bind within_nothing fun _ => ?_
  refine within_attempt fun outcome => ?_
  cases outcome with
  | ok result => exact (Task.idle_pure _).spends within_nothing
  | error f =>
    dsimp only
    rw [show execution.recorded.start = _ from start, Task.ofExcept, pure_bind]
    exact retry_spends _ cursor bounds [] f

end Execution

/-- A run asks its strategy for delays from the first one on, for no more of them than the limit of
its policy says, and makes one invocation more at most. -/
theorem Template.Allows.spends {σ ℓ : Type} {template : Template σ ℓ} {operation : Operation σ}
    {limit : Nat} {s : σ} (allows : template.Allows limit s) :
    ∃ strategy k, k ≤ limit ∧
      asked (template.journal operation s) =
        (List.range k).map (fun i => .calculate strategy (.int i)) ∧
      (invocations (template.journal operation s)).length ≤ k + 1 := by
  obtain ⟨strategy, bound, start, bounds⟩ : ∃ strategy bound,
    (template.started operation s).start = .ok ⟨strategy, bound, 0⟩ ∧ bound.Bounds limit :=
    allows.start
  obtain ⟨entries, adds, k, same, bounded, last⟩ := Execution.run_spends start bounds s []
  obtain rfl : template.journal operation s = entries := adds
  refine ⟨strategy, k, by dsimp only at last; omega, ?_, bounded⟩
  rw [same, List.range_eq_range']

end Reattempt
