import Reattempt.Proofs.Outcome

/-!
# Answers

The entries of a journal tell how calls on the surroundings of the execution ended, in states that
it came through. What a call always answers is therefore what the journal says of it; in
particular, where all calls return, nothing disturbs the execution.
-/

namespace Reattempt

variable {σ : Type}

namespace Execution

variable (execution : Execution σ)

def answer : Call → Task σ Value
  | .invoke => execution.invoke
  | .classify f => .bool <$> execution.accepts f
  | .calculate strategy attempt => execution.calculate strategy attempt
  | .wait delay => (fun _ => .null) <$> execution.wait delay
  | .observe occasion => (fun _ => .null) <$> execution.observe occasion
  | .tell notice => (fun _ => .null) <$> execution.tell notice

/-- An entry that tells how a call ended. Delays are those of the started cursor. -/
structure Answered (entry : Entry Call) : Prop where
  ending : ∃ s, entry.ending = (execution.answer entry.call s).1
  counted : ∀ strategy attempt, entry.call = .calculate strategy attempt →
    ∃ (cursor : Cursor) (attempts : Nat), execution.start = .ok cursor ∧
      strategy = cursor.strategy ∧ attempt = .int attempts

theorem journal_answered (s : σ) :
    ∀ entry ∈ execution.journal s, execution.Answered entry := by
  have congruence : Task.Congruence fun α (t _ : Task (σ × List (Entry Call)) α) =>
      Task.Genuine execution.Answered t := Task.genuine_congruence execution.Answered
  have gets := Task.genuine_gets execution.Answered execution.name
  have other {α : Type} (call : Call) {shown : α → Value} {t : Task σ α}
      (answers : execution.answer call = shown <$> t)
      (uncounted : ∀ strategy attempt, call ≠ .calculate strategy attempt) :
      Task.Genuine execution.Answered (t.entered execution.name call shown) := by
    refine Task.genuine_entered fun s => ⟨⟨s, ?_⟩, fun strategy attempt same => ?_⟩
    · rw [answers, Task.map_apply]
    · exact absurd same (uncounted strategy attempt)
  have related : Related (fun α (t _ : Task (σ × List (Entry Call)) α) =>
      Task.Genuine execution.Answered t) execution.recorded execution.recorded := {
    exhausted := fun _ _ _ => congruence.escape _
    start := rfl
    patience := rfl
    name := gets
    attempt := by
      intro s journal
      rw [attempt_apply]
      refine ⟨_, rfl, fun entry member => ?_⟩
      rw [List.mem_singleton.mp member]
      exact ⟨⟨s, congrFun Except.map_id _⟩, fun _ _ same => nomatch same⟩
    announce := announce_related congruence rfl gets fun notice =>
      other (.tell notice) rfl nofun
    accepts := fun f => other (.classify f) rfl nofun
    calculate := by
      intro cursor starts attempts
      refine Task.genuine_entered fun s => ⟨⟨s, congrFun Except.map_id _⟩, ?_⟩
      intro strategy attempt same
      cases same
      exact ⟨cursor, attempts, starts, rfl, rfl⟩
    wait := fun delay => other (.wait delay) rfl nofun
    observe := fun occasion => other (.observe occasion) rfl nofun }
  obtain ⟨entries, adds, answered⟩ := run_related congruence related s []
  have same : execution.journal s = entries := adds
  rw [same]
  exact answered

/-- Classifications that depend on the failure alone. -/
def ClassifiedBy (accepts : Failure → Bool) (entries : List (Entry Call)) : Prop :=
  ∀ entry ∈ entries, ∀ f, entry.call = .classify f → entry.ending = .ok (.bool (accepts f))

def CalculatedBy (delay : Nat → Value) (entries : List (Entry Call)) : Prop :=
  ∀ entry ∈ entries, ∀ strategy (i : Nat), entry.call = .calculate strategy (.int i) →
    entry.ending = .ok (delay i)

variable {execution}

theorem journal_classifiedBy {accepts : Failure → Bool}
    (returns : ∀ f s, (execution.accepts f s).1 = .ok (accepts f)) (s : σ) :
    ClassifiedBy accepts (execution.journal s) := by
  intro entry member f call
  obtain ⟨before, ends⟩ := (execution.journal_answered s entry member).ending
  rw [ends, call, answer, Task.map_apply, returns]
  rfl

theorem journal_calculatedBy {delay : Nat → Value}
    (returns : ∀ cursor, execution.start = .ok cursor → ∀ (i : Nat) (s : σ),
      (execution.calculate cursor.strategy (.int i) s).1 = .ok (delay i)) (s : σ) :
    CalculatedBy delay (execution.journal s) := by
  intro entry member strategy i call
  obtain ⟨⟨before, ends⟩, counted⟩ := execution.journal_answered s entry member
  obtain ⟨cursor, attempts, starts, rfl, -⟩ := counted strategy _ call
  rw [ends, call]
  exact returns cursor starts i before

variable (execution) in
/-- An execution whose calls return, and whose operation fails ordinarily at most. -/
structure Calm : Prop where
  invoke : ∀ s e, (execution.invoke s).1 = .error e → e.isOrdinary = true
  accepts : ∀ f s, ∃ accepted, (execution.accepts f s).1 = .ok accepted
  calculate : ∀ cursor, execution.start = .ok cursor → ∀ (attempts : Nat) (s : σ),
    ∃ delay, (execution.calculate cursor.strategy (.int attempts) s).1 = .ok delay ∧
      delay.isNull = false
  wait : ∀ delay s, (execution.wait delay s).1 = .ok ()
  observe : ∀ occasion s, (execution.observe occasion s).1 = .ok ()
  tell : ∀ notice s, (execution.tell notice s).1 = .ok ()

theorem Calm.undisturbed (calm : execution.Calm) (s : σ) :
    Undisturbed (execution.journal s) := by
  have returns {entry : Entry Call} (member : entry ∈ execution.journal s) :
      entry.isUndisturbed = true := by
    obtain ⟨⟨before, ends⟩, counted⟩ := execution.journal_answered s entry member
    obtain ⟨name, call, ending⟩ := entry
    have ends : ending = (execution.answer call before).1 := ends
    have settles {α : Type} {shown : α → Value} {t : Task σ α} {a : α}
        (answers : execution.answer call = shown <$> t) (returned : (t before).1 = .ok a) :
        ending = .ok (shown a) := by
      rw [ends, answers, Task.map_apply, returned]
      rfl
    cases call with
    | invoke =>
      cases ending with
      | ok v => rfl
      | error e => exact calm.invoke before e ends.symm
    | classify f =>
      obtain ⟨accepted, returned⟩ := calm.accepts f before
      rw [settles rfl returned]
      rfl
    | calculate strategy attempt =>
      obtain ⟨cursor, attempts, starts, rfl, rfl⟩ := counted _ _ rfl
      obtain ⟨delay, returned, present⟩ := calm.calculate cursor starts attempts before
      obtain rfl : ending = .ok delay := ends.trans returned
      exact congrArg not present
    | wait delay =>
      rw [settles rfl (calm.wait delay before)]
      rfl
    | observe occasion =>
      rw [settles rfl (calm.observe occasion before)]
      rfl
    | tell notice =>
      rw [settles rfl (calm.tell notice before)]
      rfl
  exact (undisturbed_iff _).mp (List.all_eq_true.mpr fun entry member => returns member)

end Execution

/-! ### A template that lets every failure pass -/

namespace Template

variable {policy : Policy} {operation : Operation Nat} {strategy : Strategy} {bound : Value}
  {s : Nat}

theorem quiet_accepts (passes : policy.classifier = .classifier .all) (f : Failure) (s' : Nat) :
    ((quiet policy).started operation s).accepts f s' = (.ok true, s') := by
  show policy.accepts _ f s' = _
  rw [Policy.accepts, passes]
  rfl

theorem quiet_calculates {delay : Value} (start : policy.start = .ok ⟨strategy, bound, 0⟩)
    (shape : strategy.shape = .fixed delay) (cursor : Cursor)
    (starts : ((quiet policy).started operation s).start = .ok cursor) (i : Nat) (s' : Nat) :
    ((quiet policy).started operation s).calculate cursor.strategy (.int i) s' =
      (.ok delay, s') := by
  have starts : policy.start = .ok cursor := starts
  rw [start] at starts
  cases starts
  show strategy.calculate _ _ s' = _
  rw [Strategy.calculate, shape]
  rfl

theorem quiet_calm (passes : policy.classifier = .classifier .all)
    (start : policy.start = .ok ⟨strategy, bound, 0⟩) (shape : strategy.shape = .fixed (.int 0))
    (ordinary : ∀ s e, (Flavour.direct.perform operation s).1 = .error e → e.isOrdinary = true) :
    ((quiet policy).started operation s).Calm where
  invoke := ordinary
  accepts f s' := ⟨true, congrArg Prod.fst (quiet_accepts passes f s')⟩
  calculate cursor starts i s' :=
    ⟨.int 0, congrArg Prod.fst (quiet_calculates start shape cursor starts i s'), rfl⟩
  wait _ _ := rfl
  observe _ _ := rfl
  tell _ _ := rfl

end Template

end Reattempt
