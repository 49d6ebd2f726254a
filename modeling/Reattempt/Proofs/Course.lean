import Reattempt.Proofs.Journal

/-!
# Courses

The journals that executions leave when no call cuts them short. `Execution.Course` says how a run
may go on after a failure, with one constructor for each way through a round; `Execution.Passage`
puts the first attempt before it. Every run whose calls are smooth is one of these, by
`Execution.run_passage`.
-/

namespace Reattempt

variable {σ α β κ : Type}

theorem Fault.not_stopIteration (fault : Fault) :
    fault.toFailure.kind.isA Kind.stopIteration = false := by
  show fault.kind.isA Kind.stopIteration = false
  unfold Fault.kind
  split <;> decide

/-! ### What recorded tasks enter -/

theorem Entry.Smooth.returns {invoke call : κ} {name : String} {shown : α → Value}
    {outcome : Except Escape α} (smooth : Entry.Smooth invoke ⟨name, call, outcome.map shown⟩)
    (other : call ≠ invoke) : ∃ a, outcome = .ok a := by
  cases outcome with
  | error e => exact absurd ⟨rfl, fun same => absurd same other⟩ (smooth e)
  | ok a => exact ⟨a, rfl⟩

namespace Task

/-- As long as no entry cuts it short, what a task enters and how it ends is as stated. -/
def Yields (invoke : κ) (t : Task (σ × List (Entry κ)) α)
    (stated : List (Entry κ) → Except Escape α → Prop) : Prop :=
  Writes t fun entries ending => (∀ entry ∈ entries, entry.Smooth invoke) → stated entries ending

def Enters (invoke : κ) (t : Task (σ × List (Entry κ)) α) (entry : String → α → Entry κ) : Prop :=
  Yields invoke t fun entries ending => ∃ name a, entries = [entry name a] ∧ ending = .ok a

variable {invoke : κ} {t : Task (σ × List (Entry κ)) α} {f : α → Task (σ × List (Entry κ)) β}
  {stated : List (Entry κ) → Except Escape β → Prop}

theorem yields_pure {b : β} (h : stated [] (.ok b)) :
    Yields invoke (pure b : Task (σ × List (Entry κ)) β) stated :=
  writes_pure fun _ => h

theorem yields_escape {e : Escape} (h : stated [] (.error e)) :
    Yields invoke (escape e : Task (σ × List (Entry κ)) β) stated :=
  writes_escape fun _ => h

theorem Yields.mono {u : Task (σ × List (Entry κ)) β}
    {stated' : List (Entry κ) → Except Escape β → Prop} (h : Yields invoke u stated)
    (weaker : ∀ entries ending, stated entries ending → stated' entries ending) :
    Yields invoke u stated' :=
  Writes.mono h fun entries ending holds smooth => weaker entries ending (holds smooth)

theorem Enters.bind {entry : String → α → Entry κ} (first : Enters invoke t entry)
    (next : ∀ a, Yields invoke (f a) fun more ending => ∀ name, stated (entry name a :: more) ending) :
    Yields invoke (t >>= f) stated := by
  unfold Enters Yields at first
  unfold Yields at next ⊢
  refine first.bind next ?_ ?_
  · intro entries e single smooth
    obtain ⟨_, _, _, ends⟩ := single smooth
    cases ends
  · intro entries a more ending single holds smooth
    obtain ⟨name, _, rfl, ends⟩ := single fun other member => smooth other
      (List.mem_append_left more member)
    cases ends
    exact holds (fun other member => smooth other (List.mem_append_right _ member)) name

theorem entered_enters {call : κ} (other : call ≠ invoke) (name : σ → String) (shown : α → Value)
    (t : Task σ α) :
    Enters invoke (t.entered name call shown) fun name a => ⟨name, call, .ok (shown a)⟩ := by
  intro s journal
  refine ⟨_, rfl, fun smooth => ?_⟩
  obtain ⟨a, ends⟩ := (smooth _ (List.mem_singleton.mpr rfl)).returns other
  refine ⟨name s, a, ?_, ends⟩
  rw [ends]
  rfl

end Task

namespace Execution

variable (execution : Execution σ)

/-! ### What the steps of a run enter -/

def notice (attempt : Nat) (text : String → String) (name : String) : Notice :=
  .debug execution.logger (text name) [("operation", .text name), ("attempt", .int attempt)]

theorem accepts_enters (f : Failure) :
    Task.Enters .invoke (execution.recorded.accepts f) fun name accepted =>
      ⟨name, .classify f, .ok (.bool accepted)⟩ :=
  Task.entered_enters (by simp) _ _ _

theorem calculate_enters (strategy : Strategy) (attempt : Value) :
    Task.Enters .invoke (execution.recorded.calculate strategy attempt) fun name delay =>
      ⟨name, .calculate strategy attempt, .ok delay⟩ :=
  Task.entered_enters (by simp) _ _ _

theorem wait_enters (delay : Value) :
    Task.Enters .invoke (execution.recorded.wait delay) fun name _ =>
      ⟨name, .wait delay, .ok .null⟩ :=
  Task.entered_enters (by simp) _ _ _

theorem observe_enters (occasion : Occasion) :
    Task.Enters .invoke (execution.recorded.observe occasion) fun name _ =>
      ⟨name, .observe occasion, .ok .null⟩ :=
  Task.entered_enters (by simp) _ _ _

theorem announce_enters (attempt : Nat) (text : String → String) :
    Task.Enters .invoke (execution.recorded.announce attempt text) fun name _ =>
      ⟨name, .tell (execution.notice attempt text name), .ok .null⟩ := by
  intro s journal
  refine ⟨_, rfl, fun smooth => ?_⟩
  obtain ⟨_, ends⟩ := (smooth _ (List.mem_singleton.mpr rfl)).returns (by simp)
  refine ⟨execution.name s, (), ?_, ends⟩
  rw [ends]
  rfl

theorem taken_of_smooth {name : String} {ending : Except Escape Value}
    (smooth : Entry.Smooth Call.invoke ⟨name, .invoke, ending⟩) :
    ∃ outcome : Except Failure Value,
      taken ending = .ok outcome ∧ ending = outcome.mapError .raised := by
  rcases ending with (f | _) | result
  · have ordinary := (smooth.ordinary rfl).2
    exact ⟨.error f, if_pos ordinary, rfl⟩
  · cases (smooth.ordinary rfl).2
  · exact ⟨.ok result, rfl, rfl⟩

theorem attempt_enters :
    Task.Enters .invoke execution.recorded.attempt fun name outcome =>
      ⟨name, .invoke, outcome.mapError .raised⟩ := by
  intro s journal
  rw [attempt_apply]
  refine ⟨_, rfl, fun smooth => ?_⟩
  obtain ⟨outcome, taken, ending⟩ := taken_of_smooth (smooth _ (List.mem_singleton.mpr rfl))
  rw [congrFun Except.map_id] at taken
  exact ⟨execution.name s, outcome, by rw [ending], taken⟩

theorem giveUp_yields {earlier : List Failure} {last : Failure}
    {stated : List (Entry Call) → Except Escape Value → Prop}
    (h : ∀ name, stated [⟨name, .observe (.exhaustion last), .ok .null⟩]
      (.error (.raised (.exhausted (exhaustedMessage name) last earlier execution.operation)))) :
    Task.Yields .invoke (execution.recorded.giveUp earlier last) stated := by
  intro s journal
  have starts : execution.recorded.giveUp earlier last (s, journal) =
      (execution.recorded.observe (.exhaustion last) >>= fun _ => Task.raise
        (.exhausted (exhaustedMessage (execution.name s)) last earlier execution.operation))
        (s, journal) := rfl
  rw [starts]
  rcases told : execution.observe (.exhaustion last) s with ⟨e | _, s'⟩
  · have run : execution.recorded.observe (.exhaustion last) (s, journal) = _ :=
      Task.entered_error told journal
    refine ⟨_, by rw [Task.bind_error run], fun smooth => ?_⟩
    cases ((smooth _ (List.mem_singleton.mpr rfl)).ordinary rfl).1
  · have run : execution.recorded.observe (.exhaustion last) (s, journal) = _ :=
      Task.entered_ok told journal
    refine ⟨_, by rw [Task.bind_ok run]; rfl, fun _ => ?_⟩
    rw [Task.bind_ok run]
    exact h (execution.name s)

/-! ### Courses of a run -/

/-- How a run may go on after a failure, as long as no call cuts it short: what it enters into its
journal and how it ends. Each entry has a name of its own, since the operation may change its name
at any time. -/
inductive Course : (asks : Nat) → Cursor → (earlier : List Failure) → (last : Failure) →
    List (Entry Call) → Except Escape Value → Prop where
  | cutOff {cursor earlier last} : Course 0 cursor earlier last [] (.error .unfinished)
  | rejected {asks cursor earlier last n₁ n₂ n₃} :
      Course (asks + 1) cursor earlier last
        [⟨n₁, .classify last, .ok (.bool false)⟩,
          ⟨n₂, .tell (execution.notice cursor.attempts (rejectionText last) n₂), .ok .null⟩,
          ⟨n₃, .observe (.exhaustion last), .ok .null⟩]
        (.error (.raised (.exhausted (exhaustedMessage n₃) last earlier execution.operation)))
  /-- The limit does not compare with the number of attempts. -/
  | faulted {asks cursor earlier last n₁ fault} (spent : cursor.isSpent = .error fault) :
      Course (asks + 1) cursor earlier last [⟨n₁, .classify last, .ok (.bool true)⟩]
        (.error (.raised fault.toFailure))
  | spent {asks cursor earlier last n₁ n₂ n₃} (spent : cursor.isSpent = .ok true) :
      Course (asks + 1) cursor earlier last
        [⟨n₁, .classify last, .ok (.bool true)⟩,
          ⟨n₂, .tell (execution.notice cursor.attempts (exhaustionText cursor.attempts) n₂),
            .ok .null⟩,
          ⟨n₃, .observe (.exhaustion last), .ok .null⟩]
        (.error (.raised (.exhausted (exhaustedMessage n₃) last earlier execution.operation)))
  /-- The strategy gives no delay. -/
  | withheld {asks cursor earlier last n₁ n₂ n₃ n₄ delay} (spent : cursor.isSpent = .ok false)
      (absent : delay.isNull = true) :
      Course (asks + 1) cursor earlier last
        [⟨n₁, .classify last, .ok (.bool true)⟩,
          ⟨n₂, .calculate cursor.strategy (.int cursor.attempts), .ok delay⟩,
          ⟨n₃, .tell (execution.notice (cursor.attempts + 1)
            (exhaustionText (cursor.attempts + 1)) n₃), .ok .null⟩,
          ⟨n₄, .observe (.exhaustion last), .ok .null⟩]
        (.error (.raised (.exhausted (exhaustedMessage n₄) last earlier execution.operation)))
  | succeeded {asks cursor earlier last n₁ n₂ n₃ n₄ n₅ n₆ n₇ delay result}
      (spent : cursor.isSpent = .ok false) (present : delay.isNull = false) :
      Course (asks + 1) cursor earlier last
        [⟨n₁, .classify last, .ok (.bool true)⟩,
          ⟨n₂, .calculate cursor.strategy (.int cursor.attempts), .ok delay⟩,
          ⟨n₃, .wait delay, .ok .null⟩,
          ⟨n₄, .observe .beforeRetry, .ok .null⟩,
          ⟨n₅, .tell (execution.notice (cursor.attempts + 1) (retryText (cursor.attempts + 1)) n₅),
            .ok .null⟩,
          ⟨n₆, .invoke, .ok result⟩,
          ⟨n₇, .observe (.retrySuccess result), .ok .null⟩]
        (.ok result)
  | failed {asks cursor earlier last n₁ n₂ n₃ n₄ n₅ n₆ n₇ delay next entries ending}
      (spent : cursor.isSpent = .ok false) (present : delay.isNull = false)
      (rest : Course asks { cursor with attempts := cursor.attempts + 1 } (earlier ++ [last]) next
        entries ending) :
      Course (asks + 1) cursor earlier last
        (⟨n₁, .classify last, .ok (.bool true)⟩ ::
          ⟨n₂, .calculate cursor.strategy (.int cursor.attempts), .ok delay⟩ ::
          ⟨n₃, .wait delay, .ok .null⟩ ::
          ⟨n₄, .observe .beforeRetry, .ok .null⟩ ::
          ⟨n₅, .tell (execution.notice (cursor.attempts + 1) (retryText (cursor.attempts + 1)) n₅),
            .ok .null⟩ ::
          ⟨n₆, .invoke, .error (.raised next)⟩ ::
          ⟨n₇, .observe (.retryFailure next), .ok .null⟩ :: entries)
        ending

theorem retry_yields (asks : Nat) (cursor : Cursor) (earlier : List Failure) (last : Failure) :
    Task.Yields .invoke (execution.recorded.retry asks cursor earlier last)
      (execution.Course asks cursor earlier last) := by
  induction asks generalizing cursor earlier last with
  | zero => exact Task.yields_escape .cutOff
  | succ asks ih =>
    rw [retry]
    refine (execution.accepts_enters last).bind fun accepted => ?_
    cases accepted with
    | false =>
      refine (execution.announce_enters _ _).bind fun _ => ?_
      exact execution.giveUp_yields fun _ _ _ => .rejected
    | true =>
      rw [if_pos rfl]
      cases spent : cursor.isSpent with
      | error fault =>
        rw [Cursor.next_fault spent, Task.escape_bind]
        exact Task.yields_escape fun _ => .faulted spent
      | ok done =>
        cases done with
        | true =>
          rw [Cursor.next_spent spent, pure_bind]
          refine (execution.announce_enters _ _).bind fun _ => ?_
          exact execution.giveUp_yields fun _ _ _ => .spent spent
        | false =>
          rw [Cursor.next_unspent spent, bind_assoc]
          refine (execution.calculate_enters _ _).bind fun delay => ?_
          rw [pure_bind]
          dsimp only
          cases present : delay.isNull with
          | true =>
            refine (execution.announce_enters _ _).bind fun _ => ?_
            exact execution.giveUp_yields fun _ _ _ _ => .withheld spent present
          | false =>
            refine (execution.wait_enters _).bind fun _ => ?_
            refine (execution.observe_enters _).bind fun _ => ?_
            refine (execution.announce_enters _ _).bind fun _ => ?_
            refine execution.attempt_enters.bind fun outcome => ?_
            cases outcome with
            | ok result =>
              refine (execution.observe_enters _).bind fun _ => ?_
              refine Task.yields_pure ?_
              intros
              exact .succeeded spent present
            | error next =>
              refine (execution.observe_enters _).bind fun _ => ?_
              refine (ih _ _ _).mono fun entries ending rest => ?_
              intros
              exact .failed spent present rest

inductive Passage : List (Entry Call) → Except Escape Value → Prop where
  | immediate {n₁ n₂ result} :
      Passage [⟨n₁, .tell (execution.notice 0 startText n₁), .ok .null⟩, ⟨n₂, .invoke, .ok result⟩]
        (.ok result)
  | unstarted {n₁ n₂ first fault} (start : execution.start = .error fault) :
      Passage [⟨n₁, .tell (execution.notice 0 startText n₁), .ok .null⟩,
        ⟨n₂, .invoke, .error (.raised first)⟩] (.error (.raised fault.toFailure))
  | retried {n₁ n₂ first cursor entries ending} (start : execution.start = .ok cursor)
      (course : execution.Course (cursor.asks execution.patience) cursor [] first entries ending) :
      Passage (⟨n₁, .tell (execution.notice 0 startText n₁), .ok .null⟩ ::
        ⟨n₂, .invoke, .error (.raised first)⟩ :: entries) ending

theorem run_yields : Task.Yields .invoke execution.recorded.run execution.Passage := by
  refine (execution.announce_enters _ _).bind fun _ => ?_
  refine execution.attempt_enters.bind fun outcome => ?_
  cases outcome with
  | ok result => exact Task.yields_pure fun _ _ => .immediate
  | error first =>
    dsimp only
    cases start : execution.recorded.start with
    | error fault => exact Task.yields_escape fun _ _ => .unstarted start
    | ok cursor =>
      rw [Task.ofExcept, pure_bind]
      refine (execution.retry_yields _ _ _ _).mono fun entries ending course => ?_
      exact fun _ _ => .retried start course

/-- A run that no call cuts short goes one of the ways. -/
theorem run_passage {s : σ} (smooth : ∀ entry ∈ execution.journal s, entry.Smooth .invoke) :
    execution.Passage (execution.journal s) (execution.run s).1 := by
  obtain ⟨entries, adds, holds⟩ := execution.run_yields s []
  rw [recorded_run] at adds holds
  have same : execution.journal s = entries := adds
  rw [same] at smooth ⊢
  exact holds smooth

/-! ### Courses across the boundary of a task -/

variable {execution}

theorem Course.crosses {asks : Nat} {cursor : Cursor} {earlier : List Failure} {last : Failure}
    {entries : List (Entry Call)} {ending : Except Escape Value}
    (course : execution.Course asks cursor earlier last entries ending) (flavour : Flavour) :
    ending.mapError flavour.outward = ending := by
  induction course with
  | cutOff => cases flavour <;> rfl
  | rejected | spent | withheld => exact congrArg Except.error (flavour.outward_raised rfl)
  | faulted => exact congrArg Except.error (flavour.outward_raised (Fault.not_stopIteration _))
  | succeeded => rfl
  | failed _ _ _ ih => exact ih

theorem Passage.crosses {entries : List (Entry Call)} {ending : Except Escape Value}
    (passage : execution.Passage entries ending) (flavour : Flavour) :
    ending.mapError flavour.outward = ending := by
  cases passage with
  | immediate => rfl
  | unstarted => exact congrArg Except.error (flavour.outward_raised (Fault.not_stopIteration _))
  | retried _ course => exact course.crosses flavour

end Execution

namespace Template

variable {ℓ : Type} {template : Template σ ℓ} {operation : Operation σ} {s : σ}

theorem execute_eq_run (smooth : ∀ entry ∈ template.journal operation s, entry.Smooth .invoke) :
    template.execute operation s = (template.started operation s).run s := by
  rw [execute_apply, ((template.started operation s).run_passage smooth).crosses]

/-- An execution that no call cuts short goes one of the ways, whatever its flavour. -/
theorem execute_passage (smooth : ∀ entry ∈ template.journal operation s, entry.Smooth .invoke) :
    (template.started operation s).Passage (template.journal operation s)
      (template.execute operation s).1 := by
  rw [execute_eq_run smooth]
  exact (template.started operation s).run_passage smooth

end Template

end Reattempt
