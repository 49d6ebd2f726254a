import Reattempt.Proofs.Likeness

/-!
# Chronicles

A chronicle holds each call of an execution with the states before and after it. An execution does
nothing to the state by itself: the moments of its chronicle are the calls of its transcript, each
performed in the state that the one before it left, by `Surroundings.chronicled_run`.
-/

namespace Reattempt

variable {σ ℓ α β : Type}

structure Moment (σ ℓ : Type) where
  before : σ
  entry : Entry (Contact ℓ)
  after : σ

/-- Moments that lead from one state to another, each from where the one before it ends. -/
def Chained : σ → List (Moment σ ℓ) → σ → Prop
  | s, [], s' => s' = s
  | s, moment :: rest, s' => moment.before = s ∧ Chained moment.after rest s'

namespace Chained

variable {s s' s'' : σ} {moments more : List (Moment σ ℓ)}

theorem append (first : Chained s moments s') (rest : Chained s' more s'') :
    Chained s (moments ++ more) s'' := by
  induction moments generalizing s with
  | nil =>
    obtain rfl : s' = s := first
    exact rest
  | cons moment moments ih => exact ⟨first.1, ih first.2⟩

theorem last (chained : Chained s moments s') :
    s' = (moments.getLast?.map Moment.after).getD s := by
  induction moments generalizing s with
  | nil => exact chained
  | cons moment moments ih =>
    rw [ih chained.2, List.getLast?_cons]
    cases moments.getLast? <;> rfl

theorem invariant {β : Type} (view : σ → β) (chained : Chained s moments s')
    (kept : ∀ moment ∈ moments, view moment.after = view moment.before) : view s' = view s := by
  induction moments generalizing s with
  | nil => exact congrArg view chained
  | cons moment moments ih =>
    rw [ih chained.2 fun later member => kept later (.tail _ member), kept moment (.head _),
      chained.1]

end Chained

/-! ### Tasks in a chronicle -/

namespace Task

def chronicled (name : σ → String) (call : Contact ℓ) (shown : α → Value) (t : Task σ α) :
    Task (σ × List (Moment σ ℓ)) α := fun (s, moments) =>
  match t s with
  | (outcome, s') => (outcome, (s', moments ++ [⟨s, ⟨name s, call, outcome.map shown⟩, s'⟩]))

theorem chronicled_apply (name : σ → String) (call : Contact ℓ) (shown : α → Value) (t : Task σ α)
    (s : σ) (moments : List (Moment σ ℓ)) :
    t.chronicled name call shown (s, moments) =
      ((t s).1, ((t s).2, moments ++ [⟨s, ⟨name s, call, (t s).1.map shown⟩, (t s).2⟩])) := rfl

/-- A task that enters the same calls as another one, as moments that lead from the state it finds
to the one it leaves. -/
def Chronicles (stated : Moment σ ℓ → Prop) (α : Type) (t : Task (σ × List (Moment σ ℓ)) α)
    (u : Task (σ × List (Entry (Contact ℓ))) α) : Prop :=
  ∀ s moments journal, ∃ added,
    t (s, moments) = ((u (s, journal)).1, ((u (s, journal)).2.1, moments ++ added)) ∧
      (u (s, journal)).2.2 = journal ++ added.map Moment.entry ∧
      Chained s added (u (s, journal)).2.1 ∧ ∀ moment ∈ added, stated moment

variable {stated : Moment σ ℓ → Prop}

theorem chronicles_still {t : Task (σ × List (Moment σ ℓ)) α}
    {u : Task (σ × List (Entry (Contact ℓ))) α} (ending : σ → Except Escape α)
    (first : ∀ s moments, t (s, moments) = (ending s, (s, moments)))
    (second : ∀ s journal, u (s, journal) = (ending s, (s, journal))) :
    Chronicles stated α t u := by
  intro s moments journal
  rw [first, second]
  refine ⟨[], ?_, (List.append_nil journal).symm, rfl, fun _ member => nomatch member⟩
  rw [List.append_nil]

theorem chronicles_congruence (stated : Moment σ ℓ → Prop) : Congruence (Chronicles stated) where
  pure a := chronicles_still _ (fun _ _ => rfl) fun _ _ => rfl
  escape e := chronicles_still _ (fun _ _ => rfl) fun _ _ => rfl
  bind {α β t u f g} first next := by
    intro s moments journal
    obtain ⟨added, same, entries, chained, holds⟩ := first s moments journal
    rcases run : u (s, journal) with ⟨e | a, s', present⟩
    · rw [run] at same entries chained
      rw [bind_error run, bind_error same]
      exact ⟨added, rfl, entries, chained, holds⟩
    · rw [run] at same entries chained
      rw [bind_ok run, bind_ok same]
      obtain ⟨more, same', entries', chained', holds'⟩ := next a s' (moments ++ added) present
      refine ⟨added ++ more, ?_, ?_, chained.append chained', ?_⟩
      · rw [same', List.append_assoc]
      · rw [entries', show present = _ from entries, List.map_append, List.append_assoc]
      · intro moment member
        exact (List.mem_append.mp member).elim (holds moment) (holds' moment)

theorem chronicles_gets (view : σ → α) :
    Chronicles stated α (Task.gets fun s : σ × List (Moment σ ℓ) => view s.1)
      (Task.gets fun s : σ × List (Entry (Contact ℓ)) => view s.1) :=
  chronicles_still (fun s => .ok (view s)) (fun _ _ => rfl) fun _ _ => rfl

theorem chronicles_entered {name : σ → String} {call : Contact ℓ} {shown : α → Value}
    {t : Task σ α} (h : ∀ s, stated ⟨s, ⟨name s, call, (t s).1.map shown⟩, (t s).2⟩) :
    Chronicles stated α (t.chronicled name call shown) (t.entered name call shown) := by
  intro s moments journal
  refine ⟨_, chronicled_apply .., rfl, ⟨rfl, rfl⟩, fun moment member => ?_⟩
  rw [List.mem_singleton.mp member]
  exact h s

end Task

/-! ### Executions in a chronicle -/

namespace Surroundings

variable (surroundings : Surroundings σ ℓ)

def contact : Contact ℓ → Task σ Value
  | .invoke => surroundings.invoke
  | .ask p f => surroundings.ask p f
  | .calculate strategy attempt => surroundings.calculate strategy attempt
  | .wait delay => (fun _ => .null) <$> surroundings.wait delay
  | .notify occasion leaf => (fun _ => .null) <$> surroundings.notify occasion leaf
  | .tell notice => (fun _ => .null) <$> surroundings.tell notice

def Performs (moment : Moment σ ℓ) : Prop :=
  surroundings.contact moment.entry.call moment.before = (moment.entry.ending, moment.after)

def chronicled : Surroundings (σ × List (Moment σ ℓ)) ℓ :=
  surroundings.wrapped Prod.fst fun _ call shown t => t.chronicled surroundings.name call shown

theorem chronicled_related :
    Related (Task.Chronicles surroundings.Performs) surroundings.chronicled
      surroundings.recorded where
  logger := rfl
  operation := rfl
  policy := rfl
  listener := rfl
  patience := rfl
  name := Task.chronicles_gets surroundings.name
  attempt := by
    have invokes : Task.Chronicles surroundings.Performs Value surroundings.chronicled.invoke
        surroundings.recorded.invoke :=
      Task.chronicles_entered fun _ => Prod.ext (congrFun Except.map_id _).symm rfl
    intro s moments journal
    rw [Execution.attempt_apply, Execution.attempt_apply]
    obtain ⟨added, same, entries, chained, holds⟩ := invokes s moments journal
    refine ⟨added, ?_, entries, chained, holds⟩
    rw [show surroundings.chronicled.execution.invoke (s, moments) = _ from same]
    rfl
  ask _ _ := Task.chronicles_entered fun _ => Prod.ext (congrFun Except.map_id _).symm rfl
  calculate _ _ := Task.chronicles_entered fun _ => Prod.ext (congrFun Except.map_id _).symm rfl
  wait _ := Task.chronicles_entered fun _ => Task.map_apply _ _ _
  notify _ _ := Task.chronicles_entered fun _ => Task.map_apply _ _ _
  tell _ := Task.chronicles_entered fun _ => Task.map_apply _ _ _
  members id := Task.chronicles_gets (surroundings.members id)

/-- The calls of an execution with the states around them. -/
def chronicle (s : σ) : List (Moment σ ℓ) :=
  (surroundings.chronicled.execution.run (s, [])).2.2

theorem chronicled_run (s : σ) :
    (surroundings.chronicle s).map Moment.entry = surroundings.transcript s ∧
      Chained s (surroundings.chronicle s) (surroundings.execution.run s).2 ∧
      ∀ moment ∈ surroundings.chronicle s, surroundings.Performs moment := by
  obtain ⟨added, same, entries, chained, holds⟩ := run_related
    (Task.chronicles_congruence surroundings.Performs) surroundings.chronicled_related s [] []
  rw [recorded_run] at same entries chained
  obtain rfl : surroundings.chronicle s = added := by
    rw [chronicle, same]
    rfl
  exact ⟨entries.symm, chained, holds⟩

end Surroundings

end Reattempt
