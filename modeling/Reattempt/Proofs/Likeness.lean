import Reattempt.Proofs.Transcript

/-!
# Likeness

Executions that differ in their states, in what their notices are told as and in the operation that
their failures carry. If every call of one has a counterpart that ends the same way and keeps the
states alike, then both make the same calls and end alike, which `Surroundings.Alike.run` says.
Invocations only need a counterpart as long as what is entered is regular.
-/

namespace Reattempt

variable {σ τ ℓ κ α β : Type}

/-! ### Tasks -/

namespace Task

/-- Tasks that end the same way and keep states alike. -/
def Alike (states : σ → τ → Prop) (α : Type) (t : Task σ α) (u : Task τ α) : Prop :=
  ∀ s s', states s s' → (u s').1 = (t s).1 ∧ states (t s).2 (u s').2

variable {states : σ → τ → Prop}

theorem alike_congruence (states : σ → τ → Prop) : Congruence (Alike states) where
  pure a := fun _ _ start => ⟨rfl, start⟩
  escape e := fun _ _ start => ⟨rfl, start⟩
  bind {α β t u f g} first next := by
    intro s s' start
    obtain ⟨ends, present⟩ := first s s' start
    rcases run : t s with ⟨e | a, after⟩
    · rw [run] at ends present
      have run' : u s' = (.error e, (u s').2) := Prod.ext ends rfl
      rw [bind_error run, bind_error run']
      exact ⟨rfl, present⟩
    · rw [run] at ends present
      have run' : u s' = (.ok a, (u s').2) := Prod.ext ends rfl
      rw [bind_ok run, bind_ok run']
      exact next a _ _ present

theorem alike_gets {view : σ → α} {view' : τ → α}
    (same : ∀ s s', states s s' → view' s' = view s) :
    Alike states α (Task.gets view) (Task.gets view') :=
  fun s s' start => ⟨congrArg Except.ok (same s s' start), start⟩

end Task

/-! ### Endings -/

/-- Endings that are the same, up to the operation that a failure carries which ends an
execution. -/
inductive EndsAlike (own other : Value) : Except Escape α → Except Escape α → Prop where
  | same (ending : Except Escape α) : EndsAlike own other ending ending
  | gaveUp (message : String) (last : Failure) (earlier : List Failure) :
      EndsAlike own other (.error (.raised (.exhausted message last earlier own)))
        (.error (.raised (.exhausted message last earlier other)))

theorem EndsAlike.eq {operation : Value} {ending ending' : Except Escape α}
    (alike : EndsAlike operation operation ending ending') : ending' = ending := by
  cases alike with
  | same | gaveUp => rfl

/-! ### Recorded tasks -/

/-- How two recorded runs correspond: their states, the operations that their failures carry, which
entries are regular, and what an entry becomes. -/
structure Likeness (σ τ κ : Type) where
  states : σ → τ → Prop
  own : Value
  other : Value
  regular : Entry κ → Prop
  translate : Entry κ → Entry κ

namespace Task

variable {likeness : Likeness σ τ κ}

/-- As long as all entries are regular, the second task makes the same entries, translated, ends
alike and keeps states alike. -/
def Mimics (likeness : Likeness σ τ κ) (α : Type) (t : Task (σ × List (Entry κ)) α)
    (u : Task (τ × List (Entry κ)) α) : Prop :=
  ∀ s journal, ∃ entries, (t (s, journal)).2.2 = journal ++ entries ∧
    ∀ s' journal', likeness.states s s' → (∀ entry ∈ entries, likeness.regular entry) →
      EndsAlike likeness.own likeness.other (t (s, journal)).1 (u (s', journal')).1 ∧
        likeness.states (t (s, journal)).2.1 (u (s', journal')).2.1 ∧
        (u (s', journal')).2.2 = journal' ++ entries.map likeness.translate

theorem mimics_still {t : Task (σ × List (Entry κ)) α} {u : Task (τ × List (Entry κ)) α}
    (ending : σ → Except Escape α) (ending' : τ → Except Escape α)
    (first : ∀ s journal, t (s, journal) = (ending s, (s, journal)))
    (second : ∀ s journal, u (s, journal) = (ending' s, (s, journal)))
    (ends : ∀ s s', likeness.states s s' →
      EndsAlike likeness.own likeness.other (ending s) (ending' s')) :
    Mimics likeness α t u := by
  intro s journal
  rw [first]
  refine ⟨[], (List.append_nil journal).symm, fun s' journal' start _ => ?_⟩
  rw [second]
  exact ⟨ends s s' start, start, (List.append_nil journal').symm⟩

theorem mimics_congruence (likeness : Likeness σ τ κ) : Congruence (Mimics likeness) where
  pure a := mimics_still _ _ (fun _ _ => rfl) (fun _ _ => rfl) fun _ _ _ => .same (.ok a)
  escape e := mimics_still _ _ (fun _ _ => rfl) (fun _ _ => rfl) fun _ _ _ => .same (.error e)
  bind {α β t u f g} first next := by
    intro s journal
    obtain ⟨entries, adds, mimics⟩ := first s journal
    rcases run : t (s, journal) with ⟨e | a, after, present⟩
    · rw [run] at adds mimics
      rw [bind_error run]
      refine ⟨entries, adds, fun s' journal' start regular => ?_⟩
      obtain ⟨ends, states, adds'⟩ := mimics s' journal' start regular
      rcases run' : u (s', journal') with ⟨ending', after'⟩
      rw [run'] at ends states adds'
      cases ends with
      | same =>
        rw [bind_error run']
        exact ⟨.same _, states, adds'⟩
      | gaveUp message last earlier =>
        rw [bind_error run']
        exact ⟨.gaveUp message last earlier, states, adds'⟩
    · rw [run] at adds mimics
      rw [bind_ok run]
      obtain ⟨more, adds₂, mimics₂⟩ := next a after present
      refine ⟨entries ++ more, ?_, fun s' journal' start regular => ?_⟩
      · rw [adds₂, ← List.append_assoc]
        exact congrArg (· ++ more) adds
      obtain ⟨ends, states, adds'⟩ := mimics s' journal' start fun entry member =>
        regular entry (List.mem_append_left more member)
      rcases run' : u (s', journal') with ⟨ending', after', present'⟩
      rw [run'] at ends states adds'
      cases ends with
      | same =>
        rw [bind_ok run']
        obtain ⟨ends₂, states₂, adds₂'⟩ := mimics₂ after' present' states fun entry member =>
          regular entry (List.mem_append_right entries member)
        refine ⟨ends₂, states₂, ?_⟩
        rw [adds₂', show present' = _ from adds', List.map_append, List.append_assoc]

theorem mimics_gets {view : σ → α} {view' : τ → α}
    (same : ∀ s s', likeness.states s s' → view' s' = view s) :
    Mimics likeness α (Task.gets fun s : σ × List (Entry κ) => view s.1)
      (Task.gets fun s : τ × List (Entry κ) => view' s.1) :=
  mimics_still (fun s => .ok (view s)) (fun s => .ok (view' s)) (fun _ _ => rfl) (fun _ _ => rfl) fun s s' start => by
      rw [same s s' start]
      exact .same _

theorem mimics_entered {name : σ → String} {name' : τ → String} {call call' : κ}
    {shown : α → Value} {t : Task σ α} {u : Task τ α}
    (counterpart : ∀ s s', likeness.states s s' →
      likeness.regular ⟨name s, call, (t s).1.map shown⟩ →
        (u s').1 = (t s).1 ∧ likeness.states (t s).2 (u s').2)
    (translated : ∀ s s' ending, likeness.states s s' →
      likeness.translate ⟨name s, call, ending⟩ = ⟨name' s', call', ending⟩) :
    Mimics likeness α (t.entered name call shown) (u.entered name' call' shown) := by
  intro s journal
  refine ⟨_, rfl, fun s' journal' start regular => ?_⟩
  obtain ⟨ends, states⟩ := counterpart s s' start (regular _ (List.mem_singleton.mpr rfl))
  rw [entered_apply, entered_apply, ends, List.map_singleton, translated s s' _ start]
  exact ⟨.same _, states, rfl⟩

end Task

theorem Execution.attempt_mimics {likeness : Likeness σ τ κ}
    {first : Execution (σ × List (Entry κ))} {second : Execution (τ × List (Entry κ))}
    {name : σ → String} {name' : τ → String} {call : κ} {t : Task σ Value} {u : Task τ Value}
    (invoke : first.invoke = t.entered name call id)
    (invoke' : second.invoke = u.entered name' call id)
    (counterpart : ∀ s s', likeness.states s s' → likeness.regular ⟨name s, call, (t s).1⟩ →
      (u s').1 = (t s).1 ∧ likeness.states (t s).2 (u s').2)
    (translated : ∀ s s' ending, likeness.states s s' →
      likeness.translate ⟨name s, call, ending⟩ = ⟨name' s', call, ending⟩) :
    Task.Mimics likeness _ first.attempt second.attempt := by
  intro s journal
  rw [attempt_apply, invoke, Task.entered_apply, congrFun Except.map_id]
  refine ⟨_, rfl, fun s' journal' start regular => ?_⟩
  obtain ⟨ends, states⟩ := counterpart s s' start (regular _ (List.mem_singleton.mpr rfl))
  rw [attempt_apply, invoke', Task.entered_apply, congrFun Except.map_id, ends,
    List.map_singleton]
  refine ⟨.same _, states, ?_⟩
  rw [id, translated s s' _ start]

/-! ### Notices under another name -/

/-- A notice of one part of the library, told in the name of another. -/
def Notice.relogged (old new : String) (notice : Notice) : Notice :=
  if notice.logger = old then { notice with logger := new } else notice

theorem Notice.relogged_self (logger : String) (notice : Notice) :
    notice.relogged logger logger = notice := by
  rw [relogged]
  split
  · next same => rw [← same]
  · rfl

theorem Notice.relogged_other {old new logger : String} (other : logger ≠ old ∨ old = new)
    (message : String) (fields : List (String × Value)) :
    (debug logger message fields).relogged old new = debug logger message fields := by
  rcases other with other | rfl
  · exact if_neg other
  · exact relogged_self _ _

def Contact.relogged (old new : String) : Contact ℓ → Contact ℓ
  | .tell notice => .tell (notice.relogged old new)
  | call => call

def Entry.relogged (old new : String) (entry : Entry (Contact ℓ)) : Entry (Contact ℓ) :=
  { entry with call := entry.call.relogged old new }

theorem Entry.relogged_self (logger : String) (entry : Entry (Contact ℓ)) :
    entry.relogged logger logger = entry := by
  obtain ⟨name, call, ending⟩ := entry
  cases call with
  | tell notice =>
    rw [relogged, Contact.relogged, notice.relogged_self]
  | _ => rfl

/-! ### Surroundings -/

namespace Surroundings

structure Alike (states : σ → τ → Prop) (regular : Entry (Contact ℓ) → Prop)
    (first : Surroundings σ ℓ) (second : Surroundings τ ℓ) : Prop where
  logger : Classifier.logger ≠ first.logger ∨ first.logger = second.logger
  policy : first.policy = second.policy
  listener : first.listener = second.listener
  patience : first.patience = second.patience
  name : ∀ s s', states s s' → second.name s' = first.name s
  members : ∀ id s s', states s s' → second.members id s' = first.members id s
  invoke : ∀ s s', states s s' → regular ⟨first.name s, .invoke, (first.invoke s).1⟩ →
    (second.invoke s').1 = (first.invoke s).1 ∧ states (first.invoke s).2 (second.invoke s').2
  ask (p : Predicate) (f : Failure) : Task.Alike states Value (first.ask p f) (second.ask p f)
  calculate (strategy : Strategy) (attempt : Value) :
    Task.Alike states Value (first.calculate strategy attempt) (second.calculate strategy attempt)
  wait (delay : Value) : Task.Alike states Unit (first.wait delay) (second.wait delay)
  notify (occasion : Occasion) (leaf : ℓ) :
    Task.Alike states Unit (first.notify occasion leaf) (second.notify occasion leaf)
  tell (notice : Notice) : Task.Alike states Unit (first.tell notice)
    (second.tell (notice.relogged first.logger second.logger))

def transcript (surroundings : Surroundings σ ℓ) (s : σ) : List (Entry (Contact ℓ)) :=
  (surroundings.recorded.execution.run (s, [])).2.2

theorem recorded_run (surroundings : Surroundings σ ℓ) (s : σ) :
    surroundings.recorded.execution.run (s, []) =
      ((surroundings.execution.run s).1,
        ((surroundings.execution.run s).2, surroundings.transcript s)) := by
  obtain ⟨entries, same⟩ := run_related Task.mirrors_congruence surroundings.recorded_related s []
  rw [transcript, same]

variable {states : σ → τ → Prop} {regular : Entry (Contact ℓ) → Prop}
  {first : Surroundings σ ℓ} {second : Surroundings τ ℓ}

def likeness (states : σ → τ → Prop) (regular : Entry (Contact ℓ) → Prop)
    (first : Surroundings σ ℓ) (second : Surroundings τ ℓ) : Likeness σ τ (Contact ℓ) :=
  ⟨states, first.operation, second.operation, regular,
    Entry.relogged first.logger second.logger⟩

section

variable (alike : Alike states regular first second)
include alike

theorem Alike.entered {call call' : Contact ℓ} (shown : α → Value) {t : Task σ α} {u : Task τ α}
    (counterpart : Task.Alike states α t u)
    (translated : call.relogged first.logger second.logger = call') :
    Task.Mimics (likeness states regular first second) α (t.entered first.name call shown)
      (u.entered second.name call' shown) := by
  refine Task.mimics_entered (fun s s' start _ => counterpart s s' start) ?_
  intro s s' ending start
  have same : second.name s' = first.name s := alike.name s s' start
  show Entry.mk (first.name s) (call.relogged first.logger second.logger) ending = _
  rw [translated, same]

theorem Alike.attempt :
    Task.Mimics (likeness states regular first second) _ first.recorded.execution.attempt
      second.recorded.execution.attempt := by
  refine Execution.attempt_mimics rfl rfl alike.invoke fun s s' ending start => ?_
  have same : second.name s' = first.name s := alike.name s s' start
  rw [same]
  rfl

/-- The notices of classifiers keep their name. -/
theorem Alike.tells (message : String) :
    Task.Alike states Unit (first.tell (.debug Classifier.logger message []))
      (second.tell (.debug Classifier.logger message [])) := by
  have told := alike.tell (.debug Classifier.logger message [])
  rw [Notice.relogged_other alike.logger] at told
  exact told

theorem Alike.announce (attempt : Nat) (text : String → String) :
    Task.Mimics (likeness states regular first second) Unit
      (first.recorded.execution.announce attempt text)
      (second.recorded.execution.announce attempt text) := by
  refine (Task.mimics_congruence _).bind (Task.mimics_gets alike.name) fun name => ?_
  have renamed (fields : List (String × Value)) :
      (Notice.debug first.logger (text name) fields).relogged first.logger second.logger =
        .debug second.logger (text name) fields := if_pos rfl
  refine alike.entered _ ?_ (congrArg Contact.tell (renamed _))
  have told := alike.tell (.debug first.logger (text name)
    [("operation", .text name), ("attempt", .int attempt)])
  rw [renamed] at told
  exact told

theorem Alike.recorded :
    Execution.Related (Task.Mimics (likeness states regular first second))
      first.recorded.execution second.recorded.execution where
  exhausted message last earlier := Task.mimics_still _ _ (fun _ _ => rfl) (fun _ _ => rfl)
    fun _ _ _ => .gaveUp message last earlier
  start := by
    have policy : first.recorded.policy = second.recorded.policy := alike.policy
    rw [execution, execution, policy]
  patience := alike.patience
  name := Task.mimics_gets alike.name
  attempt := alike.attempt
  announce := alike.announce
  accepts := accepts_related (Task.mimics_congruence _) alike.policy
    (fun p f => alike.entered _ (alike.ask p f) rfl)
    (fun message => alike.entered _ (alike.tells message)
      (congrArg Contact.tell (Notice.relogged_other alike.logger message [])))
  calculate _ _ _ := alike.entered _ (alike.calculate _ _) rfl
  wait delay := alike.entered _ (alike.wait delay) rfl
  observe := observe_related (Task.mimics_congruence _) alike.listener alike.patience
    (fun occasion leaf => alike.entered _ (alike.notify occasion leaf) rfl)
    (fun id => Task.mimics_gets (alike.members id))

/-- Executions in surroundings that are alike make the same calls, end alike and leave states
alike, as long as what is entered is regular. -/
theorem Alike.run {s : σ} {s' : τ} (start : states s s')
    (entries : ∀ entry ∈ first.transcript s, regular entry) :
    EndsAlike first.operation second.operation (first.execution.run s).1
        (second.execution.run s').1 ∧
      states (first.execution.run s).2 (second.execution.run s').2 ∧
      second.transcript s' =
        (first.transcript s).map (Entry.relogged first.logger second.logger) := by
  obtain ⟨added, adds, mimics⟩ :=
    Execution.run_related (Task.mimics_congruence _) alike.recorded s []
  rw [recorded_run] at adds mimics
  obtain rfl : first.transcript s = added := adds
  have same := mimics s' [] start entries
  rw [recorded_run] at same
  exact same

end

/-! ### The same execution -/

structure SameRun (first : Surroundings σ ℓ) (second : Surroundings τ ℓ) (s : σ) (s' : τ) :
    Prop where
  transcript : second.transcript s' = first.transcript s
  journal : second.execution.journal s' = first.execution.journal s
  ending : (second.execution.run s').1 = (first.execution.run s).1

variable (alike : Alike states (fun _ => True) first second)
  (logger : first.logger = second.logger)
include alike logger

theorem Alike.journal {s : σ} {s' : τ} (start : states s s') :
    second.execution.journal s' = first.execution.journal s := by
  let likeness : Likeness σ τ Call :=
    ⟨states, first.operation, second.operation, fun _ => True, id⟩
  have entered {α : Type} {call : Call} (shown : α → Value) {t : Task σ α} {u : Task τ α}
      (counterpart : Task.Alike states α t u) :
      Task.Mimics likeness α (t.entered first.name call shown)
        (u.entered second.name call shown) := by
    refine Task.mimics_entered (fun s s' start _ => counterpart s s' start) ?_
    intro s s' ending start
    rw [alike.name s s' start]
    rfl
  have tell (notice : Notice) : Task.Alike states Unit (first.tell notice) (second.tell notice) := by
    have told := alike.tell notice
    rw [logger, Notice.relogged_self] at told
    exact told
  have related : Execution.Related (Task.Mimics likeness) first.execution.recorded
      second.execution.recorded := {
    exhausted := fun message last earlier => Task.mimics_still _ _ (fun _ _ => rfl) (fun _ _ => rfl)
      fun _ _ _ => .gaveUp message last earlier
    start := by
      show first.execution.start = second.execution.start
      rw [execution, execution, alike.policy]
    patience := alike.patience
    name := Task.mimics_gets alike.name
    attempt := by
      refine Execution.attempt_mimics rfl rfl
        (fun s s' start _ => alike.invoke s s' start trivial) fun s s' ending start => ?_
      show Entry.mk (first.name s) Call.invoke ending = ⟨second.name s', _, _⟩
      rw [alike.name s s' start]
    announce := Execution.announce_related (Task.mimics_congruence _) logger
      (Task.mimics_gets alike.name) fun notice => entered _ (tell notice)
    accepts := fun f => entered _
      (accepts_related (Task.alike_congruence states) alike.policy alike.ask alike.tells f)
    calculate := fun _ _ _ => entered _ (alike.calculate _ _)
    wait := fun delay => entered _ (alike.wait delay)
    observe := fun occasion => entered _ (observe_related (Task.alike_congruence states)
      alike.listener alike.patience alike.notify
      (fun id => Task.alike_gets (alike.members id)) occasion) }
  obtain ⟨added, adds, mimics⟩ := Execution.run_related (Task.mimics_congruence _) related s []
  obtain rfl : first.execution.journal s = added := adds
  obtain ⟨-, -, same⟩ := mimics s' [] start fun _ _ => trivial
  rw [List.map_id] at same
  exact same

/-- Where nothing differs but states that are alike, the execution is the same. -/
theorem Alike.sameRun (operation : first.operation = second.operation) {s : σ} {s' : τ}
    (start : states s s') :
    SameRun first second s s' ∧
      states (first.execution.run s).2 (second.execution.run s').2 := by
  obtain ⟨ends, present, same⟩ := alike.run start fun _ _ => trivial
  rw [operation] at ends
  refine ⟨⟨?_, alike.journal logger start, ends.eq⟩, present⟩
  rw [same, logger, funext (Entry.relogged_self second.logger), List.map_id']

end Surroundings

end Reattempt
