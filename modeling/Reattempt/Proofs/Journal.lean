import Reattempt.Proofs.Related

/-!
# Journals

An execution can be recorded: every call on its surroundings is entered into a journal that stands
beside the state, in the order in which the calls end. Recording changes nothing, which
`Execution.recorded_mirrors` says: the recorded run ends like the run, in the same state.
-/

namespace Reattempt

variable {σ τ α β κ : Type}

/-! ### Entries -/

inductive Call where
  | invoke
  | classify (f : Failure)
  | calculate (strategy : Strategy) (attempt : Value)
  | wait (delay : Value)
  | observe (occasion : Occasion)
  | tell (notice : Notice)

/-- An entry of a journal: the name of the operation when the call was made, the call, and how it
ended. -/
structure Entry (κ : Type) where
  name : String
  call : κ
  ending : Except Escape Value

def Escape.isOrdinary : Escape → Bool
  | .raised f => f.isOrdinary
  | .unfinished => false

namespace Entry

/-- A call that cuts a run short: it escapes, and is not the operation failing ordinarily. -/
def Aborts (invoke : κ) (entry : Entry κ) (e : Escape) : Prop :=
  entry.ending = .error e ∧ (entry.call = invoke → e.isOrdinary = false)

def Smooth (invoke : κ) (entry : Entry κ) : Prop :=
  ∀ e, ¬ entry.Aborts invoke e

theorem smooth_of_ok {invoke : κ} {entry : Entry κ} {v : Value} (h : entry.ending = .ok v) :
    entry.Smooth invoke := by
  rintro e ⟨escapes, -⟩
  rw [h] at escapes
  cases escapes

theorem Smooth.ordinary {invoke : κ} {entry : Entry κ} {e : Escape} (smooth : entry.Smooth invoke)
    (h : entry.ending = .error e) : entry.call = invoke ∧ e.isOrdinary = true := by
  refine ⟨Classical.byContradiction fun other => smooth e ⟨h, fun same => absurd same other⟩, ?_⟩
  cases ordinary : e.isOrdinary with
  | false => exact absurd ⟨h, fun _ => ordinary⟩ (smooth e)
  | true => rfl

def isUndisturbed : Entry Call → Bool
  | ⟨_, .invoke, .ok _⟩ => true
  | ⟨_, .invoke, .error e⟩ => e.isOrdinary
  | ⟨_, .calculate _ _, .ok delay⟩ => !delay.isNull
  | ⟨_, _, .ok _⟩ => true
  | ⟨_, _, .error _⟩ => false

end Entry

def GivesDelays (journal : List (Entry Call)) : Prop :=
  ∀ entry ∈ journal, ∀ strategy attempt,
    entry.call = .calculate strategy attempt → entry.ending ≠ .ok .null

theorem GivesDelays.drop {journal : List (Entry Call)} (delays : GivesDelays journal) (n : Nat) :
    GivesDelays (journal.drop n) :=
  fun entry member => delays entry (List.mem_of_mem_drop member)

theorem GivesDelays.present {journal : List (Entry Call)} {name : String} {strategy : Strategy}
    {attempt delay : Value} (delays : GivesDelays journal)
    (member : ⟨name, .calculate strategy attempt, .ok delay⟩ ∈ journal) : ¬ delay.isNull = true := by
  intro absent
  cases delay with
  | null => exact delays _ member _ _ rfl rfl
  | _ => cases absent

/-- A journal in which no call cuts the run short and strategies give delays. -/
structure Undisturbed (journal : List (Entry Call)) : Prop where
  smooth : ∀ entry ∈ journal, entry.Smooth .invoke
  delays : GivesDelays journal

theorem Entry.isUndisturbed_iff (entry : Entry Call) :
    entry.isUndisturbed = true ↔ entry.Smooth .invoke ∧ ∀ strategy attempt,
      entry.call = .calculate strategy attempt → entry.ending ≠ .ok .null := by
  obtain ⟨name, call, ending⟩ := entry
  cases ending with
  | ok v =>
    have smooth : Entry.Smooth Call.invoke ⟨name, call, .ok v⟩ := Entry.smooth_of_ok rfl
    cases call with
    | calculate strategy attempt => cases v <;> simp [isUndisturbed, Value.isNull, smooth]
    | _ => simp [isUndisturbed, smooth]
  | error e =>
    cases call with
    | invoke => simp [isUndisturbed, Smooth, Aborts]
    | _ => simp [isUndisturbed, Smooth, Aborts]

theorem undisturbed_iff (journal : List (Entry Call)) :
    journal.all Entry.isUndisturbed = true ↔ Undisturbed journal := by
  rw [List.all_eq_true]
  simp only [Entry.isUndisturbed_iff]
  exact ⟨fun h => ⟨fun entry member => (h entry member).1, fun entry member => (h entry member).2⟩,
    fun h entry member => ⟨h.smooth entry member, h.delays entry member⟩⟩

instance (journal : List (Entry Call)) : Decidable (Undisturbed journal) :=
  decidable_of_iff _ (undisturbed_iff journal)

/-! ### Recording -/

namespace Task

def entered (name : σ → String) (call : κ) (shown : α → Value) (t : Task σ α) :
    Task (σ × List (Entry κ)) α := fun (s, journal) =>
  match t s with
  | (outcome, s') => (outcome, (s', journal ++ [⟨name s, call, outcome.map shown⟩]))

theorem entered_apply (name : σ → String) (call : κ) (shown : α → Value) (t : Task σ α) (s : σ)
    (journal : List (Entry κ)) :
    t.entered name call shown (s, journal) =
      ((t s).1, ((t s).2, journal ++ [⟨name s, call, (t s).1.map shown⟩])) := rfl

theorem entered_ok {name : σ → String} {call : κ} {shown : α → Value} {t : Task σ α} {s s' : σ}
    {a : α} (h : t s = (.ok a, s')) (journal : List (Entry κ)) :
    t.entered name call shown (s, journal) =
      (.ok a, (s', journal ++ [⟨name s, call, .ok (shown a)⟩])) := by
  rw [entered_apply, h]
  rfl

theorem entered_error {name : σ → String} {call : κ} {shown : α → Value} {t : Task σ α} {s s' : σ}
    {e : Escape} (h : t s = (.error e, s')) (journal : List (Entry κ)) :
    t.entered name call shown (s, journal) =
      (.error e, (s', journal ++ [⟨name s, call, .error e⟩])) := by
  rw [entered_apply, h]
  rfl

/-- A task that only adds to the journal; what it adds and how it ends is as stated. -/
def Writes (t : Task (σ × List (Entry κ)) α)
    (stated : List (Entry κ) → Except Escape α → Prop) : Prop :=
  ∀ s journal, ∃ entries, (t (s, journal)).2.2 = journal ++ entries ∧
    stated entries (t (s, journal)).1

section

variable {t : Task (σ × List (Entry κ)) α} {f : α → Task (σ × List (Entry κ)) β}
  {first : List (Entry κ) → Except Escape α → Prop}
  {next : α → List (Entry κ) → Except Escape β → Prop}
  {stated : List (Entry κ) → Except Escape β → Prop}

theorem writes_pure {b : β} (h : stated [] (.ok b)) :
    Writes (pure b : Task (σ × List (Entry κ)) β) stated :=
  fun _ journal => ⟨[], (List.append_nil journal).symm, h⟩

theorem writes_escape {e : Escape} (h : stated [] (.error e)) :
    Writes (escape e : Task (σ × List (Entry κ)) β) stated :=
  fun _ journal => ⟨[], (List.append_nil journal).symm, h⟩

theorem writes_gets {view : σ → β} (h : ∀ b, stated [] (.ok b)) :
    Writes (Task.gets fun s : σ × List (Entry κ) => view s.1) stated :=
  fun s journal => ⟨[], (List.append_nil journal).symm, h (view s)⟩

theorem Writes.bind (ht : Writes t first) (hf : ∀ a, Writes (f a) (next a))
    (escapes : ∀ entries e, first entries (.error e) → stated entries (.error e))
    (goesOn : ∀ entries a more ending, first entries (.ok a) → next a more ending →
      stated (entries ++ more) ending) : Writes (t >>= f) stated := by
  intro s journal
  obtain ⟨entries, adds, holds⟩ := ht s journal
  rcases run : t (s, journal) with ⟨e | a, s', present⟩
  · rw [run] at adds holds
    rw [bind_error run]
    exact ⟨entries, adds, escapes entries e holds⟩
  · rw [run] at adds holds
    obtain ⟨more, adds', holds'⟩ := hf a s' present
    rw [bind_ok run]
    refine ⟨entries ++ more, ?_, goesOn entries a more _ holds holds'⟩
    rw [adds', ← List.append_assoc]
    exact congrArg (· ++ more) adds

theorem Writes.mono {t : Task (σ × List (Entry κ)) β}
    {stated' : List (Entry κ) → Except Escape β → Prop} (h : Writes t stated)
    (weaker : ∀ entries ending, stated entries ending → stated' entries ending) :
    Writes t stated' := by
  intro s journal
  obtain ⟨entries, adds, holds⟩ := h s journal
  exact ⟨entries, adds, weaker _ _ holds⟩

end

/-- A task that does what another one does and only adds to the journal. -/
def Mirrors (α : Type) (t : Task (σ × List (Entry κ)) α) (u : Task σ α) : Prop :=
  ∀ s journal, ∃ entries, t (s, journal) = ((u s).1, ((u s).2, journal ++ entries))

theorem mirrors_congruence : Congruence (Mirrors (σ := σ) (κ := κ)) where
  pure a := fun s journal => ⟨[], by rw [List.append_nil]; rfl⟩
  escape e := fun s journal => ⟨[], by rw [List.append_nil]; rfl⟩
  bind {α β t u f g} first next := by
    intro s journal
    obtain ⟨entries, same⟩ := first s journal
    cases h : u s with
    | mk outcome s' =>
      rw [h] at same
      cases outcome with
      | error e => exact ⟨entries, by rw [bind_error h, bind_error same]⟩
      | ok a =>
        obtain ⟨more, same'⟩ := next a s' (journal ++ entries)
        refine ⟨entries ++ more, ?_⟩
        rw [bind_ok h, bind_ok same, same', List.append_assoc]

theorem mirrors_entered (name : σ → String) (call : κ) (shown : α → Value) (t : Task σ α) :
    Mirrors α (t.entered name call shown) t :=
  fun _ _ => ⟨_, rfl⟩

theorem mirrors_gets (view : σ → α) :
    Mirrors α (Task.gets fun s : σ × List (Entry κ) => view s.1) (Task.gets view) :=
  fun s journal => ⟨[], by rw [List.append_nil]; rfl⟩

/-- A task that makes no entry but allowed ones. -/
def Genuine (allowed : Entry κ → Prop) (t : Task (σ × List (Entry κ)) α) : Prop :=
  Writes t fun entries _ => ∀ entry ∈ entries, allowed entry

theorem genuine_congruence (allowed : Entry κ → Prop) :
    Congruence fun α (t : Task (σ × List (Entry κ)) α) (_ : Task τ α) => Genuine allowed t where
  pure a := writes_pure fun _ member => absurd member List.not_mem_nil
  escape e := writes_escape fun _ member => absurd member List.not_mem_nil
  bind first next := by
    unfold Genuine at first next ⊢
    refine first.bind next (fun _ _ allowed => allowed) ?_
    intro entries a more ending allowed allowed' entry member
    exact (List.mem_append.mp member).elim (allowed entry) (allowed' entry)

theorem genuine_gets (allowed : Entry κ → Prop) (view : σ → α) :
    Genuine allowed (Task.gets fun s : σ × List (Entry κ) => view s.1) :=
  writes_gets fun _ _ member => absurd member List.not_mem_nil

theorem genuine_entered {allowed : Entry κ → Prop} {name : σ → String} {call : κ}
    {shown : α → Value} {t : Task σ α} (h : ∀ s, allowed ⟨name s, call, (t s).1.map shown⟩) :
    Genuine allowed (t.entered name call shown) :=
  fun s _ => ⟨_, rfl, fun _ member => List.mem_singleton.mp member ▸ h s⟩

end Task

namespace Execution

def recorded (execution : Execution σ) : Execution (σ × List (Entry Call)) where
  logger := execution.logger
  name s := execution.name s.1
  operation := execution.operation
  invoke := execution.invoke.entered execution.name .invoke id
  start := execution.start
  accepts f := (execution.accepts f).entered execution.name (.classify f) .bool
  calculate strategy attempt :=
    (execution.calculate strategy attempt).entered execution.name (.calculate strategy attempt) id
  wait delay := (execution.wait delay).entered execution.name (.wait delay) fun _ => .null
  observe occasion :=
    (execution.observe occasion).entered execution.name (.observe occasion) fun _ => .null
  tell notice := (execution.tell notice).entered execution.name (.tell notice) fun _ => .null
  patience := execution.patience

def taken : Except Escape Value → Except Escape (Except Failure Value)
  | .ok result => .ok (.ok result)
  | .error (.raised f) => if f.isOrdinary then .ok (.error f) else .error (.raised f)
  | .error .unfinished => .error .unfinished

theorem attempt_apply (execution : Execution σ) (s : σ) :
    execution.attempt s = (taken (execution.invoke s).1, (execution.invoke s).2) := by
  rw [attempt, Task.bind_ok (Task.ending_apply _ s)]
  rcases execution.invoke s with ⟨(f | _) | result, s'⟩
  · dsimp only [taken]
    cases f.isOrdinary <;> rfl
  · rfl
  · rfl

theorem attempt_mirrors {first : Execution (σ × List (Entry κ))} {second : Execution σ}
    (invoke : Task.Mirrors Value first.invoke second.invoke) :
    Task.Mirrors _ first.attempt second.attempt := by
  intro s journal
  obtain ⟨entries, same⟩ := invoke s journal
  exact ⟨entries, by rw [attempt_apply, attempt_apply, same]⟩

theorem recorded_related (execution : Execution σ) :
    Related (Task.Mirrors (κ := Call)) execution.recorded execution where
  exhausted _ _ _ := Task.mirrors_congruence.escape _
  start := rfl
  patience := rfl
  name := Task.mirrors_gets execution.name
  attempt := attempt_mirrors (Task.mirrors_entered _ _ _ _)
  announce := announce_related Task.mirrors_congruence rfl (Task.mirrors_gets execution.name)
    fun _ => Task.mirrors_entered _ _ _ _
  accepts _ := Task.mirrors_entered _ _ _ _
  calculate _ _ _ := Task.mirrors_entered _ _ _ _
  wait _ := Task.mirrors_entered _ _ _ _
  observe _ := Task.mirrors_entered _ _ _ _

theorem recorded_mirrors (execution : Execution σ) :
    Task.Mirrors Value execution.recorded.run execution.run :=
  run_related Task.mirrors_congruence execution.recorded_related

/-- What is true of attempts, of delays for counted attempts and of all other calls that are entered
is true of a recorded run. -/
theorem recorded_run_of_entered (execution : Execution σ)
    {P : (α : Type) → Task (σ × List (Entry Call)) α → Prop}
    (congruence : Task.Congruence fun α t (_ : Task (σ × List (Entry Call)) α) => P α t)
    (gets : ∀ {α : Type} (view : σ → α),
      P α (Task.gets fun s : σ × List (Entry Call) => view s.1))
    (entered : ∀ {α : Type} {call : Call} (shown : α → Value) (t : Task σ α), call ≠ .invoke →
      (∀ strategy attempt, call ≠ .calculate strategy attempt) →
        P α (t.entered execution.name call shown))
    (calculate : ∀ cursor, execution.start = .ok cursor → ∀ attempts : Nat,
      P Value (execution.recorded.calculate cursor.strategy (.int attempts)))
    (attempt : P _ execution.recorded.attempt) : P Value execution.recorded.run := by
  have related : Related (fun α t _ => P α t) execution.recorded execution.recorded := {
    exhausted := fun _ _ _ => congruence.escape _
    start := rfl
    patience := rfl
    name := gets execution.name
    attempt := attempt
    announce := announce_related congruence rfl (gets execution.name) fun notice =>
      entered _ (execution.tell notice) nofun nofun
    accepts := fun f => entered _ (execution.accepts f) nofun nofun
    calculate := calculate
    wait := fun delay => entered _ (execution.wait delay) nofun nofun
    observe := fun occasion => entered _ (execution.observe occasion) nofun nofun }
  exact run_related congruence related

def journal (execution : Execution σ) (s : σ) : List (Entry Call) :=
  (execution.recorded.run (s, [])).2.2

theorem recorded_run (execution : Execution σ) (s : σ) :
    execution.recorded.run (s, []) =
      ((execution.run s).1, ((execution.run s).2, execution.journal s)) := by
  obtain ⟨entries, same⟩ := execution.recorded_mirrors s []
  rw [journal, same]

end Execution

/-! ### Templates -/

/-- How an escape leaves the boundary of a flavour. -/
def Flavour.outward : Flavour → Escape → Escape
  | awaited, .raised f => .raised f.insulated
  | _, e => e

theorem Flavour.insulate_apply (flavour : Flavour) (t : Task σ α) (s : σ) :
    flavour.insulate t s = ((t s).1.mapError flavour.outward, (t s).2) := by
  cases flavour with
  | direct =>
    rw [insulate]
    rcases t s with ⟨_ | _, _⟩ <;> rfl
  | awaited =>
    rw [insulate, Task.bind_ok (Task.ending_apply t s)]
    rcases t s with ⟨(_ | _) | _, _⟩ <;> rfl

theorem Flavour.perform_ready {operation : Operation σ} {s after : σ} {outcome : Except Escape Value}
    (h : operation.invoke s = (outcome.map .ready, after)) (flavour : Flavour) :
    flavour.perform operation s = (outcome.mapError flavour.outward, after) := by
  rw [perform, insulate_apply]
  cases outcome with
  | error e => rw [Task.bind_error h]
  | ok v =>
    rw [Task.bind_ok h]
    cases flavour <;> rfl

theorem Flavour.outward_raised (flavour : Flavour) {f : Failure}
    (other : f.kind.isA Kind.stopIteration = false) : flavour.outward (.raised f) = .raised f := by
  cases flavour with
  | direct => rfl
  | awaited => rw [outward, Failure.insulated, other, if_neg Bool.false_ne_true]

namespace Template

variable {ℓ : Type}

def started (template : Template σ ℓ) (operation : Operation σ) (s : σ) : Execution σ :=
  template.execution (template.policy s) (template.listener s) operation

def journal (template : Template σ ℓ) (operation : Operation σ) (s : σ) : List (Entry Call) :=
  (template.started operation s).journal s

theorem execute_apply (template : Template σ ℓ) (operation : Operation σ) (s : σ) :
    template.execute operation s =
      (((template.started operation s).run s).1.mapError template.flavour.outward,
        ((template.started operation s).run s).2) := by
  rw [execute, Flavour.insulate_apply]
  rfl

theorem execute_error {template : Template σ ℓ} {operation : Operation σ} {s : σ} {e : Escape}
    (ends : ((template.started operation s).run s).1 = .error e) :
    (template.execute operation s).1 = .error (template.flavour.outward e) := by
  rw [execute_apply, ends]
  rfl

end Template

end Reattempt
