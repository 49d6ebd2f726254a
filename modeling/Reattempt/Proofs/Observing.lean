import Reattempt.Proofs.Likeness
import Reattempt.Proofs.Visits
import Reattempt.Scenario.Player

/-!
# Observers

What a listener is told does not influence an execution, as long as its leaves raise nothing and
leave alone what the other calls read. Executions with different listeners of this kind make the
same calls and end the same way, by `Template.execute_observed`.
-/

namespace Reattempt

variable {σ τ ℓ α : Type}

/-! ### Harmless listeners -/

/-- A task that raises nothing and leaves a property of the state as it is. -/
def Task.Settles (kept : σ → Prop) (t : Task σ Unit) : Prop :=
  ∀ s, kept s → (t s).1 = .ok () ∧ kept (t s).2

theorem Task.Settles.bind {kept : σ → Prop} {t u : Task σ Unit} (first : t.Settles kept)
    (next : u.Settles kept) : Task.Settles kept (t >>= fun _ => u) := by
  intro s present
  obtain ⟨ends, kept⟩ := first s present
  have run : t s = (.ok (), (t s).2) := Prod.ext ends rfl
  rw [Task.bind_ok run]
  exact next _ kept

namespace Listener

/-- A listener whose leaves are harmless. Growing composites have fewer members than the patience
and hold each other up to a depth. -/
inductive Harmless (kept : σ → Prop) (tell : ℓ → Task σ Unit)
    (members : Nat → σ → List (Listener ℓ)) (patience : Nat) : Nat → Listener ℓ → Prop where
  | leaf {depth : Nat} {l : ℓ} (settles : (tell l).Settles kept) :
      Harmless kept tell members patience (depth + 1) (.leaf l)
  | composite {depth : Nat} {parts : List (Listener ℓ)}
      (each : ∀ part ∈ parts, Harmless kept tell members patience (depth + 1) part) :
      Harmless kept tell members patience (depth + 1) (.composite parts)
  | growing {depth id : Nat} (few : ∀ s, kept s → (members id s).length < patience)
      (each : ∀ s, kept s → ∀ member ∈ members id s,
        Harmless kept tell members patience depth member) :
      Harmless kept tell members patience (depth + 1) (.growing id)

variable {kept : σ → Prop} {tell : ℓ → Task σ Unit}

theorem visitAll_settles {grown : Nat → Task σ Unit} {parts : List (Listener ℓ)}
    (each : ∀ part ∈ parts, (visit tell grown part).Settles kept) :
    (visitAll tell grown parts).Settles kept := by
  induction parts with
  | nil =>
    rw [visitAll]
    exact fun _ present => ⟨rfl, present⟩
  | cons part rest ih =>
    rw [visitAll]
    exact (each part (.head _)).bind (ih fun later member => each later (.tail _ member))

/-- The position stays below a bound on the members, so that the patience lasts. -/
theorem walk_settles {visitMember : Listener ℓ → Task σ Unit} {members : σ → List (Listener ℓ)}
    {bound : Nat} (few : ∀ s, kept s → (members s).length < bound)
    (each : ∀ s, kept s → ∀ member ∈ members s, (visitMember member).Settles kept)
    {patience position : Nat} (within : position < bound) (enough : bound ≤ patience + position) :
    (walk visitMember members patience position).Settles kept := by
  induction patience generalizing position with
  | zero => omega
  | succ patience ih =>
    intro s present
    rw [walk, Task.bind_ok (Task.gets_apply members s)]
    cases found : (members s)[position]? with
    | none => exact ⟨rfl, present⟩
    | some member =>
      have held : member ∈ members s := List.mem_of_getElem? found
      have before : position < (members s).length := (List.getElem?_eq_some_iff.mp found).1
      have least := few s present
      exact (each s present member held).bind (ih (by omega) (by omega)) s present

theorem Harmless.dispatch {members : Nat → σ → List (Listener ℓ)} {patience depth : Nat}
    {listener : Listener ℓ} (harmless : Harmless kept tell members patience depth listener) :
    (dispatch tell members patience depth listener).Settles kept := by
  induction harmless with
  | leaf settles =>
    rw [Listener.dispatch, visit]
    exact settles
  | composite _ ih =>
    rw [Listener.dispatch, visit]
    exact visitAll_settles ih
  | growing few _ ih =>
    rw [Listener.dispatch, visit]
    intro s present
    have least := few s present
    exact walk_settles few ih (by omega) (by omega) s present

end Listener

/-! ### Calls of an execution's own -/

/-- Whether a call is one of the execution's own, and no telling of a listener. -/
def Contact.isOwn : Contact ℓ → Bool
  | .notify _ _ => false
  | _ => true

def ownCalls (transcript : List (Entry (Contact ℓ))) : List (Entry (Contact ℓ)) :=
  transcript.filter fun entry => entry.call.isOwn

def AlikeSoFar (alike : σ → τ → Prop) (s : σ × List (Entry (Contact ℓ)))
    (s' : τ × List (Entry (Contact ℓ))) : Prop :=
  alike s.1 s'.1 ∧ ownCalls s'.2 = ownCalls s.2

namespace Task

variable {alike : σ → τ → Prop}

theorem alike_entered {name : σ → String} {name' : τ → String}
    (names : ∀ s s', alike s s' → name' s' = name s) (call : Contact ℓ) (shown : α → Value)
    {t : Task σ α} {u : Task τ α} (same : Alike alike α t u) :
    Alike (AlikeSoFar alike) α (t.entered name call shown) (u.entered name' call shown) := by
  rintro ⟨s, transcript⟩ ⟨s', transcript'⟩ ⟨present, calls⟩
  obtain ⟨ends, after⟩ := same s s' present
  rw [entered_apply, entered_apply, ends, names s s' present]
  refine ⟨rfl, after, ?_⟩
  show ownCalls (transcript' ++ _) = ownCalls (transcript ++ _)
  rw [ownCalls, List.filter_append, show transcript'.filter _ = _ from calls, ownCalls, ownCalls,
    List.filter_append]

theorem alike_accompanied {t : Task σ Unit} {u : Task τ Unit}
    {t' : Task (σ × List (Entry (Contact ℓ))) Unit} {u' : Task (τ × List (Entry (Contact ℓ))) Unit}
    (first : Accompanies Contact.isOwn Unit t t') (second : Accompanies Contact.isOwn Unit u u')
    (settles : ∀ s', t.Settles fun s => alike s s') (settles' : ∀ s, u.Settles (alike s)) :
    Alike (AlikeSoFar alike) Unit t' u' := by
  rintro ⟨s, transcript⟩ ⟨s', transcript'⟩ ⟨present, calls⟩
  obtain ⟨contacts, same, none⟩ := first s transcript
  obtain ⟨contacts', same', none'⟩ := second s' transcript'
  -- The first side moves on alone, and then the second side catches up.
  obtain ⟨ends, between⟩ := settles s' s present
  obtain ⟨ends', after⟩ := settles' (t s).2 s' between
  rw [same, same']
  refine ⟨ends'.trans ends.symm, after, ?_⟩
  show ownCalls (transcript' ++ contacts') = ownCalls (transcript ++ contacts)
  rw [ownCalls, List.filter_append, none', ownCalls, List.filter_append, none, List.append_nil,
    List.append_nil]
  exact calls

end Task

theorem Execution.attempt_alike {alike : σ → τ → Prop} {first : Execution σ} {second : Execution τ}
    (invoke : Task.Alike alike Value first.invoke second.invoke) :
    Task.Alike alike _ first.attempt second.attempt := by
  intro s s' present
  obtain ⟨ends, after⟩ := invoke s s' present
  rw [attempt_apply, attempt_apply, ends]
  exact ⟨rfl, after⟩

/-! ### Surroundings with different listeners -/

namespace Surroundings

variable {alike : σ → τ → Prop} {first : Surroundings σ ℓ} {second : Surroundings τ ℓ}

/-- Surroundings whose calls see no difference between states that are alike, and whose listeners
leave states alike. -/
structure Agree (alike : σ → τ → Prop) (first : Surroundings σ ℓ) (second : Surroundings τ ℓ) :
    Prop where
  logger : first.logger = second.logger
  operation : first.operation = second.operation
  policy : first.policy = second.policy
  patience : first.patience = second.patience
  name : ∀ s s', alike s s' → second.name s' = first.name s
  invoke : Task.Alike alike Value first.invoke second.invoke
  ask (p : Predicate) (f : Failure) : Task.Alike alike Value (first.ask p f) (second.ask p f)
  calculate (strategy : Strategy) (attempt : Value) :
    Task.Alike alike Value (first.calculate strategy attempt) (second.calculate strategy attempt)
  wait (delay : Value) : Task.Alike alike Unit (first.wait delay) (second.wait delay)
  tell (notice : Notice) : Task.Alike alike Unit (first.tell notice) (second.tell notice)
  observe (occasion : Occasion) (s' : τ) : (first.observe occasion).Settles fun s => alike s s'
  observe' (occasion : Occasion) (s : σ) : (second.observe occasion).Settles (alike s)

theorem Agree.recorded (agree : Agree alike first second) :
    Execution.Related (Task.Alike (AlikeSoFar alike)) first.recorded.execution
      second.recorded.execution := by
  have congruence := Task.alike_congruence (AlikeSoFar (ℓ := ℓ) alike)
  have names : ∀ s s', AlikeSoFar (ℓ := ℓ) alike s s' → second.name s'.1 = first.name s.1 :=
    fun s s' present => agree.name s.1 s'.1 present.1
  have entered {α : Type} (call : Contact ℓ) (shown : α → Value) {t : Task σ α} {u : Task τ α}
      (same : Task.Alike alike α t u) : Task.Alike (AlikeSoFar alike) α
        (t.entered first.name call shown) (u.entered second.name call shown) :=
    Task.alike_entered agree.name call shown same
  have told (notice : Notice) := entered (.tell notice) (fun _ => .null) (agree.tell notice)
  exact {
    exhausted := fun message last earlier => by
      show Task.Alike _ Value (Task.raise (.exhausted message last earlier first.operation))
        (Task.raise (.exhausted message last earlier second.operation))
      rw [agree.operation]
      exact congruence.escape _
    start := by
      show first.execution.start = second.execution.start
      rw [execution, execution, agree.policy]
    patience := agree.patience
    name := Task.alike_gets names
    attempt := Execution.attempt_alike (entered .invoke id agree.invoke)
    announce := Execution.announce_related congruence agree.logger (Task.alike_gets names) told
    accepts := accepts_related congruence agree.policy
      (fun p f => entered (.ask p f) id (agree.ask p f)) fun _ => told _
    calculate := fun cursor _ attempts =>
      entered (.calculate cursor.strategy (.int attempts)) id (agree.calculate _ _)
    wait := fun delay => entered (.wait delay) (fun _ => .null) (agree.wait delay)
    observe := fun occasion => Task.alike_accompanied
      (first.observe_accompanies (fun _ _ => rfl) occasion)
      (second.observe_accompanies (fun _ _ => rfl) occasion)
      (agree.observe occasion) (agree.observe' occasion) }

theorem Agree.run (agree : Agree alike first second) {s : σ} {s' : τ} (start : alike s s') :
    (second.execution.run s').1 = (first.execution.run s).1 ∧
      alike (first.execution.run s).2 (second.execution.run s').2 ∧
      ownCalls (second.transcript s') = ownCalls (first.transcript s) := by
  have same := Execution.run_related (Task.alike_congruence _) agree.recorded (s, []) (s', [])
    ⟨start, rfl⟩
  rw [recorded_run, recorded_run] at same
  exact same

end Surroundings

/-! ### Templates with different listeners -/

namespace Template

def heard (template : Template σ ℓ) (listener : Listener ℓ) : Template σ ℓ :=
  { template with listener := fun _ => some listener }

variable {template : Template σ ℓ} {operation : Operation σ} {alike : σ → σ → Prop} {s s' : σ}

/-- Nothing but hooks tells states apart that are alike. -/
structure Overlooks (template : Template σ ℓ) (operation : Operation σ) (alike : σ → σ → Prop) :
    Prop where
  policy : ∀ s s', alike s s' → template.policy s' = template.policy s
  name : ∀ s s', alike s s' → operation.name s' = operation.name s
  perform : Task.Alike alike Value (template.flavour.perform operation)
    (template.flavour.perform operation)
  ask (p : Predicate) (f : Failure) :
    Task.Alike alike Value (template.examination.ask p f) (template.examination.ask p f)
  tell (notice : Notice) :
    Task.Alike alike Unit (template.examination.tell notice) (template.examination.tell notice)
  uniform (low high : Value) :
    Task.Alike alike Value (template.chance.uniform low high) (template.chance.uniform low high)
  jitter (notice : Notice) :
    Task.Alike alike Unit (template.chance.tell notice) (template.chance.tell notice)
  wait (delay : Value) : Task.Alike alike Unit (template.wait delay) (template.wait delay)

def Bears (template : Template σ ℓ) (policy : Option Policy) (operation : Operation σ)
    (kept : σ → Prop) (listener : Listener ℓ) : Prop :=
  ∀ occasion, listener.Harmless kept (template.notify policy operation occasion) template.members
    template.patience template.patience

theorem Overlooks.agree (overlooks : template.Overlooks operation alike) {l l' : Listener ℓ}
    (start : alike s s')
    (bears : ∀ s', template.Bears (template.policy s) operation (fun s => alike s s') l)
    (bears' : ∀ s, template.Bears (template.policy s') operation (alike s) l') :
    ((template.heard l).surroundings operation s).Agree alike
      ((template.heard l').surroundings operation s') where
  logger := rfl
  operation := rfl
  policy := (overlooks.policy s s' start).symm
  patience := rfl
  name := overlooks.name
  invoke := overlooks.perform
  ask := overlooks.ask
  calculate := Strategy.calculate_related (Task.alike_congruence alike) overlooks.uniform
    fun _ => overlooks.jitter _
  wait := overlooks.wait
  tell := overlooks.tell
  observe occasion s' := (bears s' occasion).dispatch
  observe' occasion s := (bears' s occasion).dispatch

/-- Listeners do not influence an execution. Under two of them that are harmless, an operation is
executed with the same calls on itself, on tests, on the strategy and on the way to wait, in the
same order and with the same endings, and the executions end the same way. -/
theorem execute_observed (overlooks : template.Overlooks operation alike) {l l' : Listener ℓ}
    (start : alike s s')
    (bears : ∀ s', template.Bears (template.policy s) operation (fun s => alike s s') l)
    (bears' : ∀ s, template.Bears (template.policy s') operation (alike s) l') :
    ownCalls ((template.heard l').transcript operation s') =
        ownCalls ((template.heard l).transcript operation s) ∧
      ((template.heard l').execute operation s').1 =
        ((template.heard l).execute operation s).1 ∧
      alike ((template.heard l).execute operation s).2
        ((template.heard l').execute operation s').2 := by
  obtain ⟨ends, present, calls⟩ := (overlooks.agree start bears bears').run start
  rw [surroundings_execution, surroundings_execution] at ends present
  rw [execute_apply, execute_apply, ends]
  exact ⟨calls, rfl, present⟩

/-- A template over how often something was invoked and told. Some of its leaves count. -/
def counting (policy : Policy) : Template (Nat × Nat) Bool where
  flavour := .direct
  policy _ := some policy
  listener _ := none
  examination := ⟨fun _ _ => pure (.bool true), fun _ => pure ()⟩
  chance := ⟨fun low _ => pure low, fun _ => pure ()⟩
  wait _ := pure ()
  notify _ _ _ counts := Task.modify fun (invoked, told) =>
    (invoked, if counts then told + 1 else told)
  members _ _ := [.leaf true]
  patience := 9

end Template

def Operation.failingTwice : Operation (Nat × Nat) where
  name _ := "sample"
  self := .operation 0
  invoke := fun (invoked, told) =>
    (if invoked < 2 then .error (.raised (.plain invoked Kind.valueError []))
      else .ok (.ready (.int invoked)), (invoked + 1, told))

namespace Template

/-- A leaf that does not count, and a composite that counts everything twice. -/
theorem execute_observed_counting :
    let template := counting ⟨2, .int 0, 0, .null, .classifier .all⟩
    let alike : Nat × Nat → Nat × Nat → Prop := fun s s' => s.1 = s'.1
    let l : Listener Bool := .leaf false
    let l' : Listener Bool := .composite [.leaf true, .growing 0]
    template.Overlooks .failingTwice alike ∧
      ownCalls ((template.heard l').transcript .failingTwice (0, 0)) =
        ownCalls ((template.heard l).transcript .failingTwice (0, 0)) ∧
      (template.heard l).execute .failingTwice (0, 0) = (.ok (.int 2), (3, 0)) ∧
      (template.heard l').execute .failingTwice (0, 0) = (.ok (.int 2), (3, 8)) := by
  intro template alike l l'
  have still {α : Type} (a : α) : Task.Alike alike α (pure a) (pure a) :=
    (Task.alike_congruence alike).pure a
  have overlooks : template.Overlooks .failingTwice alike := {
    policy := fun _ _ _ => rfl
    name := fun _ _ _ => rfl
    perform := by
      refine (Task.alike_congruence alike).bind ?_ fun reply => ?_
      · rintro ⟨invoked, told⟩ ⟨_, told'⟩ rfl
        exact ⟨rfl, rfl⟩
      · cases reply <;> exact still _
    ask := fun _ _ => still _
    tell := fun _ => still _
    uniform := fun low _ => still low
    jitter := fun _ => still _
    wait := fun _ => still _ }
  have settles (counts : Bool) (policy : Option Policy) (occasion : Occasion)
      (kept : Nat → Prop) : (template.notify policy .failingTwice occasion counts).Settles
        fun s => kept s.1 :=
    fun _ present => ⟨rfl, present⟩
  have bears (s' : Nat × Nat) :
      template.Bears (template.policy (0, 0)) .failingTwice (fun s => alike s s') l :=
    fun occasion => .leaf (settles false _ occasion fun invoked => invoked = s'.1)
  have bears' (s : Nat × Nat) :
      template.Bears (template.policy (0, 0)) .failingTwice (alike s) l' := by
    intro occasion
    have counted := settles true (template.policy (0, 0)) occasion fun invoked => s.1 = invoked
    refine .composite fun part member => ?_
    have member : part = .leaf true ∨ part = .growing 0 := by simpa [l'] using member
    rcases member with rfl | rfl
    · exact .leaf counted
    · refine .growing (fun _ _ => (by decide : 1 < 9)) fun _ _ late held => ?_
      obtain rfl : late = .leaf true := List.mem_singleton.mp held
      exact .leaf counted
  obtain ⟨calls, -, -⟩ := execute_observed overlooks rfl bears bears'
  exact ⟨overlooks, calls, rfl, rfl⟩

end Template

/-! ### Logging listeners -/

theorem LoggingListener.notice_of_whole (logger : String) (level : Int) (operation : String)
    (hook : Hook) (payload : Value) :
    ∃ told, notice logger (.int level) operation hook payload = .ok told := by
  have raised : (Value.int level).larger (.int Notice.warningLevel) = .ok (.int
      (if Comparison.above.holds (compare Notice.warningLevel level) then Notice.warningLevel
        else level)) := by
    rw [Value.larger, Value.compareBy_whole .above Notice.warningLevel rfl]
    show (if _ then _ else _) = _
    split <;> rfl
  rw [notice]
  cases hook with
  | exhaustion =>
    rw [levelFor, raised]
    exact ⟨_, rfl⟩
  | _ => exact ⟨_, rfl⟩

namespace StageTask

theorem answerFields_apply (fields : List (String × Value)) (stage : Stage) :
    ∃ shown, answerFields fields stage = (.ok shown, stage) := by
  induction fields with
  | nil => exact ⟨[], rfl⟩
  | cons field rest ih =>
    obtain ⟨name, v⟩ := field
    obtain ⟨shown, same⟩ := ih
    have valued : answerValue v stage = (.ok (v.answer stage.catalogue), stage) := rfl
    rw [answerFields, Task.bind_ok valued, Task.bind_ok same]
    exact ⟨_, rfl⟩

theorem tell_apply (notice : Notice) (stage : Stage) :
    ∃ journal, tell notice stage = (.ok (), { stage with journal }) := by
  have level : Task.gets Stage.logLevel stage = (.ok stage.logLevel, stage) := rfl
  rw [tell, Task.bind_ok level]
  split
  · obtain ⟨fields, same⟩ := answerFields_apply notice.fields stage
    rw [Task.bind_ok same]
    exact ⟨_, rfl⟩
  · exact ⟨_, rfl⟩

/-- A logging leaf at a whole level is harmless wherever what has been seen does not count. -/
theorem logging_harmless {kept : Stage → Prop}
    (unread : ∀ stage journal, kept stage → kept { stage with journal }) (policy : Option Policy)
    (operation : Operation Stage) (occasion : Occasion) (logger : String) (level : Int)
    (members : Nat → Stage → List (Listener Observer)) (patience depth : Nat) :
    Listener.Harmless kept (notify policy operation occasion) members patience (depth + 1)
      (.leaf (.logging logger (.int level))) := by
  refine .leaf fun stage present => ?_
  have name : Task.gets operation.name stage = (.ok (operation.name stage), stage) := rfl
  obtain ⟨told, made⟩ := LoggingListener.notice_of_whole logger level (operation.name stage)
    occasion.hook (occasion.payload?.getD .null)
  obtain ⟨journal, same⟩ := tell_apply told stage
  rw [notify, notifyThrough, Task.bind_ok name, made, Task.ofExcept, pure_bind, same]
  exact ⟨rfl, unread stage journal present⟩

end StageTask

end Reattempt
