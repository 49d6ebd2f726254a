import Reattempt.Proofs.Chronicle

/-!
# Reassignment

What a template is set to may be changed while one of its executions is running, by whatever the
execution calls. `Template.execute_isolated` says what comes of it: the execution goes on as if its
policy and listener had not been changed, the next execution takes what was assigned last, and each
wait is performed in the way that is set at that moment.
-/

namespace Reattempt

variable {ω ℓ κ α : Type}

structure Settings (ℓ κ : Type) where
  policy : Option Policy
  listener : Option (Listener ℓ)
  sleep : κ

namespace Settings

/-- Assignments to the policy and the listener undone; the other one undoes those to the way to
wait. -/
def keepTaken (before after : Settings ℓ κ) : Settings ℓ κ := { before with sleep := after.sleep }

def keepSleep (before after : Settings ℓ κ) : Settings ℓ κ := { after with sleep := before.sleep }

end Settings

structure Template.Configured (template : Template (ω × Settings ℓ κ) ℓ)
    (sleeps : κ → Value → Task (ω × Settings ℓ κ) Unit) : Prop where
  policy : ∀ s, template.policy s = s.2.policy
  listener : ∀ s, template.listener s = s.2.listener
  wait : ∀ delay s, template.wait delay s = sleeps s.2.sleep delay s

/-! ### Assignments undone -/

def Task.restoring (restore : Settings ℓ κ → Settings ℓ κ → Settings ℓ κ)
    (t : Task (ω × Settings ℓ κ) α) : Task (ω × Settings ℓ κ) α := fun s =>
  ((t s).1, ((t s).2.1, restore s.2 (t s).2.2))

namespace Surroundings

section

variable {σ : Type}

/-- Every call does the same from states that are alike, so no call depends on anything in which
such states differ. -/
def Respects (states : σ → σ → Prop) (surroundings : Surroundings σ ℓ) : Prop :=
  surroundings.Alike states (fun _ => True) surroundings

end

variable {surroundings : Surroundings (ω × Settings ℓ κ) ℓ}
  {states : ω × Settings ℓ κ → ω × Settings ℓ κ → Prop}
  {restore : Settings ℓ κ → Settings ℓ κ → Settings ℓ κ}

def restoring (restore : Settings ℓ κ → Settings ℓ κ → Settings ℓ κ)
    (surroundings : Surroundings (ω × Settings ℓ κ) ℓ) : Surroundings (ω × Settings ℓ κ) ℓ :=
  surroundings.wrapped id fun _ _ _ t => t.restoring restore

theorem Respects.restoring (respects : surroundings.Respects states)
    (restore : Settings ℓ κ → Settings ℓ κ → Settings ℓ κ)
    (keeps : ∀ s w before after, states s (w, after) → states s (w, restore before after)) :
    surroundings.Alike states (fun _ => True) (surroundings.restoring restore) := by
  have undone {α : Type} {t : Task (ω × Settings ℓ κ) α} (h : Task.Alike states α t t) :
      Task.Alike states α t (t.restoring restore) := fun s s' start =>
    ⟨(h s s' start).1, keeps _ _ _ _ (h s s' start).2⟩
  exact {
    logger := .inr rfl
    policy := rfl
    listener := rfl
    patience := rfl
    name := respects.name
    members := respects.members
    invoke := fun s s' start regular =>
      have same := respects.invoke s s' start regular
      ⟨same.1, keeps _ _ _ _ same.2⟩
    ask := fun p f => undone (respects.ask p f)
    calculate := fun strategy attempt => undone (respects.calculate strategy attempt)
    wait := fun delay => undone (respects.wait delay)
    notify := fun occasion leaf => undone (respects.notify occasion leaf)
    tell := fun notice => by
      have same := respects.tell notice
      rw [Notice.relogged_self] at same
      show Task.Alike _ _ _ ((surroundings.tell (notice.relogged surroundings.logger
        surroundings.logger)).restoring restore)
      rw [Notice.relogged_self]
      exact undone same }

theorem restoring_contact (call : Contact ℓ) (s : ω × Settings ℓ κ) :
    (surroundings.restoring restore).contact call s =
      (surroundings.contact call).restoring restore s := by
  cases call with
  | invoke | ask | calculate => rfl
  | wait | notify | tell =>
    rw [contact, contact, Task.restoring, Task.map_apply, Task.map_apply]
    rfl

theorem restoring_run {β : Type} (surroundings : Surroundings (ω × Settings ℓ κ) ℓ)
    (restore : Settings ℓ κ → Settings ℓ κ → Settings ℓ κ) (part : Settings ℓ κ → β)
    (kept : ∀ before after, part (restore before after) = part before) (s : ω × Settings ℓ κ) :
    part ((surroundings.restoring restore).execution.run s).2.2 = part s.2 := by
  obtain ⟨-, chained, performs⟩ := (surroundings.restoring restore).chronicled_run s
  refine chained.invariant (fun state => part state.2) fun moment member => ?_
  have performed := performs moment member
  rw [Performs, restoring_contact] at performed
  have left : _ = moment.after := congrArg Prod.snd performed
  rw [← left]
  exact kept _ _

end Surroundings

/-! ### Templates -/

namespace Template

variable {template : Template (ω × Settings ℓ κ) ℓ}
  {sleeps : κ → Value → Task (ω × Settings ℓ κ) Unit}

def SameSleep (s s' : ω × Settings ℓ κ) : Prop := s'.1 = s.1 ∧ s'.2.sleep = s.2.sleep

def SameWorld (worlds : ω → ω → Prop) (s s' : ω × Settings ℓ κ) : Prop := worlds s.1 s'.1

structure Isolated (template : Template (ω × Settings ℓ κ) ℓ)
    (sleeps : κ → Value → Task (ω × Settings ℓ κ) Unit)
    (operation : Operation (ω × Settings ℓ κ)) (s : ω × Settings ℓ κ) : Prop where
  /-- The execution runs under the policy and with the listener of its start. -/
  taken : template.execute operation s =
    template.flavour.insulate (template.execution s.2.policy s.2.listener operation).run s
  /-- Where calls do not depend on the policy and the listener that are set, it is the same with
  all assignments to them undone. -/
  undisturbed : (template.surroundings operation s).Respects SameSleep →
    let steady := (template.surroundings operation s).restoring Settings.keepTaken
    (template.surroundings operation s).SameRun steady s s ∧
      SameSleep (template.execute operation s).2 (steady.execution.run s).2 ∧
      (steady.execution.run s).2.2.policy = s.2.policy ∧
      (steady.execution.run s).2.2.listener = s.2.listener
  /-- Settings change in calls only, and the next execution runs with what the last call left. -/
  next : let chronicle := (template.surroundings operation s).chronicle s
    let left := ((chronicle.getLast?.map Moment.after).getD s).2
    chronicle.map Moment.entry = template.transcript operation s ∧
      Chained s chronicle (template.execute operation s).2 ∧
      ∀ other, template.execute other (template.execute operation s).2 =
        template.flavour.insulate (template.execution left.policy left.listener other).run
          (template.execute operation s).2
  /-- Each wait is performed in the way that is set when it begins. -/
  waits : ∀ moment ∈ (template.surroundings operation s).chronicle s, ∀ delay,
    moment.entry.call = .wait delay →
      ((sleeps moment.before.2.sleep delay moment.before).1.map fun _ => Value.null) =
          moment.entry.ending ∧
        (sleeps moment.before.2.sleep delay moment.before).2 = moment.after
  /-- Where all ways to wait do the same, the execution is the same with all assignments of another
  one undone. -/
  interchangeable : ∀ worlds : ω → ω → Prop, worlds s.1 s.1 →
    (template.surroundings operation s).Respects (SameWorld worlds) →
      let unswapped := (template.surroundings operation s).restoring Settings.keepSleep
      (template.surroundings operation s).SameRun unswapped s s ∧
        SameWorld worlds (template.execute operation s).2 (unswapped.execution.run s).2 ∧
        (unswapped.execution.run s).2.2.sleep = s.2.sleep

theorem Configured.execute_apply (configured : template.Configured sleeps)
    (operation : Operation (ω × Settings ℓ κ)) (s : ω × Settings ℓ κ) :
    template.execute operation s =
      template.flavour.insulate (template.execution s.2.policy s.2.listener operation).run s := by
  rw [Template.execute_apply, Flavour.insulate_apply, started, configured.policy,
    configured.listener]

/-- An execution is isolated from assignments to the policy and the listener of its template, and
an assignment of another way to wait counts from the next wait on. -/
theorem execute_isolated (configured : template.Configured sleeps)
    (operation : Operation (ω × Settings ℓ κ)) (s : ω × Settings ℓ κ) :
    template.Isolated sleeps operation s := by
  have present : (template.execute operation s).2 =
      ((template.surroundings operation s).execution.run s).2 := by
    rw [Template.execute_apply, surroundings_execution]
  obtain ⟨entries, chained, performs⟩ := (template.surroundings operation s).chronicled_run s
  constructor
  · exact configured.execute_apply operation s
  · intro respects
    have alike := respects.restoring Settings.keepTaken fun _ _ _ _ same => same
    have start : SameSleep s s := ⟨rfl, rfl⟩
    obtain ⟨same, states⟩ := alike.sameRun rfl rfl start
    rw [present]
    exact ⟨same, states,
      Surroundings.restoring_run _ Settings.keepTaken Settings.policy (fun _ _ => rfl) s,
      Surroundings.restoring_run _ Settings.keepTaken Settings.listener (fun _ _ => rfl) s⟩
  · rw [present]
    refine ⟨entries, chained, fun other => ?_⟩
    rw [configured.execute_apply, ← chained.last]
  · intro moment member delay call
    have performed := performs moment member
    rw [Surroundings.Performs, call, Surroundings.contact, Task.map_apply] at performed
    have waits : (template.surroundings operation s).wait delay moment.before =
        sleeps moment.before.2.sleep delay moment.before := configured.wait delay moment.before
    rw [waits] at performed
    exact ⟨congrArg Prod.fst performed, congrArg Prod.snd performed⟩
  · intro worlds start respects
    have alike := respects.restoring Settings.keepSleep fun _ _ _ _ same => same
    obtain ⟨same, states⟩ := alike.sameRun rfl rfl (show SameWorld worlds s s from start)
    rw [present]
    exact ⟨same, states,
      Surroundings.restoring_run _ Settings.keepSleep Settings.sleep (fun _ _ => rfl) s⟩

end Template

/-! ### A template that is changed all the time -/

/-- A state that counts invocations and adds up how long was waited, beside the settings. -/
abbrev Changing : Type := (Nat × Nat) × Settings Unit Nat

namespace Changing

def reset (s : Changing) : Changing := (s.1, ⟨none, s.2.listener, 5⟩)

def unsettled (s : Changing) : Changing := ((s.1.1 + 1, s.1.2), ⟨none, none, s.2.sleep + 1⟩)

def waited (seconds : Nat) (s : Changing) : Changing := ((s.1.1, s.1.2 + seconds), s.2)

def template : Template Changing Unit where
  flavour := .direct
  policy s := s.2.policy
  listener s := s.2.listener
  examination := ⟨fun _ _ => pure (.bool true), fun _ => pure ()⟩
  chance := ⟨fun low _ => pure low, fun _ => pure ()⟩
  wait _ := Task.modify fun s => waited s.2.sleep s
  notify _ _ _ _ := Task.modify reset
  members _ _ := []
  patience := 9

def operation : Operation Changing where
  name _ := "sample"
  self := .operation 0
  invoke := fun s => ((Operation.countedOutcome s.1.1).map .ready, s.unsettled)

theorem respects {states : Changing → Changing → Prop}
    (counts : ∀ s s', states s s' → s'.1.1 = s.1.1)
    (invokes : ∀ s s', states s s' → states s.unsettled s'.unsettled)
    (waits : ∀ s s', states s s' → states (waited s.2.sleep s) (waited s'.2.sleep s'))
    (resets : ∀ s s', states s s' → states s.reset s'.reset) (s : Changing) :
    (template.surroundings operation s).Respects states where
  logger := .inr rfl
  policy := rfl
  listener := rfl
  patience := rfl
  name _ _ _ := rfl
  members _ _ _ _ := rfl
  invoke := by
    intro s s' start _
    have performs (s : Changing) : Flavour.direct.perform operation s = (_, s.unsettled) :=
      Flavour.perform_ready rfl _
    show (Flavour.direct.perform operation s').1 = (Flavour.direct.perform operation s).1 ∧
      states (Flavour.direct.perform operation s).2 (Flavour.direct.perform operation s').2
    rw [performs, performs, counts s s' start]
    exact ⟨rfl, invokes s s' start⟩
  ask _ _ := (Task.alike_congruence states).pure _
  calculate strategy attempt := Strategy.calculate_related (Task.alike_congruence states)
    (fun _ _ => (Task.alike_congruence states).pure _)
    (fun _ => (Task.alike_congruence states).pure _) strategy attempt
  wait _ := fun s s' start => ⟨rfl, waits s s' start⟩
  notify _ _ := fun s s' start => ⟨rfl, resets s s' start⟩
  tell _ := (Task.alike_congruence states).pure _

def SameCount (world world' : Nat × Nat) : Prop := world'.1 = world.1

def start : Changing :=
  ((0, 0), ⟨some ⟨3, .int 0, 0, .null, .classifier .all⟩, some (.leaf ()), 1⟩)

end Changing

/-- The policy and the listener are taken away in the first call, and yet the operation is tried
three times; the wait set by the operation and the one set by the listener are each the next. -/
theorem Template.execute_isolated_changing :
    let sleeps := fun seconds (_ : Value) => Task.modify (Changing.waited seconds)
    let surroundings := Changing.template.surroundings Changing.operation Changing.start
    Changing.template.Configured sleeps ∧ surroundings.Respects SameSleep ∧
      surroundings.Respects (SameWorld Changing.SameCount) ∧
      (Changing.template.execute Changing.operation Changing.start).1 = .ok (.int 2) ∧
      (Changing.template.execute Changing.operation Changing.start).2.1 = (3, 2 + 5) ∧
      surroundings.SameRun (surroundings.restoring Settings.keepTaken) Changing.start
        Changing.start ∧
      surroundings.SameRun (surroundings.restoring Settings.keepSleep) Changing.start
        Changing.start := by
  intro sleeps surroundings
  have configured : Changing.template.Configured sleeps :=
    ⟨fun _ => rfl, fun _ => rfl, fun _ _ => rfl⟩
  have steady : surroundings.Respects SameSleep := by
    refine Changing.respects ?_ ?_ ?_ ?_ _
    · rintro s s' ⟨world, -⟩
      rw [world]
    · rintro s s' ⟨world, sleep⟩
      exact ⟨by rw [Changing.unsettled, world]; rfl, congrArg (· + 1) sleep⟩
    · rintro s s' ⟨world, sleep⟩
      exact ⟨by rw [Changing.waited, world, sleep]; rfl, sleep⟩
    · rintro s s' ⟨world, -⟩
      exact ⟨world, rfl⟩
  have unswapped : surroundings.Respects (SameWorld Changing.SameCount) :=
    Changing.respects (fun _ _ world => world) (fun _ _ world => congrArg (· + 1) world)
      (fun _ _ world => world) (fun _ _ world => world) _
  have isolated := execute_isolated configured Changing.operation Changing.start
  exact ⟨configured, steady, unswapped, rfl, rfl, (isolated.undisturbed steady).1,
    (isolated.interchangeable Changing.SameCount rfl unswapped).1⟩

end Reattempt
