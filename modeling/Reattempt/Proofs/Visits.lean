import Reattempt.Proofs.Chronicle
import Reattempt.Proofs.Outcome

/-!
# Visits

The moments at which an execution invokes its operation, with the states before and after. They are
the invocations of its journal, by `Template.invocations_journal`, and nothing but what happens in
between and in them changes the state, by `Template.gains_visits`.
-/

namespace Reattempt

variable {σ τ ℓ α β : Type}

def Contact.isInvoke : Contact ℓ → Bool
  | .invoke => true
  | _ => false

theorem Chained.gains {view : σ → List β} {gain : Moment σ ℓ → List β} {s s' : σ}
    {moments : List (Moment σ ℓ)} (chained : Chained s moments s')
    (kept : ∀ moment ∈ moments, moment.entry.call.isInvoke = false →
      view moment.after = view moment.before)
    (gains : ∀ visit ∈ moments.filter fun moment => moment.entry.call.isInvoke,
      view visit.after = view visit.before ++ gain visit) :
    view s' = view s ++ (moments.filter fun moment => moment.entry.call.isInvoke).flatMap gain := by
  induction moments generalizing s with
  | nil =>
    rw [List.filter_nil, List.flatMap_nil, List.append_nil]
    exact congrArg view chained
  | cons moment moments ih =>
    obtain ⟨starts, rest⟩ := chained
    have kept' : ∀ later ∈ moments, later.entry.call.isInvoke = false →
        view later.after = view later.before := fun later member => kept later (.tail _ member)
    cases invokes : moment.entry.call.isInvoke with
    | true =>
      have split : (moment :: moments).filter (fun moment => moment.entry.call.isInvoke) =
          moment :: moments.filter fun moment => moment.entry.call.isInvoke :=
        List.filter_cons_of_pos invokes
      rw [split] at gains ⊢
      have grows := ih rest kept' fun visit member => gains visit (.tail _ member)
      rw [grows, gains moment (.head _), starts, List.flatMap_cons, List.append_assoc]
    | false =>
      have split : (moment :: moments).filter (fun moment => moment.entry.call.isInvoke) =
          moments.filter fun moment => moment.entry.call.isInvoke :=
        List.filter_cons_of_neg (by rw [invokes]; exact Bool.false_ne_true)
      rw [split] at gains ⊢
      rw [ih rest kept' gains, kept moment (.head _) invokes, starts]

/-! ### Calls other than invocations -/

namespace Task

/-- A recorded task that does what another one does and makes no contact that counts. -/
def Accompanies (counts : Contact ℓ → Bool) (α : Type) (t : Task σ α)
    (u : Task (σ × List (Entry (Contact ℓ))) α) : Prop :=
  ∀ s transcript, ∃ contacts, u (s, transcript) = ((t s).1, ((t s).2, transcript ++ contacts)) ∧
    contacts.filter (fun entry => counts entry.call) = []

theorem accompanies_congruence (counts : Contact ℓ → Bool) :
    Congruence (Accompanies (σ := σ) counts) where
  pure a := fun s transcript => ⟨[], by rw [List.append_nil]; rfl, rfl⟩
  escape e := fun s transcript => ⟨[], by rw [List.append_nil]; rfl, rfl⟩
  bind {α β t u f g} first next := by
    intro s transcript
    obtain ⟨contacts, same, none⟩ := first s transcript
    rcases run : t s with ⟨e | a, s'⟩
    · rw [run] at same
      exact ⟨contacts, by rw [bind_error run, bind_error same], none⟩
    · rw [run] at same
      obtain ⟨more, same', none'⟩ := next a s' (transcript ++ contacts)
      refine ⟨contacts ++ more, ?_, ?_⟩
      · rw [bind_ok run, bind_ok same, same', List.append_assoc]
      · rw [List.filter_append, none, none', List.append_nil]

theorem accompanies_entered {counts : Contact ℓ → Bool} {call : Contact ℓ}
    (other : counts call = false) (name : σ → String) (shown : α → Value) (t : Task σ α) :
    Accompanies counts α t (t.entered name call shown) := by
  intro s transcript
  refine ⟨[⟨name s, call, (t s).1.map shown⟩], rfl, ?_⟩
  rw [List.filter_cons_of_neg (by rw [other]; exact Bool.false_ne_true), List.filter_nil]

theorem accompanies_gets (counts : Contact ℓ → Bool) (view : σ → α) :
    Accompanies counts α (Task.gets view) (Task.gets fun s => view s.1) :=
  fun s transcript => ⟨[], by rw [List.append_nil]; rfl, rfl⟩

/-! ### Journals beside transcripts -/

/-- Two recorded tasks that do the same and enter the same invocations. -/
def Tallies (α : Type) (t : Task (σ × List (Entry Call)) α)
    (u : Task (σ × List (Entry (Contact ℓ))) α) : Prop :=
  ∀ s journal transcript, ∃ entries contacts,
    t (s, journal) =
      ((u (s, transcript)).1, ((u (s, transcript)).2.1, journal ++ entries)) ∧
    (u (s, transcript)).2.2 = transcript ++ contacts ∧
    invocations entries =
      (contacts.filter fun entry => entry.call.isInvoke).map Entry.ending

theorem tallies_still {t : Task (σ × List (Entry Call)) α}
    {u : Task (σ × List (Entry (Contact ℓ))) α} (ending : σ → Except Escape α)
    (first : ∀ s journal, t (s, journal) = (ending s, (s, journal)))
    (second : ∀ s transcript, u (s, transcript) = (ending s, (s, transcript))) :
    Tallies α t u := by
  intro s journal transcript
  rw [first, second]
  exact ⟨[], [], by rw [List.append_nil], (List.append_nil transcript).symm, rfl⟩

theorem tallies_congruence : Congruence (Tallies (σ := σ) (ℓ := ℓ)) where
  pure a := tallies_still _ (fun _ _ => rfl) fun _ _ => rfl
  escape e := tallies_still _ (fun _ _ => rfl) fun _ _ => rfl
  bind {α β t u f g} first next := by
    intro s journal transcript
    obtain ⟨entries, contacts, same, adds, tally⟩ := first s journal transcript
    rcases run : u (s, transcript) with ⟨e | a, s', present⟩
    · rw [run] at same adds
      exact ⟨entries, contacts, by rw [bind_error run, bind_error same],
        by rw [bind_error run]; exact adds, tally⟩
    · rw [run] at same adds
      obtain ⟨entries', contacts', same', adds', tally'⟩ := next a s' (journal ++ entries) present
      rw [bind_ok run, bind_ok same]
      refine ⟨entries ++ entries', contacts ++ contacts', ?_, ?_, ?_⟩
      · rw [same', List.append_assoc]
      · rw [adds', show present = _ from adds, List.append_assoc]
      · rw [invocations_append, tally, tally', List.filter_append, List.map_append]

theorem Accompanies.tallies {t : Task σ α} {u : Task (σ × List (Entry (Contact ℓ))) α}
    (accompanies : Accompanies Contact.isInvoke α t u) (call : Call) (other : call ≠ .invoke)
    (name : σ → String) (shown : α → Value) : Tallies α (t.entered name call shown) u := by
  intro s journal transcript
  obtain ⟨contacts, same, none⟩ := accompanies s transcript
  refine ⟨[⟨name s, call, (t s).1.map shown⟩], contacts, ?_, ?_, ?_⟩
  · rw [same]
    rfl
  · rw [same]
  · rw [none]
    cases call with
    | invoke => exact absurd rfl other
    | _ => rfl

theorem tallies_gets (view : σ → α) :
    Tallies (ℓ := ℓ) α (Task.gets fun s : σ × List (Entry Call) => view s.1)
      (Task.gets fun s => view s.1) :=
  tallies_still (fun s => .ok (view s)) (fun _ _ => rfl) fun _ _ => rfl

theorem tallies_invoked (name : σ → String) (t : Task σ Value) :
    Tallies (ℓ := ℓ) Value (t.entered name Call.invoke id) (t.entered name Contact.invoke id) :=
  fun _ _ _ => ⟨_, _, rfl, rfl, rfl⟩

end Task

theorem Execution.attempt_tallies {first : Execution (σ × List (Entry Call))}
    {second : Execution (σ × List (Entry (Contact ℓ)))}
    (invoke : Task.Tallies Value first.invoke second.invoke) :
    Task.Tallies _ first.attempt second.attempt := by
  intro s journal transcript
  obtain ⟨entries, contacts, same, adds, tally⟩ := invoke s journal transcript
  refine ⟨entries, contacts, ?_, ?_, tally⟩
  · rw [attempt_apply, attempt_apply, same]
  · rw [attempt_apply]
    exact adds

/-! ### Visits of an execution -/

namespace Surroundings

variable (surroundings : Surroundings σ ℓ)

theorem observe_accompanies {counts : Contact ℓ → Bool}
    (other : ∀ occasion leaf, counts (.notify occasion leaf) = false) (occasion : Occasion) :
    Task.Accompanies counts Unit (surroundings.observe occasion)
      (surroundings.recorded.observe occasion) :=
  observe_related (Task.accompanies_congruence counts) rfl rfl
    (fun occasion leaf => Task.accompanies_entered (other occasion leaf) surroundings.name _ _)
    (fun id => Task.accompanies_gets counts (surroundings.members id)) occasion

theorem journal_tallies :
    Execution.Related (Task.Tallies (ℓ := ℓ)) surroundings.execution.recorded
      surroundings.recorded.execution := by
  have single {α : Type} {contact : Contact ℓ} (other : contact.isInvoke = false)
      (shown : α → Value) (t : Task σ α) :
      Task.Accompanies Contact.isInvoke α t (t.entered surroundings.name contact shown) :=
    Task.accompanies_entered other surroundings.name shown t
  have accepts (f : Failure) : Task.Accompanies Contact.isInvoke Bool (surroundings.accepts f)
      (surroundings.recorded.accepts f) :=
    accepts_related (Task.accompanies_congruence _) rfl (fun _ _ => single rfl _ _)
      (fun _ => single rfl _ _) f
  exact {
    exhausted := fun _ _ _ => Task.tallies_congruence.escape _
    start := rfl
    patience := rfl
    name := Task.tallies_gets surroundings.name
    attempt := Execution.attempt_tallies (Task.tallies_invoked _ _)
    announce := Execution.announce_related Task.tallies_congruence rfl
      (Task.tallies_gets surroundings.name) fun notice =>
        (single rfl _ _).tallies (.tell notice) nofun _ _
    accepts := fun f => (accepts f).tallies (.classify f) nofun _ _
    calculate := fun cursor _ attempts =>
      (single rfl _ _).tallies (.calculate cursor.strategy (.int attempts)) nofun _ _
    wait := fun delay => (single rfl _ _).tallies (.wait delay) nofun _ _
    observe := fun occasion =>
      (surroundings.observe_accompanies (fun _ _ => rfl) occasion).tallies (.observe occasion) nofun
        _ _ }

def visits (s : σ) : List (Moment σ ℓ) :=
  (surroundings.chronicle s).filter fun moment => moment.entry.call.isInvoke

theorem invocations_visits (s : σ) :
    invocations (surroundings.execution.journal s) =
      (surroundings.visits s).map fun visit => visit.entry.ending := by
  obtain ⟨entries, contacts, same, adds, tally⟩ := Execution.run_related Task.tallies_congruence
    surroundings.journal_tallies s [] []
  rw [Execution.recorded_run] at same
  rw [recorded_run] at adds
  obtain rfl : surroundings.execution.journal s = entries := congrArg (fun run => run.2.2) same
  obtain rfl : surroundings.transcript s = contacts := adds
  rw [tally, ← (surroundings.chronicled_run s).1, List.filter_map, List.map_map]
  rfl

end Surroundings

namespace Template

variable (template : Template σ ℓ) (operation : Operation σ) (s : σ)

def visits : List (Moment σ ℓ) := (template.surroundings operation s).visits s

variable {template operation s}

theorem invocations_journal :
    invocations (template.journal operation s) =
      (template.visits operation s).map fun visit => visit.entry.ending :=
  (template.surroundings operation s).invocations_visits s

theorem visit_performs {visit : Moment σ ℓ} (member : visit ∈ template.visits operation s) :
    template.flavour.perform operation visit.before = (visit.entry.ending, visit.after) := by
  obtain ⟨present, invokes⟩ := List.mem_filter.mp member
  have performs := ((template.surroundings operation s).chronicled_run s).2.2 visit present
  obtain ⟨before, ⟨name, call, ending⟩, after⟩ := visit
  cases call with
  | invoke => exact performs
  | _ => cases invokes

end Template

/-! ### What calls leave alone -/

def Task.Keeps (view : σ → β) (α : Type) (t : Task σ α) : Prop :=
  ∀ s, view (t s).2 = view s

theorem Task.Keeps.bind {γ : Type} {view : σ → β} {t : Task σ α} {f : α → Task σ γ}
    (first : Task.Keeps view α t) (next : ∀ a, Task.Keeps view γ (f a)) :
    Task.Keeps view γ (t >>= f) := by
  intro s
  have kept := first s
  rcases run : t s with ⟨e | a, s'⟩
  · rw [run] at kept
    rw [bind_error run]
    exact kept
  · rw [run] at kept
    rw [bind_ok run]
    exact (next a s').trans kept

theorem Task.keeps_congruence (view : σ → β) :
    Task.Congruence fun α (t _ : Task σ α) => Task.Keeps view α t where
  pure _ := fun _ => rfl
  escape _ := fun _ => rfl
  bind first next := first.bind next

theorem Task.Keeps.map {γ : Type} {view : σ → β} {t : Task σ α} (kept : Task.Keeps view α t)
    (f : α → γ) : Task.Keeps view γ (f <$> t) := by
  intro s
  rw [map_apply]
  exact kept s

namespace Template

variable {template : Template σ ℓ} {operation : Operation σ} {s : σ}

/-- A template none of whose calls, other than those of its operation, touches a part of the
state. -/
structure Spares (template : Template σ ℓ) (view : σ → β) : Prop where
  ask (p : Predicate) (f : Failure) : Task.Keeps view Value (template.examination.ask p f)
  tell (notice : Notice) : Task.Keeps view Unit (template.examination.tell notice)
  uniform (low high : Value) : Task.Keeps view Value (template.chance.uniform low high)
  jitter (notice : Notice) : Task.Keeps view Unit (template.chance.tell notice)
  wait (delay : Value) : Task.Keeps view Unit (template.wait delay)
  notify (policy : Option Policy) (operation : Operation σ) (occasion : Occasion) (leaf : ℓ) :
    Task.Keeps view Unit (template.notify policy operation occasion leaf)

theorem Spares.kept {view : σ → β} (spares : template.Spares view) :
    ∀ moment ∈ (template.surroundings operation s).chronicle s,
      moment.entry.call.isInvoke = false → view moment.after = view moment.before := by
  intro moment member other
  have performs := ((template.surroundings operation s).chronicled_run s).2.2 moment member
  have left : _ = moment.after := congrArg Prod.snd performs
  rw [← left]
  cases call : moment.entry.call with
  | invoke =>
    rw [call] at other
    cases other
  | ask p f => exact spares.ask p f _
  | calculate strategy attempt =>
    exact @Strategy.calculate_related σ σ _ (Task.keeps_congruence view) template.chance
      template.chance spares.uniform (fun _ => spares.jitter _) strategy attempt _
  | wait delay => exact (spares.wait delay).map _ _
  | notify occasion leaf => exact (spares.notify _ _ occasion leaf).map _ _
  | tell notice => exact (spares.tell notice).map _ _

/-- Where no other call touches a list that is kept in the state, it grows by what each invocation
adds, in order. -/
theorem gains_visits {view : σ → List β} {gain : Moment σ ℓ → List β}
    (spares : template.Spares view) (gains : ∀ visit ∈ template.visits operation s,
      view visit.after = view visit.before ++ gain visit) :
    view (template.execute operation s).2 =
      view s ++ (template.visits operation s).flatMap gain := by
  have chained := ((template.surroundings operation s).chronicled_run s).2.1
  rw [execute_apply, ← surroundings_execution]
  exact chained.gains spares.kept gains

end Template

end Reattempt
