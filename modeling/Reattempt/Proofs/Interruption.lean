import Reattempt.Proofs.Outcome
import Reattempt.Proofs.Transcript

/-!
# Interruptions

A call that escapes cuts the execution short, unless it is the operation failing ordinarily: its
escape leaves the execution, and nothing is called any more. Whichever call is made to fail, the
transcript up to it is that of the run in which it did not.
-/

namespace Reattempt

variable {σ τ ℓ κ α : Type}

/-! ### A call that cuts short is the last one -/

namespace Task

/-- A task whose entries are all smooth, or whose last entry alone cuts it short. -/
def Stops (invoke : κ) (t : Task (σ × List (Entry κ)) α) : Prop :=
  Writes t fun entries ending => (∀ entry ∈ entries, entry.Smooth invoke) ∨
    ∃ before entry e, entries = before ++ [entry] ∧ (∀ other ∈ before, other.Smooth invoke) ∧
      entry.Aborts invoke e ∧ ending = .error e

theorem stops_congruence (invoke : κ) :
    Congruence fun α (t : Task (σ × List (Entry κ)) α) (_ : Task τ α) => Stops invoke t where
  pure a := writes_pure (.inl fun _ member => absurd member List.not_mem_nil)
  escape e := writes_escape (.inl fun _ member => absurd member List.not_mem_nil)
  bind first next := by
    unfold Stops at first next ⊢
    refine first.bind next ?_ ?_
    · rintro entries e (smooth | ⟨before, entry, e', split, smooth, aborts, ends⟩)
      · exact .inl smooth
      · cases ends
        exact .inr ⟨before, entry, e, split, smooth, aborts, rfl⟩
    · rintro entries a more ending (smooth | ⟨_, _, _, _, _, _, ends⟩) stops
      · have earlier {other : List (Entry κ)} (smooth' : ∀ entry ∈ other, entry.Smooth invoke) :
            ∀ entry ∈ entries ++ other, entry.Smooth invoke := fun entry member =>
          (List.mem_append.mp member).elim (smooth entry) (smooth' entry)
        rcases stops with smooth' | ⟨before, entry, e, split, smooth', aborts, ends⟩
        · exact .inl (earlier smooth')
        · refine .inr ⟨entries ++ before, entry, e, ?_, earlier smooth', aborts, ends⟩
          rw [split, List.append_assoc]
      · cases ends

theorem stops_gets (invoke : κ) (view : σ → α) :
    Stops invoke (Task.gets fun s : σ × List (Entry κ) => view s.1) :=
  writes_gets fun _ => .inl fun _ member => absurd member List.not_mem_nil

theorem stops_single {invoke : κ} {t : Task (σ × List (Entry κ)) α}
    (single : ∀ s journal, ∃ entry, (t (s, journal)).2.2 = journal ++ [entry] ∧
      ∀ e, entry.Aborts invoke e → (t (s, journal)).1 = .error e) : Stops invoke t := by
  intro s journal
  obtain ⟨entry, adds, escapes⟩ := single s journal
  refine ⟨[entry], adds, ?_⟩
  by_cases aborts : ∃ e, entry.Aborts invoke e
  · obtain ⟨e, aborts⟩ := aborts
    exact .inr ⟨[], entry, e, rfl, fun _ member => absurd member List.not_mem_nil, aborts,
      escapes e aborts⟩
  · refine .inl fun other member => ?_
    cases List.mem_singleton.mp member
    exact fun e cut => aborts ⟨e, cut⟩

theorem entered_stops (invoke call : κ) (name : σ → String) (shown : α → Value) (t : Task σ α) :
    Stops invoke (t.entered name call shown) := by
  refine stops_single fun s journal => ⟨_, rfl, fun e aborts => ?_⟩
  have escapes : (t s).1.map shown = .error e := aborts.1
  show (t s).1 = .error e
  cases ends : (t s).1 with
  | error e' =>
    rw [ends] at escapes
    cases escapes
    rfl
  | ok a =>
    rw [ends] at escapes
    cases escapes

theorem Stops.last {invoke : κ} {t : Task (σ × List (Entry κ)) α} (stops : Stops invoke t) {s : σ}
    {before after : List (Entry κ)} {entry : Entry κ} {e : Escape}
    (split : (t (s, [])).2.2 = before ++ entry :: after) (aborts : entry.Aborts invoke e) :
    after = [] ∧ (t (s, [])).1 = .error e := by
  obtain ⟨entries, adds, stops⟩ := stops s []
  rw [List.nil_append] at adds
  rw [adds] at split
  rcases stops with smooth | ⟨before', entry', e', split', smooth, aborts', ends⟩
  · exact absurd aborts (smooth entry (by rw [split]; simp) e)
  · rw [split'] at split
    rcases List.eq_nil_or_concat after with rfl | ⟨front, final, rfl⟩
    · obtain ⟨rfl, same⟩ := List.append_inj' split rfl
      cases same
      have same : e' = e := Except.error.inj (aborts'.1.symm.trans aborts.1)
      exact ⟨rfl, same ▸ ends⟩
    · have whole : before' ++ [entry'] = (before ++ entry :: front) ++ [final] := by
        rw [split, List.concat_eq_append, List.append_assoc, List.cons_append]
      obtain ⟨rfl, -⟩ := List.append_inj' whole rfl
      exact absurd aborts (smooth entry (by simp) e)

end Task

/-! ### A call that is made to fail -/

namespace Entry

def failing (entry : Entry κ) (f : Failure) : Entry κ := { entry with ending := .error (.raised f) }

end Entry

namespace Task

/-- A task that is entered, or is cut short by a failure if it makes the entry of a given
position; whatever it changes before that is up to the interruption. -/
def cut (n : Nat) (f : Failure) (change : σ → σ) (name : σ → String) (call : κ)
    (shown : α → Value) (t : Task σ α) : Task (σ × List (Entry κ)) α := fun (s, journal) =>
  if journal.length = n then
    (.error (.raised f), (change s, journal ++ [⟨name s, call, .error (.raised f)⟩]))
  else t.entered name call shown (s, journal)

/-- A second task that does what the first one does until it makes the entry of a position, and is
cut short there by a failure. The operation is not cut short by an ordinary failure. -/
def Cuts (invoke : κ) (n : Nat) (f : Failure) (α : Type) (t u : Task (σ × List (Entry κ)) α) :
    Prop :=
  ∀ s journal, ∃ entries, (t (s, journal)).2.2 = journal ++ entries ∧
    (journal.length ≤ n →
      ((journal ++ entries).length ≤ n → u (s, journal) = t (s, journal)) ∧
      ∀ entry, (journal ++ entries)[n]? = some entry →
        (entry.call = invoke → f.isOrdinary = false) →
        ∃ s', u (s, journal) =
          (.error (.raised f), (s', (journal ++ entries).take n ++ [entry.failing f])))

variable {invoke : κ} {n : Nat} {f : Failure}

theorem cuts_nothing {t u : Task (σ × List (Entry κ)) α} (same : u = t)
    (adds : ∀ s journal, (t (s, journal)).2.2 = journal) : Cuts invoke n f α t u := by
  intro s journal
  refine ⟨[], (adds s journal).trans (List.append_nil journal).symm, fun short => ⟨fun _ => ?_, ?_⟩⟩
  · rw [same]
  · intro entry there
    rw [List.append_nil, List.getElem?_eq_none short] at there
    cases there

theorem cuts_congruence : Congruence (Cuts (σ := σ) invoke n f) where
  pure a := cuts_nothing rfl fun _ _ => rfl
  escape e := cuts_nothing rfl fun _ _ => rfl
  bind {α β t u g h} first next := by
    intro s journal
    obtain ⟨entries, adds, cuts⟩ := first s journal
    rcases run : t (s, journal) with ⟨e | a, s', present⟩
    · rw [run] at adds cuts
      rw [bind_error run]
      refine ⟨entries, adds, fun short => ?_⟩
      obtain ⟨same, cuts⟩ := cuts short
      constructor
      · intro short'
        exact bind_error (same short')
      · intro entry there ordinary
        obtain ⟨s'', cut⟩ := cuts entry there ordinary
        exact ⟨s'', bind_error cut⟩
    · rw [run] at adds cuts
      have extends' : present = journal ++ entries := adds
      subst extends'
      obtain ⟨more, adds', cuts'⟩ := next a s' (journal ++ entries)
      rw [bind_ok run]
      refine ⟨entries ++ more, by rw [adds', List.append_assoc], fun short => ?_⟩
      obtain ⟨same, cuts⟩ := cuts short
      rw [← List.append_assoc]
      constructor
      · intro short'
        rw [List.length_append] at short'
        have reaches : (journal ++ entries).length ≤ n := by omega
        rw [bind_ok (same reaches)]
        exact (cuts' reaches).1 (by rw [List.length_append]; exact short')
      · intro entry there ordinary
        -- The position lies in what the second part enters, or before.
        by_cases reaches : (journal ++ entries).length ≤ n
        · rw [bind_ok (same reaches)]
          exact (cuts' reaches).2 entry there ordinary
        · rw [List.getElem?_append_left (by omega)] at there
          obtain ⟨s'', cut⟩ := cuts entry there ordinary
          rw [List.take_append_of_le_length (by omega)]
          exact ⟨s'', bind_error cut⟩

theorem cuts_gets (view : σ → α) :
    Cuts invoke n f α (Task.gets fun s : σ × List (Entry κ) => view s.1)
      (Task.gets fun s : σ × List (Entry κ) => view s.1) :=
  cuts_nothing rfl fun _ _ => rfl

theorem cuts_single {t u : Task (σ × List (Entry κ)) α} (entry : σ → Entry κ)
    (adds : ∀ s journal, (t (s, journal)).2.2 = journal ++ [entry s])
    (same : ∀ s journal, journal.length < n → u (s, journal) = t (s, journal))
    (cut : ∀ s journal, journal.length = n → ((entry s).call = invoke → f.isOrdinary = false) →
      ∃ s', u (s, journal) = (.error (.raised f), (s', journal ++ [(entry s).failing f]))) :
    Cuts invoke n f α t u := by
  intro s journal
  refine ⟨[entry s], adds s journal, fun short => ⟨fun short' => same s journal ?_, ?_⟩⟩
  · rw [List.length_append, List.length_singleton] at short'
    omega
  · intro other there ordinary
    have position : journal.length = n := by
      have := (List.getElem?_eq_some_iff.mp there).1
      rw [List.length_append, List.length_singleton] at this
      omega
    subst position
    rw [List.getElem?_concat_length] at there
    cases there
    rw [List.take_left]
    exact cut s journal rfl ordinary

theorem cuts_cut (change : σ → σ) (name : σ → String) (call : κ) (shown : α → Value)
    (t : Task σ α) :
    Cuts invoke n f α (t.entered name call shown) (t.cut n f change name call shown) := by
  refine cuts_single (fun s => ⟨name s, call, (t s).1.map shown⟩) (fun _ _ => rfl) ?_ ?_
  · intro s journal earlier
    exact if_neg (by omega)
  · intro s journal position _
    exact ⟨change s, if_pos position⟩

end Task

/-! ### Executions that are interrupted -/

namespace Execution

theorem taken_of_not_ordinary {e : Escape} (h : e.isOrdinary = false) :
    taken (.error e) = .error e := by
  cases e with
  | raised f => exact if_neg (by rw [show f.isOrdinary = false from h]; simp)
  | unfinished => rfl

variable {execution other : Execution (σ × List (Entry κ))} {invoke : κ} {name : σ → String}
  {t : Task σ Value}

theorem attempt_stops (invokes : execution.invoke = t.entered name invoke id) :
    Task.Stops invoke execution.attempt := by
  refine Task.stops_single fun s journal => ?_
  rw [attempt_apply, invokes, Task.entered_apply]
  refine ⟨_, rfl, fun e aborts => ?_⟩
  obtain ⟨escapes, ordinary⟩ := aborts
  rw [congrFun Except.map_id] at escapes
  show taken (t s).1 = .error e
  rw [show (t s).1 = .error e from escapes, taken_of_not_ordinary (ordinary rfl)]

theorem recorded_stops (execution : Execution σ) :
    Task.Stops .invoke execution.recorded.run :=
  execution.recorded_run_of_entered (Task.stops_congruence _) (Task.stops_gets _)
    (fun shown t _ _ => Task.entered_stops _ _ _ shown t)
    (fun _ _ _ => Task.entered_stops _ _ _ _ _) (attempt_stops rfl)

theorem attempt_cuts {n : Nat} {f : Failure} {change : σ → σ}
    (invokes : execution.invoke = t.entered name invoke id)
    (invokes' : other.invoke = t.cut n f change name invoke id) :
    Task.Cuts invoke n f _ execution.attempt other.attempt := by
  refine Task.cuts_single (fun s => ⟨name s, invoke, (t s).1.map id⟩) ?_ ?_ ?_
  · intro s journal
    rw [attempt_apply, invokes]
    rfl
  · intro s journal earlier
    have same : other.invoke (s, journal) = execution.invoke (s, journal) := by
      rw [invokes, invokes']
      exact if_neg (by omega)
    rw [attempt_apply, attempt_apply, same]
  · intro s journal position ordinary
    have cut : other.invoke (s, journal) =
        (.error (.raised f), (change s, journal ++ [⟨name s, invoke, .error (.raised f)⟩])) := by
      rw [invokes']
      exact if_pos position
    refine ⟨change s, ?_⟩
    rw [attempt_apply, cut, taken_of_not_ordinary (e := .raised f) (ordinary rfl)]
    rfl

end Execution

namespace Surroundings

variable (surroundings : Surroundings σ ℓ)

def interrupted (n : Nat) (f : Failure) (change : σ → σ) :
    Surroundings (σ × List (Entry (Contact ℓ))) ℓ :=
  surroundings.wrapped Prod.fst fun _ call shown t => t.cut n f change surroundings.name call shown

theorem recorded_stops : Task.Stops .invoke surroundings.recorded.execution.run := by
  have related : Related (fun _ t _ => Task.Stops Contact.invoke t) surroundings.recorded
      surroundings.recorded := {
    logger := rfl
    operation := rfl
    policy := rfl
    listener := rfl
    patience := rfl
    name := Task.stops_gets _ surroundings.name
    attempt := Execution.attempt_stops rfl
    ask := fun _ _ => Task.entered_stops _ _ _ _ _
    calculate := fun _ _ => Task.entered_stops _ _ _ _ _
    wait := fun _ => Task.entered_stops _ _ _ _ _
    notify := fun _ _ => Task.entered_stops _ _ _ _ _
    tell := fun _ => Task.entered_stops _ _ _ _ _
    members := fun id => Task.stops_gets _ (surroundings.members id) }
  exact run_related (Task.stops_congruence _) related

theorem interrupted_cuts (n : Nat) (f : Failure) (change : σ → σ) :
    Task.Cuts .invoke n f Value surroundings.recorded.execution.run
      (surroundings.interrupted n f change).execution.run := by
  refine run_related Task.cuts_congruence ?_
  exact {
    logger := rfl
    operation := rfl
    policy := rfl
    listener := rfl
    patience := rfl
    name := Task.cuts_gets surroundings.name
    attempt := Execution.attempt_cuts rfl rfl
    ask := fun _ _ => Task.cuts_cut _ _ _ _ _
    calculate := fun _ _ => Task.cuts_cut _ _ _ _ _
    wait := fun _ => Task.cuts_cut _ _ _ _ _
    notify := fun _ _ => Task.cuts_cut _ _ _ _ _
    tell := fun _ => Task.cuts_cut _ _ _ _ _
    members := fun id => Task.cuts_gets (surroundings.members id) }

end Surroundings

/-! ### Executions on templates -/

namespace Template

variable (template : Template σ ℓ) (operation : Operation σ) (s : σ)

def interrupted (n : Nat) (f : Failure) (change : σ → σ) :
    Except Escape Value × σ × List (Entry (Contact ℓ)) :=
  template.flavour.insulate
    ((template.surroundings operation s).interrupted n f change).execution.run (s, [])

/-- A failure that leaves a test, the strategy, the way to wait or a leaf of the listener, and one
that is not ordinary and leaves the operation, leaves the execution as it is, and no call follows.
Whichever call it is that fails, the calls before are those of the execution in which it did not.
Only a failure that says that there is no next item cannot leave a task that is waited for. -/
theorem execute_interruption (f : Failure)
    (crosses : template.flavour = .direct ∨ f.kind.isA Kind.stopIteration = false) :
    (∀ before entry after, template.transcript operation s = before ++ entry :: after →
      entry.Aborts .invoke (.raised f) →
      after = [] ∧ (template.execute operation s).1 = .error (.raised f)) ∧
    (∀ before entry after, template.journal operation s = before ++ entry :: after →
      entry.Aborts .invoke (.raised f) →
      after = [] ∧ (template.execute operation s).1 = .error (.raised f)) ∧
    ∀ n entry change, (template.transcript operation s)[n]? = some entry →
      (entry.call = .invoke → f.isOrdinary = false) →
      ∃ s', template.interrupted operation s n f change =
        (.error (.raised f),
          (s', (template.transcript operation s).take n ++ [entry.failing f])) := by
  have passes : template.flavour.outward (.raised f) = .raised f := by
    rcases crosses with direct | other
    · rw [direct]
      rfl
    · exact template.flavour.outward_raised other
  refine ⟨?_, ?_, ?_⟩
  · intro before entry after split aborts
    obtain ⟨last, ends⟩ := (template.surroundings operation s).recorded_stops.last split aborts
    rw [recorded_run] at ends
    exact ⟨last, passes ▸ execute_error ends⟩
  · intro before entry after split aborts
    obtain ⟨last, ends⟩ := (template.started operation s).recorded_stops.last split aborts
    rw [Execution.recorded_run] at ends
    exact ⟨last, passes ▸ execute_error ends⟩
  · intro n entry change there ordinary
    obtain ⟨entries, adds, cuts⟩ :=
      (template.surroundings operation s).interrupted_cuts n f change s []
    have same : template.transcript operation s = [] ++ entries := adds
    obtain ⟨s', cut⟩ := (cuts (Nat.zero_le n)).2 entry (same ▸ there) ordinary
    refine ⟨s', ?_⟩
    rw [interrupted, Flavour.insulate_apply, cut, ← same]
    exact congrArg (fun e => (Except.error e, _)) passes

theorem execute_interruption_before_retry :
    let template := quiet ⟨1, .int 0, 0, .null, .classifier .all⟩
    let f := Failure.plain 0 Kind.valueError []
    (template.flavour = .direct ∨ f.kind.isA Kind.stopIteration = false) ∧
      ∃ s', template.interrupted (.failing 2) 0 4 f id =
        (.error (.raised f), (s', (template.transcript (.failing 2) 0).take 4 ++
          [⟨"sample", .notify .beforeRetry (), .error (.raised f)⟩])) := by
  intro template f
  have interruption := execute_interruption template (.failing 2) 0 f (.inl rfl)
  exact ⟨.inl rfl, interruption.2.2 4 ⟨"sample", .notify .beforeRetry (), .ok .null⟩ id rfl nofun⟩

end Template

end Reattempt
