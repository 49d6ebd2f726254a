import Reattempt.Proofs.Budget
import Reattempt.Proofs.Course

/-!
# Pacing

The suspensions of an execution that waits by pausing. An execution is run with a note of each
suspension; a pause that ends well suspends exactly once if its length is positive, and else not
at all.
-/

namespace Reattempt

variable {σ τ α : Type}

/-! ### Positive lengths -/

def Value.isPositive (v : Value) : Bool :=
  match v.compareBy .above (.int 0) with
  | .ok positive => positive
  | .error _ => false

theorem Value.not_positive_of_atMost {v : Value}
    (h : v.compareBy .atMost (.int 0) = .ok true) : v.isPositive = false := by
  rw [compareBy_int_right] at h
  rw [isPositive, compareBy_int_right]
  cases number : v.number? with
  | none => rfl
  | some a =>
    rw [number] at h
    dsimp only at h ⊢
    cases order : a.compare? (.whole 0) with
    | none => rfl
    | some outcome =>
      rw [order] at h
      cases outcome with
      | gt => cases h
      | _ => rfl

/-! ### Notes -/

namespace Task

def beside (t : Task σ α) : Task (σ × τ) α := fun (s, other) => ((t s).1, ((t s).2, other))

def noted (suspend : Value → Task σ Unit) (seconds : Value) : Task (σ × List Value) Unit :=
  fun (s, notes) => ((suspend seconds s).1, ((suspend seconds s).2, notes ++ [seconds]))

end Task

/-- Suspending fails for what is neither positive nor at most zero, and so is no number. -/
def Refuses (suspend : Value → Task σ Unit) : Prop :=
  ∀ d s, d.compareBy .atMost (.int 0) = .ok false → d.isPositive = false →
    ∃ e, (suspend d s).1 = .error e

theorem told_noted {suspend : Value → Task σ Unit} {d : Value} (tell : Task σ Unit)
    (refuses : Refuses suspend) (more : d.compareBy .atMost (.int 0) = .ok false) (s : σ)
    (notes : List Value) :
    ∃ more, (tell.beside >>= fun _ => Task.noted suspend d) (s, notes) =
        (((tell >>= fun _ => suspend d) s).1, (((tell >>= fun _ => suspend d) s).2, notes ++ more)) ∧
      ((∃ a, ((tell >>= fun _ => suspend d) s).1 = .ok a) → more = [d].filter Value.isPositive) := by
  rcases told : tell s with ⟨e | _, s'⟩
  · have told' : tell.beside (s, notes) = (.error e, (s', notes)) := by rw [Task.beside, told]
    rw [Task.bind_error told, Task.bind_error told']
    refine ⟨[], by rw [List.append_nil], ?_⟩
    rintro ⟨a, ends⟩
    cases ends
  · have told' : tell.beside (s, notes) = (.ok (), (s', notes)) := by rw [Task.beside, told]
    rw [Task.bind_ok told, Task.bind_ok told']
    refine ⟨[d], rfl, ?_⟩
    rintro ⟨a, ends⟩
    cases positive : d.isPositive with
    | true => rw [List.filter_cons_of_pos positive, List.filter_nil]
    | false =>
      obtain ⟨e, fails⟩ := refuses d s' more positive
      rw [fails] at ends
      cases ends

theorem pause_noted {suspend : Value → Task σ Unit} (tell : Notice → Task σ Unit)
    (refuses : Refuses suspend) (d : Value) (s : σ) (notes : List Value) :
    ∃ more, pause (fun notice => (tell notice).beside) (Task.noted suspend) d (s, notes) =
        ((pause tell suspend d s).1, ((pause tell suspend d s).2, notes ++ more)) ∧
      ((∃ a, (pause tell suspend d s).1 = .ok a) → more = [d].filter Value.isPositive) := by
  rw [pause, pause]
  cases least : d.compareBy .atMost (.int 0) with
  | error fault =>
    refine ⟨[], by rw [List.append_nil]; rfl, ?_⟩
    rintro ⟨a, ends⟩
    cases ends
  | ok nothing =>
    cases nothing with
    | true =>
      refine ⟨[], by rw [List.append_nil]; rfl, fun _ => ?_⟩
      rw [List.filter_cons_of_neg (by rw [Value.not_positive_of_atMost least]; simp)]
      rfl
    | false =>
      cases text : d.twoPlaces with
      | error fault =>
        refine ⟨[], by rw [List.append_nil]; rfl, ?_⟩
        rintro ⟨a, ends⟩
        cases ends
      | ok _ => exact told_noted (tell _) refuses least s notes

def Execution.noting (execution : Execution σ) (suspend : Value → Task σ Unit) :
    Execution (σ × List Value) where
  logger := execution.logger
  name s := execution.name s.1
  operation := execution.operation
  invoke := execution.invoke.beside
  start := execution.start
  accepts f := (execution.accepts f).beside
  calculate strategy attempt := (execution.calculate strategy attempt).beside
  wait := pause (fun notice => (execution.tell notice).beside) (Task.noted suspend)
  observe occasion := (execution.observe occasion).beside
  tell notice := (execution.tell notice).beside
  patience := execution.patience

def waits (journal : List (Entry Call)) : List Value :=
  journal.filterMap fun
    | ⟨_, .wait delay, _⟩ => some delay
    | _ => none

theorem waits_append (journal entries : List (Entry Call)) :
    waits (journal ++ entries) = waits journal ++ waits entries :=
  List.filterMap_append

/-- A noting task does what a recorded one does. As long as no entry cuts it short, its notes are
the positive waits that are entered. -/
def Task.Paces (α : Type) (t : Task (σ × List (Entry Call)) α) (u : Task (σ × List Value) α) :
    Prop :=
  ∀ s journal notes, ∃ entries more,
    (t (s, journal)).2.2 = journal ++ entries ∧
    u (s, notes) = ((t (s, journal)).1, ((t (s, journal)).2.1, notes ++ more)) ∧
    ((∀ entry ∈ entries, entry.Smooth .invoke) → more = (waits entries).filter Value.isPositive)

theorem Task.paces_congruence : Task.Congruence (Task.Paces (σ := σ)) where
  pure a := fun s journal notes =>
    ⟨[], [], (List.append_nil journal).symm, by rw [List.append_nil]; rfl, fun _ => rfl⟩
  escape e := fun s journal notes =>
    ⟨[], [], (List.append_nil journal).symm, by rw [List.append_nil]; rfl, fun _ => rfl⟩
  bind {α β t u f g} first next := by
    intro s journal notes
    obtain ⟨entries, more, adds, same, paced⟩ := first s journal notes
    rcases run : t (s, journal) with ⟨e | a, s', present⟩
    · rw [run] at adds same
      refine ⟨entries, more, ?_, ?_, paced⟩
      · rw [bind_error run]
        exact adds
      · rw [bind_error run, bind_error same]
    · rw [run] at adds same
      obtain ⟨entries', more', adds', same', paced'⟩ := next a s' present (notes ++ more)
      refine ⟨entries ++ entries', more ++ more', ?_, ?_, fun smooth => ?_⟩
      · rw [bind_ok run, adds', ← List.append_assoc]
        exact congrArg (· ++ entries') adds
      · rw [bind_ok run, bind_ok same, same', List.append_assoc]
      · rw [waits_append, List.filter_append,
          paced fun entry member => smooth entry (List.mem_append_left _ member),
          paced' fun entry member => smooth entry (List.mem_append_right _ member)]

namespace Execution

theorem paces_beside {name : σ → String} {call : Call} {shown : α → Value}
    (other : ∀ delay, call ≠ .wait delay) (t : Task σ α) :
    Task.Paces α (t.entered name call shown) t.beside := by
  intro s journal notes
  refine ⟨_, [], rfl, by rw [List.append_nil]; rfl, fun _ => ?_⟩
  cases call with
  | wait delay => exact absurd rfl (other delay)
  | _ => rfl

theorem paces_gets (view : σ → α) :
    Task.Paces α (Task.gets fun s : σ × List (Entry Call) => view s.1)
      (Task.gets fun s : σ × List Value => view s.1) :=
  fun s journal notes =>
    ⟨[], [], (List.append_nil journal).symm, by rw [List.append_nil]; rfl, fun _ => rfl⟩

theorem attempt_paces {first : Execution (σ × List (Entry Call))}
    {second : Execution (σ × List Value)} (invoke : Task.Paces Value first.invoke second.invoke) :
    Task.Paces _ first.attempt second.attempt := by
  intro s journal notes
  obtain ⟨entries, more, adds, same, paced⟩ := invoke s journal notes
  refine ⟨entries, more, ?_, ?_, paced⟩
  · rw [attempt_apply]
    exact adds
  · rw [attempt_apply, attempt_apply, same]

variable (execution : Execution σ) {suspend : Value → Task σ Unit}

theorem wait_paces (pauses : execution.wait = pause execution.tell suspend) (refuses : Refuses suspend)
    (delay : Value) :
    Task.Paces Unit (execution.recorded.wait delay) ((execution.noting suspend).wait delay) := by
  intro s journal notes
  obtain ⟨more, same, noted⟩ := pause_noted execution.tell refuses delay s notes
  rw [← pauses] at same noted
  refine ⟨_, more, rfl, same, fun smooth => ?_⟩
  exact noted ((smooth _ (List.mem_singleton.mpr rfl)).returns (by simp))

theorem noting_related (pauses : execution.wait = pause execution.tell suspend)
    (refuses : Refuses suspend) :
    Related (Task.Paces (σ := σ)) execution.recorded (execution.noting suspend) where
  exhausted _ _ _ := Task.paces_congruence.escape _
  start := rfl
  patience := rfl
  name := paces_gets execution.name
  attempt := attempt_paces (paces_beside (by simp) _)
  announce := announce_related Task.paces_congruence rfl (paces_gets execution.name)
    fun _ => paces_beside (by simp) _
  accepts f := paces_beside (by simp) _
  calculate _ _ _ := paces_beside (by simp) _
  wait := execution.wait_paces pauses refuses
  observe occasion := paces_beside (by simp) _

/-- Noting changes nothing, and as long as no call cuts the run short, the suspensions are the
positive waits in order. -/
theorem noting_run (pauses : execution.wait = pause execution.tell suspend)
    (refuses : Refuses suspend) {s : σ}
    (smooth : ∀ entry ∈ execution.journal s, entry.Smooth .invoke) :
    (execution.noting suspend).run (s, []) =
      ((execution.run s).1, ((execution.run s).2,
        (waits (execution.journal s)).filter Value.isPositive)) := by
  obtain ⟨entries, notes, adds, same, paced⟩ := run_related Task.paces_congruence
    (execution.noting_related pauses refuses) s [] []
  rw [recorded_run] at adds same
  have journal : execution.journal s = entries := adds
  rw [← journal] at paced
  rw [same, paced smooth]
  rfl

end Execution

end Reattempt
