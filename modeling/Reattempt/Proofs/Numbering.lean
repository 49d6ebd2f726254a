import Reattempt.Proofs.Protocol

/-!
# The numbers of notices

An execution tells what it is about to do, and its notices carry the numbers of its invocations: one
comes before the first invocation, one between the occasion before a retry and its invocation, and a
last one says why the execution gives up. The numbers are those of the cursor, so they are right
exactly when the strategy gives a delay whenever it is asked; `Template.execute_numbered_iff` says
so.
-/

namespace Reattempt

variable {σ : Type}

/-! ### Parts of a journal -/

/-- What the place of a notice in a run is told by. -/
inductive Landmark where
  | record (notice : Notice)
  | beforeRetry
  | invocation

def landmarks (journal : List (Entry Call)) : List Landmark :=
  journal.filterMap fun
    | ⟨_, .tell notice, _⟩ => some (.record notice)
    | ⟨_, .observe .beforeRetry, _⟩ => some .beforeRetry
    | ⟨_, .invoke, _⟩ => some .invocation
    | _ => none

def verdicts (journal : List (Entry Call)) : List (Failure × Except Escape Value) :=
  journal.filterMap fun
    | ⟨_, .classify f, ending⟩ => some (f, ending)
    | _ => none

theorem givesDelays_nil : GivesDelays [] :=
  fun _ member => absurd member List.not_mem_nil

theorem givesDelays_cons (entry : Entry Call) (rest : List (Entry Call)) :
    GivesDelays (entry :: rest) ↔
      (∀ strategy attempt, entry.call = .calculate strategy attempt → entry.ending ≠ .ok .null) ∧
      GivesDelays rest :=
  List.forall_mem_cons

theorem Value.ne_null {v : Value} (present : v.isNull = false) : v ≠ .null := by
  rintro rfl
  cases present

theorem not_exhausted_of_ne {ending : Except Escape Value}
    (other : ∀ f, ending ≠ .error (.raised f)) : ¬ Exhausted ending := by
  rintro ⟨f, raised, -⟩
  exact other f raised

/-! ### Notices that count -/

/-- The number of the invocation that is announced when some are made: that of the next one, or of
the latest one if none comes after. -/
def announced (made : Nat) (after : List (Entry Call)) : Nat :=
  if (invocations after).isEmpty then made - 1 else made

/-- Each notice names the operation as it is called at that time, and gives the number of the
invocation that it announces. Some invocations may have been made before. -/
def CountsFrom (made : Nat) (journal : List (Entry Call)) : Prop :=
  ∀ before name notice outcome after, journal = before ++ ⟨name, .tell notice, outcome⟩ :: after →
    notice.fields = [("operation", .text name),
      ("attempt", .int (announced (made + (invocations before).length) after))]

@[simp]
theorem countsFrom_nil (made : Nat) : CountsFrom made [] := by
  intro before name notice outcome after split
  simp at split

@[simp]
theorem countsFrom_cons (made : Nat) (entry : Entry Call) (rest : List (Entry Call)) :
    CountsFrom made (entry :: rest) ↔
      (∀ notice, entry.call = .tell notice → notice.fields =
        [("operation", .text entry.name), ("attempt", .int (announced made rest))]) ∧
      CountsFrom (made + (invocations [entry]).length) rest := by
  constructor
  · intro counts
    constructor
    · obtain ⟨name, call, outcome⟩ := entry
      rintro notice rfl
      exact counts [] name notice outcome rest rfl
    · intro before name notice outcome after split
      have fields := counts (entry :: before) name notice outcome after (by rw [split]; rfl)
      rwa [← List.singleton_append (x := entry), invocations_append, List.length_append,
        ← Nat.add_assoc] at fields
  · rintro ⟨first, later⟩ before name notice outcome after split
    cases before with
    | nil =>
      obtain ⟨rfl, rfl⟩ := List.cons.inj split
      exact first notice rfl
    | cons head before =>
      obtain ⟨rfl, rfl⟩ := List.cons.inj split
      have fields := later before name notice outcome after rfl
      rwa [Nat.add_assoc, ← List.length_append, ← invocations_append] at fields

namespace Execution

/-! ### Runs with numbered notices -/

def closingText (retries : Nat) (last : Failure) (accepted : Bool) : String → String :=
  if accepted then exhaustionText retries else rejectionText last

variable (execution : Execution σ)

/-- What the landmarks of a run with given retries, outcomes and verdicts end with: one more notice
exactly when the run gives up. It has the number of the last retry, and says whether the last
failure was rejected. -/
structure ClosesWith (retries : Nat) (outcomes : List (Except Escape Value))
    (verdicts : List (Failure × Except Escape Value)) (final : List Landmark)
    (ending : Except Escape Value) : Prop where
  told : ∀ f, ending = .error (.raised f) → f.isExhaustion = true →
    f.detail.attempts = retries + 1 ∧
    ∃ name last accepted, outcomes.getLast? = some (.error (.raised last)) ∧
      verdicts.getLast? = some (last, .ok (.bool accepted)) ∧
      final = [.record (execution.notice retries (closingText retries last accepted) name)]
  silent : ¬ Exhausted ending → final = []

def retryLandmarks (number : Nat) (names : List String) : List Landmark :=
  (names.zipIdx number).flatMap fun (name, i) =>
    [.beforeRetry, .record (execution.notice i (retryText i) name), .invocation]

/-- A notice with the number 0 comes before the first invocation, one with the number of each retry
between the occasion before it and its invocation, and after these none but the closing one. -/
def Placed (journal : List (Entry Call)) (ending : Except Escape Value) : Prop :=
  ∃ first names final, (invocations journal).length = names.length + 1 ∧
    landmarks journal = .record (execution.notice 0 startText first) :: .invocation ::
      (execution.retryLandmarks 1 names ++ final) ∧
    execution.ClosesWith names.length (invocations journal) (verdicts journal) final ending

structure Numbered (journal : List (Entry Call)) (ending : Except Escape Value) : Prop where
  placed : execution.Placed journal ending
  counted : CountsFrom 0 journal

variable {execution} {retries : Nat} {outcomes : List (Except Escape Value)}
  {verdicts : List (Failure × Except Escape Value)} {final : List Landmark}
  {ending : Except Escape Value}

@[simp]
theorem fields_notice (number : Nat) (text : String → String) (name : String) :
    (execution.notice number text name).fields =
      [("operation", .text name), ("attempt", .int number)] := rfl

theorem closesWith_nothing (goesOn : ¬ Exhausted ending) :
    execution.ClosesWith retries outcomes verdicts [] ending where
  told f raised exhaustion := absurd ⟨f, raised, exhaustion⟩ goesOn
  silent _ := rfl

theorem closesWith_record {message name : String} {last : Failure} {earlier : List Failure}
    {operation : Value} (accepted : Bool) (counted : earlier.length = retries) :
    execution.ClosesWith retries [.error (.raised last)] [(last, .ok (.bool accepted))]
      [.record (execution.notice retries (closingText retries last accepted) name)]
      (.error (.raised (.exhausted message last earlier operation))) where
  told f raised _ := by
    cases raised
    refine ⟨?_, name, last, accepted, rfl, rfl, rfl⟩
    show (earlier.map Value.failure).length + 1 = retries + 1
    rw [List.length_map, counted]
  silent goesOn := absurd ⟨_, rfl, by rfl⟩ goesOn

/-- Only the last outcome and the last verdict count, so a round may go before. -/
theorem ClosesWith.cons {outcome earlier : Except Escape Value}
    {verdict : Failure × Except Escape Value}
    (closes : execution.ClosesWith retries (outcome :: outcomes) verdicts final ending) :
    execution.ClosesWith retries (earlier :: outcome :: outcomes) (verdict :: verdicts) final
      ending where
  told f raised exhaustion := by
    obtain ⟨counted, name, last, accepted, failed, judged, tells⟩ := closes.told f raised exhaustion
    refine ⟨counted, name, last, accepted, ?_, ?_, tells⟩
    · rw [List.getLast?_cons_cons, failed]
    · rw [List.getLast?_cons, judged]
      rfl
  silent := closes.silent

theorem retryLandmarks_cons (number : Nat) (name : String) (names : List String) :
    execution.retryLandmarks number (name :: names) =
      .beforeRetry :: .record (execution.notice number (retryText number) name) :: .invocation ::
        execution.retryLandmarks (number + 1) names := by
  rw [retryLandmarks, List.zipIdx_cons, List.flatMap_cons]
  rfl

/-! ### Rounds of a run -/

variable {asks : Nat} {cursor : Cursor} {earlier : List Failure} {last : Failure}
  {entries : List (Entry Call)}

/-- Before each round the cursor has counted the retries, which are one less than the invocations.
It gets ahead of them only where a delay is withheld, since it moves on whenever it is asked. -/
theorem Course.countsFrom_iff (course : execution.Course asks cursor earlier last entries ending) :
    CountsFrom (cursor.attempts + 1) entries ↔ GivesDelays entries := by
  induction course with
  | cutOff => simp [givesDelays_nil]
  | rejected | faulted | spent =>
    simp [givesDelays_cons, givesDelays_nil, invocations, announced]
  | @withheld _ cursor _ _ _ _ _ _ _ _ absent =>
    constructor
    · intro counts
      -- The last notice follows the verdict and the withheld delay.
      have fields := counts [_, _] _ _ _ [_] rfl
      have ahead : Value.int (cursor.attempts + 1 : Nat) = .int (cursor.attempts : Nat) :=
        (Prod.mk.inj (List.cons.inj (List.cons.inj fields).2).1).2
      have same := Value.int.inj ahead
      omega
    · intro delays
      exact absurd absent (delays.present (.tail _ (.head _)))
  | succeeded _ present =>
    simp [givesDelays_cons, givesDelays_nil, invocations, announced, Value.ne_null present]
  | failed _ present _ ih =>
    simp [givesDelays_cons, ← ih, invocations, announced, Value.ne_null present]

theorem Course.placed (course : execution.Course asks cursor earlier last entries ending)
    (delays : GivesDelays entries) (counted : earlier.length = cursor.attempts) :
    ∃ names final, (invocations entries).length = names.length ∧
      landmarks entries = execution.retryLandmarks (cursor.attempts + 1) names ++ final ∧
      execution.ClosesWith (cursor.attempts + names.length)
        (.error (.raised last) :: invocations entries) (Reattempt.verdicts entries) final
        ending := by
  induction course with
  | cutOff => exact ⟨[], [], rfl, rfl, closesWith_nothing (not_exhausted_of_ne nofun)⟩
  | rejected => exact ⟨[], _, rfl, rfl, closesWith_record false counted⟩
  | faulted => exact ⟨[], [], rfl, rfl, closesWith_nothing (Fault.not_exhausted _)⟩
  | spent => exact ⟨[], _, rfl, rfl, closesWith_record true counted⟩
  | withheld _ absent => exact absurd absent (delays.present (.tail _ (.head _)))
  | @succeeded _ _ _ _ _ _ _ _ n₅ =>
    exact ⟨[n₅], [], rfl, rfl, closesWith_nothing (not_exhausted_of_ne nofun)⟩
  | @failed _ _ _ _ _ _ _ _ n₅ _ _ _ _ _ _ _ _ _ ih =>
    -- A round makes seven entries and adds one failure.
    obtain ⟨names, final, made, places, closes⟩ := ih (delays.drop 7)
      (by rw [List.length_append, counted]; rfl)
    refine ⟨n₅ :: names, final, congrArg Nat.succ made, ?_, ?_⟩
    · rw [retryLandmarks_cons]
      exact congrArg (Landmark.beforeRetry :: .record _ :: .invocation :: ·) places
    · rw [List.length_cons, Nat.add_comm names.length, ← Nat.add_assoc]
      exact closes.cons

theorem Passage.countsFrom_iff (passage : execution.Passage entries ending)
    (fresh : ∀ cursor, execution.start = .ok cursor → cursor.attempts = 0) :
    CountsFrom 0 entries ↔ GivesDelays entries := by
  cases passage with
  | immediate | unstarted =>
    simp [givesDelays_cons, givesDelays_nil, invocations, announced]
  | retried start course =>
    have rest := course.countsFrom_iff
    rw [fresh _ start, Nat.zero_add] at rest
    simp [givesDelays_cons, rest, invocations, announced]

theorem Passage.placed (passage : execution.Passage entries ending)
    (fresh : ∀ cursor, execution.start = .ok cursor → cursor.attempts = 0)
    (delays : GivesDelays entries) : execution.Placed entries ending := by
  cases passage with
  | @immediate n₁ =>
    exact ⟨n₁, [], [], rfl, rfl, closesWith_nothing (not_exhausted_of_ne nofun)⟩
  | @unstarted n₁ =>
    exact ⟨n₁, [], [], rfl, rfl, closesWith_nothing (Fault.not_exhausted _)⟩
  | @retried n₁ _ _ cursor _ _ start course =>
    have unused := fresh cursor start
    obtain ⟨names, final, made, places, closes⟩ := course.placed (delays.drop 2) unused.symm
    rw [unused, Nat.zero_add] at places closes
    refine ⟨n₁, names, final, congrArg Nat.succ made, ?_, closes⟩
    exact congrArg (Landmark.record _ :: .invocation :: ·) places

theorem Passage.numbered_iff (passage : execution.Passage entries ending)
    (fresh : ∀ cursor, execution.start = .ok cursor → cursor.attempts = 0) :
    execution.Numbered entries ending ↔ GivesDelays entries := by
  constructor
  · intro numbered
    exact (passage.countsFrom_iff fresh).mp numbered.counted
  · intro delays
    exact ⟨passage.placed fresh delays, (passage.countsFrom_iff fresh).mpr delays⟩

end Execution

/-! ### Executions on templates -/

theorem Policy.attempts_of_start {policy : Policy} {cursor : Cursor}
    (start : policy.start = .ok cursor) : cursor.attempts = 0 := by
  obtain ⟨made, -, start⟩ := ok_of_bind start
  cases made with
  | strategy strategy =>
    cases start
    rfl
  | _ => cases start

namespace Template

variable {ℓ : Type} {template : Template σ ℓ} {operation : Operation σ} {s : σ}

theorem started_attempts {cursor : Cursor}
    (start : (template.started operation s).start = .ok cursor) : cursor.attempts = 0 := by
  cases held : template.policy s with
  | none =>
    rw [started, held] at start
    cases start
  | some policy =>
    rw [started_start held] at start
    exact policy.attempts_of_start start

/-- The notices of an execution that no call cuts short are numbered like its invocations exactly
when the strategy gives a delay whenever it is asked. -/
theorem execute_numbered_iff
    (smooth : ∀ entry ∈ template.journal operation s, entry.Smooth .invoke) :
    (template.started operation s).Numbered (template.journal operation s)
        (template.execute operation s).1 ↔
      GivesDelays (template.journal operation s) :=
  (execute_passage smooth).numbered_iff fun _ => started_attempts

theorem execute_numbered_iff_failing_twice :
    let template := quiet ⟨1, .int 0, 0, .null, .classifier .all⟩
    Undisturbed (template.journal (.failing 2) 0) ∧
      (template.started (.failing 2) 0).Numbered (template.journal (.failing 2) 0)
        (template.execute (.failing 2) 0).1 := by
  intro template
  have undisturbed : Undisturbed (template.journal (.failing 2) 0) := by decide
  exact ⟨undisturbed, (execute_numbered_iff undisturbed.smooth).mpr undisturbed.delays⟩

/-- A strategy that withholds its first delay: the last notice has the number 1, though there was no
retry. -/
theorem withheld_not_numbered :
    let strategy : Strategy := ⟨0, .null, .table (.list [.null]), []⟩
    let template := quiet ⟨3, .int 0, 0, .strategy strategy, .classifier .all⟩
    (∀ entry ∈ template.journal (.failing 1) 0, entry.Smooth .invoke) ∧
      ¬ (template.started (.failing 1) 0).Numbered (template.journal (.failing 1) 0)
        (template.execute (.failing 1) 0).1 := by
  intro strategy template
  constructor
  · show ∀ entry ∈ [_, _, _, _, _, _], Entry.Smooth Call.invoke entry
    simp only [List.forall_mem_cons]
    refine ⟨Entry.smooth_of_ok rfl, ?_, Entry.smooth_of_ok rfl, Entry.smooth_of_ok rfl,
      Entry.smooth_of_ok rfl, Entry.smooth_of_ok rfl, fun _ member => nomatch member⟩
    rintro e ⟨raised, fatal⟩
    cases raised
    cases fatal rfl
  · intro numbered
    have fields := numbered.counted [_, _, _, _] _ _ _ [_] rfl
    cases fields

end Template

end Reattempt
