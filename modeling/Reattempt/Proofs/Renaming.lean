import Mathlib.Data.List.Forall2
import Reattempt.Operation
import Reattempt.Proofs.Awaiting

/-!
# Operations under other names

An operation under another name is a wrapper that executes the same. If nothing that an execution
calls reads or changes names, the wrapper makes no difference but in the name: the same calls are
made and end the same way, and the new name stands where the old one would be in what the execution
says and in the failure that ends it. `Candidate.transparent` says this of everything that is taken
for an operation.
-/

namespace Reattempt

variable {σ τ ℓ κ α β : Type}

structure Renaming where
  old : String
  new : String
  own : Value
  other : Value

namespace Renaming

variable (change : Renaming)

/-! ### What is said under the other name -/

/-- What the executions tell as their own differs in the name only, and in nothing but the name of
the operation; what others tell is the same. -/
inductive Notices (logger : String) : Notice → Notice → Prop where
  | own (attempt : Nat) {text : String → String} (telling : Execution.IsText text) :
      Notices logger
        (.debug logger (text change.old)
          [("operation", .text change.old), ("attempt", .int attempt)])
        (.debug logger (text change.new)
          [("operation", .text change.new), ("attempt", .int attempt)])
  | others {notice : Notice} (other : notice.logger ≠ logger) : Notices logger notice notice

inductive Calls (logger : String) (tell : Notice → κ) : κ → κ → Prop where
  | tell {notice notice' : Notice} (renamed : change.Notices logger notice notice') :
      Calls logger tell (tell notice) (tell notice')
  | same {call : κ} (other : ∀ notice, call ≠ tell notice) : Calls logger tell call call

structure Entries (logger : String) (tell : Notice → κ) (entry entry' : Entry κ) : Prop where
  name : entry.name = change.old
  name' : entry'.name = change.new
  call : change.Calls logger tell entry.call entry'.call
  ending : entry'.ending = entry.ending

/-- The same ending, but for the name and the operation in the failure that ends an execution. -/
inductive Ends : Except Escape α → Except Escape α → Prop where
  | same (ending : Except Escape α) : Ends ending ending
  | gaveUp (last : Failure) (earlier : List Failure) :
      Ends
        (.error (.raised (.exhausted (exhaustedMessage change.old) last earlier change.own)))
        (.error (.raised (.exhausted (exhaustedMessage change.new) last earlier change.other)))

variable {change}

theorem Entries.smooth {logger : String} {tell : Notice → κ} {invoke : κ} {entry entry' : Entry κ}
    (renamed : change.Entries logger tell entry entry') (other : ∀ notice, invoke ≠ tell notice)
    (smooth : entry.Smooth invoke) : entry'.Smooth invoke := by
  rintro e ⟨escapes, invokes⟩
  refine smooth e ⟨renamed.ending.symm.trans escapes, fun same => invokes ?_⟩
  obtain ⟨name, call, ending⟩ := entry
  obtain ⟨name', call', ending'⟩ := entry'
  obtain ⟨-, -, related, -⟩ := renamed
  cases related with
  | tell => exact absurd same.symm (other _)
  | same => exact same

section

variable {logger : String} {tell : Notice → κ} {invoke : κ} {entries entries' : List (Entry κ)}
  (pairs : List.Forall₂ (change.Entries logger tell) entries entries')
include pairs

theorem forall_names : (∀ entry ∈ entries, entry.name = change.old) ∧
    ∀ entry' ∈ entries', entry'.name = change.new := by
  induction pairs with
  | nil => exact ⟨nofun, nofun⟩
  | cons renamed _ ih =>
    exact ⟨List.forall_mem_cons.mpr ⟨renamed.name, ih.1⟩,
      List.forall_mem_cons.mpr ⟨renamed.name', ih.2⟩⟩

theorem forall_smooth (other : ∀ notice, invoke ≠ tell notice)
    (smooth : ∀ entry ∈ entries, entry.Smooth invoke) :
    ∀ entry' ∈ entries', entry'.Smooth invoke := by
  induction pairs with
  | nil => exact nofun
  | cons renamed _ ih =>
    obtain ⟨first, rest⟩ := List.forall_mem_cons.mp smooth
    exact List.forall_mem_cons.mpr ⟨renamed.smooth other first, ih rest⟩

end

theorem Ends.outward {ending ending' : Except Escape α} (ends : change.Ends ending ending')
    (flavour : Flavour) :
    change.Ends (ending.mapError flavour.outward) (ending'.mapError flavour.outward) := by
  cases ends with
  | same => exact .same _
  | gaveUp last earlier =>
    rw [Except.mapError, Except.mapError, flavour.outward_raised rfl, flavour.outward_raised rfl]
    exact .gaveUp last earlier

end Renaming

/-! ### Tasks under either name -/

namespace Task

variable {change : Renaming} {states : σ → τ → Prop} {entries : Entry κ → Entry κ → Prop}

/-- From states that correspond, the tasks make corresponding entries and end alike in states that
correspond. -/
def Renames (change : Renaming) (states : σ → τ → Prop) (entries : Entry κ → Entry κ → Prop)
    (α : Type) (t : Task (σ × List (Entry κ)) α) (u : Task (τ × List (Entry κ)) α) : Prop :=
  ∀ s s' journal journal', states s s' → ∃ added added',
    (t (s, journal)).2.2 = journal ++ added ∧ (u (s', journal')).2.2 = journal' ++ added' ∧
      List.Forall₂ entries added added' ∧
      change.Ends (t (s, journal)).1 (u (s', journal')).1 ∧
      states (t (s, journal)).2.1 (u (s', journal')).2.1

theorem renames_still {ending ending' : Except Escape α} (ends : change.Ends ending ending') :
    Renames change states entries α (fun s => (ending, s)) fun s => (ending', s) :=
  fun _ _ journal journal' start => ⟨[], [], (List.append_nil journal).symm,
    (List.append_nil journal').symm, .nil, ends, start⟩

theorem renames_congruence (change : Renaming) (states : σ → τ → Prop)
    (entries : Entry κ → Entry κ → Prop) : Congruence (Renames change states entries) where
  pure a := renames_still (.same (.ok a))
  escape e := renames_still (.same (.error e))
  bind {α β t u f g} first next := by
    intro s s' journal journal' start
    obtain ⟨added, added', adds, adds', related, ends, present⟩ := first s s' journal journal' start
    rcases run : t (s, journal) with ⟨ending, after, held⟩
    rcases run' : u (s', journal') with ⟨ending', after', held'⟩
    rw [run] at adds ends present
    rw [run'] at adds' ends present
    cases ends with
    | gaveUp last earlier =>
      rw [bind_error run, bind_error run']
      exact ⟨added, added', adds, adds', related, .gaveUp last earlier, present⟩
    | same =>
      cases ending with
      | error e =>
        rw [bind_error run, bind_error run']
        exact ⟨added, added', adds, adds', related, .same _, present⟩
      | ok a =>
        rw [bind_ok run, bind_ok run']
        obtain ⟨more, more', adds₂, adds₂', related₂, ends₂, present₂⟩ :=
          next a after after' held held' present
        refine ⟨added ++ more, added' ++ more', ?_, ?_, List.rel_append related related₂, ends₂,
          present₂⟩
        · rw [adds₂, show held = _ from adds, List.append_assoc]
        · rw [adds₂', show held' = _ from adds', List.append_assoc]

theorem renames_gets {view : σ → α} {view' : τ → α} (same : ∀ s s', states s s' → view' s' = view s) :
    Renames change states entries α (Task.gets fun s : σ × List (Entry κ) => view s.1)
      (Task.gets fun s : τ × List (Entry κ) => view' s.1) := by
  intro s s' journal journal' start
  refine ⟨[], [], (List.append_nil journal).symm, (List.append_nil journal').symm, .nil, ?_, start⟩
  rw [gets_apply, gets_apply, same s s' start]
  exact .same _

theorem renames_named {name : σ → String} {name' : τ → String}
    (names : ∀ s s', states s s' → name s = change.old ∧ name' s' = change.new)
    {f : String → Task (σ × List (Entry κ)) α} {g : String → Task (τ × List (Entry κ)) α}
    (rest : Renames change states entries α (f change.old) (g change.new)) :
    Renames change states entries α ((Task.gets fun s : σ × List (Entry κ) => name s.1) >>= f)
      ((Task.gets fun s : τ × List (Entry κ) => name' s.1) >>= g) := by
  intro s s' journal journal' start
  obtain ⟨own, other⟩ := names s s' start
  rw [bind_ok (gets_apply _ (s, journal)), bind_ok (gets_apply _ (s', journal')), own, other]
  exact rest s s' journal journal' start

section

variable {logger : String} {tell : Notice → κ} {name : σ → String} {name' : τ → String}
  (names : ∀ s s', states s s' → name s = change.old ∧ name' s' = change.new)
include names

theorem renames_entered {call call' : κ} (calls : change.Calls logger tell call call')
    (shown : α → Value) {t : Task σ α} {u : Task τ α} (counterpart : Alike states α t u) :
    Renames change states (change.Entries logger tell) α (t.entered name call shown)
      (u.entered name' call' shown) := by
  intro s s' journal journal' start
  obtain ⟨ends, present⟩ := counterpart s s' start
  obtain ⟨own, other⟩ := names s s' start
  refine ⟨_, _, rfl, rfl, .cons ⟨own, other, calls, ?_⟩ .nil, ?_, present⟩
  · rw [ends]
  · rw [entered_apply, entered_apply, ends]
    exact .same _

theorem renames_attempt (call : κ) (silent : ∀ notice, call ≠ tell notice)
    {first : Execution (σ × List (Entry κ))} {second : Execution (τ × List (Entry κ))}
    {t : Task σ Value} {u : Task τ Value} (counterpart : Alike states Value t u)
    (invoke : first.invoke = t.entered name call id)
    (invoke' : second.invoke = u.entered name' call id) :
    Renames change states (change.Entries logger tell) _ first.attempt second.attempt := by
  intro s s' journal journal' start
  obtain ⟨ends, present⟩ := counterpart s s' start
  obtain ⟨own, other⟩ := names s s' start
  rw [Execution.attempt_apply, Execution.attempt_apply, invoke, invoke', entered_apply,
    entered_apply, ends]
  exact ⟨_, _, rfl, rfl, .cons ⟨own, other, .same silent, rfl⟩ .nil, .same _, present⟩

end

end Task

/-! ### Executions under either name -/

namespace Execution

variable {change : Renaming} {states : σ → τ → Prop} {entries : Entry κ → Entry κ → Prop}
  {first : Execution (σ × List (Entry κ))} {second : Execution (τ × List (Entry κ))}
  {name : σ → String} {name' : τ → String}

/-- What recorded executions need to correspond in all steps: everything but names is the same, and
each single call has its counterpart. -/
structure Renamed (change : Renaming) (states : σ → τ → Prop) (entries : Entry κ → Entry κ → Prop)
    (first : Execution (σ × List (Entry κ))) (second : Execution (τ × List (Entry κ)))
    (name : σ → String) (name' : τ → String) : Prop where
  names : ∀ s s', states s s' → name s = change.old ∧ name' s' = change.new
  name : first.name = fun s => name s.1
  name' : second.name = fun s => name' s.1
  own : first.operation = change.own
  other : second.operation = change.other
  logger : second.logger = first.logger
  start : first.start = second.start
  patience : first.patience = second.patience
  attempt : Task.Renames change states entries _ first.attempt second.attempt
  tell : ∀ notice notice', change.Notices first.logger notice notice' →
    Task.Renames change states entries Unit (first.tell notice) (second.tell notice')
  accepts : ∀ f, Task.Renames change states entries Bool (first.accepts f) (second.accepts f)
  calculate : ∀ strategy attempt,
    Task.Renames change states entries Value (first.calculate strategy attempt)
      (second.calculate strategy attempt)
  wait : ∀ delay, Task.Renames change states entries Unit (first.wait delay) (second.wait delay)
  observe : ∀ occasion,
    Task.Renames change states entries Unit (first.observe occasion) (second.observe occasion)

theorem Renamed.matched (renamed : Renamed change states entries first second name name') :
    Matched (Task.Renames change states entries) first second where
  start := renamed.start
  patience := renamed.patience
  attempt := renamed.attempt
  announce attempt text telling := by
    rw [announce, announce, renamed.name, renamed.name', renamed.logger]
    exact Task.renames_named renamed.names (renamed.tell _ _ (.own attempt telling))
  accepts := renamed.accepts
  calculate _ _ _ := renamed.calculate _ _
  wait := renamed.wait
  observe := renamed.observe
  giveUp earlier last := by
    rw [giveUp, giveUp, renamed.name, renamed.name', renamed.own, renamed.other]
    refine Task.renames_named renamed.names ?_
    refine (Task.renames_congruence _ _ _).bind (renamed.observe _) fun _ => ?_
    exact Task.renames_still (.gaveUp last earlier)

theorem Renamed.run (renamed : Renamed change states entries first second name name') :
    Task.Renames change states entries Value first.run second.run :=
  run_matched (Task.renames_congruence _ _ _) renamed.matched

end Execution

namespace Surroundings

variable {change : Renaming} {states : σ → τ → Prop} {first : Surroundings σ ℓ}
  {second : Surroundings τ ℓ} {s : σ} {s' : τ}

/-- Surroundings under the same policy and with the same listener that differ in the name of the
operation, and in which nothing that is called reads or changes it. -/
structure Renamed (change : Renaming) (states : σ → τ → Prop) (first : Surroundings σ ℓ)
    (second : Surroundings τ ℓ) : Prop where
  names : ∀ s s', states s s' → first.name s = change.old ∧ second.name s' = change.new
  own : first.operation = change.own
  other : second.operation = change.other
  logger : second.logger = first.logger
  distinct : Classifier.logger ≠ first.logger
  policy : first.policy = second.policy
  listener : first.listener = second.listener
  patience : first.patience = second.patience
  members : ∀ id s s', states s s' → second.members id s' = first.members id s
  invoke : Task.Alike states Value first.invoke second.invoke
  ask : ∀ p f, Task.Alike states Value (first.ask p f) (second.ask p f)
  calculate : ∀ strategy attempt,
    Task.Alike states Value (first.calculate strategy attempt) (second.calculate strategy attempt)
  wait : ∀ delay, Task.Alike states Unit (first.wait delay) (second.wait delay)
  notify : ∀ occasion leaf,
    Task.Alike states Unit (first.notify occasion leaf) (second.notify occasion leaf)
  tell : ∀ notice notice', change.Notices first.logger notice notice' →
    Task.Alike states Unit (first.tell notice) (second.tell notice')

variable (renamed : Renamed change states first second)
include renamed

theorem Renamed.start : first.execution.start = second.execution.start := by
  rw [execution, execution, renamed.policy]

theorem Renamed.classified (message : String) :
    change.Notices first.logger (.debug Classifier.logger message [])
      (.debug Classifier.logger message []) := .others renamed.distinct

theorem Renamed.recorded :
    Execution.Renamed change states (change.Entries first.logger Contact.tell)
      first.recorded.execution second.recorded.execution first.name second.name :=
  have enters {α : Type} (call : Contact ℓ) (other : ∀ notice, call ≠ .tell notice)
      (shown : α → Value) {t : Task σ α} {u : Task τ α} (counterpart : Task.Alike states α t u) :
      Task.Renames change states (change.Entries first.logger Contact.tell) α
        (t.entered first.name call shown) (u.entered second.name call shown) :=
    Task.renames_entered renamed.names (.same other) shown counterpart
  have tells (notice notice' : Notice) (told : change.Notices first.logger notice notice') :=
    Task.renames_entered renamed.names (.tell told) (fun _ : Unit => .null)
      (renamed.tell notice notice' told)
  have silent (notice : Notice) : (Contact.invoke : Contact ℓ) ≠ .tell notice := nofun
  { names := renamed.names
    name := rfl
    name' := rfl
    own := renamed.own
    other := renamed.other
    logger := renamed.logger
    start := renamed.start
    patience := renamed.patience
    attempt := Task.renames_attempt renamed.names _ silent renamed.invoke rfl rfl
    tell := tells
    accepts := accepts_related (Task.renames_congruence _ _ _) renamed.policy
      (fun p f => enters (.ask p f) (fun _ => nofun) _ (renamed.ask p f))
      fun message => tells _ _ (renamed.classified message)
    calculate := fun strategy attempt =>
      enters (.calculate strategy attempt) (fun _ => nofun) _ (renamed.calculate _ _)
    wait := fun delay => enters (.wait delay) (fun _ => nofun) _ (renamed.wait delay)
    observe := observe_related (Task.renames_congruence _ _ _) renamed.listener renamed.patience
      (fun occasion leaf =>
        enters (.notify occasion leaf) (fun _ => nofun) _ (renamed.notify occasion leaf))
      fun id => Task.renames_gets (renamed.members id) }

theorem Renamed.journaled :
    Execution.Renamed change states (change.Entries first.logger Call.tell)
      first.execution.recorded second.execution.recorded first.name second.name :=
  have enters {α : Type} (call : Call) (other : ∀ notice, call ≠ .tell notice)
      (shown : α → Value) {t : Task σ α} {u : Task τ α} (counterpart : Task.Alike states α t u) :
      Task.Renames change states (change.Entries first.logger Call.tell) α
        (t.entered first.name call shown) (u.entered second.name call shown) :=
    Task.renames_entered renamed.names (.same other) shown counterpart
  have silent (notice : Notice) : Call.invoke ≠ .tell notice := nofun
  { names := renamed.names
    name := rfl
    name' := rfl
    own := renamed.own
    other := renamed.other
    logger := renamed.logger
    start := renamed.start
    patience := renamed.patience
    attempt := Task.renames_attempt renamed.names _ silent renamed.invoke rfl rfl
    tell := fun notice notice' told =>
      Task.renames_entered renamed.names (.tell told) _ (renamed.tell notice notice' told)
    accepts := fun f => enters (.classify f) (fun _ => nofun) _
      (accepts_related (Task.alike_congruence states) renamed.policy renamed.ask
        (fun message => renamed.tell _ _ (renamed.classified message)) f)
    calculate := fun strategy attempt =>
      enters (.calculate strategy attempt) (fun _ => nofun) _ (renamed.calculate _ _)
    wait := fun delay => enters (.wait delay) (fun _ => nofun) _ (renamed.wait delay)
    observe := fun occasion => enters (.observe occasion) (fun _ => nofun) _
      (observe_related (Task.alike_congruence states) renamed.listener renamed.patience
        renamed.notify (fun id => Task.alike_gets (renamed.members id)) occasion) }

theorem Renamed.run (start : states s s') :
    List.Forall₂ (change.Entries first.logger Contact.tell) (first.transcript s)
        (second.transcript s') ∧
      List.Forall₂ (change.Entries first.logger Call.tell) (first.execution.journal s)
        (second.execution.journal s') ∧
      change.Ends (first.execution.run s).1 (second.execution.run s').1 ∧
      states (first.execution.run s).2 (second.execution.run s').2 := by
  obtain ⟨added, added', adds, adds', calls, ends, present⟩ :=
    renamed.recorded.run s s' [] [] start
  rw [recorded_run] at adds ends present
  rw [recorded_run] at adds' ends present
  obtain rfl : first.transcript s = added := adds
  obtain rfl : second.transcript s' = added' := adds'
  obtain ⟨noted, noted', notes, notes', steps, -⟩ := renamed.journaled.run s s' [] [] start
  rw [Execution.recorded_run] at notes
  rw [Execution.recorded_run] at notes'
  obtain rfl : first.execution.journal s = noted := notes
  obtain rfl : second.execution.journal s' = noted' := notes'
  exact ⟨calls, steps, ends, present⟩

end Surroundings

/-! ### Endings under the other name -/

namespace Execution

variable {execution : Execution σ} {name : String} {entries : List (Entry Call)}
  {ending : Except Escape Value}

/-- How an execution ends that no call cuts short, if its operation keeps its name. -/
inductive EndsNamed (operation : Value) (name : String) : Except Escape Value → Prop where
  | returned (result : Value) : EndsNamed operation name (.ok result)
  | unfinished : EndsNamed operation name (.error .unfinished)
  | faulted (fault : Fault) : EndsNamed operation name (.error (.raised fault.toFailure))
  | gaveUp (last : Failure) (earlier : List Failure) :
      EndsNamed operation name
        (.error (.raised (.exhausted (exhaustedMessage name) last earlier operation)))

theorem Course.endsNamed {asks : Nat} {cursor : Cursor} {earlier : List Failure} {last : Failure}
    (course : execution.Course asks cursor earlier last entries ending)
    (named : ∀ entry ∈ entries, entry.name = name) :
    EndsNamed execution.operation name ending := by
  induction course with
  | cutOff => exact .unfinished
  | rejected | spent | withheld =>
    rw [← named _ (List.mem_of_getLast? rfl)]
    exact .gaveUp _ _
  | faulted => exact .faulted _
  | succeeded => exact .returned _
  | failed _ _ _ ih =>
    exact ih fun entry member => named entry (List.mem_of_mem_drop (i := 7) member)

theorem Passage.endsNamed (passage : execution.Passage entries ending)
    (named : ∀ entry ∈ entries, entry.name = name) :
    EndsNamed execution.operation name ending := by
  cases passage with
  | immediate => exact .returned _
  | unstarted => exact .faulted _
  | retried _ course => exact course.endsNamed fun entry member => named entry (.tail _ (.tail _ member))

theorem EndsNamed.exhausted {operation own : Value} {message : String} {last : Failure}
    {earlier : List Failure}
    (named : EndsNamed operation name (.error (.raised (.exhausted message last earlier own)))) :
    message = exhaustedMessage name ∧ own = operation := by
  generalize same : Except.error (Escape.raised (.exhausted message last earlier own)) = ending
    at named
  cases named with
  | returned | unfinished => cases same
  | faulted fault =>
    cases congrArg Failure.detail (Escape.raised.inj (Except.error.inj same))
  | gaveUp =>
    obtain ⟨texts, -, -, own⟩ := Detail.exhausted.inj
      (congrArg Failure.detail (Escape.raised.inj (Except.error.inj same)))
    exact ⟨Value.text.inj texts, own⟩

end Execution

def Failure.underName (name : String) (operation : Value) (f : Failure) : Failure :=
  match f.detail with
  | .exhausted _ last history _ =>
    { f with
      args := [.text (exhaustedMessage name)]
      detail := .exhausted (.text (exhaustedMessage name)) last history operation }
  | _ => f

def Escape.underName (name : String) (operation : Value) : Escape → Escape
  | .raised f => .raised (f.underName name operation)
  | .unfinished => .unfinished

/-- Where no call cuts an execution short, nothing but its own end can differ. -/
theorem Renaming.Ends.underName {change : Renaming} {ending ending' : Except Escape Value}
    (ends : change.Ends ending ending')
    (named : Execution.EndsNamed change.own change.old ending)
    (named' : Execution.EndsNamed change.other change.new ending') :
    ending' = ending.mapError (Escape.underName change.new change.other) := by
  cases ends with
  | gaveUp last earlier => rfl
  | same =>
    cases named with
    | returned | unfinished | faulted => rfl
    | gaveUp last earlier =>
      obtain ⟨message, own⟩ := named'.exhausted
      rw [message, own]
      rfl

/-! ### Templates -/

theorem Flavour.perform_congr {flavour : Flavour} {first second : Operation σ} {s : σ}
    (invoke : second.invoke s = first.invoke s) :
    flavour.perform second s = flavour.perform first s := by
  rw [perform, perform, insulate_apply, insulate_apply, Task.bind_apply, Task.bind_apply, invoke]

namespace Template

variable {template : Template σ ℓ} {first second : Operation σ} {states : σ → σ → Prop}
  {old new : String} {s s' : σ}

/-- Nothing that a template calls reads the name of an operation or changes it: from states that
correspond everything does the same, whether the operation has its own name or another one. What the
template tells as its own is told alike under both names. -/
structure NameBlind (template : Template σ ℓ) (first second : Operation σ) (old new : String)
    (states : σ → σ → Prop) : Prop where
  name : ∀ s s', states s s' → first.name s = old
  policy : ∀ s s', states s s' → template.policy s' = template.policy s
  listener : ∀ s s', states s s' → template.listener s' = template.listener s
  members : ∀ id s s', states s s' → template.members id s' = template.members id s
  perform : Task.Alike states Value (template.flavour.perform first) (template.flavour.perform first)
  ask : ∀ p f, Task.Alike states Value (template.examination.ask p f) (template.examination.ask p f)
  uniform : ∀ low high,
    Task.Alike states Value (template.chance.uniform low high) (template.chance.uniform low high)
  jitter : ∀ message, Task.Alike states Unit (template.chance.tell (.debug jitterLogger message []))
    (template.chance.tell (.debug jitterLogger message []))
  wait : ∀ delay, Task.Alike states Unit (template.wait delay) (template.wait delay)
  notify : ∀ policy occasion leaf, Task.Alike states Unit (template.notify policy first occasion leaf)
    (template.notify policy second occasion leaf)
  tell : ∀ notice notice',
    Renaming.Notices ⟨old, new, first.self, second.self⟩ template.flavour.logger notice notice' →
      Task.Alike states Unit (template.examination.tell notice) (template.examination.tell notice')

/-- Two executions that are the same but for the name of the operation and what stands for it. -/
structure SameUnderName (template : Template σ ℓ) (first second : Operation σ) (old new : String)
    (states : σ → σ → Prop) (s s' : σ) : Prop where
  calls : List.Forall₂
    (Renaming.Entries ⟨old, new, first.self, second.self⟩ template.flavour.logger Contact.tell)
    (template.transcript first s) (template.transcript second s')
  steps : List.Forall₂
    (Renaming.Entries ⟨old, new, first.self, second.self⟩ template.flavour.logger Call.tell)
    (template.journal first s) (template.journal second s')
  ends : Renaming.Ends ⟨old, new, first.self, second.self⟩ (template.execute first s).1
    (template.execute second s').1
  /-- Where no call cuts the executions short, they come to the same under either name. -/
  outcome : (∀ entry ∈ template.journal first s, entry.Smooth .invoke) →
    (template.execute second s').1 =
      (template.execute first s).1.mapError (Escape.underName new second.self)
  after : states (template.execute first s).2 (template.execute second s').2

theorem NameBlind.surroundings (blind : template.NameBlind first second old new states)
    (invoke : ∀ s s', states s s' → second.invoke s' = first.invoke s')
    (name : ∀ s, second.name s = new) (start : states s s') :
    (template.surroundings first s).Renamed ⟨old, new, first.self, second.self⟩ states
      (template.surroundings second s') where
  names s s' start := ⟨blind.name s s' start, name s'⟩
  own := rfl
  other := rfl
  logger := rfl
  distinct := by
    show Classifier.logger ≠ template.flavour.logger
    cases template.flavour <;> decide
  policy := (blind.policy s s' start).symm
  listener := (blind.listener s s' start).symm
  patience := rfl
  members := blind.members
  invoke s s' start := by
    show (template.flavour.perform second s').1 = (template.flavour.perform first s).1 ∧
      states (template.flavour.perform first s).2 (template.flavour.perform second s').2
    rw [Flavour.perform_congr (invoke s s' start)]
    exact blind.perform s s' start
  ask := blind.ask
  calculate := Strategy.calculate_related (Task.alike_congruence states) blind.uniform blind.jitter
  wait := blind.wait
  notify occasion leaf := by
    show Task.Alike states Unit (template.notify (template.policy s) first occasion leaf)
      (template.notify (template.policy s') second occasion leaf)
    rw [blind.policy s s' start]
    exact blind.notify _ occasion leaf
  tell := blind.tell

theorem NameBlind.execute (blind : template.NameBlind first second old new states)
    (invoke : ∀ s s', states s s' → second.invoke s' = first.invoke s')
    (name : ∀ s, second.name s = new) (start : states s s') :
    template.SameUnderName first second old new states s s' := by
  obtain ⟨calls, steps, ends, after⟩ := (blind.surroundings invoke name start).run start
  rw [surroundings_execution, surroundings_execution] at ends after
  refine ⟨calls, steps, ?_, fun smooth => ?_, ?_⟩
  · rw [execute_apply, execute_apply]
    exact ends.outward template.flavour
  · have silent (notice : Notice) : Call.invoke ≠ .tell notice := nofun
    have smooth' := Renaming.forall_smooth steps silent smooth
    obtain ⟨named, named'⟩ := Renaming.forall_names steps
    rw [execute_eq_run smooth, execute_eq_run smooth']
    exact ends.underName (((template.started first s).run_passage smooth).endsNamed named)
      (((template.started second s').run_passage smooth').endsNamed named')
  · rw [execute_apply, execute_apply]
    exact after

end Template

/-! ### Things taken for operations -/

namespace Candidate

variable {c made : Candidate σ} {self : Value} {given : Option String} {s : σ}
  {executor : Task σ (Reply σ)} {states : σ → σ → Prop}

/-- What is run of something that is taken for an operation. An operation is executed, the way that
is looked up each time; under another name it is executed the way that was found. Anything else is
called. -/
def invocation? (c : Candidate σ) (s : σ) (given : Option String) : Option (Task σ (Reply σ)) :=
  match c.executor? s, given with
  | some _, none => some c.execute
  | some executor, some _ => some executor
  | none, _ => c.call?

theorem execute_apply (found : c.executor? s = some executor) : c.execute s = executor s := by
  rw [execute, Task.bind_ok (Task.gets_apply c.executor? s), found]

theorem invocation?_of_executor (found : c.executor? s = some executor) :
    c.invocation? s none = some c.execute ∧ ∀ new, c.invocation? s (some new) = some executor := by
  unfold invocation?
  rw [found]
  exact ⟨rfl, fun _ => rfl⟩

theorem invocation?_of_none (plain : c.executor? s = none) (given : Option String) :
    c.invocation? s given = c.call? := by
  unfold invocation?
  rw [plain]

/-- From a moment on, nothing rebinds how something is executed, if it is an operation. -/
def Settled (c : Candidate σ) (s : σ) (states : σ → σ → Prop) : Prop :=
  ∀ executor, c.executor? s = some executor →
    ∀ t t', states t t' → c.executor? t' = some executor

theorem Settled.invocation? (settled : c.Settled s states) {invoke invoke' : Task σ (Reply σ)}
    {new : String} (runs : c.invocation? s none = some invoke)
    (runs' : c.invocation? s (some new) = some invoke') (t t' : σ) (start : states t t') :
    invoke' t' = invoke t' := by
  cases found : c.executor? s with
  | none =>
    rw [invocation?_of_none found] at runs runs'
    cases runs.symm.trans runs'
    rfl
  | some executor =>
    obtain ⟨own, named⟩ := invocation?_of_executor found
    rw [own] at runs
    rw [named] at runs'
    cases runs
    cases runs'
    rw [execute_apply (settled _ found t t' start)]

end Candidate

/-! ### Operations that are named and rebound -/

namespace Template

def SameCount (change : Renaming) (s s' : Nat × List Notice) : Prop :=
  s'.1 = s.1 ∧ List.Forall₂ (change.Notices Flavour.direct.logger) s.2 s'.2

end Template

namespace Candidate

def outspoken : Candidate (Nat × List Notice) where
  self := .operation 0
  name? := some fun _ => .text "sample"
  execute? := some fun _ => some Operation.countedPlain.invoke
  call? := some (Task.raise (.plain 7 Kind.keyError []))
  qualifiedName? := none
  className := "Both"
  written := "<Both>"

end Candidate

end Reattempt
