import Reattempt.Proofs.Related

/-!
# Classification

What a classifier makes of a failure, if its lists name kinds only. `Classifier.accepts_judged`
says which tests are called, in which order and up to which one, and what the verdict is.
-/

namespace Reattempt

variable {σ : Type}

/-! ### Kinds -/

def Failure.LiesIn (f : Failure) (values : List Value) : Prop :=
  ∃ k, .kind k ∈ values ∧ Kind.Within k f.kind

namespace Failure

variable {f : Failure} {values : List Value}

theorem liesIn_cons {k : Kind} :
    f.LiesIn (.kind k :: values) ↔ Kind.Within k f.kind ∨ f.LiesIn values := by
  constructor
  · rintro ⟨target, member, within⟩
    rcases List.mem_cons.mp member with same | later
    · cases same
      exact .inl within
    · exact .inr ⟨target, later, within⟩
  · rintro (within | ⟨target, later, within⟩)
    · exact ⟨k, List.mem_cons_self, within⟩
    · exact ⟨target, List.mem_cons_of_mem _ later, within⟩

theorem isInstanceOfAny_kinds (f : Failure) (kinds : ∀ v ∈ values, ∃ k, v = .kind k) :
    ∃ found, f.isInstanceOfAny values = .ok found ∧ (found = true ↔ f.LiesIn values) := by
  induction values with
  | nil =>
    refine ⟨false, by rw [isInstanceOfAny], nofun, ?_⟩
    rintro ⟨k, member, -⟩
    cases member
  | cons v rest ih =>
    obtain ⟨k, rfl⟩ := kinds v List.mem_cons_self
    obtain ⟨found, looked, means⟩ := ih fun w member => kinds w (List.mem_cons_of_mem _ member)
    rw [isInstanceOfAny, isInstance]
    cases first : f.kind.isA k with
    | true =>
      have within : Kind.Within k f.kind := (Kind.isA_iff_within f.kind k).mp first
      exact ⟨true, rfl, fun _ => liesIn_cons.mpr (.inl within), fun _ => rfl⟩
    | false =>
      have outside : ¬ Kind.Within k f.kind := by
        rw [← Kind.isA_iff_within, first]
        exact Bool.false_ne_true
      refine ⟨found, looked, ?_⟩
      rw [means, liesIn_cons, or_iff_right outside]

end Failure

namespace Classifier

/-- A classifier that lets in and keeps out kinds, and nothing else. -/
structure Typed (c : Classifier) : Prop where
  includes : ∀ v ∈ c.includes, ∃ k, v = .kind k
  excludes : ∀ v ∈ c.excludes, ∃ k, v = .kind k

theorem typed_kinds (includes excludes : List Kind) (predicates : List Value) :
    Typed ⟨includes.map .kind, excludes.map .kind, predicates⟩ where
  includes v member := by
    obtain ⟨k, -, rfl⟩ := List.mem_map.mp member
    exact ⟨k, rfl⟩
  excludes v member := by
    obtain ⟨k, -, rfl⟩ := List.mem_map.mp member
    exact ⟨k, rfl⟩

/-- What the two lists of kinds say about a failure. No kinds to let in let all in. -/
def Admits (c : Classifier) (f : Failure) : Prop :=
  (c.includes = [] ∨ f.LiesIn c.includes) ∧ ¬ f.LiesIn c.excludes

theorem Typed.included {c : Classifier} (typed : c.Typed) (f : Failure) :
    ∃ included, (if c.includes.isEmpty then .ok true else f.isInstanceOfAny c.includes) =
      .ok included ∧ (included = true ↔ c.includes = [] ∨ f.LiesIn c.includes) := by
  cases empty : c.includes.isEmpty with
  | true =>
    have none : c.includes = [] := List.isEmpty_iff.mp empty
    exact ⟨true, rfl, fun _ => .inl none, fun _ => rfl⟩
  | false =>
    have some : c.includes ≠ [] := by
      rw [ne_eq, ← List.isEmpty_iff, empty]
      exact Bool.false_ne_true
    obtain ⟨found, looked, means⟩ := f.isInstanceOfAny_kinds typed.includes
    exact ⟨found, looked, by rw [means, or_iff_right some]⟩

end Classifier

/-! ### Calls on tests -/

/-- Call a value as a test: a kind makes a failure, a classifier judges, and what is no function
cannot be called. -/
def Examination.call (examination : Examination σ) (f : Failure) : Value → Task σ Value
  | .predicate p => examination.ask p f
  | .kind k => .failure <$> Task.ofExcept (Failure.ofArguments 0 k [.failure f])
  | .classifier c => .bool <$> c.accepts examination f
  | v => Task.fault (.cannotCall v.typeName)

/-- What is told on the way has no effect on how a task ends. -/
def Examination.Quiet (examination : Examination σ) : Prop :=
  ∀ notice s, (examination.tell notice s).1 = .ok ()

structure Trial where
  test : Value
  ending : Except Escape Value

namespace Trial

def Passes (trial : Trial) : Prop :=
  ∃ answer, trial.ending = .ok answer ∧ answer.isTruthy = true

def Rejects (trial : Trial) : Prop :=
  ∃ answer, trial.ending = .ok answer ∧ answer.isTruthy = false

theorem Rejects.not_passes {trial : Trial} (rejects : trial.Rejects) : ¬ trial.Passes := by
  rintro ⟨answer, ends, truthy⟩
  obtain ⟨other, ends', falsy⟩ := rejects
  cases ends.symm.trans ends'
  rw [truthy] at falsy
  cases falsy

theorem not_passes_of_error {trial : Trial} {e : Escape} (ends : trial.ending = .error e) :
    ¬ trial.Passes := by
  rintro ⟨answer, ends', -⟩
  cases ends.symm.trans ends'

theorem not_rejects_of_error {trial : Trial} {e : Escape} (ends : trial.ending = .error e) :
    ¬ trial.Rejects := by
  rintro ⟨answer, ends', -⟩
  cases ends.symm.trans ends'

end Trial

inductive Called (call : Value → Task σ Value) : σ → List Trial → σ → Prop
  | nil (s : σ) : Called call s [] s
  | cons {s s' after : σ} {test : Value} {ending : Except Escape Value} {rest : List Trial} :
    call test s = (ending, s') → Called call s' rest after →
      Called call s (⟨test, ending⟩ :: rest) after

namespace Classifier

variable {examination : Examination σ} {f : Failure} {c : Classifier}

theorem satisfies_eq_call (examination : Examination σ) (f : Failure) (v : Value) :
    satisfies examination f v = Value.isTruthy <$> examination.call f v := by
  cases v with
  | predicate p => rw [satisfies, Examination.call]
  | kind k =>
    rw [satisfies, Examination.call, Functor.map_map]
    rfl
  | classifier c =>
    have unchanged : (fun b => Value.isTruthy (.bool b)) = id := rfl
    rw [satisfies, Examination.call, Functor.map_map, unchanged, id_map]
  | _ =>
    rw [satisfies, Examination.call]
    · rfl
    all_goals simp

theorem reject_quiet (quiet : examination.Quiet) (f : Failure) (reason : String) (s : σ) :
    reject examination f reason s =
      (.ok false, (examination.tell (.debug logger (f.kind.name ++ reason) []) s).2) := by
  have told := quiet (.debug logger (f.kind.name ++ reason) []) s
  rcases run : examination.tell (.debug logger (f.kind.name ++ reason) []) s with ⟨e | _, s'⟩
  · rw [run] at told
    cases told
  · rw [reject, Task.bind_ok run]
    rfl

/-- How calls on tests come to an end: all tests pass, or the last one called rejects or
escapes. -/
inductive Settled (examination : Examination σ) (f : Failure) (tests : List Value)
    (trials : List Trial) (after : σ) : Except Escape Bool × σ → Prop
  | passed : trials.map Trial.test = tests → (∀ trial ∈ trials, trial.Passes) →
      Settled examination f tests trials after (.ok true, after)
  | rejected {trial : Trial} (reason : String) : trials.getLast? = some trial → trial.Rejects →
      Settled examination f tests trials after (reject examination f reason after)
  | escaped {trial : Trial} {e : Escape} : trials.getLast? = some trial →
      trial.ending = .error e → Settled examination f tests trials after (.error e, after)

theorem Settled.cons {tests : List Value} {trials : List Trial} {after : σ}
    {outcome : Except Escape Bool × σ} {first : Trial} (passes : first.Passes)
    (settled : Settled examination f tests trials after outcome) :
    Settled examination f (first.test :: tests) (first :: trials) after outcome := by
  have last {trial : Trial} (h : trials.getLast? = some trial) :
      (first :: trials).getLast? = some trial := by
    rw [List.getLast?_cons, h]
    rfl
  cases settled with
  | passed order all =>
    refine .passed (by rw [List.map_cons, order]) fun trial member => ?_
    rcases List.mem_cons.mp member with rfl | later
    · exact passes
    · exact all trial later
  | rejected reason ends rejects => exact .rejected reason (last ends) rejects
  | escaped ends escapes => exact .escaped (last ends) escapes

theorem passesAll_settled (examination : Examination σ) (f : Failure) (tests : List Value)
    (s : σ) : ∃ trials after, Called (examination.call f) s trials after ∧
      trials.map Trial.test <+: tests ∧ (∀ trial ∈ trials.dropLast, trial.Passes) ∧
      Settled examination f tests trials after (passesAll examination f tests s) := by
  induction tests generalizing s with
  | nil =>
    refine ⟨[], s, .nil s, List.prefix_refl _, nofun, ?_⟩
    rw [passesAll]
    exact .passed rfl (List.forall_mem_nil _)
  | cons test rest ih =>
    have short : [test] <+: test :: rest := ⟨rest, rfl⟩
    have unseen : ∀ trial ∈ ([] : List Trial), trial.Passes := List.forall_mem_nil _
    rw [passesAll, satisfies_eq_call]
    rcases run : examination.call f test s with ⟨e | answer, s'⟩
    · refine ⟨[⟨test, .error e⟩], s', .cons run (.nil s'), short, unseen, ?_⟩
      have ends : (Value.isTruthy <$> examination.call f test) s = (.error e, s') := by
        rw [Task.map_apply, run]
        rfl
      rw [Task.bind_error ends]
      exact .escaped rfl rfl
    · have ends : (Value.isTruthy <$> examination.call f test) s =
          (.ok answer.isTruthy, s') := by
        rw [Task.map_apply, run]
        rfl
      rw [Task.bind_ok ends]
      cases truthy : answer.isTruthy with
      | false =>
        refine ⟨[⟨test, .ok answer⟩], s', .cons run (.nil s'), short, unseen, ?_⟩
        exact .rejected _ rfl ⟨answer, rfl, truthy⟩
      | true =>
        obtain ⟨trials, after, called, order, goesOn, settled⟩ := ih s'
        have passes : Trial.Passes ⟨test, .ok answer⟩ := ⟨answer, rfl, truthy⟩
        refine ⟨⟨test, .ok answer⟩ :: trials, after, .cons run called,
          (List.prefix_cons_inj test).mpr order, ?_, settled.cons passes⟩
        intro trial member
        -- The call just made counts among those that pass only if another one follows.
        cases trials with
        | nil => cases member
        | cons next later =>
          rcases List.mem_cons.mp member with rfl | inner
          · exact passes
          · exact goesOn trial inner

section

variable {tests : List Value} {trials : List Trial} {after : σ} {outcome : Except Escape Bool × σ}

theorem Settled.accepted_iff (quiet : examination.Quiet)
    (settled : Settled examination f tests trials after outcome) : outcome.1 = .ok true ↔
      trials.map Trial.test = tests ∧ ∀ trial ∈ trials, trial.Passes := by
  cases settled with
  | passed order all => exact ⟨fun _ => ⟨order, all⟩, fun _ => rfl⟩
  | rejected reason last rejects =>
    rw [reject_quiet quiet]
    refine ⟨nofun, ?_⟩
    rintro ⟨-, all⟩
    exact absurd (all _ (List.mem_of_getLast? last)) rejects.not_passes
  | escaped last escapes =>
    refine ⟨nofun, ?_⟩
    rintro ⟨-, all⟩
    exact absurd (all _ (List.mem_of_getLast? last)) (Trial.not_passes_of_error escapes)

theorem Settled.rejected_iff (quiet : examination.Quiet)
    (settled : Settled examination f tests trials after outcome) : outcome.1 = .ok false ↔
      ∃ trial, trials.getLast? = some trial ∧ trial.Rejects := by
  cases settled with
  | passed order all =>
    refine ⟨nofun, ?_⟩
    rintro ⟨trial, last, rejects⟩
    exact absurd (all trial (List.mem_of_getLast? last)) rejects.not_passes
  | rejected reason last rejects =>
    rw [reject_quiet quiet]
    exact ⟨fun _ => ⟨_, last, rejects⟩, fun _ => rfl⟩
  | escaped last escapes =>
    refine ⟨nofun, ?_⟩
    rintro ⟨other, last', rejects⟩
    cases last.symm.trans last'
    exact absurd rejects (Trial.not_rejects_of_error escapes)

theorem Settled.escaped_iff (quiet : examination.Quiet)
    (settled : Settled examination f tests trials after outcome) (e : Escape) :
    outcome.1 = .error e ↔ ∃ trial, trials.getLast? = some trial ∧ trial.ending = .error e := by
  cases settled with
  | passed order all =>
    refine ⟨nofun, ?_⟩
    rintro ⟨trial, last, ends⟩
    exact absurd (all trial (List.mem_of_getLast? last)) (Trial.not_passes_of_error ends)
  | rejected reason last rejects =>
    rw [reject_quiet quiet]
    refine ⟨nofun, ?_⟩
    rintro ⟨other, last', escapes⟩
    cases last.symm.trans last'
    exact absurd rejects (Trial.not_rejects_of_error escapes)
  | @escaped trial e' last escapes =>
    constructor
    · rintro ⟨⟩
      exact ⟨trial, last, escapes⟩
    · rintro ⟨other, last', escapes'⟩
      cases last.symm.trans last'
      cases escapes.symm.trans escapes'
      rfl

theorem Settled.state (quiet : examination.Quiet)
    (settled : Settled examination f tests trials after outcome) :
    (outcome.1 ≠ .ok false → outcome.2 = after) ∧ (outcome.1 = .ok false → ∃ reason,
      outcome.2 = (examination.tell (.debug logger (f.kind.name ++ reason) []) after).2) := by
  cases settled with
  | passed | escaped => exact ⟨fun _ => rfl, nofun⟩
  | rejected reason =>
    rw [reject_quiet quiet]
    exact ⟨fun other => absurd rfl other, fun _ => ⟨reason, rfl⟩⟩

end

/-! ### Verdicts -/

structure Judged (c : Classifier) (examination : Examination σ) (f : Failure) (s : σ)
    (trials : List Trial) (after : σ) : Prop where
  called : Called (examination.call f) s trials after
  inOrder : trials.map Trial.test <+: c.predicates
  goesOn : ∀ trial ∈ trials.dropLast, trial.Passes
  untried : ¬ c.Admits f → trials = []
  accepted : (c.accepts examination f s).1 = .ok true ↔
    c.Admits f ∧ trials.map Trial.test = c.predicates ∧ ∀ trial ∈ trials, trial.Passes
  rejected : (c.accepts examination f s).1 = .ok false ↔
    ¬ c.Admits f ∨ ∃ trial, trials.getLast? = some trial ∧ trial.Rejects
  escaped (e : Escape) : (c.accepts examination f s).1 = .error e ↔
    ∃ trial, trials.getLast? = some trial ∧ trial.ending = .error e
  untouched : (c.accepts examination f s).1 ≠ .ok false → (c.accepts examination f s).2 = after
  told : (c.accepts examination f s).1 = .ok false → ∃ reason,
    (c.accepts examination f s).2 =
      (examination.tell (.debug logger (f.kind.name ++ reason) []) after).2
  excluded : f.LiesIn c.excludes → (c.accepts examination f s).1 = .ok false ∧ trials = []

theorem judged_of_kept_out {s : σ} {reason : String} (quiet : examination.Quiet)
    (keptOut : ¬ c.Admits f)
    (ends : c.accepts examination f s = reject examination f reason s) :
    c.Judged examination f s [] s := by
  rw [reject_quiet quiet] at ends
  exact {
    called := .nil s
    inOrder := List.nil_prefix
    goesOn := nofun
    untried := fun _ => rfl
    accepted := by
      rw [ends]
      exact ⟨nofun, fun h => absurd h.1 keptOut⟩
    rejected := by
      rw [ends]
      exact ⟨fun _ => .inl keptOut, fun _ => rfl⟩
    escaped := fun e => by
      rw [ends]
      refine ⟨nofun, ?_⟩
      rintro ⟨trial, last, -⟩
      cases last
    untouched := fun other => absurd (by rw [ends]) other
    told := fun _ => ⟨reason, by rw [ends]⟩
    excluded := fun _ => ⟨by rw [ends], rfl⟩ }

theorem judged_of_let_in {s after : σ} {trials : List Trial} (quiet : examination.Quiet)
    (letIn : c.Admits f) (called : Called (examination.call f) s trials after)
    (inOrder : trials.map Trial.test <+: c.predicates)
    (goesOn : ∀ trial ∈ trials.dropLast, trial.Passes)
    (settled : Settled examination f c.predicates trials after (c.accepts examination f s)) :
    c.Judged examination f s trials after := by
  obtain ⟨untouched, told⟩ := settled.state quiet
  have accepted := settled.accepted_iff quiet
  have rejected := settled.rejected_iff quiet
  exact {
    called, inOrder, goesOn, untouched, told
    untried := fun out => absurd letIn out
    accepted := accepted.trans (and_iff_right letIn).symm
    rejected := rejected.trans (or_iff_right (not_not_intro letIn)).symm
    escaped := settled.escaped_iff quiet
    excluded := fun lies => absurd lies letIn.2 }

/-- Kinds that are kept out count before kinds that are let in, and both before the tests, which
are called in order up to the first that does not pass. -/
theorem accepts_judged (typed : c.Typed) (quiet : examination.Quiet) (f : Failure) (s : σ) :
    ∃ trials after, c.Judged examination f s trials after := by
  obtain ⟨included, looked, lets⟩ := typed.included f
  obtain ⟨excluded, looked', keeps⟩ := f.isInstanceOfAny_kinds typed.excludes
  have start : c.accepts examination f = (do
      if included then
        if excluded then reject examination f " is in the excluded exception types"
        else passesAll examination f c.predicates
      else reject examination f " is not in the included exception types") := by
    obtain ⟨includes, excludes, predicates⟩ := c
    rw [accepts, looked, looked']
    rfl
  cases included with
  | false =>
    have keptOut : ¬ c.Admits f := fun admits => Bool.false_ne_true (lets.mpr admits.1)
    exact ⟨[], s, judged_of_kept_out quiet keptOut (congrFun start s)⟩
  | true =>
    cases excluded with
    | true =>
      have keptOut : ¬ c.Admits f := fun admits => admits.2 (keeps.mp rfl)
      exact ⟨[], s, judged_of_kept_out quiet keptOut (congrFun start s)⟩
    | false =>
      have letIn : c.Admits f :=
        ⟨lets.mp rfl, fun lies => Bool.false_ne_true (keeps.mpr lies)⟩
      obtain ⟨trials, after, called, inOrder, goesOn, settled⟩ :=
        passesAll_settled examination f c.predicates s
      rw [← show c.accepts examination f s = passesAll examination f c.predicates s from
        congrFun start s] at settled
      exact ⟨trials, after, judged_of_let_in quiet letIn called inOrder goesOn settled⟩

end Classifier

/-- Tests with a fixed answer or failure; the state lists those that were asked. -/
def Examination.answering : Examination (List Nat) where
  ask p _ := fun asked =>
    match p.test with
    | .always answer => (.ok answer, asked ++ [p.id])
    | .raises f => (.error (.raised f), asked ++ [p.id])
    | _ => (.ok .null, asked ++ [p.id])
  tell _ := pure ()

theorem Examination.answering_quiet : answering.Quiet := fun _ _ => rfl

namespace Classifier

/-- Lets in one of two kinds that a failure belongs to, and asks three tests: the second rejects,
the third would raise. -/
def askingThrice (f : Failure) : Classifier :=
  ⟨[.kind Kind.typeError, .kind Kind.valueError], [.kind Kind.keyError],
    [.predicate ⟨7, .always (.int 3)⟩, .predicate ⟨8, .always (.text "")⟩,
      .predicate ⟨9, .raises f⟩]⟩

theorem accepts_judged_twice_asked :
    let f : Failure := .plain 1 ⟨"Both", "app", [Kind.osError, Kind.valueError]⟩ []
    (askingThrice f).accepts .answering f [] = (.ok false, [7, 8]) ∧
      ∃ trials after, (askingThrice f).Judged .answering f [] trials after := by
  intro f
  have typed : (askingThrice f).Typed :=
    typed_kinds [Kind.typeError, Kind.valueError] [Kind.keyError] _
  exact ⟨rfl, accepts_judged typed Examination.answering_quiet f []⟩

end Classifier

end Reattempt
