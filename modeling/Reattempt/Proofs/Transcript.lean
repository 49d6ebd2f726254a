import Reattempt.Proofs.Course

/-!
# Transcripts

A transcript is finer than a journal: it holds each call on a single test, a single leaf of the
listener, the strategy, the way to wait and the operation. `Surroundings` gathers all of these for
one execution, so that they can be wrapped one by one and in the same way.
-/

namespace Reattempt

variable {σ τ ℓ : Type}

/-- What an execution asks of a single one of its surroundings. -/
inductive Contact (ℓ : Type) where
  | invoke
  | ask (p : Predicate) (f : Failure)
  | calculate (strategy : Strategy) (attempt : Value)
  | wait (delay : Value)
  | notify (occasion : Occasion) (leaf : ℓ)
  | tell (notice : Notice)

/-- All that an execution is surrounded by: its policy, its listener, and what calls them. -/
structure Surroundings (σ ℓ : Type) where
  logger : String
  name : σ → String
  operation : Value
  policy : Option Policy
  listener : Option (Listener ℓ)
  invoke : Task σ Value
  ask : Predicate → Failure → Task σ Value
  calculate : Strategy → Value → Task σ Value
  wait : Value → Task σ Unit
  notify : Occasion → ℓ → Task σ Unit
  tell : Notice → Task σ Unit
  members : Nat → σ → List (Listener ℓ)
  patience : Nat

namespace Surroundings

def accepts (surroundings : Surroundings σ ℓ) (f : Failure) : Task σ Bool :=
  match surroundings.policy with
  | some p => p.accepts ⟨surroundings.ask, surroundings.tell⟩ f
  | none => Task.fault (.missingAttribute Value.null.owner "should_retry")

def observe (surroundings : Surroundings σ ℓ) (occasion : Occasion) : Task σ Unit :=
  match surroundings.listener with
  | some l =>
    l.dispatch (surroundings.notify occasion) surroundings.members surroundings.patience
      surroundings.patience
  | none => Task.fault (.missingAttribute Value.null.owner occasion.hook.name)

def execution (surroundings : Surroundings σ ℓ) : Execution σ where
  logger := surroundings.logger
  name := surroundings.name
  operation := surroundings.operation
  invoke := surroundings.invoke
  start :=
    match surroundings.policy with
    | some p => p.start
    | none => .error (.missingAttribute Value.null.owner "start_backoff")
  accepts := surroundings.accepts
  calculate := surroundings.calculate
  wait := surroundings.wait
  observe := surroundings.observe
  tell := surroundings.tell
  patience := surroundings.patience

/-- Surroundings over a wider state, with every call wrapped. -/
def wrapped (surroundings : Surroundings σ ℓ) (view : τ → σ)
    (wrap : (α : Type) → Contact ℓ → (α → Value) → Task σ α → Task τ α) : Surroundings τ ℓ where
  logger := surroundings.logger
  name s := surroundings.name (view s)
  operation := surroundings.operation
  policy := surroundings.policy
  listener := surroundings.listener
  invoke := wrap Value .invoke id surroundings.invoke
  ask p f := wrap Value (.ask p f) id (surroundings.ask p f)
  calculate strategy attempt :=
    wrap Value (.calculate strategy attempt) id (surroundings.calculate strategy attempt)
  wait delay := wrap Unit (.wait delay) (fun _ => .null) (surroundings.wait delay)
  notify occasion leaf :=
    wrap Unit (.notify occasion leaf) (fun _ => .null) (surroundings.notify occasion leaf)
  tell notice := wrap Unit (.tell notice) (fun _ => .null) (surroundings.tell notice)
  members id s := surroundings.members id (view s)
  patience := surroundings.patience

def recorded (surroundings : Surroundings σ ℓ) :
    Surroundings (σ × List (Entry (Contact ℓ))) ℓ :=
  surroundings.wrapped Prod.fst fun _ call shown t => t.entered surroundings.name call shown

/-! ### Related surroundings -/

structure Related (R : (α : Type) → Task σ α → Task τ α → Prop) (first : Surroundings σ ℓ)
    (second : Surroundings τ ℓ) : Prop where
  logger : first.logger = second.logger
  operation : first.operation = second.operation
  policy : first.policy = second.policy
  listener : first.listener = second.listener
  patience : first.patience = second.patience
  name : R String (Task.gets first.name) (Task.gets second.name)
  attempt : R _ first.execution.attempt second.execution.attempt
  ask (p : Predicate) (f : Failure) : R Value (first.ask p f) (second.ask p f)
  calculate (strategy : Strategy) (attempt : Value) :
    R Value (first.calculate strategy attempt) (second.calculate strategy attempt)
  wait (delay : Value) : R Unit (first.wait delay) (second.wait delay)
  notify (occasion : Occasion) (leaf : ℓ) :
    R Unit (first.notify occasion leaf) (second.notify occasion leaf)
  tell (notice : Notice) : R Unit (first.tell notice) (second.tell notice)
  members (id : Nat) : R _ (Task.gets (first.members id)) (Task.gets (second.members id))

variable {R : (α : Type) → Task σ α → Task τ α → Prop} {first : Surroundings σ ℓ}
  {second : Surroundings τ ℓ}

theorem accepts_related (congruence : Task.Congruence R) (policy : first.policy = second.policy)
    (ask : ∀ p f, R Value (first.ask p f) (second.ask p f))
    (tell : ∀ message, R Unit (first.tell (.debug Classifier.logger message []))
      (second.tell (.debug Classifier.logger message []))) (f : Failure) :
    R Bool (first.accepts f) (second.accepts f) := by
  rw [accepts, accepts, policy]
  cases second.policy with
  | none => exact congruence.escape _
  | some p =>
    dsimp only
    rw [Policy.accepts, Policy.accepts]
    split
    · exact Classifier.accepts_related congruence ask tell f _
    · exact congruence.escape _

theorem observe_related (congruence : Task.Congruence R)
    (listener : first.listener = second.listener) (patience : first.patience = second.patience)
    (notify : ∀ occasion leaf, R Unit (first.notify occasion leaf) (second.notify occasion leaf))
    (members : ∀ id, R _ (Task.gets (first.members id)) (Task.gets (second.members id)))
    (occasion : Occasion) : R Unit (first.observe occasion) (second.observe occasion) := by
  rw [observe, observe, listener, patience]
  cases second.listener with
  | none => exact congruence.escape _
  | some l => exact Listener.dispatch_related congruence (notify occasion) members _ _ l

/-- What is true of every call on its surroundings is true of an execution. -/
theorem run_related (congruence : Task.Congruence R) (related : Related R first second) :
    R Value first.execution.run second.execution.run := by
  refine Execution.run_related congruence ?_
  exact {
    exhausted := fun _ _ _ => by
      rw [execution, execution, related.operation]
      exact congruence.escape _
    start := by rw [execution, execution, related.policy]
    patience := related.patience
    name := related.name
    attempt := related.attempt
    announce := Execution.announce_related congruence related.logger related.name related.tell
    accepts := accepts_related congruence related.policy related.ask fun _ => related.tell _
    calculate := fun _ _ _ => related.calculate _ _
    wait := related.wait
    observe := observe_related congruence related.listener related.patience related.notify
      related.members }

theorem recorded_related (surroundings : Surroundings σ ℓ) :
    Related (Task.Mirrors (κ := Contact ℓ)) surroundings.recorded surroundings where
  logger := rfl
  operation := rfl
  policy := rfl
  listener := rfl
  patience := rfl
  name := Task.mirrors_gets surroundings.name
  attempt := Execution.attempt_mirrors (Task.mirrors_entered _ _ _ _)
  ask _ _ := Task.mirrors_entered _ _ _ _
  calculate _ _ := Task.mirrors_entered _ _ _ _
  wait _ := Task.mirrors_entered _ _ _ _
  notify _ _ := Task.mirrors_entered _ _ _ _
  tell _ := Task.mirrors_entered _ _ _ _
  members id := Task.mirrors_gets (surroundings.members id)

end Surroundings

/-! ### Templates -/

namespace Template

variable (template : Template σ ℓ) (operation : Operation σ) (s : σ)

def surroundings : Surroundings σ ℓ where
  logger := template.flavour.logger
  name := operation.name
  operation := operation.self
  policy := template.policy s
  listener := template.listener s
  invoke := template.flavour.perform operation
  ask := template.examination.ask
  calculate strategy attempt := strategy.calculate template.chance attempt
  wait := template.wait
  notify := template.notify (template.policy s) operation
  tell := template.examination.tell
  members := template.members
  patience := template.patience

theorem surroundings_execution :
    (template.surroundings operation s).execution = template.started operation s := rfl

def transcript : List (Entry (Contact ℓ)) :=
  ((template.surroundings operation s).recorded.execution.run (s, [])).2.2

theorem recorded_run :
    (template.surroundings operation s).recorded.execution.run (s, []) =
      (((template.started operation s).run s).1, (((template.started operation s).run s).2,
        template.transcript operation s)) := by
  obtain ⟨entries, same⟩ := Surroundings.run_related Task.mirrors_congruence
    (template.surroundings operation s).recorded_related s []
  rw [surroundings_execution] at same
  rw [transcript, same]

end Template

def Operation.countedOutcome (n : Nat) : Except Escape Value :=
  if n < 2 then .error (.raised (.plain n Kind.valueError [])) else .ok (.int n)

end Reattempt
