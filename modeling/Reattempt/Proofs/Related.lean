import Reattempt.Execution.Template

/-!
# Related executions

A relation between tasks over two states that composition respects holds between two executions as
soon as it holds between what they ask of their surroundings. `Execution.run_matched` does the
induction over the attempts once, for every property of this form; classifiers, listeners,
strategies and waits have theorems of the same shape.
-/

namespace Reattempt

namespace Task

variable {σ τ α β : Type}

/-- A relation between tasks over two states that composition respects. -/
structure Congruence (R : (α : Type) → Task σ α → Task τ α → Prop) : Prop where
  pure {α : Type} (a : α) : R α (Pure.pure a) (Pure.pure a)
  escape {α : Type} (e : Escape) : R α (Task.escape e) (Task.escape e)
  bind {α β : Type} {t : Task σ α} {u : Task τ α} {f : α → Task σ β} {g : α → Task τ β}
    (first : R α t u) (next : ∀ a, R β (f a) (g a)) : R β (t >>= f) (u >>= g)

namespace Congruence

variable {R : (α : Type) → Task σ α → Task τ α → Prop} (congruence : Congruence R)
include congruence

theorem ofExcept (outcome : Except Fault α) : R α (Task.ofExcept outcome) (Task.ofExcept outcome) := by
  cases outcome with
  | ok a => exact congruence.pure a
  | error f => exact congruence.escape _

theorem map {t : Task σ α} {u : Task τ α} (f : α → β) (h : R α t u) :
    R β (f <$> t) (f <$> u) := by
  rw [← bind_pure_comp, ← bind_pure_comp]
  exact congruence.bind h fun a => congruence.pure (f a)

end Congruence

theorem escape_bind (e : Escape) (f : α → Task σ β) : (escape e >>= f) = escape e := rfl

end Task

namespace Cursor

variable {calculate : Strategy → Value → Task σ Value} {cursor : Cursor}

theorem next_fault {fault : Fault} (h : cursor.isSpent = .error fault) :
    cursor.next calculate = Task.escape (.raised fault.toFailure) := by
  rw [next, h]
  rfl

theorem next_spent (h : cursor.isSpent = .ok true) :
    cursor.next calculate = pure (.null, cursor) := by
  rw [next, h]
  rfl

theorem next_unspent (h : cursor.isSpent = .ok false) :
    cursor.next calculate = (calculate cursor.strategy (.int cursor.attempts) >>= fun delay =>
      pure (delay, { cursor with attempts := cursor.attempts + 1 })) := by
  rw [next, h]
  rfl

end Cursor

variable {σ τ ℓ : Type} {R : (α : Type) → Task σ α → Task τ α → Prop}

/-! ### Classifiers -/

theorem Classifier.reject_related (congruence : Task.Congruence R) {first : Examination σ}
    {second : Examination τ} (tell : ∀ message, R Unit
      (first.tell (.debug Classifier.logger message [])) (second.tell (.debug Classifier.logger message [])))
    (f : Failure) (reason : String) :
    R Bool (Classifier.reject first f reason) (Classifier.reject second f reason) :=
  congruence.bind (tell _) fun _ => congruence.pure false

theorem Classifier.accepts_related (congruence : Task.Congruence R) {first : Examination σ}
    {second : Examination τ} (ask : ∀ p f, R Value (first.ask p f) (second.ask p f))
    (tell : ∀ message, R Unit (first.tell (.debug Classifier.logger message []))
      (second.tell (.debug Classifier.logger message []))) (f : Failure) (c : Classifier) :
    R Bool (c.accepts first f) (c.accepts second f) := by
  have rejects := Classifier.reject_related congruence tell f
  induction c using Classifier.accepts.induct
    (motive_2 := fun tests => R Bool (passesAll first f tests) (passesAll second f tests))
    (motive_3 := fun test => R Bool (satisfies first f test) (satisfies second f test)) with
  | case1 p =>
    rw [satisfies, satisfies]
    exact congruence.map _ (ask p f)
  | case2 k =>
    rw [satisfies, satisfies]
    exact congruence.map _ (congruence.ofExcept _)
  | case3 c ih =>
    rw [satisfies, satisfies]
    exact ih
  | case4 v notPredicate notKind notClassifier =>
    have faulty : ∀ {ρ : Type} (examination : Examination ρ),
        satisfies examination f v = Task.fault (.cannotCall v.typeName) := by
      intro ρ examination
      rw [satisfies]
      · exact notPredicate
      · exact notKind
      · exact notClassifier
    rw [faulty, faulty]
    exact congruence.escape _
  | case5 includes excludes predicates ih =>
    rw [accepts, accepts]
    refine congruence.bind (congruence.ofExcept _) fun included => ?_
    cases included with
    | false => exact rejects _
    | true =>
      refine congruence.bind (congruence.ofExcept _) fun excluded => ?_
      cases excluded with
      | true => exact rejects _
      | false => exact ih
  | case6 =>
    rw [passesAll, passesAll]
    exact congruence.pure true
  | case7 test rest ihTest ihRest =>
    rw [passesAll, passesAll]
    refine congruence.bind ihTest fun passed => ?_
    cases passed with
    | true => exact ihRest
    | false => exact rejects _

/-! ### Listeners -/

theorem Listener.visit_related (congruence : Task.Congruence R) {first : ℓ → Task σ Unit}
    {second : ℓ → Task τ Unit} {grown : Nat → Task σ Unit} {grown' : Nat → Task τ Unit}
    (leaf : ∀ l, R Unit (first l) (second l)) (growing : ∀ id, R Unit (grown id) (grown' id))
    (listener : Listener ℓ) :
    R Unit (listener.visit first grown) (listener.visit second grown') := by
  induction listener using Listener.visit.induct
    (motive_2 := fun members =>
      R Unit (visitAll first grown members) (visitAll second grown' members)) with
  | case1 l =>
    rw [visit, visit]
    exact leaf l
  | case2 members ih =>
    rw [visit, visit]
    exact ih
  | case3 id =>
    rw [visit, visit]
    exact growing id
  | case4 =>
    rw [visitAll, visitAll]
    exact congruence.pure ()
  | case5 member rest ihMember ihRest =>
    rw [visitAll, visitAll]
    exact congruence.bind ihMember fun _ => ihRest

theorem Listener.walk_related (congruence : Task.Congruence R) {first : Listener ℓ → Task σ Unit}
    {second : Listener ℓ → Task τ Unit} {members : σ → List (Listener ℓ)}
    {members' : τ → List (Listener ℓ)} (member : ∀ l, R Unit (first l) (second l))
    (roll : R _ (Task.gets members) (Task.gets members')) (patience position : Nat) :
    R Unit (walk first members patience position) (walk second members' patience position) := by
  induction patience generalizing position with
  | zero => exact congruence.escape _
  | succ patience ih =>
    rw [walk, walk]
    refine congruence.bind roll fun present => ?_
    cases present[position]? with
    | none => exact congruence.pure ()
    | some l => exact congruence.bind (member l) fun _ => ih (position + 1)

theorem Listener.dispatch_related (congruence : Task.Congruence R) {first : ℓ → Task σ Unit}
    {second : ℓ → Task τ Unit} {members : Nat → σ → List (Listener ℓ)}
    {members' : Nat → τ → List (Listener ℓ)} (leaf : ∀ l, R Unit (first l) (second l))
    (roll : ∀ id, R _ (Task.gets (members id)) (Task.gets (members' id)))
    (patience depth : Nat) (listener : Listener ℓ) :
    R Unit (dispatch first members patience depth listener)
      (dispatch second members' patience depth listener) := by
  induction depth generalizing listener with
  | zero => exact congruence.escape _
  | succ depth ih =>
    rw [dispatch, dispatch]
    exact visit_related congruence leaf
      (fun id => walk_related congruence ih (roll id) patience 0) listener

/-! ### Delays and waits -/

theorem addJitter_related (congruence : Task.Congruence R) {first : Chance σ} {second : Chance τ}
    (uniform : ∀ low high, R Value (first.uniform low high) (second.uniform low high))
    (tell : ∀ message, R Unit (first.tell (.debug jitterLogger message []))
      (second.tell (.debug jitterLogger message []))) (jitter delay : Value) :
    R Value (addJitter first jitter delay) (addJitter second jitter delay) := by
  refine congruence.bind (uniform _ _) fun share => ?_
  refine congruence.bind (congruence.ofExcept _) fun extra => ?_
  refine congruence.bind (congruence.ofExcept _) fun extraText => ?_
  refine congruence.bind (congruence.ofExcept _) fun delayText => ?_
  exact congruence.bind (tell _) fun _ => congruence.ofExcept _

theorem Strategy.calculate_related (congruence : Task.Congruence R) {first : Chance σ}
    {second : Chance τ}
    (uniform : ∀ low high, R Value (first.uniform low high) (second.uniform low high))
    (tell : ∀ message, R Unit (first.tell (.debug jitterLogger message []))
      (second.tell (.debug jitterLogger message []))) (strategy : Strategy) (attempt : Value) :
    R Value (strategy.calculate first attempt) (strategy.calculate second attempt) := by
  rw [calculate, calculate]
  cases strategy.shape with
  | fixed delay | constant delay => exact congruence.pure delay
  | linear base cap | fibonacci base cap => exact congruence.ofExcept _
  | exponential base multiplier cap jitter =>
    refine congruence.bind (congruence.ofExcept _) fun delay => ?_
    refine congruence.bind (congruence.ofExcept _) fun jitters => ?_
    cases jitters with
    | true => exact addJitter_related congruence uniform tell jitter delay
    | false => exact congruence.pure delay
  | table delays =>
    refine congruence.bind (congruence.ofExcept _) fun item => ?_
    cases item with
    | failure f => exact congruence.escape _
    | _ => exact congruence.pure _

theorem pause_related (congruence : Task.Congruence R) {tell : Notice → Task σ Unit}
    {tell' : Notice → Task τ Unit} {suspend : Value → Task σ Unit} {suspend' : Value → Task τ Unit}
    (tells : ∀ message, R Unit (tell (.debug pauseLogger message []))
      (tell' (.debug pauseLogger message [])))
    (suspends : ∀ seconds, R Unit (suspend seconds) (suspend' seconds)) (seconds : Value) :
    R Unit (pause tell suspend seconds) (pause tell' suspend' seconds) := by
  rw [pause, pause]
  refine congruence.bind (congruence.ofExcept _) fun short => ?_
  cases short with
  | true => exact congruence.pure ()
  | false =>
    refine congruence.bind (congruence.ofExcept _) fun text => ?_
    exact congruence.bind (tells _) fun _ => suspends seconds

/-! ### Executions -/

namespace Execution

/-- The texts that an execution puts the name of its operation into. -/
inductive IsText : (String → String) → Prop where
  | start : IsText startText
  | retry (retries : Nat) : IsText (retryText retries)
  | rejection (f : Failure) : IsText (rejectionText f)
  | exhaustion (retries : Nat) : IsText (exhaustionText retries)

/-- Two executions that start with the same cursor, ask related things and give up in related
ways. Delays are only asked for from the strategy of the cursor, for attempts that are counted. -/
structure Related (R : (α : Type) → Task σ α → Task τ α → Prop) (first : Execution σ)
    (second : Execution τ) : Prop where
  exhausted (message : String) (last : Failure) (earlier : List Failure) :
    R Value (Task.raise (.exhausted message last earlier first.operation))
      (Task.raise (.exhausted message last earlier second.operation))
  start : first.start = second.start
  patience : first.patience = second.patience
  name : R String (Task.gets first.name) (Task.gets second.name)
  attempt : R _ first.attempt second.attempt
  announce (attempt : Nat) (text : String → String) :
    R Unit (first.announce attempt text) (second.announce attempt text)
  accepts (f : Failure) : R Bool (first.accepts f) (second.accepts f)
  calculate (cursor : Cursor) (starts : first.start = .ok cursor) (attempts : Nat) :
    R Value (first.calculate cursor.strategy (.int attempts))
      (second.calculate cursor.strategy (.int attempts))
  wait (delay : Value) : R Unit (first.wait delay) (second.wait delay)
  observe (occasion : Occasion) : R Unit (first.observe occasion) (second.observe occasion)

variable {first : Execution σ} {second : Execution τ}

theorem announce_related (congruence : Task.Congruence R) (logger : first.logger = second.logger)
    (name : R String (Task.gets first.name) (Task.gets second.name))
    (tell : ∀ notice, R Unit (first.tell notice) (second.tell notice)) (attempt : Nat)
    (text : String → String) :
    R Unit (first.announce attempt text) (second.announce attempt text) := by
  refine congruence.bind name fun name => ?_
  rw [logger]
  exact tell _

theorem giveUp_related (congruence : Task.Congruence R) (related : Related R first second)
    (earlier : List Failure) (last : Failure) :
    R Value (first.giveUp earlier last) (second.giveUp earlier last) := by
  refine congruence.bind related.name fun name => ?_
  exact congruence.bind (related.observe _) fun _ => related.exhausted _ last earlier

def decided (execution : Execution σ) (asks : Nat) (cursor : Cursor) (earlier : List Failure)
    (last : Failure) : Bool → Task σ Value
  | true => do
    let (delay, cursor) ← cursor.next execution.calculate
    if delay.isNull then
      execution.announce cursor.attempts (exhaustionText cursor.attempts)
      execution.giveUp earlier last
    else
      execution.wait delay
      execution.observe .beforeRetry
      execution.announce cursor.attempts (retryText cursor.attempts)
      match ← execution.attempt with
      | .ok result =>
        execution.observe (.retrySuccess result)
        pure result
      | .error failure =>
        execution.observe (.retryFailure failure)
        execution.retry asks cursor (earlier ++ [last]) failure
  | false => do
    execution.announce cursor.attempts (rejectionText last)
    execution.giveUp earlier last

theorem retry_succ (execution : Execution σ) (asks : Nat) (cursor : Cursor)
    (earlier : List Failure) (last : Failure) :
    execution.retry (asks + 1) cursor earlier last =
      (execution.accepts last >>= execution.decided asks cursor earlier last) := by
  rw [retry]
  congr 1
  funext accepted
  cases accepted <;> rfl

structure Matched (R : (α : Type) → Task σ α → Task τ α → Prop) (first : Execution σ)
    (second : Execution τ) : Prop where
  start : first.start = second.start
  patience : first.patience = second.patience
  attempt : R _ first.attempt second.attempt
  announce (attempt : Nat) {text : String → String} (telling : IsText text) :
    R Unit (first.announce attempt text) (second.announce attempt text)
  accepts (f : Failure) : R Bool (first.accepts f) (second.accepts f)
  calculate (cursor : Cursor) (starts : first.start = .ok cursor) (attempts : Nat) :
    R Value (first.calculate cursor.strategy (.int attempts))
      (second.calculate cursor.strategy (.int attempts))
  wait (delay : Value) : R Unit (first.wait delay) (second.wait delay)
  observe (occasion : Occasion) : R Unit (first.observe occasion) (second.observe occasion)
  giveUp (earlier : List Failure) (last : Failure) :
    R Value (first.giveUp earlier last) (second.giveUp earlier last)

section

variable (congruence : Task.Congruence R) (matched : Matched R first second)
include congruence matched

/-- Executions that match after further attempts match after a verdict. The cursor moves, but its
strategy stays. -/
theorem decided_matched (asks : Nat) (cursor : Cursor)
    (calculates : R Value (first.calculate cursor.strategy (.int cursor.attempts))
      (second.calculate cursor.strategy (.int cursor.attempts)))
    (earlier : List Failure) (last : Failure)
    (further : ∀ f, R Value
      (first.retry asks { cursor with attempts := cursor.attempts + 1 } (earlier ++ [last]) f)
      (second.retry asks { cursor with attempts := cursor.attempts + 1 } (earlier ++ [last]) f))
    (accepted : Bool) :
    R Value (first.decided asks cursor earlier last accepted)
      (second.decided asks cursor earlier last accepted) := by
  have ends := matched.giveUp earlier last
  cases accepted with
  | false => exact congruence.bind (matched.announce _ (.rejection last)) fun _ => ends
  | true =>
    rw [decided, decided]
    cases spent : cursor.isSpent with
    | error fault =>
      rw [Cursor.next_fault spent, Cursor.next_fault spent]
      exact congruence.escape _
    | ok done =>
      cases done with
      | true =>
        rw [Cursor.next_spent spent, Cursor.next_spent spent, pure_bind, pure_bind]
        exact congruence.bind (matched.announce _ (.exhaustion _)) fun _ => ends
      | false =>
        rw [Cursor.next_unspent spent, Cursor.next_unspent spent, bind_assoc, bind_assoc]
        refine congruence.bind calculates fun delay => ?_
        rw [pure_bind, pure_bind]
        dsimp only
        cases delay.isNull with
        | true => exact congruence.bind (matched.announce _ (.exhaustion _)) fun _ => ends
        | false =>
          refine congruence.bind (matched.wait delay) fun _ => ?_
          refine congruence.bind (matched.observe _) fun _ => ?_
          refine congruence.bind (matched.announce _ (.retry _)) fun _ => ?_
          refine congruence.bind matched.attempt fun outcome => ?_
          cases outcome with
          | ok result =>
            exact congruence.bind (matched.observe _) fun _ => congruence.pure result
          | error f => exact congruence.bind (matched.observe _) fun _ => further f

/-- The induction over the attempts. -/
theorem retry_matched (asks : Nat) (cursor : Cursor)
    (calculates : ∀ attempts : Nat, R Value (first.calculate cursor.strategy (.int attempts))
      (second.calculate cursor.strategy (.int attempts)))
    (earlier : List Failure) (last : Failure) :
    R Value (first.retry asks cursor earlier last) (second.retry asks cursor earlier last) := by
  induction asks generalizing cursor earlier last with
  | zero => exact congruence.escape _
  | succ asks ih =>
    rw [retry_succ, retry_succ]
    refine congruence.bind (matched.accepts last) ?_
    exact decided_matched congruence matched asks cursor (calculates _) earlier last
      (ih { cursor with attempts := cursor.attempts + 1 } calculates _)

theorem run_matched : R Value first.run second.run := by
  refine congruence.bind (matched.announce 0 .start) fun _ => ?_
  refine congruence.bind matched.attempt fun outcome => ?_
  cases outcome with
  | ok result => exact congruence.pure result
  | error f =>
    dsimp only
    rw [matched.patience]
    cases starts : first.start with
    | error fault =>
      rw [matched.start.symm.trans starts]
      exact congruence.escape _
    | ok cursor =>
      rw [matched.start.symm.trans starts, Task.ofExcept, pure_bind, Task.ofExcept, pure_bind]
      exact retry_matched congruence matched _ cursor (matched.calculate cursor starts) [] f

end

theorem Related.matched (congruence : Task.Congruence R) (related : Related R first second) :
    Matched R first second :=
  { related with
    announce := fun attempt _ _ => related.announce attempt _
    giveUp := giveUp_related congruence related }

/-- What is true of all that two executions ask is true of the executions. -/
theorem run_related (congruence : Task.Congruence R) (related : Related R first second) :
    R Value first.run second.run :=
  run_matched congruence (related.matched congruence)

end Execution

end Reattempt
