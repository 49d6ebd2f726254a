import Reattempt.Policy.Builder
import Reattempt.Proofs.Floats
import Reattempt.Proofs.Outcome

/-!
# Finite budgets

A limit that passes the checks is null, whole or a float that is not below zero. Whole limits and
finite floats bound the number of delays that a cursor hands out and the number of times a failing
operation is invoked; an infinite float and one that is no number bound neither.
-/

namespace Reattempt

/-! ### Limits -/

namespace Value

structure Endless (limit : Value) : Prop where
  unspent (attempts : Nat) : isSpentAt limit (.int attempts) = .ok false
  asks (strategy : Strategy) (attempts patience : Nat) :
    (Cursor.mk strategy limit attempts).asks patience = patience

variable {x : Float}

theorem isSpentAt_float (x : Float) (attempts : Nat) :
    isSpentAt (.float x) (.int attempts) =
      match (Decimal.compareInt? x attempts).map Ordering.swap with
      | some outcome => .ok (Comparison.atLeast.holds outcome)
      | none => .ok false := by
  have present : (float x).isNull = false := rfl
  rw [isSpentAt, present, if_neg Bool.false_ne_true]
  exact compareBy_numbers (a := .whole attempts) (b := .binary x) .atLeast rfl rfl

theorem asks_float (strategy : Strategy) (x : Float) (attempts patience : Nat) :
    (Cursor.mk strategy (.float x) attempts).asks patience =
      ((Decimal.ceiling? x).map fun ceiling : Int => (ceiling - attempts).toNat + 1).getD patience := by
  have number : (Cursor.mk strategy (.float x) attempts).limit.number? = some (.binary x) := rfl
  rw [Cursor.asks, number]
  dsimp only
  cases Decimal.ceiling? x <;> rfl

theorem bounds_of_isFinite (finite : x.isFinite = true) : ∃ n, (float x).Bounds n := by
  obtain ⟨ceiling, ceils, above⟩ := Decimal.ceiling_of_isFinite finite
  refine ⟨ceiling.toNat, fun attempts => ?_, fun strategy attempts patience => ?_⟩
  · obtain ⟨outcome, compares, within⟩ := above attempts
    rw [isSpentAt_float, compares]
    have same : Comparison.atLeast.holds outcome.swap = decide (outcome ≠ .gt) := by
      cases outcome <;> rfl
    exact congrArg Except.ok (same.trans (decide_eq_decide.mpr (within.trans (by omega))))
  · rw [asks_float, ceils, Option.map_some, Option.getD_some]
    omega

/-- Of the floats that are not finite, only the one below zero is refused. -/
theorem endless_of_special (special : x.isFinite = false)
    (checked : (float x).compareBy .below (.int 0) = .ok false) : (float x).Endless := by
  have compares : (∀ i, Decimal.compareInt? x i = some .gt) ∨
      ∀ i, Decimal.compareInt? x i = none := by
    rcases Decimal.special_of_not_isFinite special with ⟨negative, infinite⟩ | nothing
    · cases negative with
      | false => exact .inl fun i => by rw [Decimal.compareInt?, infinite]; rfl
      | true =>
        rw [compareBy_numbers (a := .binary x) (b := .whole 0) .below rfl rfl, Number.compare?,
          Decimal.compareInt?, infinite] at checked
        cases checked
    · exact .inr fun i => by rw [Decimal.compareInt?, nothing]
  constructor
  · intro attempts
    rw [isSpentAt_float]
    rcases compares with above | nothing
    · rw [above]
      rfl
    · rw [nothing]
      rfl
  · intro strategy attempts patience
    have unlimited : Decimal.ceiling? x = none := by
      rw [Decimal.ceiling?, Decimal.truncate?]
      rcases Decimal.special_of_not_isFinite special with ⟨negative, infinite⟩ | nothing
      · rw [infinite]
        rfl
      · rw [nothing]
        rfl
    rw [asks_float, unlimited]
    rfl

end Value

/-! ### Accepted policies -/

inductive Strategy.BuiltIn : Strategy → Prop where
  | constant {id delay limit strategy} (made : constant id delay limit = .ok strategy) :
      BuiltIn strategy
  | fixed {id interval limit strategy} (made : fixed id interval limit = .ok strategy) :
      BuiltIn strategy
  | linear {id base cap limit strategy} (made : linear id base cap limit = .ok strategy) :
      BuiltIn strategy
  | exponential {id base multiplier cap jitter limit strategy}
      (made : exponential id base multiplier cap jitter limit = .ok strategy) : BuiltIn strategy
  | fibonacci {id base cap limit strategy} (made : fibonacci id base cap limit = .ok strategy) :
      BuiltIn strategy

def Value.IsBuiltIn (backoff : Value) : Prop :=
  backoff = .null ∨ ∃ strategy, backoff = .strategy strategy ∧ strategy.BuiltIn

/-- A policy that was made directly or built from settings, with no backoff or a built-in one. -/
inductive Policy.Accepted : Policy → Prop where
  | made {maxAttempts delay setting backoff classifier policy} (typed : backoff.IsBuiltIn)
      (made : Policy.make maxAttempts delay setting backoff classifier = .ok policy) :
      Accepted policy
  | built {builder : PolicyBuilder} {id policy} (typed : builder.backoff.IsBuiltIn)
      (built : builder.build id = .ok policy) : Accepted policy

theorem checked_of_validateBackoff {base cap limit jitter : Value}
    (checked : validateBackoff base cap limit jitter = .ok ()) : validateLimit limit = .ok () := by
  rw [validateBackoff] at checked
  obtain ⟨_, -, checked⟩ := ok_of_bind checked
  obtain ⟨_, -, checked⟩ := ok_of_bind checked
  obtain ⟨_, limited, -⟩ := ok_of_bind checked
  exact limited

theorem Strategy.limit_of_constant {id : Nat} {delay limit : Value} {strategy : Strategy}
    (made : constant id delay limit = .ok strategy) : validateLimit strategy.limit = .ok () := by
  rw [constant] at made
  obtain ⟨_, -, made⟩ := ok_of_bind made
  obtain ⟨_, limited, made⟩ := ok_of_bind made
  cases made
  exact limited

theorem Strategy.BuiltIn.limit {strategy : Strategy} (builtIn : strategy.BuiltIn) :
    validateLimit strategy.limit = .ok () := by
  cases builtIn with
  | constant made => exact limit_of_constant made
  | fixed made =>
    rw [Strategy.fixed] at made
    obtain ⟨_, -, made⟩ := ok_of_bind made
    split at made
    · cases made
    · obtain ⟨inner, base, made⟩ := ok_of_bind made
      cases made
      have limited := limit_of_constant base
      exact limited
  | linear made | fibonacci made =>
    obtain ⟨_, checked, made⟩ := ok_of_bind made
    cases made
    exact checked_of_validateBackoff checked
  | exponential made =>
    obtain ⟨_, checked, made⟩ := ok_of_bind made
    obtain ⟨_, -, made⟩ := ok_of_bind made
    cases made
    exact checked_of_validateBackoff checked

namespace Policy

variable {policy : Policy}

theorem backoff_of_make {maxAttempts delay backoff classifier : Value} {setting : Nat}
    (made : make maxAttempts delay setting backoff classifier = .ok policy) :
    policy.backoff = backoff := by
  rw [make] at made
  obtain ⟨_, -, made⟩ := ok_of_bind made
  cases made
  rfl

theorem isBuiltIn_of_strategy {builder : PolicyBuilder} {id : Nat} {delay backoff : Value}
    (typed : builder.backoff.IsBuiltIn) (chosen : builder.strategy id delay = .ok backoff) :
    backoff.IsBuiltIn := by
  rw [PolicyBuilder.strategy] at chosen
  split at chosen
  · split at chosen
    · cases chosen
      exact typed
    · cases chosen
  · split at chosen
    · cases chosen
      exact .inl rfl
    · obtain ⟨strategy, made, rfl⟩ := ok_of_map chosen
      exact .inr ⟨strategy, rfl, .exponential made⟩

theorem Accepted.sound (accepted : policy.Accepted) :
    policy.Sound ∧ policy.backoff.IsBuiltIn := by
  have sound {maxAttempts delay backoff classifier : Value} {setting : Nat}
      (typed : backoff.IsBuiltIn)
      (made : make maxAttempts delay setting backoff classifier = .ok policy) :
      policy.Sound ∧ policy.backoff.IsBuiltIn := by
    refine ⟨sound_of_make (typed.imp_right fun ⟨strategy, given, _⟩ => ⟨strategy, given⟩) made, ?_⟩
    rw [backoff_of_make made]
    exact typed
  cases accepted with
  | made typed made => exact sound typed made
  | built typed built =>
    rw [PolicyBuilder.build] at built
    obtain ⟨backoff, chosen, made⟩ := ok_of_bind built
    exact sound (isBuiltIn_of_strategy typed chosen) made

/-- The limit that counts is whole, or a float that was checked. -/
theorem Accepted.limit (accepted : policy.Accepted) :
    (∃ i, policy.limit.whole? = some i) ∨
      ∃ x, policy.limit = .float x ∧ (Value.float x).compareBy .below (.int 0) = .ok false := by
  obtain ⟨-, absent | ⟨strategy, given, builtIn⟩⟩ := accepted.sound
  · exact .inl ⟨policy.maxAttempts, by rw [Policy.limit, absent]; rfl⟩
  · rw [Policy.limit, given]
    dsimp only
    split
    · exact .inl ⟨policy.maxAttempts, rfl⟩
    · next present =>
      have checked := builtIn.limit
      rw [validateLimit, unlessNull, if_neg present, refuseBelow, refuseWhen_eq_ok] at checked
      cases limit : strategy.limit with
      | float x => exact .inr ⟨x, rfl, limit ▸ checked⟩
      | bool b => exact .inl ⟨_, rfl⟩
      | int i => exact .inl ⟨_, rfl⟩
      | _ =>
        rw [limit, Value.compareBy_int_right] at checked
        cases checked

end Policy

/-! ### Asking again and again -/

def Returns (calculate : Strategy → Value → Task σ Value) : Prop :=
  ∀ strategy attempt s, ∃ delay s', calculate strategy attempt s = (.ok delay, s')

namespace Cursor

def answers (calculate : Strategy → Value → Task σ Value) :
    (asks : Nat) → Cursor → Task σ (List Value)
  | 0, _ => pure []
  | asks + 1, cursor => do
    let (delay, cursor) ← cursor.next calculate
    let rest ← answers calculate asks cursor
    pure (delay :: rest)

variable {calculate : Strategy → Value → Task σ Value} {limit : Value} {n : Nat}

theorem answers_spent {cursor : Cursor} (spent : cursor.isSpent = .ok true) (asks : Nat) (s : σ) :
    cursor.answers calculate asks s = (.ok (List.replicate asks .null), s) := by
  induction asks with
  | zero => rfl
  | succ asks ih =>
    rw [answers, next_spent spent, pure_bind]
    dsimp only
    rw [Task.bind_ok ih]
    rfl

theorem answers_unspent {cursor : Cursor} {delay : Value} {s s' s'' : σ} {rest : List Value}
    {asks : Nat} (spent : cursor.isSpent = .ok false)
    (calculated : calculate cursor.strategy (.int cursor.attempts) s = (.ok delay, s'))
    (answered : answers calculate asks { cursor with attempts := cursor.attempts + 1 } s' =
      (.ok rest, s'')) :
    cursor.answers calculate (asks + 1) s = (.ok (delay :: rest), s'') := by
  rw [answers, next_unspent spent, bind_assoc, Task.bind_ok calculated, pure_bind]
  dsimp only
  rw [Task.bind_ok answered]
  rfl

/-- A bounded cursor hands out no more delays than its limit says, and none ever after. -/
theorem answers_of_bounds (bounds : limit.Bounds n) (returns : Returns calculate)
    (strategy : Strategy) (asks attempts : Nat) (s : σ) :
    ∃ delays s', delays.length ≤ n - attempts ∧
      (Cursor.mk strategy limit attempts).answers calculate asks s =
        (.ok (delays ++ List.replicate (asks - delays.length) .null), s') := by
  induction asks generalizing attempts s with
  | zero => exact ⟨[], s, Nat.zero_le _, rfl⟩
  | succ asks ih =>
    by_cases met : n ≤ attempts
    · have spent : (Cursor.mk strategy limit attempts).isSpent = .ok true :=
        (bounds.spent attempts).trans (congrArg Except.ok (decide_eq_true met))
      exact ⟨[], s, Nat.zero_le _, answers_spent spent (asks + 1) s⟩
    · have spent : (Cursor.mk strategy limit attempts).isSpent = .ok false :=
        (bounds.spent attempts).trans (congrArg Except.ok (decide_eq_false met))
      obtain ⟨delay, s', calculated⟩ := returns strategy (.int attempts) s
      obtain ⟨delays, s'', few, answered⟩ := ih (attempts + 1) s'
      refine ⟨delay :: delays, s'', ?_, ?_⟩
      · rw [List.length_cons]
        omega
      · rw [List.length_cons, Nat.add_sub_add_right]
        exact answers_unspent spent calculated answered

theorem answers_of_endless (endless : limit.Endless) (strategy : Strategy) (delay : Value)
    (asks attempts : Nat) (s : σ) :
    (Cursor.mk strategy limit attempts).answers (fun _ _ => pure delay) asks s =
      (.ok (List.replicate asks delay), s) := by
  induction asks generalizing attempts with
  | zero => rfl
  | succ asks ih => exact answers_unspent (endless.unspent attempts) rfl (ih (attempts + 1))

end Cursor

/-! ### Operations that always fail -/

structure AlwaysFails (journal : List (Entry Call)) : Prop where
  smooth : ∀ entry ∈ journal, entry.Smooth .invoke
  fails : ∀ name v, ⟨name, .invoke, .ok v⟩ ∉ journal
  accepted : ∀ name f, ⟨name, .classify f, .ok (.bool false)⟩ ∉ journal

def Entry.isFailing : Entry Call → Bool
  | ⟨_, .invoke, .ok _⟩ => false
  | ⟨_, .invoke, .error e⟩ => e.isOrdinary
  | ⟨_, .classify _, .ok (.bool accepted)⟩ => accepted
  | ⟨_, _, .ok _⟩ => true
  | ⟨_, _, .error _⟩ => false

theorem Entry.isFailing_iff (entry : Entry Call) :
    entry.isFailing = true ↔ entry.Smooth .invoke ∧
      (∀ name v, (⟨name, .invoke, .ok v⟩ : Entry Call) ≠ entry) ∧
      ∀ name f, (⟨name, .classify f, .ok (.bool false)⟩ : Entry Call) ≠ entry := by
  obtain ⟨name, call, ending⟩ := entry
  cases ending with
  | ok v =>
    have smooth : Entry.Smooth Call.invoke ⟨name, call, .ok v⟩ := Entry.smooth_of_ok rfl
    cases call with
    | classify f => cases v <;> simp [isFailing, smooth]
    | _ => simp [isFailing, smooth]
  | error e =>
    cases call <;> simp [isFailing, Smooth, Aborts]

theorem alwaysFails_iff (journal : List (Entry Call)) :
    journal.all Entry.isFailing = true ↔ AlwaysFails journal := by
  rw [List.all_eq_true]
  simp only [Entry.isFailing_iff]
  constructor
  · intro h
    exact ⟨fun entry member => (h entry member).1,
      fun name v member => (h _ member).2.1 name v rfl,
      fun name f member => (h _ member).2.2 name f rfl⟩
  · intro always entry member
    refine ⟨always.smooth entry member, ?_, ?_⟩
    · rintro name v rfl
      exact always.fails name v member
    · rintro name f rfl
      exact always.accepted name f member

instance (journal : List (Entry Call)) : Decidable (AlwaysFails journal) :=
  decidable_of_iff _ (alwaysFails_iff journal)

namespace Execution

variable {execution : Execution σ} {cursor : Cursor} {earlier : List Failure} {last : Failure}
  {asks n : Nat} {entries : List (Entry Call)} {ending : Except Escape Value}

def FailedWith (entries : List (Entry Call)) (failures : List Failure) : Prop :=
  invocations entries = failures.map fun f => .error (.raised f)

/-- The induction over the rounds: every failure that is retried takes one delay away. -/
theorem Course.spends (course : execution.Course asks cursor earlier last entries ending)
    (bounds : cursor.limit.Bounds n) (enough : asks = n - cursor.attempts + 1)
    (fails : ∀ name v, ⟨name, .invoke, .ok v⟩ ∉ entries)
    (accepted : ∀ name f, ⟨name, .classify f, .ok (.bool false)⟩ ∉ entries) :
    ∃ message final history more,
      ending = .error (.raised (.exhausted message final history execution.operation)) ∧
      more.length ≤ n - cursor.attempts ∧ FailedWith entries more ∧
      earlier ++ last :: more = history ++ [final] := by
  induction course with
  | cutOff => cases enough
  | rejected => exact absurd (.head _) (accepted _ _)
  | @faulted _ cursor _ _ _ _ spent =>
    rw [bounds.isSpent] at spent
    cases spent
  | spent | withheld => exact ⟨_, _, _, [], rfl, Nat.zero_le _, rfl, rfl⟩
  | succeeded =>
    exact absurd (.tail _ (.tail _ (.tail _ (.tail _ (.tail _ (.head _)))))) (fails _ _)
  | @failed _ cursor _ _ _ _ _ _ _ _ _ _ next _ _ spent _ _ ih =>
    rw [bounds.isSpent] at spent
    have within : ¬ n ≤ cursor.attempts := of_decide_eq_false (Except.ok.inj spent)
    obtain ⟨message, final, history, more, ends, few, failed, all⟩ := ih bounds
      (by dsimp only; omega)
      (fun name v member => fails name v (List.mem_append_right [_, _, _, _, _, _, _] member))
      (fun name f member => accepted name f (List.mem_append_right [_, _, _, _, _, _, _] member))
    refine ⟨message, final, history, next :: more, ends, ?_, ?_, ?_⟩
    · rw [List.length_cons]
      dsimp only at few
      omega
    · exact congrArg (Except.error (Escape.raised next) :: ·) failed
    · rw [← all, List.append_assoc, List.singleton_append]

/-- Without a limit that is ever met, a run goes on as long as patience lasts. -/
theorem Course.endless (course : execution.Course asks cursor earlier last entries ending)
    (endless : cursor.limit.Endless) (delays : GivesDelays entries)
    (fails : ∀ name v, ⟨name, .invoke, .ok v⟩ ∉ entries)
    (accepted : ∀ name f, ⟨name, .classify f, .ok (.bool false)⟩ ∉ entries) :
    ending = .error .unfinished ∧ (invocations entries).length = asks := by
  induction course with
  | cutOff => exact ⟨rfl, rfl⟩
  | rejected => exact absurd (.head _) (accepted _ _)
  | @faulted _ cursor _ _ _ _ spent =>
    have compares : cursor.isSpent = _ := endless.unspent cursor.attempts
    rw [compares] at spent
    cases spent
  | @spent _ cursor _ _ _ _ _ spent =>
    have compares : cursor.isSpent = _ := endless.unspent cursor.attempts
    rw [compares] at spent
    cases spent
  | withheld _ absent => exact absurd absent (delays.present (.tail _ (.head _)))
  | succeeded =>
    exact absurd (.tail _ (.tail _ (.tail _ (.tail _ (.tail _ (.head _)))))) (fails _ _)
  | failed _ _ _ ih =>
    obtain ⟨ends, count⟩ := ih endless (delays.drop 7)
      (fun name v member => fails name v (List.mem_append_right [_, _, _, _, _, _, _] member))
      (fun name f member => accepted name f (List.mem_append_right [_, _, _, _, _, _, _] member))
    exact ⟨ends, congrArg (· + 1) count⟩

theorem Passage.spends {strategy : Strategy} {limit : Value}
    (passage : execution.Passage entries ending) (start : execution.start = .ok ⟨strategy, limit, 0⟩)
    (bounds : limit.Bounds n) (fails : ∀ name v, ⟨name, .invoke, .ok v⟩ ∉ entries)
    (accepted : ∀ name f, ⟨name, .classify f, .ok (.bool false)⟩ ∉ entries) :
    ∃ message last earlier,
      ending = .error (.raised (.exhausted message last earlier execution.operation)) ∧
      earlier.length ≤ n ∧ FailedWith entries (earlier ++ [last]) := by
  cases passage with
  | immediate => exact absurd (.tail _ (.head _)) (fails _ _)
  | unstarted fault =>
    rw [start] at fault
    cases fault
  | @retried _ _ first _ _ _ start' course =>
    rw [start] at start'
    cases start'
    obtain ⟨message, last, earlier, more, ends, few, failed, all⟩ :=
      course.spends bounds (bounds.asks strategy 0 _)
        (fun name v member => fails name v (List.mem_append_right [_, _] member))
        (fun name f member => accepted name f (List.mem_append_right [_, _] member))
    refine ⟨message, last, earlier, ends, ?_, ?_⟩
    · have lengths := congrArg List.length all
      rw [List.nil_append, List.length_cons, List.length_append, List.length_singleton] at lengths
      exact Nat.le_trans (Nat.le_of_eq (Nat.succ.inj lengths).symm) few
    · rw [← all]
      exact congrArg (Except.error (Escape.raised first) :: ·) failed

theorem Passage.endless {strategy : Strategy} {limit : Value}
    (passage : execution.Passage entries ending) (start : execution.start = .ok ⟨strategy, limit, 0⟩)
    (endless : limit.Endless) (delays : GivesDelays entries)
    (fails : ∀ name v, ⟨name, .invoke, .ok v⟩ ∉ entries)
    (accepted : ∀ name f, ⟨name, .classify f, .ok (.bool false)⟩ ∉ entries) :
    ending = .error .unfinished ∧ (invocations entries).length = execution.patience + 1 := by
  cases passage with
  | immediate => exact absurd (.tail _ (.head _)) (fails _ _)
  | unstarted fault =>
    rw [start] at fault
    cases fault
  | retried start' course =>
    rw [start] at start'
    cases start'
    obtain ⟨ends, count⟩ := course.endless endless (delays.drop 2)
      (fun name v member => fails name v (List.mem_append_right [_, _] member))
      (fun name f member => accepted name f (List.mem_append_right [_, _] member))
    rw [endless.asks] at count
    exact ⟨ends, congrArg (· + 1) count⟩

end Execution

/-! ### Budgets of policies -/

namespace Policy

variable {policy : Policy}

/-- A policy allows so many retries and no more: its cursors hand out at most as many delays, and
an operation that always fails is given up after at most as many retries, with all its failures. -/
structure Budget (policy : Policy) (n : Nat) : Prop where
  delays : ∃ cursor, policy.start = .ok cursor ∧
    ∀ (σ : Type) (calculate : Strategy → Value → Task σ Value), Returns calculate →
      ∀ asks s, ∃ delays s', delays.length ≤ n ∧ cursor.answers calculate asks s =
        (.ok (delays ++ List.replicate (asks - delays.length) .null), s')
  failures : ∀ (σ ℓ : Type) (template : Template σ ℓ) (operation : Operation σ) (s : σ),
    template.policy s = some policy → AlwaysFails (template.journal operation s) →
      ∃ message last earlier, (template.execute operation s).1 =
          .error (.raised (.exhausted message last earlier operation.self)) ∧
        earlier.length ≤ n ∧
        Execution.FailedWith (template.journal operation s) (earlier ++ [last])

theorem budget_of_bounds {n : Nat} (sound : policy.Sound) (bounds : policy.limit.Bounds n) :
    policy.Budget n := by
  obtain ⟨strategy, -, start⟩ := sound.start
  constructor
  · exact ⟨_, start, fun σ calculate returns asks s =>
      Cursor.answers_of_bounds bounds returns strategy asks 0 s⟩
  · intro σ ℓ template operation s held always
    have starts : (template.started operation s).start = _ :=
      (Template.started_start held).trans start
    exact (Template.execute_passage always.smooth).spends starts bounds always.fails
      always.accepted

theorem not_budget_of_endless (sound : policy.Sound) (endless : policy.limit.Endless) (n : Nat) :
    ¬ policy.Budget n := by
  rintro ⟨⟨cursor, start, answers⟩, -⟩
  obtain ⟨strategy, -, start'⟩ := sound.start
  rw [start] at start'
  cases start'
  -- With a delay of zero every answer is zero, and so none is absent.
  have returns : Returns fun _ _ => (pure (.int 0) : Task Unit Value) :=
    fun _ _ s => ⟨.int 0, s, rfl⟩
  obtain ⟨delays, s', few, answered⟩ := answers Unit _ returns (n + 1) ()
  rw [Cursor.answers_of_endless endless] at answered
  have same : List.replicate (n + 1) (Value.int 0) = _ := Except.ok.inj (congrArg Prod.fst answered)
  have absent : Value.null ∈ List.replicate (n + 1) (Value.int 0) := by
    rw [same]
    exact List.mem_append_right _ (List.mem_replicate.mpr ⟨by omega, rfl⟩)
  cases (List.mem_replicate.mp absent).2

/-- A policy that was accepted has a finite budget exactly if its limit is no infinite float and
no float that is no number. Under any other limit, an operation that always fails is invoked for as
long as patience lasts. -/
theorem Accepted.budget_iff (accepted : policy.Accepted) :
    ((∃ n, policy.Budget n) ↔ ∀ x, policy.limit = .float x → x.isFinite = true) ∧
      ∀ x, policy.limit = .float x → x.isFinite = false →
        ∀ (σ ℓ : Type) (template : Template σ ℓ) (operation : Operation σ) (s : σ),
          template.policy s = some policy → AlwaysFails (template.journal operation s) →
            GivesDelays (template.journal operation s) →
              (template.execute operation s).1 = .error .unfinished ∧
                (invocations (template.journal operation s)).length = template.patience + 1 := by
  have sound := accepted.sound.1
  have endless {x : Float} (limit : policy.limit = .float x) (special : x.isFinite = false) :
      policy.limit.Endless := by
    rcases accepted.limit with ⟨i, whole⟩ | ⟨y, limit', checked⟩
    · rw [limit] at whole
      cases whole
    · rw [limit] at limit'
      cases limit'
      rw [limit]
      exact Value.endless_of_special special checked
  refine ⟨⟨?_, ?_⟩, ?_⟩
  · rintro ⟨n, budget⟩ x limit
    cases special : x.isFinite with
    | true => rfl
    | false => exact absurd budget (not_budget_of_endless sound (endless limit special) n)
  · intro finite
    rcases accepted.limit with ⟨i, whole⟩ | ⟨x, limit, -⟩
    · exact ⟨i.toNat, budget_of_bounds sound (Value.bounds_of_whole whole)⟩
    · obtain ⟨n, bounds⟩ := Value.bounds_of_isFinite (finite x limit)
      exact ⟨n, budget_of_bounds sound (limit ▸ bounds)⟩
  · intro x limit special σ ℓ template operation s held always delays
    obtain ⟨strategy, -, start⟩ := sound.start
    have starts : (template.started operation s).start = _ :=
      (Template.started_start held).trans start
    exact (Template.execute_passage always.smooth).endless starts (endless limit special) delays
      always.fails always.accepted

/-- A strategy that hands out the same delay two and a half times. -/
theorem Accepted.budget_iff_halves :
    let strategy : Strategy := ⟨1, .float 2.5, .fixed (.int 0), []⟩
    let policy : Policy := ⟨3, .float 1.0, 0, .strategy strategy, .classifier .all⟩
    policy.Accepted ∧ AlwaysFails ((Template.quiet policy).journal (.failing 9) 0) ∧
      ∃ n, policy.Budget n ∧ ∃ message last earlier,
        ((Template.quiet policy).execute (.failing 9) 0).1 =
            .error (.raised (.exhausted message last earlier (.operation 0))) ∧
          earlier.length ≤ n := by
  intro strategy policy
  have made : Strategy.fixed 1 (.int 0) (.float 2.5) = .ok strategy := by rfl
  have made' : make (.int 3) (.float 1.0) 0 (.strategy strategy) (.classifier .all) =
      .ok policy := by rfl
  have accepted : policy.Accepted := .made (.inr ⟨strategy, rfl, .fixed made⟩) made'
  have always : AlwaysFails ((Template.quiet policy).journal (.failing 9) 0) := by decide
  have finite (x : Float) (limit : policy.limit = .float x) : x.isFinite = true := by
    cases limit
    decide
  obtain ⟨n, budget⟩ := accepted.budget_iff.1.mpr finite
  obtain ⟨message, last, earlier, ends, few, -⟩ :=
    budget.failures Nat Unit (Template.quiet policy) (.failing 9) 0 rfl always
  exact ⟨accepted, always, n, budget, message, last, earlier, ends, few⟩

/-- A policy under which a failing operation is retried for ever, though its strategy is one that
always has a limit. -/
theorem accepted_without_budget :
    let strategy : Strategy := ⟨1, .float (1.0 / 0.0), .fixed (.int 0), []⟩
    let policy : Policy := ⟨3, .float 1.0, 0, .strategy strategy, .classifier .all⟩
    policy.Accepted ∧ ∀ n, ¬ policy.Budget n := by
  intro strategy policy
  have made : Strategy.fixed 1 (.int 0) (.float (1.0 / 0.0)) = .ok strategy := by rfl
  have made' : make (.int 3) (.float 1.0) 0 (.strategy strategy) (.classifier .all) =
      .ok policy := by rfl
  have accepted : policy.Accepted := .made (.inr ⟨strategy, rfl, .fixed made⟩) made'
  refine ⟨accepted, not_budget_of_endless accepted.sound.1 ?_⟩
  exact Value.endless_of_special (by decide) (by rfl)

end Policy

end Reattempt
