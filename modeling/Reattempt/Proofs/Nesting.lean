import Mathlib.Data.List.Forall2
import Reattempt.Proofs.Answers
import Reattempt.Proofs.Spending
import Reattempt.Proofs.Visits

/-!
# Nested executions

The body of an operation may run an execution of its own, on another template or on the same one,
and so may the operation of that. Every one of these executions has its full budget and a history
of its own, by `Template.Allows.keepsToItself`. If the innermost operation keeps failing and no
failure is rejected, the limits multiply, by `Persists.carries`.
-/

namespace Reattempt

variable {σ ℓ α β : Type}

/-! ### Lists that follow a sequence -/

def prepend (b : β) (rest : Nat → β) : Nat → β
  | 0 => b
  | i + 1 => rest i

theorem exists_follows {items : List α} {entry : β → α} (fallback : β)
    (h : ∀ item ∈ items, ∃ b, item = entry b) :
    ∃ sequence : Nat → β, (Follows items fun i => entry (sequence i)) ∧
      ∀ i, items.length ≤ i → sequence i = fallback := by
  induction items with
  | nil =>
    refine ⟨fun _ => fallback, ?_, fun _ _ => rfl⟩
    intro i item found
    cases found
  | cons item items ih =>
    obtain ⟨b, same⟩ := h item (.head _)
    obtain ⟨rest, follows, beyond⟩ := ih fun other member => h other (.tail _ member)
    refine ⟨prepend b rest, ?_, ?_⟩
    · intro i other found
      cases i with
      | zero =>
        obtain rfl : item = other := Option.some.inj found
        exact same
      | succ i => exact follows i other found
    · intro i past
      cases i with
      | zero => exact absurd past (Nat.not_succ_le_zero _)
      | succ i => exact beyond i (Nat.le_of_succ_le_succ past)

namespace Execution

variable {execution : Execution σ} {s : σ}

theorem invoked_ordinary (smooth : ∀ entry ∈ execution.journal s, entry.Smooth .invoke) :
    ∀ ending ∈ invocations (execution.journal s),
      ∃ outcome : Except Failure Value, ending = outcome.mapError .raised := by
  intro ending member
  obtain ⟨⟨name, call, ending'⟩, present, shown⟩ := List.mem_filterMap.mp member
  cases call with
  | invoke =>
    obtain rfl : ending' = ending := Option.some.inj shown
    obtain ⟨outcome, -, ends⟩ := taken_of_smooth (smooth _ present)
    exact ⟨outcome, ends⟩
  | _ => cases shown

theorem classified_returns (smooth : ∀ entry ∈ execution.journal s, entry.Smooth .invoke) :
    ∀ ending ∈ classifications (execution.journal s),
      ∃ accepted, ending = .ok (.bool accepted) := by
  intro ending member
  obtain ⟨⟨name, call, ending'⟩, present, shown⟩ := List.mem_filterMap.mp member
  cases call with
  | classify f =>
    obtain rfl : ending' = ending := Option.some.inj shown
    obtain ⟨before, ends⟩ := (execution.journal_answered s _ present).ending
    have mapped : ending' = (execution.accepts f before).1.map .bool := by
      rw [show ending' = _ from ends, answer, Task.map_apply]
    have returns : Entry.Smooth Call.invoke ⟨name, .classify f, ending'⟩ := smooth _ present
    rw [mapped] at returns
    obtain ⟨accepted, returned⟩ := returns.returns fun same => by cases same
    exact ⟨accepted, by rw [mapped, returned]; rfl⟩
  | _ => cases shown

end Execution

/-! ### What each execution comes to -/

namespace Template

variable {template : Template σ ℓ} {operation : Operation σ} {limit : Nat} {s : σ}

/-- What an execution comes to: it asks for the delays of its own budget from the first one on, it
gives up at a failure that is rejected or after as many retries as the limit says, and it carries
what its own operation raised and nothing else. -/
structure Settlement (template : Template σ ℓ) (operation : Operation σ) (limit : Nat) (s : σ)
    (strategy : Strategy) (retried : List Failure) (last : Except Failure Value) : Prop where
  invoked : invocations (template.journal operation s) =
    retried.map (fun f => .error (.raised f)) ++ [last.mapError .raised]
  judged : judgements (template.journal operation s) =
    Execution.roundJudgements strategy 0 retried ++ Execution.lastJudgement last
  within : retried.length ≤ limit
  stopped : ∀ f, last = .error f → retried.length = limit ∨
    (classifications (template.journal operation s))[retried.length]? = some (.ok (.bool false))
  ends : Execution.Concludes operation.self retried (template.execute operation s).1 last

theorem Governed.settles (governed : template.Governed operation limit s) :
    ∃ strategy retried last, template.Settlement operation limit s strategy retried last := by
  have smooth := governed.undisturbed.smooth
  obtain ⟨strategy, bound, start, bounds⟩ := governed.allows.start
  obtain ⟨outcome, invoked, -⟩ := exists_follows (.ok .null) (Execution.invoked_ordinary smooth)
  obtain ⟨verdict, judged, beyond⟩ := exists_follows true (Execution.classified_returns smooth)
  obtain ⟨k, ⟨stops, least⟩, calls, retried, failures, judges, ends⟩ :=
    governed.passage.account_of_bounds start bounds governed.undisturbed.delays invoked judged
  have counted : retried.length = k := by
    have lengths := congrArg List.length failures
    rw [List.length_map, List.length_map, List.length_range] at lengths
    exact lengths.symm
  refine ⟨strategy, retried, outcome k, ?_, judges, ?_, ?_, ends⟩
  · have raised := congrArg (List.map (Except.mapError Escape.raised)) failures
    rw [List.map_map, List.map_map] at raised
    rw [show invocations (template.journal operation s) = _ from calls, List.range_succ,
      List.map_append]
    exact congrArg (· ++ [(outcome k).mapError Escape.raised]) raised
  · rw [counted]
    exact least (.inr (.inr rfl))
  · intro f failed
    rw [counted]
    rcases stops with ⟨result, returned⟩ | rejected | met
    · rw [failed] at returned
      cases returned
    · -- Beyond its end the list says nothing, so the verdict is an entry.
      have present : k < (classifications (template.journal operation s)).length := by
        refine Nat.lt_of_not_le fun past => ?_
        have accepted : verdict k = true := beyond k past
        rw [rejected] at accepted
        cases accepted
      have found := List.getElem?_eq_getElem present
      have entry : _ = Except.ok (Value.bool (verdict k)) := judged k _ found
      rw [found, entry, rejected]
      exact .inr rfl
    · exact .inl met

structure KeepsToItself (template : Template σ ℓ) (operation : Operation σ) (limit : Nat) (s : σ) :
    Prop where
  spends : ∃ strategy k, k ≤ limit ∧
    asked (template.journal operation s) =
      (List.range k).map (fun i => .calculate strategy (.int i)) ∧
    (invocations (template.journal operation s)).length ≤ k + 1
  settles : Undisturbed (template.journal operation s) → ∃ strategy retried last,
    template.Settlement operation limit s strategy retried last

theorem Allows.keepsToItself (allows : template.Allows limit s) :
    template.KeepsToItself operation limit s :=
  ⟨allows.spends, fun undisturbed => Governed.settles ⟨allows, undisturbed⟩⟩

end Template

/-! ### Failures that carry others -/

/-- A failure that ended one of several nested executions, from the outermost on: it carries one
failure more than there were retries, each of which ended an execution further within, and what
the innermost operation raised is carried in order. -/
def Failure.Carries : List Nat → Failure → List Failure → Prop
  | [], f, raised => raised = [f]
  | limit :: limits, f, raised => f.kind = Kind.exhausted ∧
      ∃ (failures : List Failure) (parts : List (List Failure)),
        f.detail.failures = failures.map .failure ∧ failures.length = limit + 1 ∧
        List.Forall₂ (Carries limits) failures parts ∧ raised = parts.flatten

theorem forall₂_of_map_eq {γ : Type} {R : α → β → Prop} {f : α → γ} {g : β → γ} {as : List α}
    {bs : List β} (same : as.map f = bs.map g) (h : ∀ b ∈ bs, ∀ a, f a = g b → R a b) :
    List.Forall₂ R as bs := by
  induction as generalizing bs with
  | nil =>
    obtain rfl : bs = [] := List.map_eq_nil_iff.mp same.symm
    exact .nil
  | cons a as ih =>
    cases bs with
    | nil => cases same
    | cons b bs =>
      obtain ⟨first, rest⟩ := List.cons.inj same
      exact .cons (h b (.head _) a first) (ih rest fun b' member => h b' (.tail _ member))

/-- How often the innermost of nested operations is invoked if all attempts at all of them are
made. -/
def allAttempts : List Nat → Nat
  | [] => 1
  | limit :: limits => (limit + 1) * allAttempts limits

/-! ### Executions that keep failing -/

namespace Template

variable {template : Template σ ℓ} {operation : Operation σ} {limit size : Nat} {s : σ}
  {limits : List Nat} {log : σ → List Failure}

/-- An execution that rejects no failure and leaves a log to its operation. -/
structure Persistent (template : Template σ ℓ) (operation : Operation σ) (limit : Nat)
    (log : σ → List Failure) (s : σ) : Prop extends template.Governed operation limit s where
  accepted : .ok (.bool false) ∉ classifications (template.journal operation s)
  spares : template.Spares log

theorem Persistent.gives_up (persistent : template.Persistent operation limit log s)
    (fails : ∀ visit ∈ template.visits operation s, ∃ f, visit.entry.ending = .error (.raised f)) :
    ∃ message last earlier, (template.execute operation s).1 =
        .error (.raised (.exhausted message last earlier operation.self)) ∧
      (earlier ++ [last]).length = limit + 1 ∧
      (earlier ++ [last]).map (fun f => .error (.raised f)) =
        (template.visits operation s).map fun visit => visit.entry.ending := by
  obtain ⟨strategy, retried, last, settled⟩ := persistent.toGoverned.settles
  have endings := invocations_journal.symm.trans settled.invoked
  cases last with
  | ok v =>
    have returned : .ok v ∈ (template.visits operation s).map fun visit => visit.entry.ending := by
      rw [endings]
      exact List.mem_append_right _ (.head _)
    obtain ⟨visit, member, ends⟩ := List.mem_map.mp returned
    obtain ⟨f, raised⟩ := fails visit member
    rw [raised] at ends
    cases ends
  | error last =>
    obtain ⟨name, ends⟩ := settled.ends
    refine ⟨_, last, retried, ends, ?_, ?_⟩
    · rcases settled.stopped last rfl with met | rejected
      · rw [List.length_append, List.length_singleton, met]
      · exact absurd (List.mem_of_getElem? rejected) persistent.accepted
    · rw [endings, List.map_append]
      rfl

theorem Persistent.carries (persistent : template.Persistent operation limit log s)
    (visits : ∀ visit ∈ template.visits operation s, ∃ f raised,
      visit.entry.ending = .error (.raised f) ∧ log visit.after = log visit.before ++ raised ∧
        raised.length = size ∧ f.Carries limits raised) :
    ∃ f raised, (template.execute operation s).1 = .error (.raised f) ∧
      log (template.execute operation s).2 = log s ++ raised ∧
      raised.length = (limit + 1) * size ∧ f.Carries (limit :: limits) raised := by
  let gain (visit : Moment σ ℓ) : List Failure := (log visit.after).drop (log visit.before).length
  have gains : ∀ visit ∈ template.visits operation s, ∃ f,
      visit.entry.ending = .error (.raised f) ∧ log visit.after = log visit.before ++ gain visit ∧
        (gain visit).length = size ∧ f.Carries limits (gain visit) := by
    intro visit member
    obtain ⟨f, raised, ends, adds, sized, carries⟩ := visits visit member
    have same : gain visit = raised := by
      show (log visit.after).drop _ = raised
      rw [adds, List.drop_left]
    rw [same]
    exact ⟨f, ends, adds, sized, carries⟩
  obtain ⟨message, last, earlier, ends, counted, endings⟩ := persistent.gives_up fun visit member =>
    (gains visit member).imp fun _ holds => holds.1
  have grows : log (template.execute operation s).2 =
      log s ++ (template.visits operation s).flatMap gain :=
    gains_visits persistent.spares fun visit member => (gains visit member).elim
      fun _ holds => holds.2.1
  refine ⟨_, ((template.visits operation s).map gain).flatten, ends, ?_, ?_, rfl, earlier ++ [last],
    (template.visits operation s).map gain, ?_, counted, ?_, rfl⟩
  · rw [grows, List.flatMap_def]
  · have visited := congrArg List.length endings
    rw [List.length_map, List.length_map, counted] at visited
    -- All visits add as much, so what they add multiplies.
    have sizes : ∀ n ∈ ((template.visits operation s).map gain).map List.length, n = size := by
      intro n member
      obtain ⟨part, member', rfl⟩ := List.mem_map.mp member
      obtain ⟨visit, present, rfl⟩ := List.mem_map.mp member'
      obtain ⟨f, -, -, sized, -⟩ := gains visit present
      exact sized
    rw [List.length_flatten, List.eq_replicate_of_mem sizes, List.sum_replicate_nat,
      List.length_map, List.length_map, ← visited]
  · show earlier.map Value.failure ++ [Value.failure last] = _
    rw [List.map_append]
    rfl
  · rw [List.forall₂_map_right_iff]
    refine forall₂_of_map_eq endings fun visit member f same => ?_
    obtain ⟨g, raised, -, -, carries⟩ := gains visit member
    rw [raised] at same
    cases same
    exact carries

end Template

/-! ### Executions within executions -/

/-- An execution on a template within the body of an operation. -/
structure Level (σ ℓ : Type) where
  template : Template σ ℓ
  limit : Nat
  name : σ → String
  self : Value
  body : Task σ Value → Task σ (Reply σ)

def Level.around (level : Level σ ℓ) (operation : Operation σ) : Operation σ :=
  ⟨level.name, level.self, level.body (level.template.execute operation)⟩

def nest (f : Operation σ) : List (Level σ ℓ) → Operation σ
  | [] => f
  | level :: inner => level.around (nest f inner)

/-- A visit that runs an execution from a state, ends as it does and leaves a log to it. -/
structure Moment.Runs (visit : Moment σ ℓ) (log : σ → List Failure) (t : Task σ Value) (start : σ) :
    Prop where
  before : log start = log visit.before
  ending : visit.entry.ending = (t start).1
  after : log visit.after = log (t start).2

/-- A visit of nested executions all of which reject nothing, where the innermost operation always
raises a failure and logs it. -/
def Persists (log : σ → List Failure) (f : Operation σ) : List (Level σ ℓ) → Moment σ ℓ → Prop
  | [], visit => ∃ e, visit.entry.ending = .error (.raised e) ∧
      log visit.after = log visit.before ++ [e]
  | level :: inner, visit => ∃ start,
      visit.Runs log (level.template.execute (nest f inner)) start ∧
      level.template.Persistent (nest f inner) level.limit log start ∧
      ∀ further ∈ level.template.visits (nest f inner) start, Persists log f inner further

variable {log : σ → List Failure} {f : Operation σ}

theorem Level.runs {outer : Template σ ℓ} {level : Level σ ℓ} {operation : Operation σ} {s : σ}
    (body : (∀ t, level.body t = Reply.ready <$> t) ∨
      outer.flavour = .awaited ∧ ∀ t, level.body t = pure (.pending t))
    (log : σ → List Failure) {visit : Moment σ ℓ}
    (member : visit ∈ outer.visits (level.around operation) s)
    (smooth : ∀ entry ∈ level.template.journal operation visit.before, entry.Smooth .invoke) :
    visit.Runs log (level.template.execute operation) visit.before := by
  have performs : outer.flavour.perform (level.around operation) visit.before =
      ((level.template.execute operation visit.before).1.mapError outer.flavour.outward,
        (level.template.execute operation visit.before).2) := by
    rcases body with ready | ⟨awaited, pending⟩
    · refine Flavour.perform_ready ?_ outer.flavour
      show level.body (level.template.execute operation) visit.before = _
      rw [ready, Task.map_apply]
    · rw [awaited, Flavour.perform, around, pending, pure_bind, Flavour.insulate_apply]
      rfl
  rw [(Template.execute_passage smooth).crosses, Template.visit_performs member] at performs
  obtain ⟨ends, left⟩ := Prod.mk.inj performs
  exact ⟨rfl, ends, congrArg log left⟩

/-- The induction over the nesting. -/
theorem Persists.carries {levels : List (Level σ ℓ)} {visit : Moment σ ℓ}
    (persists : Persists log f levels visit) :
    ∃ e raised, visit.entry.ending = .error (.raised e) ∧
      log visit.after = log visit.before ++ raised ∧
      raised.length = allAttempts (levels.map Level.limit) ∧
      e.Carries (levels.map Level.limit) raised := by
  induction levels generalizing visit with
  | nil =>
    obtain ⟨e, ends, adds⟩ := persists
    exact ⟨e, [e], ends, adds, rfl, rfl⟩
  | cons level inner ih =>
    obtain ⟨start, runs, persistent, further⟩ := persists
    obtain ⟨e, raised, ends, adds, sized, carries⟩ :=
      persistent.carries fun visit member => ih (further visit member)
    refine ⟨e, raised, runs.ending.trans ends, ?_, ?_, carries⟩
    · rw [runs.after, adds, runs.before]
    · rw [sized, List.map_cons, allAttempts]

namespace Template

/-- Nested executions do not interfere. Whatever the body of an operation does with executions, and
however these end, the execution around it and those that it runs keep to themselves. If the
innermost operation always raises and nothing is rejected, the limits multiply: what it raised is
carried by the failures that the outermost failure carries, in the order in which it was raised. -/
theorem nested_executions :
    (∀ (outer : Template σ ℓ) (level : Level σ ℓ) (f : Operation σ) (limit : Nat) (s : σ),
      outer.Allows limit s → outer.KeepsToItself (level.around f) limit s ∧
        ∀ start, level.template.Allows level.limit start →
          level.template.KeepsToItself f level.limit start) ∧
    ∀ (log : σ → List Failure) (f : Operation σ) (outer : Template σ ℓ) (limit : Nat)
      (inner : List (Level σ ℓ)) (s : σ), outer.Persistent (nest f inner) limit log s →
      (∀ visit ∈ outer.visits (nest f inner) s, Persists log f inner visit) →
        ∃ error raised, (outer.execute (nest f inner) s).1 = .error (.raised error) ∧
          log (outer.execute (nest f inner) s).2 = log s ++ raised ∧
          raised.length = allAttempts (limit :: inner.map Level.limit) ∧
          error.Carries (limit :: inner.map Level.limit) raised := by
  constructor
  · intro outer level f limit s allows
    exact ⟨allows.keepsToItself, fun start within => within.keepsToItself⟩
  · intro log f outer limit inner s persistent persists
    exact persistent.carries fun visit member => (persists visit member).carries

end Template

/-! ### An execution on a template within an execution on the same one -/

def Operation.hopeless : Operation Nat where
  name _ := "sample"
  self := .operation 0
  invoke := fun n => (.error (.raised (.plain n Kind.valueError [])), n + 1)

/-- What has been raised when so many invocations have failed. -/
def Operation.raisedUntil (n : Nat) : List Failure :=
  (List.range n).map fun i => .plain i Kind.valueError []

namespace Template

def once : Template Nat Unit := quiet ⟨1, .int 0, 0, .null, .classifier .all⟩

theorem once_persistent {operation : Operation Nat}
    (ordinary : ∀ s e, (Flavour.direct.perform operation s).1 = .error e → e.isOrdinary = true)
    (s : Nat) : once.Persistent operation 1 Operation.raisedUntil s where
  allows := ⟨_, rfl, ⟨rfl, .inl rfl⟩, Value.bounds_of_whole (i := 1) rfl⟩
  undisturbed := (quiet_calm rfl rfl rfl ordinary).undisturbed s
  accepted := by
    intro member
    obtain ⟨⟨name, call, ending⟩, present, shown⟩ := List.mem_filterMap.mp member
    cases call with
    | classify f =>
      have accepted : ending = .ok (.bool true) := Execution.journal_classifiedBy
        (fun f s => congrArg Prod.fst (quiet_accepts rfl f s)) s _ present f rfl
      cases shown
      cases accepted
    | _ => cases shown
  spares := ⟨fun _ _ _ => rfl, fun _ _ => rfl, fun _ _ _ => rfl, fun _ _ => rfl, fun _ _ => rfl,
    fun _ _ _ _ _ => rfl⟩

theorem hopeless_performs (n : Nat) : Flavour.direct.perform .hopeless n =
    (.error (.raised (.plain n Kind.valueError [])), n + 1) := rfl

theorem once_hopeless (s : Nat) : once.Persistent .hopeless 1 Operation.raisedUntil s := by
  refine once_persistent (fun n e ends => ?_) s
  rw [hopeless_performs] at ends
  cases ends
  rfl

theorem hopeless_visit {s : Nat} : ∀ visit ∈ once.visits .hopeless s,
    ∃ e, visit.entry.ending = .error (.raised e) ∧
      Operation.raisedUntil visit.after = Operation.raisedUntil visit.before ++ [e] := by
  intro visit member
  have performs : (_, _) = (visit.entry.ending, visit.after) := visit_performs member
  obtain ⟨ends, left⟩ := Prod.mk.inj performs
  refine ⟨.plain visit.before Kind.valueError [], ends.symm, ?_⟩
  rw [← left]
  show Operation.raisedUntil (visit.before + 1) = _
  rw [Operation.raisedUntil, List.range_succ, List.map_append]
  rfl

def reentrant : Level Nat Unit :=
  ⟨once, 1, fun _ => "around", .operation 1, fun t => Reply.ready <$> t⟩

theorem reentrant_ordinary (s : Nat) (e : Escape)
    (ends : (Flavour.direct.perform (reentrant.around .hopeless) s).1 = .error e) :
    e.isOrdinary = true := by
  obtain ⟨f, raised, failed, -, -, kind, -⟩ := (once_hopeless s).carries fun visit member => by
    obtain ⟨e, ends, adds⟩ := hopeless_visit visit member
    exact ⟨e, [e], ends, adds, rfl, show e.Carries [] [e] from rfl⟩
  have performs : Flavour.direct.perform (reentrant.around .hopeless) s = _ :=
    Flavour.perform_ready (Task.map_apply Reply.ready (once.execute .hopeless) s) .direct
  rw [performs, failed] at ends
  cases ends
  show f.kind.isA Kind.exception = true
  rw [kind]
  rfl

/-- With one retry each, an execution within another one on the same template makes an operation
fail four times. -/
theorem nested_executions_reentrant :
    once.Allows 1 0 ∧
      once.Persistent (nest .hopeless [reentrant]) 1 Operation.raisedUntil 0 ∧
      (∀ visit ∈ once.visits (nest .hopeless [reentrant]) 0,
        Persists Operation.raisedUntil .hopeless [reentrant] visit) ∧
      once.KeepsToItself (reentrant.around .hopeless) 1 0 ∧
      ∃ error raised, (once.execute (nest .hopeless [reentrant]) 0).1 = .error (.raised error) ∧
        raised.length = 4 ∧ error.Carries [1, 1] raised := by
  have persistent : once.Persistent (nest .hopeless [reentrant]) 1 Operation.raisedUntil 0 :=
    once_persistent reentrant_ordinary 0
  have persists : ∀ visit ∈ once.visits (nest .hopeless [reentrant]) 0,
      Persists Operation.raisedUntil .hopeless [reentrant] visit := by
    intro visit member
    have within := once_hopeless visit.before
    exact ⟨visit.before, Level.runs (.inl fun _ => rfl) _ member within.undisturbed.smooth, within,
      hopeless_visit⟩
  obtain ⟨keeps, multiplies⟩ := nested_executions (σ := Nat) (ℓ := Unit)
  obtain ⟨kept, -⟩ := keeps once reentrant .hopeless 1 0 persistent.allows
  obtain ⟨error, raised, ends, -, counted, carries⟩ :=
    multiplies Operation.raisedUntil .hopeless once 1 [reentrant] 0 persistent persists
  exact ⟨persistent.allows, persistent, persists, kept, error, raised, ends, counted, carries⟩

end Template

end Reattempt
