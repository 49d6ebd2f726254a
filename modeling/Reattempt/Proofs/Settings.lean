import Mathlib.Data.List.Induction
import Reattempt.Policy.Builder
import Reattempt.Proofs.Budget

/-!
# Orders of settings

Settings of different methods do not meet. What a builder holds after some calls depends only on
what each method was given, in its own order: the last value, or, for kinds and tests, everything
that was given. So calls of different methods can be exchanged, and a policy is built or refused
as before.
-/

namespace Reattempt

def Value.orDefault (v fallback : Value) : Value := if v.isNull then fallback else v

namespace PolicyBuilder

/-! ### Calls -/

inductive Method where
  | maxAttempts
  | delay
  | multiplier
  | maxDelay
  | jitter
  | backoff
  | includes
  | excludes
  | predicate
deriving DecidableEq

namespace Setting

def method : Setting → Method
  | .maxAttempts _ => .maxAttempts
  | .delay _ => .delay
  | .multiplier _ => .multiplier
  | .maxDelay _ => .maxDelay
  | .jitter _ => .jitter
  | .backoff _ => .backoff
  | .includes _ => .includes
  | .excludes _ => .excludes
  | .predicate _ => .predicate

def values : Setting → List Value
  | .maxAttempts v | .delay v | .multiplier v | .maxDelay v | .jitter v | .backoff v
  | .predicate v => [v]
  | .includes kinds | .excludes kinds => kinds

def rules : Setting → Classifier
  | .includes kinds => ⟨kinds, [], []⟩
  | .excludes kinds => ⟨[], kinds, []⟩
  | .predicate v => ⟨[], [], [v]⟩
  | _ => .all

def Converts : Setting → Prop
  | .delay v | .maxDelay v => ∃ seconds, v.toSeconds = .ok seconds
  | _ => True

end Setting

/-- A call on a builder; the number tells delays of different calls apart. -/
structure Call where
  number : Nat
  setting : Setting

def applyAll (builder : PolicyBuilder) (calls : List Call) : Except Fault PolicyBuilder :=
  calls.foldlM (fun builder call => builder.apply call.number call.setting) builder

def callsOf (method : Method) (calls : List Call) : List Call :=
  calls.filter fun call => call.setting.method = method

/-- Each method gets the same settings in the same order. -/
def Reordered (calls calls' : List Call) : Prop :=
  ∀ method, (callsOf method calls).map Call.setting = (callsOf method calls').map Call.setting

/-! ### What calls come to -/

def given (method : Method) (calls : List Call) : List Value :=
  (callsOf method calls).flatMap fun call => call.setting.values

def latest (method : Method) (calls : List Call) : Option Value :=
  (given method calls).getLast?

def delayCall (calls : List Call) : Nat :=
  ((callsOf .delay calls).getLast?.map Call.number).getD 0

/-- A value in seconds, or the absent value if it cannot be turned into seconds. -/
def secondsOf (v : Value) : Value :=
  match v.toSeconds with
  | .ok seconds => .float seconds
  | .error _ => .null

/-- What a builder holds after some calls: the last value of each method, in seconds for delays
and caps, and all kinds and tests in order. -/
def gathered (calls : List Call) : PolicyBuilder where
  maxAttempts := (latest .maxAttempts calls).getD (.int defaultMaxAttempts)
  delay := ((latest .delay calls).map secondsOf).getD .null
  delaySetting := delayCall calls
  multiplier := (latest .multiplier calls).getD .null
  maxDelay := ((latest .maxDelay calls).map secondsOf).getD .null
  jitter := (latest .jitter calls).getD .null
  backoff := (latest .backoff calls).getD .null
  includes := given .includes calls
  excludes := given .excludes calls
  predicates := given .predicate calls

variable {calls calls' : List Call} {call : Call} {method : Method}

theorem callsOf_snoc (method : Method) (calls : List Call) (call : Call) :
    callsOf method (calls ++ [call]) =
      if call.setting.method = method then callsOf method calls ++ [call]
      else callsOf method calls := by
  unfold callsOf
  rw [List.filter_append]
  by_cases same : call.setting.method = method
  · simp only [same, List.filter_cons, List.filter_nil, decide_true, if_true]
  · simp only [same, List.filter_cons, List.filter_nil, decide_false, if_false, List.append_nil,
      Bool.false_eq_true]

theorem given_snoc (method : Method) (calls : List Call) (call : Call) :
    given method (calls ++ [call]) =
      if call.setting.method = method then given method calls ++ call.setting.values
      else given method calls := by
  unfold given
  rw [callsOf_snoc]
  split
  · rw [List.flatMap_append, List.flatMap_singleton]
  · rfl

theorem latest_snoc (method : Method) (calls : List Call) (call : Call) :
    latest method (calls ++ [call]) =
      if call.setting.method = method then call.setting.values.getLast?.or (latest method calls)
      else latest method calls := by
  unfold latest
  rw [given_snoc]
  split
  · rw [List.getLast?_append]
  · rfl

theorem delayCall_snoc (calls : List Call) (call : Call) :
    delayCall (calls ++ [call]) =
      if call.setting.method = .delay then call.number else delayCall calls := by
  unfold delayCall
  rw [callsOf_snoc]
  split
  · rw [List.getLast?_concat]
    rfl
  · rfl

theorem secondsOf_ok {v : Value} {seconds : Float} (converts : v.toSeconds = .ok seconds) :
    secondsOf v = .float seconds := by
  rw [secondsOf, converts]

theorem gathered_apply (calls : List Call) (converts : call.setting.Converts) :
    (gathered calls).apply call.number call.setting = .ok (gathered (calls ++ [call])) := by
  obtain ⟨number, setting⟩ := call
  unfold gathered
  simp only [given_snoc, latest_snoc, delayCall_snoc]
  cases setting with
  | delay v | maxDelay v =>
    obtain ⟨seconds, converts⟩ := converts
    have inSeconds := secondsOf_ok converts
    rw [apply, converts]
    simp only [Setting.method, Setting.values, reduceCtorEq, if_true, if_false,
      List.getLast?_singleton, Option.some_or, Option.map_some, Option.getD_some, inSeconds]
    rfl
  | _ => rfl

theorem applyAll_snoc (builder : PolicyBuilder) (calls : List Call) (call : Call) :
    builder.applyAll (calls ++ [call]) =
      builder.applyAll calls >>= fun held => held.apply call.number call.setting := by
  unfold applyAll
  simp only [List.foldlM_append, List.foldlM_cons, List.foldlM_nil, bind_pure]

/-- A builder accepts all calls whose delays and caps can be turned into seconds, and holds what
they come to. -/
theorem applyAll_gathered {calls : List Call} (converts : ∀ call ∈ calls, call.setting.Converts) :
    empty.applyAll calls = .ok (gathered calls) := by
  induction calls using List.reverseRecOn with
  | nil => rfl
  | append_singleton before call ih =>
    obtain ⟨earlier, last⟩ := List.forall_mem_append.mp converts
    have start : empty.applyAll before = .ok (gathered before) := ih earlier
    have step := gathered_apply before (last call (.head _))
    rw [applyAll_snoc, start]
    exact step

def rules (builder : PolicyBuilder) : Classifier :=
  ⟨builder.includes, builder.excludes, builder.predicates⟩

theorem rules_snoc (calls : List Call) (call : Call) :
    (gathered (calls ++ [call])).rules = (gathered calls).rules.combine call.setting.rules := by
  unfold gathered rules Classifier.combine
  simp only [given_snoc]
  cases call.setting <;>
    simp only [Setting.method, Setting.values, Setting.rules, Classifier.all, reduceCtorEq, if_true,
      if_false, List.append_nil]

theorem rules_gathered (calls : List Call) :
    (gathered calls).rules =
      (calls.map fun call => call.setting.rules).foldl Classifier.combine .all := by
  induction calls using List.reverseRecOn with
  | nil => rfl
  | append_singleton before call ih =>
    rw [rules_snoc, ih, List.map_append, List.foldl_append]
    rfl

/-! ### Reordered calls -/

theorem given_reordered (reordered : Reordered calls calls') (method : Method) :
    given method calls' = given method calls := by
  have settings (calls : List Call) : given method calls =
      ((callsOf method calls).map Call.setting).flatMap Setting.values :=
    (List.flatMap_map ..).symm
  rw [settings calls', ← reordered method, settings calls]

theorem gathered_reordered (reordered : Reordered calls calls') :
    gathered calls' = { gathered calls with delaySetting := delayCall calls' } := by
  simp only [gathered, latest, given_reordered reordered]

theorem converts_reordered (reordered : Reordered calls calls')
    (converts : ∀ call ∈ calls, call.setting.Converts) :
    ∀ call ∈ calls', call.setting.Converts := by
  intro call member
  have own : call ∈ callsOf call.setting.method calls' :=
    List.mem_filter.mpr ⟨member, decide_eq_true rfl⟩
  -- Both orders make the same settings by this method, though not in the same calls.
  have moved : call.setting ∈ (callsOf call.setting.method calls).map Call.setting := by
    rw [reordered]
    exact List.mem_map_of_mem own
  obtain ⟨origin, present, same⟩ := List.mem_map.mp moved
  rw [← same]
  exact converts origin (List.mem_filter.mp present).1

/-! ### Outcomes of building -/

/-- Equal policies. A strategy that was made for them has its own number in each. -/
structure Agree (id id' : Nat) (policy policy' : Policy) : Prop where
  maxAttempts : policy'.maxAttempts = policy.maxAttempts
  delay : policy'.delay = policy.delay
  backoff : policy'.backoff = policy.backoff ∨ ∃ strategy : Strategy,
    policy.backoff = .strategy { strategy with id := id } ∧
      policy'.backoff = .strategy { strategy with id := id' }
  classifier : policy'.classifier = policy.classifier

inductive SameOutcome (id id' : Nat) : Except Fault Policy → Except Fault Policy → Prop where
  | refused (fault : Fault) : SameOutcome id id' (.error fault) (.error fault)
  | made {policy policy' : Policy} (agree : Agree id id' policy policy') :
    SameOutcome id id' (.ok policy) (.ok policy')

theorem sameOutcome_make {id id' : Nat} {backoff backoff' : Value}
    (same : backoff' = backoff ∨ ∃ strategy : Strategy,
      backoff = .strategy { strategy with id := id } ∧
        backoff' = .strategy { strategy with id := id' })
    (maxAttempts delay classifier : Value) (setting setting' : Nat) :
    SameOutcome id id' (Policy.make maxAttempts delay setting backoff classifier)
      (Policy.make maxAttempts delay setting' backoff' classifier) := by
  unfold Policy.make
  cases validatePolicy maxAttempts delay with
  | error fault => exact .refused fault
  | ok attempts => exact .made ⟨rfl, rfl, same, rfl⟩

theorem exponential_renumbered (id id' : Nat) (base multiplier cap jitter limit : Value) :
    (∃ fault, Strategy.exponential id base multiplier cap jitter limit = .error fault ∧
      Strategy.exponential id' base multiplier cap jitter limit = .error fault) ∨
    ∃ strategy : Strategy,
      Strategy.exponential id base multiplier cap jitter limit = .ok { strategy with id := id } ∧
      Strategy.exponential id' base multiplier cap jitter limit =
        .ok { strategy with id := id' } := by
  unfold Strategy.exponential
  cases validateBackoff base cap limit jitter with
  | error fault => exact .inl ⟨fault, rfl, rfl⟩
  | ok checked =>
    cases refuseBelow 1 "multiplier" ">= 1" multiplier with
    | error fault => exact .inl ⟨fault, rfl, rfl⟩
    | ok checked =>
      exact .inr ⟨⟨id, limit, .exponential base multiplier cap jitter, []⟩, rfl, rfl⟩

/-- A policy depends neither on the call that its delay comes from nor on the number of its
strategy. -/
theorem build_renumbered (builder : PolicyBuilder) (setting id id' : Nat) :
    SameOutcome id id' (builder.build id) ({ builder with delaySetting := setting }.build id') := by
  unfold build strategy shaping
  dsimp only
  -- The settings decide in which way, and the number shows only in a strategy that is made.
  split
  · split
    · exact sameOutcome_make (.inl rfl) ..
    · exact .refused _
  · split
    · exact sameOutcome_make (.inl rfl) ..
    · rcases exponential_renumbered id id'
          (if builder.delay.isNull then .float defaultDelay else builder.delay)
          (if builder.multiplier.isNull then .float defaultMultiplier else builder.multiplier)
          builder.maxDelay (if builder.jitter.isTruthy then builder.jitter else .float 0.0)
          builder.maxAttempts with ⟨fault, fails, fails'⟩ | ⟨strategy, made, made'⟩
      · rw [fails, fails']
        exact .refused fault
      · rw [made, made']
        exact sameOutcome_make (.inr ⟨strategy, rfl, rfl⟩) ..

/-- A policy follows from the settings of a builder, each field from its own. -/
structure Builds (builder : PolicyBuilder) (id : Nat) (policy : Policy) : Prop where
  maxAttempts : builder.maxAttempts = .int policy.maxAttempts
  delay : policy.delay = builder.delay.orDefault (.float defaultDelay)
  delaySetting : policy.delaySetting = if builder.delay.isNull then 0 else builder.delaySetting
  backoff : builder.strategy id policy.delay = .ok policy.backoff
  classifier : policy.classifier = .classifier builder.rules
  checked : validatePolicy builder.maxAttempts policy.delay = .ok policy.maxAttempts

theorem build_ok_iff {builder : PolicyBuilder} {id : Nat} {policy : Policy} :
    builder.build id = .ok policy ↔ builder.Builds id policy := by
  constructor
  · intro built
    unfold build at built
    obtain ⟨backoff, chosen, made⟩ := ok_of_bind built
    unfold Policy.make at made
    obtain ⟨attempts, checked, made⟩ := ok_of_bind made
    cases made
    exact ⟨(bounds_of_validatePolicy checked).1, rfl, rfl, chosen, rfl, checked⟩
  · obtain ⟨attempts, delay, setting, backoff, classifier⟩ := policy
    rintro ⟨-, delayed, set, chosen, classified, checked⟩
    dsimp only at delayed set chosen classified checked
    subst delayed set classified
    unfold Value.orDefault at chosen checked ⊢
    unfold build Policy.make
    dsimp only
    rw [chosen]
    show (validatePolicy builder.maxAttempts _ >>= _) = _
    rw [checked]
    rfl

/-- Calls of different methods can be exchanged. If delays and caps can be turned into seconds, a
builder holds after all calls the last value of each method, and everything that was given to a
method that adds up; after the calls in another order, kept for each method, it builds the same.
A policy is built if the checks on what is held allow it, and then each field is what is held; its
rules are those of the calls, combined one by one. -/
theorem build_reordered (converts : ∀ call ∈ calls, call.setting.Converts)
    (reordered : Reordered calls calls') :
    empty.applyAll calls = .ok (gathered calls) ∧
      empty.applyAll calls' = .ok (gathered calls') ∧
      (∀ id id', SameOutcome id id' ((gathered calls).build id) ((gathered calls').build id')) ∧
      (delayCall calls' = delayCall calls → gathered calls' = gathered calls) ∧
      (∀ id policy, (gathered calls).build id = .ok policy ↔ (gathered calls).Builds id policy) ∧
      ∀ id policy, (gathered calls).build id = .ok policy → policy.classifier =
        .classifier ((calls.map fun call => call.setting.rules).foldl Classifier.combine .all) := by
  refine ⟨applyAll_gathered converts, applyAll_gathered (converts_reordered reordered converts),
    ?_, ?_, fun id policy => build_ok_iff, ?_⟩
  · intro id id'
    rw [gathered_reordered reordered]
    exact build_renumbered ..
  · intro same
    rw [gathered_reordered reordered, same]
    rfl
  · intro id policy built
    rw [(build_ok_iff.mp built).classifier, rules_gathered]

/-- Delays and kinds given twice, with the methods in another order. -/
theorem build_reordered_exchanged :
    let value : Kind := Kind.valueError
    let calls : List Call := [⟨1, .delay (.float 0.5)⟩, ⟨2, .includes [.kind value]⟩,
      ⟨3, .delay (.float 0.25)⟩, ⟨4, .includes [.kind Kind.osError]⟩, ⟨5, .jitter (.int 0)⟩]
    let calls' : List Call := [⟨5, .jitter (.int 0)⟩, ⟨2, .includes [.kind value]⟩,
      ⟨4, .includes [.kind Kind.osError]⟩, ⟨1, .delay (.float 0.5)⟩, ⟨3, .delay (.float 0.25)⟩]
    (∀ call ∈ calls, call.setting.Converts) ∧ Reordered calls calls' ∧
      (gathered calls).delay = .float 0.25 ∧
      (gathered calls).includes = [.kind value, .kind Kind.osError] ∧
      empty.applyAll calls' = .ok (gathered calls) := by
  intro value calls calls'
  have converts : ∀ call ∈ calls, call.setting.Converts := by
    intro call member
    simp only [calls, List.mem_cons, List.not_mem_nil, or_false] at member
    rcases member with rfl | rfl | rfl | rfl | rfl
    · exact ⟨0.5, rfl⟩
    · trivial
    · exact ⟨0.25, rfl⟩
    · trivial
    · trivial
  have reordered : Reordered calls calls' := by
    intro method
    cases method <;> rfl
  obtain ⟨-, applied, -, same, -, -⟩ := build_reordered converts reordered
  refine ⟨converts, reordered, rfl, rfl, ?_⟩
  rw [applied, same rfl]

end PolicyBuilder

end Reattempt
