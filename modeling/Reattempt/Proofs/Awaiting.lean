import Reattempt.Proofs.Likeness
import Reattempt.Proofs.Unwrapping

/-!
# Awaiting

A template that waits for the replies of its operations simulates one that takes them at once. The
outcomes of the operation may come when it is called or later, in any mixture; as long as no
failure is involved that cannot leave a task that is waited for, both templates make the same calls
and end alike, by `Template.awaited_alike`.
-/

namespace Reattempt

variable {σ τ ℓ κ α : Type} {states : σ → τ → Prop}

/-! ### Failures that cross -/

/-- A failure that leaves a task which is waited for as it is, also when it is unwrapped. -/
def Failure.Crosses (f : Failure) : Prop :=
  f.kind.isA Kind.stopIteration = false ∧ f.unwrapped.kind.isA Kind.stopIteration = false

instance (f : Failure) : Decidable f.Crosses := inferInstanceAs (Decidable (_ ∧ _))

def EndsCrossing : Except Escape α → Prop
  | .error (.raised f) => f.Crosses
  | _ => True

instance : DecidablePred (EndsCrossing (α := α))
  | .error (.raised f) => inferInstanceAs (Decidable f.Crosses)
  | .error .unfinished => .isTrue trivial
  | .ok _ => .isTrue trivial

namespace EndsCrossing

variable {ending : Except Escape α}

theorem outward (crosses : EndsCrossing ending) (flavour : Flavour) :
    ending.mapError flavour.outward = ending := by
  rcases ending with (f | _) | a
  · exact congrArg Except.error (flavour.outward_raised crosses.1)
  · cases flavour <;> rfl
  · rfl

theorem unwrapped (crosses : EndsCrossing ending) (flavour : Flavour) :
    (ending.mapError Escape.unwrapped).mapError flavour.outward =
      ending.mapError Escape.unwrapped := by
  rcases ending with (f | _) | a
  · exact congrArg Except.error (flavour.outward_raised crosses.2)
  · cases flavour <;> rfl
  · rfl

theorem congr {own other : Value} {ending' : Except Escape α}
    (alike : EndsAlike own other ending ending') (crosses : EndsCrossing ending) :
    EndsCrossing ending' := by
  cases alike with
  | same => exact crosses
  | gaveUp => exact crosses

end EndsCrossing

theorem EndsAlike.unwrapped {own other : Value} {ending ending' : Except Escape α}
    (alike : EndsAlike own other ending ending') :
    ending'.mapError Escape.unwrapped = ending.mapError Escape.unwrapped := by
  cases alike with
  | same | gaveUp => rfl

/-! ### Operations with the same outcomes -/

/-- An operation delivers an outcome: at once when it is called, or later when its reply is waited
for. -/
def Task.Delivers (t : Task σ (Reply σ)) (s : σ) (outcome : Except Escape Value) (after : σ) :
    Prop :=
  t s = (outcome.map .ready, after) ∨
    ∃ later present, t s = (.ok (.pending later), present) ∧ later present = (outcome, after)

/-- The second operation delivers, at once or later, what the first one comes to at once. -/
def Operation.SameOutcomes (states : σ → τ → Prop) (first : Operation σ)
    (second : Operation τ) : Prop :=
  ∀ s s', states s s' → ∃ outcome after after', first.invoke s = (outcome.map .ready, after) ∧
    second.invoke.Delivers s' outcome after' ∧ states after after'

theorem Flavour.perform_delivers {operation : Operation σ} {s after : σ}
    {outcome : Except Escape Value} (delivers : operation.invoke.Delivers s outcome after) :
    awaited.perform operation s = (outcome.mapError awaited.outward, after) := by
  rcases delivers with called | ⟨later, present, called, ends⟩
  · exact perform_ready called awaited
  · rw [perform, insulate_apply, Task.bind_ok called]
    show ((later present).1.mapError _, (later present).2) = _
    rw [ends]

/-! ### Callbacks that behave the same -/

/-- Notices are told alike, but for the part of the library that executions tell theirs as. -/
def TellsAlike (states : σ → τ → Prop) (tell : Notice → Task σ Unit)
    (tell' : Notice → Task τ Unit) : Prop :=
  ∀ notice, Task.Alike states Unit (tell notice)
    (tell' (notice.relogged Flavour.direct.logger Flavour.awaited.logger))

theorem TellsAlike.other {tell : Notice → Task σ Unit} {tell' : Notice → Task τ Unit}
    (tells : TellsAlike states tell tell') {logger : String}
    (other : logger ≠ Flavour.direct.logger) (message : String) :
    Task.Alike states Unit (tell (.debug logger message []))
      (tell' (.debug logger message [])) := by
  have told := tells (.debug logger message [])
  rw [Notice.relogged_other (.inl other)] at told
  exact told

namespace Template

def WaitsAlike (states : σ → τ → Prop) (first : Template σ ℓ) (second : Template τ ℓ) : Prop :=
  (∀ delay, Task.Alike states Unit (first.wait delay) (second.wait delay)) ∨
    ∃ suspend suspend', first.wait = pause first.examination.tell suspend ∧
      second.wait = pause second.examination.tell suspend' ∧
      ∀ seconds, Task.Alike states Unit (suspend seconds) (suspend' seconds)

theorem WaitsAlike.wait {first : Template σ ℓ} {second : Template τ ℓ}
    (waits : WaitsAlike states first second)
    (tell : TellsAlike states first.examination.tell second.examination.tell) (delay : Value) :
    Task.Alike states Unit (first.wait delay) (second.wait delay) := by
  rcases waits with own | ⟨suspend, suspend', pauses, pauses', suspends⟩
  · exact own delay
  · rw [pauses, pauses']
    exact pause_related (Task.alike_congruence states) (tell.other (by decide)) suspends delay

/-- Two templates that take replies at once and wait for them, under the same policy and with the
same listener, whose callbacks behave the same from states that are alike. -/
structure Counterparts (states : σ → τ → Prop) (first : Template σ ℓ) (second : Template τ ℓ)
    (plain : Operation σ) (awaitable : Operation τ) (s : σ) (s' : τ) : Prop where
  direct : first.flavour = .direct
  awaited : second.flavour = .awaited
  start : states s s'
  policy : first.policy s = second.policy s'
  listener : first.listener s = second.listener s'
  patience : first.patience = second.patience
  name : ∀ s s', states s s' → awaitable.name s' = plain.name s
  outcomes : plain.SameOutcomes states awaitable
  members : ∀ id s s', states s s' → second.members id s' = first.members id s
  ask (p : Predicate) (f : Failure) :
    Task.Alike states Value (first.examination.ask p f) (second.examination.ask p f)
  tell : TellsAlike states first.examination.tell second.examination.tell
  uniform (low high : Value) :
    Task.Alike states Value (first.chance.uniform low high) (second.chance.uniform low high)
  jitter : TellsAlike states first.chance.tell second.chance.tell
  wait : WaitsAlike states first second
  notify (occasion : Occasion) (leaf : ℓ) :
    Task.Alike states Unit (first.notify (first.policy s) plain occasion leaf)
      (second.notify (second.policy s') awaitable occasion leaf)

/-- No failure is involved that cannot leave a task which is waited for: none that a call raises,
and none that leaves the execution. -/
def NothingStops (template : Template σ ℓ) (operation : Operation σ) (s : σ) : Prop :=
  (∀ entry ∈ template.transcript operation s, EndsCrossing entry.ending) ∧
    EndsCrossing (template.execute operation s).1

variable {first : Template σ ℓ} {second : Template τ ℓ} {plain : Operation σ}
  {awaitable : Operation τ} {s : σ} {s' : τ}

theorem Counterparts.surroundings
    (counterparts : Counterparts states first second plain awaitable s s') :
    (first.surroundings plain s).Alike states (fun entry => EndsCrossing entry.ending)
      (second.surroundings awaitable s') := by
  have logger : (first.surroundings plain s).logger = Flavour.direct.logger :=
    congrArg Flavour.logger counterparts.direct
  have logger' : (second.surroundings awaitable s').logger = Flavour.awaited.logger :=
    congrArg Flavour.logger counterparts.awaited
  exact {
    logger := by
      rw [logger]
      exact .inl (by decide)
    policy := counterparts.policy
    listener := counterparts.listener
    patience := counterparts.patience
    name := counterparts.name
    members := counterparts.members
    invoke := by
      intro s s' alike crosses
      obtain ⟨outcome, after, after', called, delivers, alike'⟩ :=
        counterparts.outcomes s s' alike
      have performs : first.flavour.perform plain s = (outcome, after) := by
        rw [Flavour.perform_ready called, counterparts.direct]
        rcases outcome with (_ | _) | _ <;> rfl
      have performs' : second.flavour.perform awaitable s' =
          (outcome.mapError Flavour.awaited.outward, after') := by
        rw [counterparts.awaited]
        exact Flavour.perform_delivers delivers
      dsimp only [Template.surroundings] at crosses ⊢
      rw [performs] at crosses ⊢
      rw [performs', EndsCrossing.outward crosses]
      exact ⟨rfl, alike'⟩
    ask := counterparts.ask
    calculate := Strategy.calculate_related (Task.alike_congruence states) counterparts.uniform
      (counterparts.jitter.other (by decide))
    wait := counterparts.wait.wait counterparts.tell
    notify := counterparts.notify
    tell := by
      rw [logger, logger']
      exact counterparts.tell }

/-- An execution whose operation is waited for makes the same calls as one whose operation comes to
the same outcomes at once, and ends alike; invocations end the same way. -/
theorem awaited_alike (counterparts : Counterparts states first second plain awaitable s s')
    (nothing : first.NothingStops plain s) :
    second.transcript awaitable s' = (first.transcript plain s).map
        (Entry.relogged Flavour.direct.logger Flavour.awaited.logger) ∧
      EndsAlike plain.self awaitable.self (first.execute plain s).1
        (second.execute awaitable s').1 ∧
      states (first.execute plain s).2 (second.execute awaitable s').2 ∧
      (second.invoke awaitable s').1 = (first.invoke plain s).1 ∧
      states (first.invoke plain s).2 (second.invoke awaitable s').2 := by
  obtain ⟨calls, leaves⟩ := nothing
  obtain ⟨ends, present, same⟩ := counterparts.surroundings.run counterparts.start calls
  rw [show (first.surroundings plain s).logger = _ from congrArg Flavour.logger counterparts.direct,
    show (second.surroundings awaitable s').logger = _ from
      congrArg Flavour.logger counterparts.awaited] at same
  -- The first boundary lets everything through, and what ends the second run crosses it too.
  have own : (first.execute plain s).1 = ((first.surroundings plain s).execution.run s).1 := by
    rw [execute_apply, counterparts.direct, surroundings_execution]
    rcases ((first.started plain s).run s).1 with (_ | _) | _ <;> rfl
  have other : (second.execute awaitable s').1 =
      ((second.surroundings awaitable s').execution.run s').1 := by
    rw [execute_apply, surroundings_execution]
    rw [own] at leaves
    exact (leaves.congr ends).outward second.flavour
  have alike : EndsAlike plain.self awaitable.self (first.execute plain s).1
      (second.execute awaitable s').1 := by
    rw [own, other]
    exact ends
  have present' : states (first.execute plain s).2 (second.execute awaitable s').2 := by
    rw [execute_apply, execute_apply]
    exact present
  refine ⟨same, alike, present', ?_, ?_⟩
  · rw [invoke_apply, invoke_apply, leaves.unwrapped, (leaves.congr alike).unwrapped,
      alike.unwrapped]
  · rw [invoke_apply, invoke_apply]
    exact present'

/-! ### A plain template and one that waits -/

/-- A template over a state that holds all notices. It pauses for a second between attempts. -/
def outspoken (flavour : Flavour) : Template (Nat × List Notice) Unit where
  flavour
  policy _ := some ⟨1, .int 1, 0, .null, .classifier .all⟩
  listener _ := some (.leaf ())
  examination := ⟨fun _ _ => pure (.bool true), note⟩
  chance := ⟨fun low _ => pure low, note⟩
  wait := pause note fun _ => pure ()
  notify _ _ _ _ := pure ()
  members _ _ := []
  patience := 9
where
  note (notice : Notice) : Task (Nat × List Notice) Unit :=
    Task.modify fun (n, notices) => (n, notices ++ [notice])

end Template

def Operation.countedPlain : Operation (Nat × List Notice) where
  name _ := "sample"
  self := .operation 0
  invoke := fun (n, notices) => ((countedOutcome n).map .ready, (n + 1, notices))

def Operation.countedLater : Operation (Nat × List Notice) where
  name _ := "sample"
  self := .operation 1
  invoke := fun (n, notices) =>
    if n = 0 then ((countedOutcome n).map .ready, (n + 1, notices))
    else (.ok (.pending fun s => (countedOutcome n, s)), (n + 1, notices))

namespace Template

theorem awaited_alike_giving_up :
    let first := outspoken .direct
    let second := outspoken .awaited
    first.NothingStops .countedPlain (0, []) ∧
      second.transcript .countedLater (0, []) = (first.transcript .countedPlain (0, [])).map
        (Entry.relogged Flavour.direct.logger Flavour.awaited.logger) ∧
      (second.invoke .countedLater (0, [])).1 =
        .error (.raised (.plain 1 Kind.valueError [])) := by
  intro first second
  let states : Nat × List Notice → Nat × List Notice → Prop := fun s s' =>
    s' = (s.1, s.2.map (Notice.relogged Flavour.direct.logger Flavour.awaited.logger))
  have tells : TellsAlike states outspoken.note outspoken.note := by
    rintro notice ⟨n, notices⟩ _ rfl
    refine ⟨rfl, ?_⟩
    show (n, notices.map _ ++ [_]) = (n, (notices ++ [notice]).map _)
    rw [List.map_append, List.map_singleton]
  have counterparts : Counterparts states first second .countedPlain .countedLater (0, [])
      (0, []) := {
    direct := rfl
    awaited := rfl
    start := rfl
    policy := rfl
    listener := rfl
    patience := rfl
    name := fun _ _ _ => rfl
    outcomes := by
      rintro ⟨n, notices⟩ _ rfl
      refine ⟨Operation.countedOutcome n, (n + 1, notices), _, rfl, ?_, rfl⟩
      cases n with
      | zero => exact .inl rfl
      | succ n => exact .inr ⟨_, _, rfl, rfl⟩
    members := fun _ _ _ _ => rfl
    ask := fun _ _ => (Task.alike_congruence states).pure _
    tell := tells
    uniform := fun _ _ => (Task.alike_congruence states).pure _
    jitter := tells
    wait := .inr ⟨_, _, rfl, rfl, fun _ => (Task.alike_congruence states).pure ()⟩
    notify := fun _ _ => (Task.alike_congruence states).pure () }
  have nothing : first.NothingStops .countedPlain (0, []) := by
    refine ⟨?_, ?_⟩ <;> decide
  obtain ⟨same, -, -, ends, -⟩ := awaited_alike counterparts nothing
  refine ⟨nothing, same, ends.trans ?_⟩
  rfl

end Template

end Reattempt
