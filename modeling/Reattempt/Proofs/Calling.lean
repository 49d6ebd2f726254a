import Reattempt.Execution.Decorated
import Reattempt.Proofs.Nesting
import Reattempt.Proofs.Pacing
import Reattempt.Proofs.Reassignment

/-!
# Calls of decorated functions

All calls of a decorated function run on one template, which was made when it was decorated. It
might as well be made anew for each of them: `Decorated.calls_independent` says that in every
history of calls, whatever way the earlier ones ended, each call is the execution of the function,
bound to the arguments of this call, on a template of its own.
-/

namespace Reattempt

variable {σ κ ℓ α β : Type}

/-! ### Beside a part of the state -/

namespace Task

/-- A task to which another part of the state is given; what it leaves there is lost. -/
def within (part : κ) (t : Task (σ × κ) α) : Task σ α := fun s =>
  ((t (s, part)).1, (t (s, part)).2.1)

def WithPart (part : κ) (s : σ) (s' : σ × κ) : Prop := s' = (s, part)

theorem beside_alike (part : κ) (t : Task σ α) : Alike (WithPart part) α t t.beside := by
  rintro s _ rfl
  exact ⟨rfl, rfl⟩

end Task

namespace Reply

def beside : Reply σ → Reply (σ × κ)
  | .ready v => .ready v
  | .pending t => .pending t.beside

def within (part : κ) : Reply (σ × κ) → Reply σ
  | .ready v => .ready v
  | .pending t => .pending (t.within part)

theorem beside_within (part : κ) (reply : Reply σ) : reply.beside.within part = reply := by
  cases reply <;> rfl

end Reply

namespace Operation

def beside (operation : Operation σ) : Operation (σ × κ) where
  name s := operation.name s.1
  self := operation.self
  invoke := Reply.beside <$> operation.invoke.beside

def within (part : κ) (operation : Operation (σ × κ)) : Operation σ where
  name s := operation.name (s, part)
  self := operation.self
  invoke := Reply.within part <$> operation.invoke.within part

theorem beside_within (part : κ) (operation : Operation σ) :
    operation.beside.within part = operation := by
  obtain ⟨name, self, invoke⟩ := operation
  have same : Reply.within part <$> (Reply.beside <$> invoke.beside).within part = invoke := by
    funext s
    rw [Task.map_apply, Task.within, Task.map_apply, Task.beside]
    rcases invoke s with ⟨_ | reply, after⟩
    · rfl
    · exact congrArg (fun reply => (Except.ok reply, after)) (reply.beside_within part)
  exact congrArg (Operation.mk name self) same

end Operation

theorem Flavour.perform_alike (flavour : Flavour) (part : κ) (operation : Operation σ) :
    Task.Alike (Task.WithPart part) Value (flavour.perform operation)
      (flavour.perform operation.beside) := by
  have receives (reply : Reply σ) : Task.Alike (Task.WithPart part) Value (flavour.receive reply)
      (flavour.receive reply.beside) := by
    cases reply with
    | ready v => exact (Task.alike_congruence _).pure v
    | pending t =>
      cases flavour with
      | direct => exact (Task.alike_congruence _).pure _
      | awaited => exact Task.beside_alike part t
  -- The replies differ in type, so the map on the second one is moved into what receives it.
  have body : Task.Alike (Task.WithPart part) Value (operation.invoke >>= flavour.receive)
      (operation.beside.invoke >>= flavour.receive) := by
    rw [Operation.beside, bind_map_left]
    exact (Task.alike_congruence _).bind (Task.beside_alike part _) receives
  intro s s' start
  obtain ⟨ends, present⟩ := body s s' start
  rw [perform, perform, insulate_apply, insulate_apply]
  exact ⟨congrArg (Except.mapError flavour.outward) ends, present⟩

/-! ### Templates that are made -/

namespace Template

/-- What a template is set to when it is made with a policy and a listener, either of which may be
left out. -/
def made (surroundings : Template σ ℓ) (policy : Option Policy) (listener : Option (Listener ℓ)) :
    Settings ℓ (Value → Task σ Unit) :=
  ⟨some (policy.getD .default), some (listener.getD .silent), surroundings.wait⟩

/-- The class of templates of a flavour: its templates read what they are set to in a part of the
state that is theirs. -/
def ofFlavour (surroundings : Template σ ℓ) (flavour : Flavour) :
    Template (σ × Settings ℓ (Value → Task σ Unit)) ℓ where
  flavour
  policy s := s.2.policy
  listener s := s.2.listener
  examination := ⟨fun p f => (surroundings.examination.ask p f).beside,
    fun notice => (surroundings.examination.tell notice).beside⟩
  chance := ⟨fun low high => (surroundings.chance.uniform low high).beside,
    fun notice => (surroundings.chance.tell notice).beside⟩
  wait delay := fun s => (s.2.sleep delay).beside s
  notify policy operation occasion leaf := fun s =>
    (surroundings.notify policy (operation.within s.2) occasion leaf).beside s
  members id s := surroundings.members id s.1
  patience := surroundings.patience

variable {surroundings : Template σ ℓ} {flavour : Flavour} {policy : Option Policy}
  {listener : Option (Listener ℓ)} {operation : Operation σ} {s : σ}

variable (surroundings flavour) in
theorem ofFlavour_notify (taken : Option Policy) (operation : Operation σ) (occasion : Occasion)
    (leaf : ℓ) (s : σ) (part : Settings ℓ (Value → Task σ Unit)) :
    (surroundings.ofFlavour flavour).notify taken operation.beside occasion leaf (s, part) =
      (surroundings.notify taken operation occasion leaf).beside (s, part) := by
  show (surroundings.notify taken (operation.beside.within part) occasion leaf).beside (s, part) = _
  rw [operation.beside_within]

theorem ofFlavour_alike :
    ((surroundings.settled flavour (policy.getD .default) (listener.getD .silent)).surroundings
        operation s).Alike (Task.WithPart (surroundings.made policy listener)) (fun _ => True)
      ((surroundings.ofFlavour flavour).surroundings operation.beside
        (s, surroundings.made policy listener)) where
  logger := .inr rfl
  policy := rfl
  listener := rfl
  patience := rfl
  name := by
    rintro s _ rfl
    rfl
  members := by
    rintro id s _ rfl
    rfl
  invoke s s' start _ := flavour.perform_alike _ operation s s' start
  ask p f := Task.beside_alike _ _
  calculate := Strategy.calculate_related (Task.alike_congruence _)
    (fun _ _ => Task.beside_alike _ _) fun _ => Task.beside_alike _ _
  wait delay := by
    rintro s _ rfl
    exact ⟨rfl, rfl⟩
  notify occasion leaf := by
    rintro s _ rfl
    have told := surroundings.ofFlavour_notify flavour (some (policy.getD .default)) operation
      occasion leaf s (surroundings.made policy listener)
    exact ⟨congrArg Prod.fst told, congrArg Prod.snd told⟩
  tell notice := by
    show Task.Alike _ Unit _ ((surroundings.examination.tell
      (notice.relogged flavour.logger flavour.logger)).beside)
    rw [Notice.relogged_self]
    exact Task.beside_alike _ _

end Template

/-! ### Traces -/

/-- What is seen of an execution: all that it asks, all that it does, and how it ends. -/
structure Trace (ℓ : Type) where
  transcript : List (Entry (Contact ℓ))
  journal : List (Entry Call)
  ending : Except Escape Value

def Template.traced (template : Template σ ℓ) (operation : Operation σ) (s : σ) :
    Trace ℓ × σ :=
  (⟨template.transcript operation s, template.journal operation s,
    (template.execute operation s).1⟩, (template.execute operation s).2)

/-- An execution on a template that was just made is the one on a settled template, and leaves the
template as it was made. -/
theorem Template.ofFlavour_traced {surroundings : Template σ ℓ} {flavour : Flavour}
    {policy : Option Policy} {listener : Option (Listener ℓ)} {operation : Operation σ} (s : σ) :
    (surroundings.ofFlavour flavour).traced operation.beside
        (s, surroundings.made policy listener) =
      let settled := surroundings.settled flavour (policy.getD .default) (listener.getD .silent)
      ((settled.traced operation s).1,
        ((settled.traced operation s).2, surroundings.made policy listener)) := by
  obtain ⟨same, present⟩ := ofFlavour_alike.sameRun rfl rfl
    (show Task.WithPart (surroundings.made policy listener) s _ from rfl)
  dsimp only [traced]
  rw [execute_apply, execute_apply]
  refine Prod.ext (Trace.mk.injEq .. |>.mpr ⟨same.transcript, same.journal, ?_⟩) present
  exact congrArg (Except.mapError flavour.outward) same.ending

/-- A call in a history: the state before it, what was called with which arguments, its trace, and
the state after it. -/
structure Episode (σ ℓ α : Type) where
  before : σ
  self : Value
  arguments : α
  trace : Trace ℓ
  after : σ

def history (call : Value → α → σ → Trace ℓ × σ) : List (Value × α) → σ → List (Episode σ ℓ α)
  | [], _ => []
  | (self, arguments) :: rest, s =>
    let (trace, after) := call self arguments s
    ⟨s, self, arguments, trace, after⟩ :: history call rest after

theorem history_calls (call : Value → α → σ → Trace ℓ × σ) (calls : List (Value × α)) (s : σ) :
    (history call calls s).map (fun episode => (episode.self, episode.arguments)) = calls := by
  induction calls generalizing s with
  | nil => rfl
  | cons first rest ih => exact congrArg (List.cons first) (ih _)

theorem mem_history {call : Value → α → σ → Trace ℓ × σ} {calls : List (Value × α)} {s : σ}
    {episode : Episode σ ℓ α} (member : episode ∈ history call calls s) :
    call episode.self episode.arguments episode.before = (episode.trace, episode.after) := by
  induction calls generalizing s with
  | nil => cases member
  | cons first rest ih =>
    rcases List.mem_cons.mp member with rfl | later
    · rfl
    · exact ih later

def Episode.beside (part : κ) (episode : Episode σ ℓ α) : Episode (σ × κ) ℓ α :=
  ⟨(episode.before, part), episode.self, episode.arguments, episode.trace,
    (episode.after, part)⟩

theorem history_beside {call : Value → α → σ → Trace ℓ × σ}
    {call' : Value → α → σ × κ → Trace ℓ × (σ × κ)} {part : κ}
    (same : ∀ self arguments s, call' self arguments (s, part) =
      ((call self arguments s).1, ((call self arguments s).2, part)))
    (calls : List (Value × α)) (s : σ) :
    history call' calls (s, part) = (history call calls s).map (Episode.beside part) := by
  -- The part is the same before each call, as the call before it has left it.
  induction calls generalizing s with
  | nil => rfl
  | cons first rest ih =>
    obtain ⟨self, arguments⟩ := first
    rw [history, same, history, List.map_cons]
    exact congrArg (List.cons _) (ih _)

/-! ### Functions that are called on templates -/

namespace Callee

def flavour (callee : Callee σ α) : Flavour := if callee.isAwaited then .awaited else .direct

def bound (callee : Callee σ α) (arguments : α) : Candidate σ where
  self := .thing "partial" "<partial>"
  name? := none
  execute? := none
  call? := some (callee.call arguments)
  qualifiedName? := none
  className := "partial"
  written := "<partial>"

/-- The operation that is executed for a call: the function with the arguments bound to it, wrapped
under a name. -/
def operation (callee : Callee σ α) (name : String) (self : Value) (arguments : α) (s : σ) :
    Except Fault (Operation σ) := do
  let wrapper ← (callee.bound arguments).wrap self (some name)
  wrapper.taken self none s

theorem operation_eq (callee : Callee σ α) (name : String) (self : Value) (arguments : α) (s : σ) :
    callee.operation name self arguments s =
      .ok ⟨fun _ => name, self, callee.call arguments⟩ := rfl

variable (surroundings : Template σ ℓ) (name : String) (callee : Callee σ α)

def callOn (self : Value) (arguments : α)
    (s : σ × Settings ℓ (Value → Task σ Unit)) :
    Trace ℓ × (σ × Settings ℓ (Value → Task σ Unit)) :=
  match callee.operation name self arguments s.1 with
  | .ok operation => (surroundings.ofFlavour callee.flavour).traced operation.beside s
  | .error fault => (⟨[], [], .error (.raised fault.toFailure)⟩, s)

def callAfresh (policy : Option Policy) (listener : Option (Listener ℓ)) (self : Value)
    (arguments : α) (s : σ) : Trace ℓ × σ :=
  let (trace, after) :=
    callee.callOn surroundings name self arguments (s, surroundings.made policy listener)
  (trace, after.1)

end Callee

namespace Decorated

def Subject.given : Option Policy → Subject σ α
  | some p => .policy p
  | none => .absent

def traced (decorated : Decorated σ ℓ α) (self : Value) (arguments : α) : σ → Trace ℓ × σ :=
  decorated.template.traced (decorated.operation self arguments)

/-- A call of a decorated function that has nothing to do with other calls. -/
structure Separate (decorated : Decorated σ ℓ α) (policy : Policy) (callee : Callee σ α)
    (episode : Episode σ ℓ α) : Prop where
  called : decorated.call episode.self episode.arguments episode.before =
    (episode.trace.ending, episode.after)
  /-- Each invocation is a call of the function with the arguments of this call. -/
  arguments : ∃ visits : List (Moment σ ℓ),
    invocations episode.trace.journal = visits.map (fun visit => visit.entry.ending) ∧
      ∀ visit ∈ visits,
        callee.flavour.insulate (callee.call episode.arguments >>= callee.flavour.receive)
          visit.before = (visit.entry.ending, visit.after)
  /-- It has the budget of the policy to itself, and carries its own failures only. -/
  budget (limit : Nat) : policy.Sound → policy.limit.Bounds limit →
    decorated.template.KeepsToItself (decorated.operation episode.self episode.arguments) limit
      episode.before

variable {surroundings : Template σ ℓ} {policy : Option Policy} {listener : Option (Listener ℓ)}
  {callee : Callee σ α} {name : String}

def ofName (surroundings : Template σ ℓ) (policy : Option Policy) (listener : Option (Listener ℓ))
    (callee : Callee σ α) (name : String) : Decorated σ ℓ α where
  template := surroundings.settled callee.flavour (policy.getD .default) (listener.getD .silent)
  policy := policy.getD .default
  name
  callee

theorem apply_given {given : Option String}
    (named : (given.orElse fun _ => callee.qualifiedName?) = some name) :
    (apply surroundings listener given (.given policy)).finish callee =
      .ok (ofName surroundings policy listener callee name) := by
  have made : make surroundings ⟨policy, listener, given⟩ callee =
      .ok (ofName surroundings policy listener callee name) := by
    rw [make, named]
    rfl
  cases policy <;> exact made

theorem callOn_made (self : Value) (arguments : α) (s : σ) :
    callee.callOn surroundings name self arguments (s, surroundings.made policy listener) =
      let decorated := ofName surroundings policy listener callee name
      ((decorated.traced self arguments s).1,
        ((decorated.traced self arguments s).2, surroundings.made policy listener)) := by
  rw [Callee.callOn, Callee.operation_eq]
  exact Template.ofFlavour_traced s

theorem callAfresh_eq :
    callee.callAfresh surroundings name policy listener =
      (ofName surroundings policy listener callee name).traced := by
  funext self arguments s
  rw [Callee.callAfresh, callOn_made]

theorem ofName_separate {episode : Episode σ ℓ α}
    (calls : (ofName surroundings policy listener callee name).traced episode.self
      episode.arguments episode.before = (episode.trace, episode.after)) :
    (ofName surroundings policy listener callee name).Separate (policy.getD .default) callee
      episode := by
  obtain ⟨before, self, arguments, trace, after⟩ := episode
  dsimp only at calls
  obtain ⟨rfl, rfl⟩ := Prod.mk.inj calls
  exact {
    called := rfl
    arguments := ⟨_, Template.invocations_journal, fun visit member =>
      Template.visit_performs member⟩
    budget := fun limit sound bounds => Template.Allows.keepsToItself ⟨_, rfl, sound, bounds⟩ }

/-- Calls of a decorated function are independent, whatever calls went before and whatever way
these ended. Each of them is the execution of the function, bound to the arguments of the call and
wrapped under the name, on a template that is made for it, as well as on one that is made once for
all of them. That holds in every state, so also in the midst of another call. A function that is
decorated at once is decorated with nothing. -/
theorem calls_independent (surroundings : Template σ ℓ) (policy : Option Policy)
    (listener : Option (Listener ℓ)) (given : Option String) (callee : Callee σ α) {name : String}
    (named : (given.orElse fun _ => callee.qualifiedName?) = some name) :
    ∃ decorated : Decorated σ ℓ α,
      (apply surroundings listener given (.given policy)).finish callee = .ok decorated ∧
      (∀ (calls : List (Value × α)) (s : σ),
        let episodes := history decorated.traced calls s
        episodes.map (fun episode => (episode.self, episode.arguments)) = calls ∧
          history (callee.callAfresh surroundings name policy listener) calls s = episodes ∧
          history (callee.callOn surroundings name) calls (s, surroundings.made policy listener) =
            episodes.map (Episode.beside (surroundings.made policy listener)) ∧
          ∀ episode ∈ episodes, decorated.Separate (policy.getD .default) callee episode) ∧
      ∀ other, (apply surroundings none none (.function callee)).finish other =
        (apply surroundings none none .absent).finish callee := by
  refine ⟨ofName surroundings policy listener callee name, apply_given named,
    fun calls s => ⟨history_calls _ calls s, ?_, ?_, fun episode member => ?_⟩, fun other => rfl⟩
  · rw [callAfresh_eq]
  · exact history_beside callOn_made calls s
  · exact ofName_separate (mem_history member)

end Decorated

/-! ### A function that calls itself -/

/-- Its state is the arguments of all invocations so far. -/
def Template.still : Template (List Nat) Unit where
  flavour := .direct
  policy _ := none
  listener _ := none
  examination := ⟨fun _ _ => pure (.bool true), fun _ => pure ()⟩
  chance := ⟨fun low _ => pure low, fun _ => pure ()⟩
  wait _ := pure ()
  notify _ _ _ _ := pure ()
  members _ _ := []
  patience := 9

def Policy.single : Policy := ⟨1, .int 0, 0, .null, .classifier .all⟩

/-- A function whose first invocation with zero fails and whose second one does not; one always
fails, two is interrupted, and every larger argument is passed on, less three, to the function as it
is decorated. The calls are nested to a depth. -/
def Callee.wayward : Nat → Callee (List Nat) Nat
  | 0 => ⟨some "wayward", "", false, fun _ => Task.escape .unfinished⟩
  | depth + 1 => ⟨some "wayward", "", false, fun n => do
    let before ← Task.read
    Task.modify fun invoked => invoked ++ [n]
    match n with
    | 0 =>
      if before.getLast? = some 0 then pure (.ready (.int 0))
      else Task.raise (.plain 0 Kind.valueError [])
    | 1 => Task.raise (.plain 1 Kind.valueError [])
    | 2 => Task.raise (.plain 2 Kind.keyboardInterrupt [])
    | n + 3 => Reply.ready <$>
      (Decorated.ofName .still (some .single) none (wayward depth) "wayward").call (.operation n) n⟩

namespace Decorated

/-- A call that succeeds, one that gives up, one that is interrupted and one within which the
function is called again do not touch each other. -/
theorem calls_independent_wayward :
    let callee := Callee.wayward 2
    let calls := [(.operation 10, 0), (.operation 11, 1), (.operation 12, 2), (.operation 13, 3)]
    ∃ decorated : Decorated (List Nat) Unit Nat,
      (apply .still none none (.given (some .single))).finish callee = .ok decorated ∧
      (history decorated.traced calls []).map (fun episode => episode.trace.ending) =
        [.ok (.int 0),
          .error (.raised (.exhausted
            "Retry policy for operation 'wayward' exhausted; aborting execution"
            (.plain 1 Kind.valueError []) [.plain 1 Kind.valueError []] (.operation 11))),
          .error (.raised (.plain 2 Kind.keyboardInterrupt [])), .ok (.int 0)] ∧
      (history decorated.traced calls []).getLast?.map Episode.after =
        some [0, 0, 1, 1, 2, 3, 0, 0] ∧
      history (callee.callAfresh .still "wayward" (some .single) none) calls [] =
        history decorated.traced calls [] := by
  intro callee calls
  obtain ⟨decorated, applied, independent, -⟩ :=
    calls_independent Template.still (some .single) none none callee rfl
  refine ⟨decorated, applied, ?_, ?_, (independent calls []).2.1⟩
  all_goals
    cases applied
    rfl

end Decorated

end Reattempt
