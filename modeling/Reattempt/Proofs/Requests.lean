import Mathlib
import Reattempt.Proofs.Loosening
import Reattempt.Proofs.Visits
import Reattempt.Scenario.Exchange

/-!
# Retried requests

A request that is executed under a policy for requests is sent again as long as what came of it is
transient and the policy allows. What the client does decides the whole execution, by
`Errand.execute_retried`. All that is asked of responses is that one with an error status raises a
failure with that status when it is told to.
-/

namespace Reattempt

variable {σ ℓ : Type}

/-! ### Policies for requests -/

def Policy.transient (attempts : Nat) (seconds : Float) (setting test : Nat)
    (statuses : List Value) : Policy :=
  ⟨attempts, .float seconds, setting, .null,
    .classifier ⟨[], [], [.predicate ⟨test, .transientSilently statuses⟩]⟩⟩

namespace Policy

variable {attempts : Nat} {delay forcelist : Value} {seconds : Float} {statuses : List Value}

theorem transient_sound (least : 1 ≤ attempts)
    (bounded : (Value.float seconds).compareBy .below (.int 0) = .ok false) (setting test : Nat)
    (statuses : List Value) : (transient attempts seconds setting test statuses).Sound := by
  have positive : 1 ≤ (attempts : Int) := by omega
  exact ⟨validatePolicy_int positive bounded, .inl rfl⟩

theorem forRequests_ok (least : 1 ≤ attempts) (inSeconds : delay.toSeconds = .ok seconds)
    (bounded : (Value.float seconds).compareBy .below (.int 0) = .ok false)
    (listed : forcelist.items? = .ok statuses) (setting test : Nat) :
    forRequests setting test [("max_attempts", .int attempts), ("delay", delay),
      ("status_forcelist", forcelist)] =
        .ok (transient attempts seconds setting test statuses) := by
  have made := (transient_sound least bounded setting test statuses).checked
  have expected : Arguments.check [("max_attempts", .int attempts), ("delay", delay),
      ("status_forcelist", forcelist)] "http_retry_policy" [] []
      ["max_attempts", "delay", "status_forcelist"] = .ok () := rfl
  have waits : PolicyBuilder.apply { PolicyBuilder.empty with maxAttempts := .int attempts } setting
      (.delay delay) = .ok { PolicyBuilder.empty with
        maxAttempts := .int attempts, delay := .float seconds, delaySetting := setting } := by
    rw [PolicyBuilder.apply, inSeconds]
    rfl
  rw [forRequests, expected]
  show (forcelist.items? >>= fun statuses =>
    PolicyBuilder.apply { PolicyBuilder.empty with maxAttempts := .int attempts } setting
      (.delay delay) >>= fun builder =>
    builder.apply setting (.predicate (.predicate ⟨test, .transientSilently statuses⟩)) >>=
      fun builder => builder.build 0) = _
  rw [listed, waits]
  show make (.int attempts) (.float seconds) setting .null
    (.classifier ⟨[], [], [.predicate ⟨test, .transientSilently statuses⟩]⟩) = _
  rw [make, show validatePolicy (.int attempts) (.float seconds) = _ from made]
  rfl

end Policy

/-! ### Which failures are transient -/

def isListed (statuses : List Value) (code : Int) : Bool :=
  statuses.any fun item => item.equals (.int code)

def Failure.isTransientFor (statuses : List Value) (f : Failure) : Bool :=
  f.kind.isA Kind.transportError ||
    match f.detail with
    | .status code => isListed statuses code
    | _ => false

theorem Failure.isTransient_tuple (statuses : List Value) (f : Failure) :
    f.isTransient (.tuple statuses) = .ok (f.isTransientFor statuses) := by
  rw [isTransient, isTransientFor]
  cases f.kind.isA Kind.transportError with
  | true => rfl
  | false => cases f.detail <;> rfl

/-- Tests of policies for requests are answered as they are meant. -/
def Examination.TestsTransience (examination : Examination σ) : Prop :=
  ∀ id statuses f, examination.ask ⟨id, .transientSilently statuses⟩ f =
    Value.bool <$> Task.ofExcept (f.isTransient (.tuple statuses))

theorem Stage.testsTransience (flavour : Flavour) :
    (Stage.template flavour).examination.TestsTransience :=
  fun _ _ _ => rfl

theorem Policy.transient_accepts {examination : Examination σ}
    (tests : examination.TestsTransience) (attempts setting test : Nat) (seconds : Float)
    (statuses : List Value) (f : Failure) :
    (transient attempts seconds setting test statuses).accepts examination f =
      if f.isTransientFor statuses then pure true
      else Classifier.reject examination f (" rejected by predicate " ++
        (Value.predicate ⟨test, .transientSilently statuses⟩).quote) := by
  rw [Policy.accepts, transient]
  dsimp only
  rw [Classifier.accepts]
  show Classifier.passesAll examination f [.predicate ⟨test, .transientSilently statuses⟩] = _
  rw [Classifier.passesAll, Classifier.satisfies, Classifier.passesAll, tests,
    Failure.isTransient_tuple]
  rfl

theorem Policy.transient_accepted {examination : Examination σ}
    (tests : examination.TestsTransience) {attempts setting test : Nat} {seconds : Float}
    {statuses : List Value} {f : Failure} {s : σ} {accepted : Bool}
    (returned : ((transient attempts seconds setting test statuses).accepts examination f s).1 =
      .ok accepted) : accepted = f.isTransientFor statuses := by
  rw [transient_accepts tests] at returned
  cases transience : f.isTransientFor statuses with
  | true =>
    rw [transience] at returned
    cases returned
    rfl
  | false =>
    rw [transience] at returned
    have rejected : ((examination.tell _ >>= fun _ => pure false : Task σ Bool) s).1 =
      .ok accepted := returned
    rcases told : examination.tell _ s with ⟨e | _, s'⟩
    · rw [Task.bind_error told] at rejected
      cases rejected
    · rw [Task.bind_ok told] at rejected
      cases rejected
      rfl

/-! ### What a request comes to -/

def Failure.IsOfStatus (code : Int) (f : Failure) : Prop :=
  f.kind = Kind.httpStatusError ∧ f.detail = .status code

/-- Wherever it is asked to, a response with an error status raises a failure that carries the
status. -/
def Response.RaisesForStatus (response : Response σ) : Prop :=
  400 ≤ response.status → ∀ s, ∃ f : Failure, f.IsOfStatus response.status ∧
    (response.raiseForStatus s).1 = .error (.raised f)

theorem Response.prepared_raisesForStatus (status : Int) (url : String) :
    (prepared status url).RaisesForStatus :=
  fun _ _ => ⟨_, ⟨rfl, rfl⟩, rfl⟩

/-- What a request comes to when its client raises or returns: the failure of the client, the value
of a response below the errors, and the failure that any other response raises. -/
inductive Comes : Except Failure (Response σ) → Except Failure Value → Prop where
  | failed (f : Failure) : Comes (.error f) (.error f)
  | returned {response : Response σ} (below : response.status < 400) :
      Comes (.ok response) (.ok response.value)
  | refused {response : Response σ} {f : Failure} (reaches : 400 ≤ response.status)
      (status : f.IsOfStatus response.status)
      (raised : ∃ s, (response.raiseForStatus s).1 = .error (.raised f)) :
      Comes (.ok response) (.error f)

/-- What is sent again: a failure of the transport, a failure of a response with a status of the
list, or such a response itself if its status is an error. -/
def Retries (statuses : List Value) : Except Failure (Response σ) → Prop
  | .error f => f.kind.isA Kind.transportError = true ∨
      ∃ code, f.detail = .status code ∧ isListed statuses code = true
  | .ok response =>
    400 ≤ response.status ∧ isListed statuses response.status = true

theorem Failure.IsOfStatus.isTransientFor {code : Int} {f : Failure} (h : f.IsOfStatus code)
    (statuses : List Value) : f.isTransientFor statuses = isListed statuses code := by
  rw [Failure.isTransientFor, h.1, h.2]
  rfl

theorem Comes.retries_iff {b : Except Failure (Response σ)} {outcome : Except Failure Value}
    (comes : Comes b outcome) (statuses : List Value) :
    Retries statuses b ↔ ∃ f, outcome = .error f ∧ f.isTransientFor statuses = true := by
  cases comes with
  | failed f =>
    have shown : Retries (σ := σ) statuses (.error f) ↔ f.isTransientFor statuses = true := by
      rw [Retries, Failure.isTransientFor, Bool.or_eq_true]
      cases f.detail <;> simp
    rw [shown]
    constructor
    · intro transience
      exact ⟨f, rfl, transience⟩
    · rintro ⟨g, same, transience⟩
      cases same
      exact transience
  | @returned response below =>
    constructor
    · rintro ⟨reaches, -⟩
      omega
    · rintro ⟨f, same, -⟩
      cases same
  | @refused response f reaches status =>
    constructor
    · rintro ⟨-, listed⟩
      exact ⟨f, rfl, (status.isTransientFor statuses).trans listed⟩
    · rintro ⟨g, same, transience⟩
      cases same
      exact ⟨reaches, (status.isTransientFor statuses).symm.trans transience⟩

theorem exists_comes (s : σ) {b : Except Failure (Response σ)}
    (raises : ∀ response, b = .ok response → response.RaisesForStatus) :
    ∃ outcome, Comes b outcome := by
  cases b with
  | error f => exact ⟨_, .failed f⟩
  | ok response =>
    by_cases below : response.status < 400
    · exact ⟨_, .returned below⟩
    · have reaches : 400 ≤ response.status := by omega
      obtain ⟨f, status, raised⟩ := raises response rfl reaches s
      exact ⟨_, .refused reaches status ⟨s, raised⟩⟩

/-! ### Requests as operations -/

namespace Errand

variable {errand : Errand σ} {flavour : Flavour} {s : σ} {b : Except Failure (Response σ)}

theorem perform_operation :
    flavour.perform (errand.operation flavour) = flavour.insulate errand.send := by
  rw [Flavour.perform]
  cases flavour with
  | direct =>
    show (Reply.ready <$> errand.send >>= Flavour.direct.receive) = _
    rw [bind_map_left]
    exact bind_pure _
  | awaited => rfl

theorem check_of_below {response : Response σ} (below : response.status < 400) :
    errand.check response = pure () := by
  rw [check, leastErrorStatus, if_neg (by omega)]

theorem check_raises (tells : ∀ notice s, (errand.tell notice s).1 = .ok ())
    {response : Response σ} (raises : response.RaisesForStatus)
    (reaches : 400 ≤ response.status) (s : σ) :
    ∃ f, Comes (.ok response) (.error f) ∧ (errand.check response s).1 = .error (.raised f) := by
  generalize noticed : Notice.debug Request.logger
    (errand.name s ++ " failed with status " ++ toString response.status) [] = notice
  have told : errand.tell notice s = (.ok (), (errand.tell notice s).2) :=
    Prod.ext (tells notice s) rfl
  obtain ⟨f, status, raised⟩ := raises reaches (errand.tell notice s).2
  refine ⟨f, .refused reaches status ⟨_, raised⟩, ?_⟩
  rw [check, leastErrorStatus, if_pos reaches, Task.bind_ok (Task.gets_apply errand.name s), noticed,
    Task.bind_ok told]
  exact raised

/-- The client does what it is said to do. What it raises may change at the boundary of a task that is
waited for. -/
theorem fetch_cases (behaves : (flavour.insulate errand.fetch s).1 = b.mapError .raised) :
    (∃ e f s', b = .error f ∧ errand.fetch s = (.error e, s') ∧ flavour.outward e = .raised f) ∨
      ∃ response s', b = .ok response ∧ errand.fetch s = (.ok response, s') := by
  rw [Flavour.insulate_apply] at behaves
  rcases run : errand.fetch s with ⟨e | response, s'⟩
  · rw [run] at behaves
    cases b with
    | ok response => cases behaves
    | error f => exact .inl ⟨e, f, s', rfl, rfl, Except.error.inj behaves⟩
  · rw [run] at behaves
    cases b with
    | error f => cases behaves
    | ok response' =>
      obtain rfl : response = response' := Except.ok.inj behaves
      exact .inr ⟨response, s', rfl, rfl⟩

/-- What an invocation comes to is decided by what the client does. -/
theorem perform_comes (tells : ∀ notice s, (errand.tell notice s).1 = .ok ())
    (raises : ∀ response, b = .ok response → response.RaisesForStatus)
    (behaves : (flavour.insulate errand.fetch s).1 = b.mapError .raised) :
    ∃ outcome, Comes b outcome ∧
      (flavour.perform (errand.operation flavour) s).1 = outcome.mapError .raised := by
  rw [perform_operation, Flavour.insulate_apply, send]
  rcases fetch_cases behaves with ⟨e, f, s', rfl, run, left⟩ | ⟨response, s', rfl, run⟩
  · rw [Task.bind_error run]
    exact ⟨_, .failed f, congrArg Except.error left⟩
  · rw [Task.bind_ok run]
    by_cases below : response.status < 400
    · rw [check_of_below below]
      exact ⟨_, .returned below, rfl⟩
    · have reaches : 400 ≤ response.status := by omega
      obtain ⟨f, comes, raised⟩ := check_raises tells (raises response rfl) reaches s'
      refine ⟨.error f, comes, ?_⟩
      rw [Task.bind_error (Prod.ext raised rfl)]
      cases comes with
      | refused _ status =>
        have passes : f.kind.isA Kind.stopIteration = false := by
          rw [status.1]
          rfl
        exact congrArg Except.error (flavour.outward_raised passes)

/-! ### What clients are called with -/

abbrev Sent := String × String × Arguments

/-- A list in the state to which each call of the client adds what it was called with, and which
nothing else in an execution touches. -/
structure Logs (errand : Errand σ) (template : Template σ ℓ)
    (b : Nat → Except Failure (Response σ)) (log : σ → List Sent) : Prop where
  calls : ∀ method url settings s,
    log (errand.client method url settings s).2 = log s ++ [(method, url, settings)]
  tell : ∀ notice, Task.Keeps log Unit (errand.tell notice)
  raiseForStatus : ∀ i response, b i = .ok response → Task.Keeps log Unit response.raiseForStatus
  spares : template.Spares log

theorem Logs.perform {template : Template σ ℓ} {b : Nat → Except Failure (Response σ)}
    {log : σ → List Sent} (logs : errand.Logs template b log) (i : Nat)
    (behaves : (flavour.insulate errand.fetch s).1 = (b i).mapError .raised) :
    log (flavour.perform (errand.operation flavour) s).2 =
      log s ++ [(errand.request.method, errand.request.url, errand.request.settings)] := by
  rw [perform_operation, Flavour.insulate_apply, send]
  have added := logs.calls errand.request.method errand.request.url errand.request.settings s
  rcases fetch_cases behaves with ⟨e, f, s', -, run, -⟩ | ⟨response, s', came, run⟩
  · rw [show errand.client _ _ _ s = _ from run] at added
    rw [Task.bind_error run]
    exact added
  · rw [show errand.client _ _ _ s = _ from run] at added
    have checks : Task.Keeps log Unit (errand.check response) := by
      rw [check]
      split
      · exact Task.Keeps.bind (fun _ => rfl) fun name =>
          (logs.tell _).bind fun _ => logs.raiseForStatus i response came
      · exact fun _ => rfl
    rw [Task.bind_ok run]
    exact (checks.bind (fun _ _ => rfl) s').trans added

end Errand

/-! ### Requests that are sent again -/

namespace Errand

variable {errand : Errand σ} {template : Template σ ℓ} {s : σ}
  {b : Nat → Except Failure (Response σ)} {outcome : Nat → Except Failure Value}
  {limit setting test : Nat} {seconds : Float} {statuses : List Value}

/-- An execution that no call cuts short, with tests that are answered as they are meant, and with a
client that raises and returns the items of a sequence in order. -/
structure Executed (errand : Errand σ) (template : Template σ ℓ) (s : σ)
    (b : Nat → Except Failure (Response σ)) : Prop where
  tests : template.examination.TestsTransience
  tells : ∀ notice s, (errand.tell notice s).1 = .ok ()
  smooth : ∀ entry ∈ template.journal (errand.operation template.flavour) s, entry.Smooth .invoke
  behaves : ∀ i visit, (template.visits (errand.operation template.flavour) s)[i]? = some visit →
    (template.flavour.insulate errand.fetch visit.before).1 = (b i).mapError .raised
  raises : ∀ i response, b i = .ok response → response.RaisesForStatus

theorem Executed.exists_outcome (executed : errand.Executed template s b) :
    ∃ outcome : Nat → Except Failure Value, (∀ i, Comes (b i) (outcome i)) ∧
      Follows (invocations (template.journal (errand.operation template.flavour) s)) fun i =>
        (outcome i).mapError .raised := by
  have each (i : Nat) : ∃ outcome, Comes (b i) outcome ∧
      ∀ visit, (template.visits (errand.operation template.flavour) s)[i]? = some visit →
        visit.entry.ending = outcome.mapError .raised := by
    cases present : (template.visits (errand.operation template.flavour) s)[i]? with
    | none =>
      obtain ⟨outcome, comes⟩ := exists_comes s (executed.raises i)
      exact ⟨outcome, comes, nofun⟩
    | some visit =>
      obtain ⟨outcome, comes, ends⟩ :=
        perform_comes executed.tells (executed.raises i) (executed.behaves i visit present)
      refine ⟨outcome, comes, ?_⟩
      intro _ same
      cases same
      rw [Template.visit_performs (List.mem_of_getElem? present)] at ends
      exact ends
  choose outcome comes ends using each
  refine ⟨outcome, comes, ?_⟩
  intro i ending found
  rw [Template.invocations_journal, List.getElem?_map] at found
  obtain ⟨visit, present, rfl⟩ := Option.map_eq_some_iff.mp found
  exact ends i visit present

theorem Executed.classified (executed : errand.Executed template s b)
    (held : template.policy s = some (.transient limit seconds setting test statuses)) :
    Execution.ClassifiedBy (Failure.isTransientFor statuses)
      (template.journal (errand.operation template.flavour) s) := by
  rintro ⟨name, call, ending⟩ member f rfl
  obtain ⟨⟨before, ends⟩, -⟩ := (template.started _ s).journal_answered s _ member
  rw [Execution.answer, Task.map_apply] at ends
  obtain rfl : ending = _ := ends
  obtain ⟨accepted, returned⟩ := (executed.smooth _ member).returns fun same => by cases same
  rw [returned]
  have accepts : (template.started (errand.operation template.flavour) s).accepts f =
      (Policy.transient limit seconds setting test statuses).accepts template.examination f := by
    rw [Template.started, held]
    rfl
  rw [accepts] at returned
  rw [Policy.transient_accepted executed.tests returned]
  rfl

theorem Executed.regular (executed : errand.Executed template s b) (least : 1 ≤ limit)
    (bounded : (Value.float seconds).compareBy .below (.int 0) = .ok false)
    (held : template.policy s = some (.transient limit seconds setting test statuses))
    (invoked : Follows (invocations (template.journal (errand.operation template.flavour) s))
      fun i => (outcome i).mapError .raised) :
    template.Regular (errand.operation template.flavour) s limit outcome
      (Failure.isTransientFor statuses) fun _ => .float seconds := by
  have sound := Policy.transient_sound least bounded setting test statuses
  have calculated : Execution.CalculatedBy (fun _ => .float seconds)
      (template.journal (errand.operation template.flavour) s) := by
    refine Execution.journal_calculatedBy (fun cursor starts i s' => ?_) s
    rw [Template.started_start held, sound.start_of_absent rfl] at starts
    cases starts
    rfl
  have delays : GivesDelays (template.journal (errand.operation template.flavour) s) := by
    intro entry member strategy attempt call
    obtain ⟨-, counted⟩ := (template.started _ s).journal_answered s entry member
    obtain ⟨cursor, attempts, -, -, rfl⟩ := counted _ _ call
    rw [calculated entry member _ _ call]
    intro same
    cases same
  exact {
    allows := ⟨_, held, sound, Value.bounds_of_whole (i := limit) rfl⟩
    undisturbed := ⟨executed.smooth, delays⟩
    invoked
    classified := executed.classified held
    calculated }

/-- What requests come to that are sent so often. A request is sent again exactly if the limit
allows and what came of it asks for it; the first response below the errors is returned as it is. -/
structure Retried (statuses : List Value) (limit : Nat) (b : Nat → Except Failure (Response σ))
    (sent : Nat) (ending : Except Escape Value) : Prop where
  first : 0 < sent
  next (i : Nat) : i + 1 < sent ↔ i < sent ∧ i + 1 ≤ limit ∧ Retries statuses (b i)
  returned (i : Nat) (response : Response σ) : i < sent → b i = .ok response →
    response.status < 400 → i + 1 = sent ∧ ending = .ok response.value
  ends : (∃ response, b (sent - 1) = .ok response ∧ response.status < 400 ∧
      ending = .ok response.value) ∨
    ∃ (error : Failure) (failures : List Failure), ending = .error (.raised error) ∧
      error.kind = Kind.exhausted ∧ error.detail.failures = failures.map .failure ∧
      List.Forall₂ (fun i f => Comes (b i) (.error f)) (List.range sent) failures

variable {k : Nat} {earlier : List Failure} {ending : Except Escape Value}

abbrev stops (outcome : Nat → Except Failure Value) (statuses : List Value) (limit : Nat) :
    Nat → Prop :=
  Stops outcome (fun i => verdictOf (Failure.isTransientFor statuses) (outcome i)) limit

theorem stops_iff (comes : ∀ i, Comes (b i) (outcome i)) (i : Nat) :
    stops outcome statuses limit i ↔ ¬ Retries statuses (b i) ∨ i = limit := by
  rw [(comes i).retries_iff statuses, stops, Stops]
  cases outcome i with
  | ok result => simp
  | error f => simp [verdictOf]

theorem forall_failed (comes : ∀ i, Comes (b i) (outcome i)) {failures : List Failure} {n : Nat}
    (failed : (List.range n).map outcome = failures.map .error) :
    List.Forall₂ (fun i f => Comes (b i) (.error f)) (List.range n) failures := by
  have same : List.Forall₂ (fun i f => outcome i = .error f) (List.range n) failures := by
    rw [← List.forall₂_map_left_iff (R := fun o f => o = Except.error f),
      ← List.forall₂_map_right_iff (R := Eq), failed]
    exact List.forall₂_refl _
  refine same.imp fun i f was => ?_
  rw [← was]
  exact comes i

theorem retried_of_settles (comes : ∀ i, Comes (b i) (outcome i))
    (least : IsLeast {i | stops outcome statuses limit i} k)
    (failed : (List.range k).map outcome = earlier.map .error) {self : Value}
    (ends : Execution.Concludes self earlier ending (outcome k)) :
    Retried statuses limit b (k + 1) ending where
  first := Nat.succ_pos k
  next i := by
    have most : k ≤ limit := least.2 (.inr (.inr rfl))
    constructor
    · intro more
      -- The run goes on beyond this outcome, so it does not stop there.
      have passes : ¬ stops outcome statuses limit i := fun stops => by
        have := least.2 stops
        omega
      rw [stops_iff comes, not_or, Classical.not_not] at passes
      exact ⟨by omega, by omega, passes.1⟩
    · rintro ⟨within, allowed, retries⟩
      refine Nat.succ_lt_succ (Nat.lt_of_le_of_ne (Nat.le_of_lt_succ within) ?_)
      rintro rfl
      rcases (stops_iff comes i).mp least.1 with other | met
      · exact other retries
      · omega
  returned i response within came below := by
    have result : outcome i = .ok response.value := by
      have found := comes i
      rw [came] at found
      generalize outcome i = o at found
      cases found with
      | returned => rfl
      | refused reaches => omega
    obtain rfl : i = k :=
      Nat.le_antisymm (Nat.le_of_lt_succ within) (least.2 (.inl ⟨_, result⟩))
    rw [result] at ends
    exact ⟨rfl, ends⟩
  ends := by
    have found := comes k
    cases last : outcome k with
    | ok result =>
      rw [last] at ends found
      refine .inl ?_
      generalize came : b k = behaviour at found
      cases found with
      | returned below => exact ⟨_, came, below, ends⟩
    | error f =>
      rw [last] at ends
      obtain ⟨name, gave_up⟩ := ends
      refine .inr ⟨_, earlier ++ [f], gave_up, rfl, ?_, forall_failed comes ?_⟩
      · rw [List.map_append]
        rfl
      · rw [List.range_succ, List.map_append, failed, List.map_append, List.map_singleton, last]
        rfl

theorem Executed.logged (executed : errand.Executed template s b) {log : σ → List Sent}
    (logs : errand.Logs template b log) :
    log (template.execute (errand.operation template.flavour) s).2 =
      log s ++ List.replicate (template.visits (errand.operation template.flavour) s).length
        (errand.request.method, errand.request.url, errand.request.settings) := by
  have gains (visit : Moment σ ℓ)
      (member : visit ∈ template.visits (errand.operation template.flavour) s) :
      log visit.after = log visit.before ++
        [(errand.request.method, errand.request.url, errand.request.settings)] := by
    obtain ⟨i, present⟩ := List.mem_iff_getElem?.mp member
    have adds := logs.perform i (executed.behaves i visit present)
    rw [Template.visit_performs member] at adds
    exact adds
  rw [Template.gains_visits logs.spares gains, ← List.map_eq_flatMap, List.map_const']

/-- A request that is made with a method and executed under a policy for requests keeps its method
in upper case and is sent at least once; it is sent again exactly as long as the limit allows and
what came of it is a failure of the transport or has an error status of the list. The first response
below the errors is returned as it is. Any other execution is given up with one failure for each
time the request was sent, in order: the one the client raised, or the one that the response raised
for its status. The client is called with the same method, address and settings each time. -/
theorem execute_retried {className method url : String} {settings : Arguments} {request : Request}
    {delay forcelist : Value} (least : 1 ≤ limit) (inSeconds : delay.toSeconds = .ok seconds)
    (bounded : (Value.float seconds).compareBy .below (.int 0) = .ok false)
    (listed : forcelist.items? = .ok statuses)
    (made : Request.make className method url settings = .ok request) (setting test : Nat) :
    request = ⟨Text.upper method, url, settings⟩ ∧
      ∃ policy, Policy.forRequests setting test [("max_attempts", .int limit), ("delay", delay),
        ("status_forcelist", forcelist)] = .ok policy ∧
      ∀ (σ ℓ : Type) (errand : Errand σ) (template : Template σ ℓ) (s : σ)
        (b : Nat → Except Failure (Response σ)), errand.request = request →
        template.policy s = some policy → errand.Executed template s b →
        let operation := errand.operation template.flavour
        let sent := (template.visits operation s).length
        Retried statuses limit b sent (template.execute operation s).1 ∧
          ∀ log : σ → List Sent, errand.Logs template b log →
            log (template.execute operation s).2 =
              log s ++ List.replicate sent (Text.upper method, url, settings) := by
  have kept : request = ⟨Text.upper method, url, settings⟩ := by
    rw [Request.make] at made
    split at made
    · cases made
    · exact (Except.ok.inj made).symm
  refine ⟨kept, _, Policy.forRequests_ok least inSeconds bounded listed setting test, ?_⟩
  rintro σ ℓ errand template s b rfl held executed
  constructor
  · obtain ⟨outcome, comes, invoked⟩ := executed.exists_outcome
    obtain ⟨k, stops, calls, -, earlier, failed, ends⟩ :=
      (executed.regular least bounded held invoked).settles
    have counted : (template.visits (errand.operation template.flavour) s).length = k + 1 := by
      have lengths := congrArg List.length calls
      rw [Template.invocations_journal, List.length_map, List.length_map, List.length_range]
        at lengths
      exact lengths
    rw [counted]
    exact retried_of_settles comes stops failed ends
  · intro log logs
    rw [executed.logged logs, kept]

def unavailableResponse : Response (List Sent) :=
  ⟨.response 503, 503, Task.raise (.ofStatus 0 "503 Service Unavailable" 503)⟩

def unavailable : Errand (List Sent) where
  request := ⟨"GET", "http://a.b/", [("timeout", .int 5)]⟩
  client method url settings := fun s =>
    (.ok unavailableResponse, s ++ [(method, url, settings)])
  tell _ := pure ()
  name _ := "GET http://a.b/"
  self := .operation 0

def testing (policy : Policy) : Template (List Sent) Unit where
  flavour := .awaited
  policy _ := some policy
  listener _ := some (.leaf ())
  examination := ⟨fun p f =>
    match p.test with
    | .transientSilently statuses =>
      .bool <$> Task.ofExcept (f.isTransient (.tuple statuses))
    | _ => pure (.bool true), fun _ => pure ()⟩
  chance := ⟨fun low _ => pure low, fun _ => pure ()⟩
  wait _ := pure ()
  notify _ _ _ _ := pure ()
  members _ _ := []
  patience := 9

theorem unavailable_raises {response : Response (List Sent)}
    (came : (.ok unavailableResponse : Except Failure _) = .ok response) :
    response.RaisesForStatus := by
  cases came
  exact fun _ _ => ⟨_, ⟨rfl, rfl⟩, rfl⟩

theorem executed_unavailable (bounded : (Value.float seconds).compareBy .below (.int 0) = .ok false)
    (least : 1 ≤ limit) (s : List Sent) :
    unavailable.Executed (testing (.transient limit seconds setting test statuses)) s
      fun _ => .ok unavailableResponse := by
  have sound := Policy.transient_sound least bounded setting test statuses
  have calm : ((testing (.transient limit seconds setting test statuses)).started
      (unavailable.operation .awaited) s).Calm := {
    invoke := by
      intro s' e raised
      obtain ⟨outcome, comes, ends⟩ := @perform_comes _ unavailable .awaited s'
        (.ok unavailableResponse) (fun _ _ => rfl) (fun _ => unavailable_raises) rfl
      cases comes with
      | returned below => exact absurd below (by decide)
      | refused _ status =>
        cases ends.symm.trans raised
        show Failure.isOrdinary _ = true
        rw [Failure.isOrdinary, status.1]
        rfl
    accepts := by
      intro f s'
      refine ⟨f.isTransientFor statuses, ?_⟩
      show ((Policy.transient limit seconds setting test statuses).accepts
        (testing _).examination f s').1 = _
      rw [Policy.transient_accepts fun _ _ _ => rfl]
      cases f.isTransientFor statuses <;> rfl
    calculate := by
      intro cursor starts attempts s'
      rw [Template.started_start rfl, sound.start_of_absent rfl] at starts
      cases starts
      exact ⟨.float seconds, rfl, rfl⟩
    wait := fun _ _ => rfl
    observe := fun _ _ => rfl
    tell := fun _ _ => rfl }
  exact {
    tests := fun _ _ _ => rfl
    tells := fun _ _ => rfl
    smooth := (calm.undisturbed s).smooth
    behaves := fun _ _ _ => rfl
    raises := fun _ _ => unavailable_raises }

theorem testing_spares (policy : Policy) : (testing policy).Spares id where
  ask p f := by
    show Task.Keeps id Value (match p.test with
      | .transientSilently statuses =>
        .bool <$> Task.ofExcept (f.isTransient (.tuple statuses))
      | _ => pure (.bool true))
    split
    · next statuses _ =>
      refine Task.Keeps.map (fun s => ?_) _
      cases f.isTransient (.tuple statuses) <;> rfl
    · exact fun _ => rfl
  tell _ := fun _ => rfl
  uniform _ _ := fun _ => rfl
  jitter _ := fun _ => rfl
  wait _ := fun _ => rfl
  notify _ _ _ _ := fun _ => rfl

theorem unavailable_logs (policy : Policy) :
    unavailable.Logs (testing policy) (fun _ => .ok unavailableResponse) id where
  calls _ _ _ _ := rfl
  tell _ := fun _ => rfl
  raiseForStatus := by
    rintro _ _ came
    cases came
    exact fun _ => rfl
  spares := testing_spares policy

/-- A request that meets 503 is sent twice if one retry is allowed, and then is given up. -/
theorem execute_retried_unavailable :
    let request : Request := ⟨"GET", "http://a.b/", [("timeout", .int 5)]⟩
    let policy := Policy.transient 1 0.0 0 0 [.int 503]
    Request.make "AsyncHttpRetryable" "get" "http://a.b/" [("timeout", .int 5)] = .ok request ∧
      Policy.forRequests 0 0 [("max_attempts", .int 1), ("delay", .float 0.0),
        ("status_forcelist", .list [.int 503])] = .ok policy ∧
      unavailable.Executed (testing policy) [] (fun _ => .ok unavailableResponse) ∧
      unavailable.Logs (testing policy) (fun _ => .ok unavailableResponse) id ∧
      ((testing policy).execute (unavailable.operation .awaited) []).2 =
        [("GET", "http://a.b/", [("timeout", .int 5)]),
          ("GET", "http://a.b/", [("timeout", .int 5)])] ∧
      ∃ error, ((testing policy).execute (unavailable.operation .awaited) []).1 =
        .error (.raised error) ∧ error.kind = Kind.exhausted := by
  intro request policy
  have bounded : (Value.float 0.0).compareBy .below (.int 0) = .ok false := Value.compareBy_zero _
  have upper : Text.upper "get" = "GET" := by decide +kernel
  have made : Request.make "AsyncHttpRetryable" "get" "http://a.b/" [("timeout", .int 5)] =
      .ok request := by
    rw [Request.make, upper]
    rfl
  have executed : unavailable.Executed (testing policy) [] fun _ => .ok unavailableResponse :=
    executed_unavailable bounded (Nat.le_refl 1) []
  have logs := unavailable_logs policy
  have inSeconds : (Value.float 0.0).toSeconds = .ok 0.0 := rfl
  have listed : (Value.list [.int 503]).items? = .ok [.int 503] := rfl
  obtain ⟨-, policy', forRequests, comes⟩ :=
    execute_retried (Nat.le_refl 1) inSeconds bounded listed made 0 0
  obtain rfl : policy = policy' := Except.ok.inj
    ((Policy.forRequests_ok (Nat.le_refl 1) inSeconds bounded listed 0 0).symm.trans forRequests)
  obtain ⟨retried, logged⟩ := comes _ _ unavailable (testing policy) [] _ rfl rfl executed
  have counted : ((testing policy).visits
      (unavailable.operation (testing policy).flavour) []).length = 2 := by
    have retries : Retries [.int 503] (.ok unavailableResponse) := ⟨by decide, by decide +kernel⟩
    have second := (retried.next 0).mpr ⟨retried.first, Nat.le_refl 1, retries⟩
    have last : ¬ _ := fun third => by
      have := (retried.next 1).mp third
      omega
    exact Nat.le_antisymm (Nat.le_of_not_lt last) second
  refine ⟨made, forRequests, executed, logs, ?_, ?_⟩
  · have went := logged id logs
    rw [counted, upper] at went
    exact went
  · rcases retried.ends with ⟨response, came, below, -⟩ | ⟨error, failures, gave_up, kind, -⟩
    · cases came
      exact absurd below (by decide)
    · exact ⟨error, gave_up, kind⟩

end Errand

end Reattempt
