import Mathlib.Data.List.Forall2
import Reattempt.Proofs.Budget
import Reattempt.Proofs.Related

/-!
# Sharing

Any number of cursors over one strategy, started and asked in any order. If the delay for an
attempt depends on the attempt only, then each cursor goes through the delays as if it were the
only one, which `Sharing.run_apart` says.
-/

namespace Reattempt

def Value.Counts (limit : Value) : Prop :=
  limit = .null ∨ ∃ n, limit.whole? = some n

namespace Cursor

structure Reply where
  before : Nat
  ending : Except Escape Value
  after : Nat

def met (limit : Option Int) (attempts : Nat) : Bool :=
  limit.any fun n : Int => decide (n ≤ attempts)

def reply (delays : Nat → Except Escape Value) (limit : Option Int) (attempts : Nat) : Reply :=
  if met limit attempts then ⟨attempts, .ok .null, attempts⟩
  else
    match delays attempts with
    | .ok delay => ⟨attempts, .ok delay, attempts + 1⟩
    | .error e => ⟨attempts, .error e, attempts⟩

section

variable {delays : Nat → Except Escape Value} {limit : Option Int} {attempts : Nat}

theorem reply_met (h : met limit attempts = true) :
    reply delays limit attempts = ⟨attempts, .ok .null, attempts⟩ := by
  rw [reply, if_pos h]

theorem reply_given {delay : Value} (h : met limit attempts = false)
    (given : delays attempts = .ok delay) :
    reply delays limit attempts = ⟨attempts, .ok delay, attempts + 1⟩ := by
  rw [reply, h, if_neg Bool.false_ne_true, given]

theorem reply_failed {e : Escape} (h : met limit attempts = false)
    (failed : delays attempts = .error e) :
    reply delays limit attempts = ⟨attempts, .error e, attempts⟩ := by
  rw [reply, h, if_neg Bool.false_ne_true, failed]

end

/-- How many delays a cursor has handed out once it was asked a number of times. -/
def reached (delays : Nat → Except Escape Value) (limit : Option Int) : Nat → Nat
  | 0 => 0
  | asks + 1 => (reply delays limit (reached delays limit asks)).after

def replies (delays : Nat → Except Escape Value) (limit : Option Int) (asks : Nat) : List Reply :=
  (List.range asks).map fun k => reply delays limit (reached delays limit k)

def Reply.advances (r : Reply) : Bool := r.after == r.before + 1

section

variable (delays : Nat → Except Escape Value) (limit : Option Int)

theorem replies_succ (asks : Nat) : replies delays limit (asks + 1) =
    replies delays limit asks ++ [reply delays limit (reached delays limit asks)] := by
  rw [replies, replies, List.range_succ, List.map_append]
  rfl

theorem length_replies (asks : Nat) : (replies delays limit asks).length = asks := by
  rw [replies, List.length_map, List.length_range]

variable {delays limit} in
theorem getElem?_replies {asks k : Nat} {r : Reply}
    (h : (replies delays limit asks)[k]? = some r) :
    k < asks ∧ r = reply delays limit (reached delays limit k) := by
  have short := (List.getElem?_eq_some_iff.mp h).1
  rw [length_replies] at short
  rw [replies, List.getElem?_map, List.getElem?_range short] at h
  exact ⟨short, (Option.some.inj h).symm⟩

variable {delays limit} in
theorem mem_replies {asks : Nat} {r : Reply} (member : r ∈ replies delays limit asks) :
    ∃ k, r = reply delays limit (reached delays limit k) := by
  obtain ⟨k, h⟩ := List.mem_iff_getElem?.mp member
  exact ⟨k, (getElem?_replies h).2⟩

theorem reply_before (attempts : Nat) : (reply delays limit attempts).before = attempts := by
  rw [reply]
  cases met limit attempts with
  | true => rfl
  | false => cases delays attempts <;> rfl

theorem reply_cases (attempts : Nat) :
    ((reply delays limit attempts).after = attempts ∧
      (reply delays limit attempts).advances = false) ∨
    (met limit attempts = false ∧ (reply delays limit attempts).after = attempts + 1 ∧
      (reply delays limit attempts).advances = true ∧
      (reply delays limit attempts).ending = delays attempts) := by
  cases h : met limit attempts with
  | true =>
    rw [reply_met h]
    exact .inl ⟨rfl, by simp [Reply.advances]⟩
  | false =>
    cases run : delays attempts with
    | ok delay =>
      rw [reply_given h run]
      exact .inr ⟨rfl, rfl, by simp [Reply.advances], rfl⟩
    | error e =>
      rw [reply_failed h run]
      exact .inl ⟨rfl, by simp [Reply.advances]⟩

theorem reply_error (attempts : Nat) {e : Escape}
    (escapes : (reply delays limit attempts).ending = .error e) :
    (reply delays limit attempts).after = attempts := by
  cases h : met limit attempts with
  | true => rw [reply_met h]
  | false =>
    cases run : delays attempts with
    | ok delay =>
      rw [reply_given h run] at escapes
      cases escapes
    | error e => rw [reply_failed h run]

/-- What is handed out are the first delays, each once and in order. -/
theorem handed_out (asks : Nat) :
    ((replies delays limit asks).filter Reply.advances).map Reply.ending =
      (List.range (reached delays limit asks)).map delays := by
  induction asks with
  | zero => rfl
  | succ asks ih =>
    rw [replies_succ, List.filter_append, List.map_append, ih, reached]
    rcases reply_cases delays limit (reached delays limit asks) with
      ⟨stays, still⟩ | ⟨-, moves, advances, given⟩
    · rw [stays, List.filter_cons_of_neg (by rw [still]; exact Bool.false_ne_true)]
      exact List.append_nil _
    · rw [moves, List.filter_cons_of_pos advances, List.range_succ, List.map_append]
      simp only [List.filter_nil, List.map_singleton, given]

theorem reached_le {n : Int} (asks : Nat) : (reached delays (some n) asks : Int) ≤ max n 0 := by
  induction asks with
  | zero => exact Int.le_max_right n 0
  | succ asks ih =>
    rw [reached]
    rcases reply_cases delays (some n) (reached delays (some n) asks) with
      ⟨stays, -⟩ | ⟨open_, moves, -, -⟩
    · rw [stays]
      exact ih
    · have below : ¬ n ≤ (reached delays (some n) asks : Int) := of_decide_eq_false open_
      rw [moves]
      omega

variable {delays limit}

theorem reached_of_met {asks : Nat} (h : met limit (reached delays limit asks) = true)
    (more : Nat) : reached delays limit (asks + more) = reached delays limit asks := by
  induction more with
  | zero => rfl
  | succ more ih => rw [← Nat.add_assoc, reached, ih, reply_met h]

end

/-! ### What a cursor does -/

section

variable {σ : Type} {calculate : Strategy → Value → Task σ Value} {strategy : Strategy}
  {limit : Value} {delays : Nat → Except Escape Value}

theorem isSpent_of_counts (strategy : Strategy) (counts : limit.Counts) (attempts : Nat) :
    (Cursor.mk strategy limit attempts).isSpent = .ok (met limit.whole? attempts) := by
  rcases counts with rfl | ⟨n, whole⟩
  · rfl
  · rw [isSpent, isSpentAt, Value.present_of_whole whole, if_neg Bool.false_ne_true,
      Value.compareBy_whole _ _ whole, Comparison.atLeast_holds, whole]
    rfl

/-- One call on a cursor. When the delay cannot be computed, the cursor stays as it is. -/
theorem next_eq_reply (pure : ∀ (n : Nat) s, (calculate strategy (.int n) s).1 = delays n)
    (counts : limit.Counts) (attempts : Nat) (s : σ) :
    ((Cursor.mk strategy limit attempts).next calculate s).1 =
      (reply delays limit.whole? attempts).ending.map fun delay =>
        (delay, ⟨strategy, limit, (reply delays limit.whole? attempts).after⟩) := by
  have spent := isSpent_of_counts strategy counts attempts
  cases h : met limit.whole? attempts with
  | true =>
    rw [h] at spent
    rw [next_spent spent, reply_met h]
    rfl
  | false =>
    rw [h] at spent
    rw [next_unspent spent, Task.bind_apply]
    have outcome := pure attempts s
    rcases run : calculate strategy (.int attempts) s with ⟨e | delay, s'⟩
    · rw [run] at outcome
      rw [reply_failed h outcome.symm]
      rfl
    · rw [run] at outcome
      rw [reply_given h outcome.symm]
      rfl

end

end Cursor

/-! ### Cursors side by side -/

inductive Move (strategy : Strategy) where
  | start (fallback : Value) (counts : fallback.Counts)
  | startUnder (policy : Policy) (shares : policy.backoff = .strategy strategy)
  /-- Ask the cursor that was started at this place, if there is one. -/
  | next (place : Nat)

/-- The limit that a new cursor has if the strategy has none. -/
def Move.fallback? {strategy : Strategy} : Move strategy → Option Value
  | .start fallback _ => some fallback
  | .startUnder policy _ => some (.int policy.maxAttempts)
  | .next _ => none

structure Track where
  cursor : Cursor
  replies : List Cursor.Reply

structure Sharing (σ : Type) where
  state : σ
  tracks : List Track

namespace Sharing

variable {σ : Type} (calculate : Strategy → Value → Task σ Value) {strategy : Strategy}

def step (sharing : Sharing σ) : Move strategy → Sharing σ
  | .start fallback _ =>
    { sharing with tracks := sharing.tracks ++ [⟨strategy.start fallback, []⟩] }
  | .startUnder policy _ =>
    match policy.start with
    | .ok cursor => { sharing with tracks := sharing.tracks ++ [⟨cursor, []⟩] }
    | .error _ => sharing
  | .next place =>
    match sharing.tracks[place]? with
    | none => sharing
    | some ⟨cursor, earlier⟩ =>
      match cursor.next calculate sharing.state with
      | (.ok (delay, moved), after) =>
        ⟨after, sharing.tracks.set place
          ⟨moved, earlier ++ [⟨cursor.attempts, .ok delay, moved.attempts⟩]⟩⟩
      | (.error e, after) =>
        ⟨after, sharing.tracks.set place
          ⟨cursor, earlier ++ [⟨cursor.attempts, .error e, cursor.attempts⟩]⟩⟩

def run (s : σ) (moves : List (Move strategy)) : Sharing σ :=
  moves.foldl (step calculate) ⟨s, []⟩

end Sharing

namespace Track

def alone (delays : Nat → Except Escape Value) (strategy : Strategy) (fallback : Value)
    (asks : Nat) : Track :=
  let limit := (strategy.start fallback).limit
  ⟨⟨strategy, limit, Cursor.reached delays limit.whole? asks⟩,
    Cursor.replies delays limit.whole? asks⟩

end Track

namespace Sharing

variable {σ : Type} {calculate : Strategy → Value → Task σ Value} {strategy : Strategy}
  {delays : Nat → Except Escape Value} {sharing : Sharing σ} {fallback : Value}

theorem start_counts (counts : strategy.limit.Counts) (counts' : fallback.Counts) :
    (strategy.start fallback).limit.Counts := by
  rw [Strategy.start]
  dsimp only
  split
  · exact counts'
  · exact counts

theorem step_next (pure : ∀ (n : Nat) s, (calculate strategy (.int n) s).1 = delays n)
    (counts : strategy.limit.Counts) (counts' : fallback.Counts) {place asks : Nat}
    (present : sharing.tracks[place]? = some (Track.alone delays strategy fallback asks)) :
    (sharing.step calculate (.next place : Move strategy)).tracks =
      sharing.tracks.set place (Track.alone delays strategy fallback (asks + 1)) := by
  have limitCounts := start_counts counts counts'
  rw [Track.alone] at present ⊢
  generalize (strategy.start fallback).limit = limit at *
  generalize at_ : Cursor.reached delays limit.whole? asks = attempts at present
  have outcome := Cursor.next_eq_reply pure limitCounts attempts sharing.state
  have before := Cursor.reply_before delays limit.whole? attempts
  have stays (e : Escape) (escapes : (Cursor.reply delays limit.whole? attempts).ending = .error e) :=
    Cursor.reply_error delays limit.whole? attempts escapes
  rw [Cursor.replies_succ, Cursor.reached, at_, step, present]
  generalize Cursor.reply delays limit.whole? attempts = r at *
  obtain ⟨first, ending, after⟩ := r
  dsimp only at before stays outcome ⊢
  subst before
  rcases run : (Cursor.mk strategy limit first).next calculate sharing.state with ⟨e | ⟨delay, moved⟩, s'⟩
  · rw [run] at outcome
    cases ending with
    | ok d => cases outcome
    | error e' =>
      cases outcome
      rw [stays e rfl]
  · rw [run] at outcome
    cases ending with
    | ok d =>
      cases outcome
      rfl
    | error e' => cases outcome

theorem step_start (delays : Nat → Except Escape Value) (move : Move strategy)
    (given : move.fallback? = some fallback) :
    (sharing.step calculate move).tracks =
      sharing.tracks ++ [Track.alone delays strategy fallback 0] := by
  cases move with
  | start fallback' counts =>
    cases given
    rfl
  | startUnder policy shares =>
    cases given
    rw [step, Policy.start_of_given shares, Policy.limit, shares]
    rfl
  | next place => cases given

theorem Move.counts {move : Move strategy} (given : move.fallback? = some fallback) :
    fallback.Counts := by
  cases move with
  | start fallback' counts =>
    cases given
    exact counts
  | startUnder policy shares =>
    cases given
    exact .inr ⟨_, rfl⟩
  | next place => cases given

/-! ### Runs -/

/-- Each cursor is where it would be alone, after some number of calls on it. -/
def Apart (delays : Nat → Except Escape Value) (strategy : Strategy) (fallbacks : List Value)
    (tracks : List Track) : Prop :=
  List.Forall₂ (fun fallback track => fallback.Counts ∧
    ∃ asks, track = Track.alone delays strategy fallback asks) fallbacks tracks

theorem Apart.set {fallbacks : List Value} {tracks : List Track}
    (apart : Apart delays strategy fallbacks tracks) {place : Nat} {track : Track}
    (present : tracks[place]? = some track) :
    ∃ fallback asks, fallback.Counts ∧ track = Track.alone delays strategy fallback asks ∧
      ∀ more, Apart delays strategy fallbacks
        (tracks.set place (Track.alone delays strategy fallback more)) := by
  induction apart generalizing place with
  | nil => cases present
  | @cons fallback first fallbacks tracks holds rest ih =>
    cases place with
    | zero =>
      cases present
      obtain ⟨counts, asks, same⟩ := holds
      exact ⟨fallback, asks, counts, same, fun more => .cons ⟨counts, more, rfl⟩ rest⟩
    | succ place =>
      obtain ⟨other, asks, counts, same, replaced⟩ := ih present
      exact ⟨other, asks, counts, same, fun more => .cons holds (replaced more)⟩

theorem Apart.step {fallbacks : List Value}
    (pure : ∀ (n : Nat) s, (calculate strategy (.int n) s).1 = delays n)
    (counts : strategy.limit.Counts) (apart : Apart delays strategy fallbacks sharing.tracks)
    (move : Move strategy) : Apart delays strategy (fallbacks ++ move.fallback?.toList)
      (sharing.step calculate move).tracks := by
  cases given : move.fallback? with
  | some fallback =>
    rw [step_start delays move given]
    exact List.rel_append apart (.cons ⟨Move.counts given, 0, rfl⟩ .nil)
  | none =>
    rw [Option.toList_none, List.append_nil]
    cases move with
    | start | startUnder => cases given
    | next place =>
      cases present : sharing.tracks[place]? with
      | none =>
        have same : sharing.step calculate (.next place : Move strategy) = sharing := by
          rw [Sharing.step, present]
        rw [same]
        exact apart
      | some track =>
        obtain ⟨fallback, asks, counts', rfl, replaced⟩ := apart.set present
        rw [step_next pure counts counts' present]
        exact replaced (asks + 1)

/-- The induction over the moves. -/
theorem Apart.run {fallbacks : List Value}
    (pure : ∀ (n : Nat) s, (calculate strategy (.int n) s).1 = delays n)
    (counts : strategy.limit.Counts) (moves : List (Move strategy))
    (apart : Apart delays strategy fallbacks sharing.tracks) :
    Apart delays strategy (fallbacks ++ moves.filterMap Move.fallback?)
      (moves.foldl (Sharing.step calculate) sharing).tracks := by
  induction moves generalizing sharing fallbacks with
  | nil =>
    rw [List.filterMap_nil, List.append_nil]
    exact apart
  | cons move rest ih =>
    have first := apart.step pure counts move
    have all := ih first
    rw [List.append_assoc] at all
    cases given : move.fallback? with
    | none =>
      rw [given] at all
      rw [List.filterMap_cons_none given]
      exact all
    | some fallback =>
      rw [given] at all
      rw [List.filterMap_cons_some given]
      exact all

end Sharing

/-! ### Independence -/

namespace Track

def limit (track : Track) : Option Int := track.cursor.limit.whole?

/-- How a cursor does its work: the limit comes from the strategy, or else from where it was
started; each call hands out the next delay, or finds the limit met, or fails and changes nothing;
and no call on another cursor shows. -/
structure Independent {σ : Type} (calculate : Strategy → Value → Task σ Value)
    (delays : Nat → Except Escape Value) (strategy : Strategy) (fallback : Value) (track : Track) :
    Prop where
  origin : track.cursor.strategy = strategy ∧
    track.cursor.limit = if strategy.limit.isNull then fallback else strategy.limit
  alone (s : σ) (counts : fallback.Counts) :
    (Sharing.run calculate s (.start fallback counts ::
      List.replicate track.replies.length (.next 0 : Move strategy))).tracks = [track]
  begins (r : Cursor.Reply) : track.replies[0]? = some r → r.before = 0
  linked (k : Nat) (r r' : Cursor.Reply) : track.replies[k]? = some r →
    track.replies[k + 1]? = some r' → r'.before = r.after
  stands (r : Cursor.Reply) : track.replies.getLast? = some r → track.cursor.attempts = r.after
  refuses : ∀ r ∈ track.replies, Cursor.met track.limit r.before = true →
    r.ending = .ok .null ∧ r.after = r.before
  gives : ∀ r ∈ track.replies, Cursor.met track.limit r.before = false →
    ∀ delay, delays r.before = .ok delay → r.ending = .ok delay ∧ r.after = r.before + 1
  raises : ∀ r ∈ track.replies, Cursor.met track.limit r.before = false →
    ∀ e, delays r.before = .error e → r.ending = .error e ∧ r.after = r.before
  handedOut : (track.replies.filter Cursor.Reply.advances).map Cursor.Reply.ending =
    (List.range track.cursor.attempts).map delays
  few (n : Int) : track.limit = some n → track.cursor.attempts ≤ max n 0
  permanent (k more : Nat) (r r' : Cursor.Reply) : track.replies[k]? = some r →
    Cursor.met track.limit r.before = true → track.replies[k + more]? = some r' → r' = r
  spent : (∀ n, delays n ≠ .ok .null) → ∀ r ∈ track.replies, r.ending = .ok .null →
    Cursor.met track.limit r.before = true

variable {σ : Type} {calculate : Strategy → Value → Task σ Value} {strategy : Strategy}
  {delays : Nat → Except Escape Value} {fallback : Value}

theorem run_alone (pure : ∀ (n : Nat) s, (calculate strategy (.int n) s).1 = delays n)
    (counts : strategy.limit.Counts) (counts' : fallback.Counts) (asks : Nat) (s : σ) :
    (Sharing.run calculate s (.start fallback counts' ::
      List.replicate asks (.next 0 : Move strategy))).tracks =
      [Track.alone delays strategy fallback asks] := by
  induction asks with
  | zero => rfl
  | succ asks ih =>
    rw [List.replicate_succ', ← List.cons_append, Sharing.run, List.foldl_append]
    have present : (Sharing.run calculate s (.start fallback counts' ::
        List.replicate asks (.next 0 : Move strategy))).tracks[0]? =
        some (Track.alone delays strategy fallback asks) := by rw [ih]; rfl
    exact (Sharing.step_next pure counts counts' present).trans (by rw [ih]; rfl)

theorem alone_independent (pure : ∀ (n : Nat) s, (calculate strategy (.int n) s).1 = delays n)
    (counts : strategy.limit.Counts) (asks : Nat) :
    (alone delays strategy fallback asks).Independent calculate delays strategy fallback := by
  have length : (alone delays strategy fallback asks).replies.length = asks :=
    Cursor.length_replies _ _ _
  generalize hl : (strategy.start fallback).limit.whole? = limit
  have hl' : (alone delays strategy fallback asks).limit = limit := hl
  have replies : (alone delays strategy fallback asks).replies =
      Cursor.replies delays limit asks := by rw [alone, hl]
  have stands : (alone delays strategy fallback asks).cursor.attempts =
      Cursor.reached delays limit asks := by rw [alone, hl]
  exact {
    origin := ⟨rfl, rfl⟩
    alone := fun s counts' => by rw [length]; exact run_alone pure counts counts' asks s
    begins := fun r first => by
      rw [replies] at first
      rw [(Cursor.getElem?_replies first).2, Cursor.reply_before]
      rfl
    linked := fun k r r' earlier later => by
      rw [replies] at earlier later
      rw [(Cursor.getElem?_replies earlier).2, (Cursor.getElem?_replies later).2,
        Cursor.reply_before]
      rfl
    stands := fun r last => by
      rw [replies] at last
      rw [stands]
      cases asks with
      | zero => cases last
      | succ asks =>
        rw [Cursor.replies_succ, List.getLast?_concat] at last
        rw [← Option.some.inj last]
        rfl
    refuses := fun r member met => by
      rw [replies] at member
      obtain ⟨k, rfl⟩ := Cursor.mem_replies member
      rw [hl', Cursor.reply_before] at met
      rw [Cursor.reply_met met]
      exact ⟨rfl, rfl⟩
    gives := fun r member below delay given => by
      rw [replies] at member
      obtain ⟨k, rfl⟩ := Cursor.mem_replies member
      rw [Cursor.reply_before] at below given
      rw [hl'] at below
      rw [Cursor.reply_given below given]
      exact ⟨rfl, rfl⟩
    raises := fun r member below e failed => by
      rw [replies] at member
      obtain ⟨k, rfl⟩ := Cursor.mem_replies member
      rw [Cursor.reply_before] at below failed
      rw [hl'] at below
      rw [Cursor.reply_failed below failed]
      exact ⟨rfl, rfl⟩
    handedOut := by
      rw [replies, stands]
      exact Cursor.handed_out delays limit asks
    few := fun n bound => by
      rw [hl'] at bound
      rw [stands, bound]
      exact Cursor.reached_le delays asks
    permanent := fun k more r r' earlier met later => by
      rw [replies] at earlier later
      obtain ⟨-, rfl⟩ := Cursor.getElem?_replies earlier
      rw [hl', Cursor.reply_before] at met
      rw [(Cursor.getElem?_replies later).2, Cursor.reached_of_met met]
    spent := fun numbers r member absent => by
      rw [replies] at member
      obtain ⟨k, rfl⟩ := Cursor.mem_replies member
      rw [hl', Cursor.reply_before]
      cases below : Cursor.met limit (Cursor.reached delays limit k) with
      | true => rfl
      | false =>
        cases given : delays (Cursor.reached delays limit k) with
        | ok delay =>
          rw [Cursor.reply_given below given] at absent
          exact absurd (given.trans absent) (numbers _)
        | error e =>
          rw [Cursor.reply_failed below given] at absent
          cases absent }

end Track

/-- Whatever cursors are started over one strategy, directly or under a policy, and in whatever
order they are asked: each of them goes its own way. -/
theorem Sharing.run_apart {σ : Type} {calculate : Strategy → Value → Task σ Value}
    {strategy : Strategy} {delays : Nat → Except Escape Value}
    (pure : ∀ (n : Nat) s, (calculate strategy (.int n) s).1 = delays n)
    (counts : strategy.limit.Counts) (moves : List (Move strategy)) (s : σ) :
    List.Forall₂ (Track.Independent calculate delays strategy)
      (moves.filterMap Move.fallback?) (run calculate s moves).tracks := by
  have apart : Apart delays strategy [] (Sharing.mk s []).tracks := .nil
  refine (apart.run pure counts moves).imp fun fallback track => ?_
  rintro ⟨-, asks, rfl⟩
  exact Track.alone_independent pure counts asks

def Strategy.faltering : Strategy :=
  ⟨3, .null, .table (.list [.int 5, .failure (.plain 1 Kind.valueError []), .int 7]), []⟩

/-- Two cursors asked by turns: one meets its limit of one, the other comes to the failure. -/
theorem Sharing.run_apart_by_turns :
    let calculate := Strategy.calculate (σ := Unit) ⟨fun low _ => pure low, fun _ => pure ()⟩
    let policy : Policy := ⟨4, .int 0, 0, .strategy Strategy.faltering, .classifier .all⟩
    let moves : List (Move Strategy.faltering) := [.start (.int 1) (.inr ⟨1, rfl⟩),
      .startUnder policy rfl, .next 0, .next 1, .next 0, .next 1]
    (run calculate () moves).tracks.map Track.replies =
        [[⟨0, .ok (.int 5), 1⟩, ⟨1, .ok .null, 1⟩],
          [⟨0, .ok (.int 5), 1⟩, ⟨1, .error (.raised (.plain 1 Kind.valueError [])), 1⟩]] ∧
      List.Forall₂ (Track.Independent calculate
        (fun n => (calculate Strategy.faltering (.int n) ()).1) Strategy.faltering)
        [.int 1, .int 4] (run calculate () moves).tracks := by
  intro calculate policy moves
  have pure (n : Nat) (s : Unit) : (calculate Strategy.faltering (.int n) s).1 =
      (calculate Strategy.faltering (.int n) ()).1 := rfl
  exact ⟨rfl, run_apart pure (.inl rfl) moves ()⟩

end Reattempt
