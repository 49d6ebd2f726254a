import Reattempt.Proofs.Journal
import Reattempt.Scenario.Player

/-!
# Latecomers

A hook may add members to the very composite that is passing an occasion on. The composite looks
its members up again after each call, so that it calls every member once and in order, those that
came late included, as `Template.passOn_latecomers` says.
-/

namespace Reattempt

variable {σ ℓ κ : Type}

/-! ### Lists that only grow -/

/-- A task that adds to the end of a list in the state and changes it in no other way. -/
def Task.Extends {β : Type} (view : σ → List β) (α : Type) (t : Task σ α) : Prop :=
  ∀ s, view s <+: view (t s).2

theorem Task.extends_congruence {β : Type} (view : σ → List β) :
    Task.Congruence fun α (t _ : Task σ α) => Task.Extends view α t where
  pure _ := fun _ => List.prefix_refl _
  escape _ := fun _ => List.prefix_refl _
  bind {α β t u f g} first next := by
    intro s
    have before := first s
    rcases run : t s with ⟨e | a, s'⟩
    · rw [run] at before
      rw [bind_error run]
      exact before
    · rw [run] at before
      rw [bind_ok run]
      exact before.trans (next a s')

theorem cons_drop_of_grown {α : Type} {before after : List α} {position : Nat} {a : α}
    (grows : before <+: after) (found : before[position]? = some a) :
    after.drop position = a :: after.drop (position + 1) := by
  obtain ⟨late, rfl⟩ := grows
  obtain ⟨below, rfl⟩ := List.getElem?_eq_some_iff.mp found
  have within : position < (before ++ late).length := by
    simp only [List.length_append]
    omega
  rw [List.drop_eq_getElem_cons within, List.getElem_append_left below]

/-! ### Calls on members -/

/-- Calls whose endings make up the ending of a whole: all of them return, or the last one raises
what the whole raises. -/
def ComesTo (calls : List (Entry κ)) : Except Escape Unit → Prop
  | .ok _ => ∀ call ∈ calls, call.ending = .ok .null
  | .error e => ∃ earlier last, calls = earlier ++ [last] ∧
      (∀ call ∈ earlier, call.ending = .ok .null) ∧ last.ending = .error e

theorem ComesTo.cons {calls : List (Entry κ)} {ending : Except Escape Unit} {call : Entry κ}
    (returns : call.ending = .ok .null) (comes : ComesTo calls ending) :
    ComesTo (call :: calls) ending := by
  cases ending with
  | ok a =>
    intro other member
    rcases List.mem_cons.mp member with rfl | later
    · exact returns
    · exact comes other later
  | error e =>
    obtain ⟨earlier, last, rfl, return', raises⟩ := comes
    refine ⟨call :: earlier, last, rfl, ?_, raises⟩
    intro other member
    rcases List.mem_cons.mp member with rfl | later
    · exact returns
    · exact return' other later

namespace Listener

def calling (name : σ → String) (hook : Listener ℓ → Task σ Unit) (member : Listener ℓ) :
    Task (σ × List (Entry (Listener ℓ))) Unit :=
  (hook member).entered name member fun _ => .null

variable {hook : Listener ℓ → Task σ Unit} {members : σ → List (Listener ℓ)}

/-- What is called lies between the position and the end of the list that grows; the induction is on
the patience, and each call moves the position by one. -/
theorem walk_calls (adds : ∀ member, Task.Extends members Unit (hook member)) (name : σ → String)
    {patience position : Nat} {s after : σ} {ending : Except Escape Unit}
    (within : position ≤ (members s).length)
    (run : walk hook members patience position s = (ending, after))
    (finished : ending ≠ .error .unfinished) (journal : List (Entry (Listener ℓ))) :
    ∃ calls, walk (calling name hook) (fun x => members x.1) patience position (s, journal) =
        (ending, (after, journal ++ calls)) ∧
      members s <+: members after ∧
      calls.map Entry.call <+: (members after).drop position ∧
      (ending = .ok () → calls.map Entry.call = (members after).drop position) ∧
      ComesTo calls ending := by
  induction patience generalizing position s journal with
  | zero =>
    simp only [walk, Task.escape_apply, Prod.mk.injEq] at run
    exact absurd run.1.symm finished
  | succ patience ih =>
    rw [walk, Task.bind_ok (Task.gets_apply members s)] at run
    rw [walk, Task.bind_ok (Task.gets_apply _ _)]
    cases found : (members s)[position]? with
    | none =>
      simp only [found, Task.pure_apply, Prod.mk.injEq] at run
      obtain ⟨rfl, rfl⟩ := run
      have past : (members s).drop position = [] :=
        List.drop_of_length_le (List.getElem?_eq_none_iff.mp found)
      exact ⟨[], by simp, List.prefix_refl _, List.nil_prefix, fun _ => past.symm,
        by simp [ComesTo]⟩
    | some member =>
      simp only [found] at run ⊢
      have grows := adds member s
      rcases called : hook member s with ⟨e | _, s'⟩
      · rw [called] at grows
        rw [Task.bind_error called] at run
        simp only [Prod.mk.injEq] at run
        obtain ⟨rfl, rfl⟩ := run
        rw [calling, Task.bind_error (Task.entered_error called journal)]
        refine ⟨[⟨name s, member, .error e⟩], rfl, grows, ?_, fun returns => ?_, [], _, rfl,
          List.forall_mem_nil _, rfl⟩
        · rw [cons_drop_of_grown grows found]
          exact List.prefix_append [member] _
        · cases returns
      · rw [called] at grows
        rw [Task.bind_ok called] at run
        have before := (List.getElem?_eq_some_iff.mp found).1
        have longer : (members s).length ≤ (members s').length := grows.length_le
        obtain ⟨calls, recorded, grows', part, all, comes⟩ :=
          ih (by omega) run (journal ++ [⟨name s, member, .ok .null⟩])
        have first := cons_drop_of_grown (grows.trans grows') found
        refine ⟨⟨name s, member, .ok .null⟩ :: calls, ?_, grows.trans grows', ?_, ?_,
          comes.cons rfl⟩
        · rw [calling, Task.bind_ok (Task.entered_ok called journal), recorded, List.append_assoc]
          rfl
        · rw [first, List.map_cons]
          exact List.cons_prefix_cons.mpr ⟨rfl, part⟩
        · intro returns
          rw [first, List.map_cons, all returns]

end Listener

/-! ### Composites that grow -/

theorem Stage.lookup_insertAt {α : Type} {key key' : Nat} {item : α} {items : List (Nat × α)} :
    (insertAt key item items).lookup key' =
      if key' = key then some item else items.lookup key' := by
  induction items with
  | nil => grind [insertAt]
  | cons entry rest ih =>
    obtain ⟨here, present⟩ := entry
    grind [insertAt]

/-- Adding a listener puts it at the end of one composite and leaves the others alone. -/
theorem StageTask.addTo_members (flavour : Flavour) (id id' : Nat) (l : Listener Observer)
    (stage : Stage) : (Stage.template flavour).members id' (addTo id l stage).2 =
      if id' = id then (Stage.template flavour).members id stage ++ [l]
      else (Stage.template flavour).members id' stage := by
  show (((Stage.insertAt id _ stage.rolls).lookup id').getD []) = _
  rw [Stage.lookup_insertAt]
  split <;> rfl

theorem StageTask.addTo_extends (flavour : Flavour) (id id' : Nat) (l : Listener Observer) :
    Task.Extends ((Stage.template flavour).members id') Unit (addTo id l) := by
  intro stage
  have members := addTo_members flavour id id' l stage
  by_cases same : id' = id
  · rw [if_pos same] at members
    obtain rfl := same
    exact ⟨[l], members.symm⟩
  · rw [if_neg same] at members
    exact ⟨[], (List.append_nil _).trans members.symm⟩

namespace Template

variable (template : Template σ ℓ) (policy : Option Policy) (operation : Operation σ)
  (id depth : Nat)

/-- Pass an occasion on to a listener; an execution does so with a depth that is its patience. -/
def passOn (occasion : Occasion) (l : Listener ℓ) : Task σ Unit :=
  l.dispatch (template.notify policy operation occasion) template.members template.patience depth

/-- A growing composite passes an occasion on, and each call on a member is entered. -/
def rollCall (occasion : Occasion) : Task (σ × List (Entry (Listener ℓ))) Unit :=
  Listener.walk
    (Listener.calling operation.name (template.passOn policy operation depth occasion))
    (fun x => template.members id x.1) template.patience 0

variable {template policy operation id depth}

theorem observe_eq_passOn (occasion : Occasion) (l : Listener ℓ) :
    template.observe policy (some l) operation occasion =
      template.passOn policy operation template.patience occasion l := rfl

theorem rollCall_of_passOn
    (adds : ∀ occasion leaf,
      Task.Extends (template.members id) Unit (template.notify policy operation occasion leaf))
    {occasion : Occasion} {s after : σ} {ending : Except Escape Unit}
    (run : template.passOn policy operation (depth + 1) occasion (.growing id) s = (ending, after))
    (finished : ending ≠ .error .unfinished) :
    ∃ calls, template.rollCall policy operation id depth occasion (s, []) =
        (ending, (after, calls)) ∧
      template.members id s <+: template.members id after ∧
      calls.map Entry.call <+: template.members id after ∧
      (ending = .ok () → calls.map Entry.call = template.members id after) ∧
      ComesTo calls ending := by
  have hook (member : Listener ℓ) : Task.Extends (template.members id) Unit
      (template.passOn policy operation depth occasion member) :=
    @Listener.dispatch_related σ σ ℓ _ (Task.extends_congruence (template.members id)) _
      (template.notify policy operation occasion) _ template.members (adds occasion)
      (fun _ _ => List.prefix_refl _) _ _ member
  rw [passOn, Listener.dispatch, Listener.visit] at run
  exact Listener.walk_calls hook operation.name (Nat.zero_le _) run finished []

/-- Members that join while an occasion is passed on are not missed, and nobody is called twice.
When a growing composite whose hooks add members to it has passed an occasion on, it has called
exactly its present members, one call for each position and in order. When a hook raises, the
members up to its position have been called, what it raises goes out, and the members that joined
before stay: all of them are called on every later occasion that is passed on to the end. -/
theorem passOn_latecomers
    (adds : ∀ occasion leaf,
      Task.Extends (template.members id) Unit (template.notify policy operation occasion leaf))
    {occasion : Occasion} {s after : σ} {ending : Except Escape Unit}
    (run : template.passOn policy operation (depth + 1) occasion (.growing id) s = (ending, after))
    (finished : ending ≠ .error .unfinished) :
    ∃ calls, template.rollCall policy operation id depth occasion (s, []) =
        (ending, (after, calls)) ∧
      ComesTo calls ending ∧
      calls.map Entry.call = (template.members id after).take calls.length ∧
      (ending = .ok () → calls.length = (template.members id after).length) ∧
      template.members id s <+: template.members id after ∧
      ∀ occasion' s' after', template.members id after <+: template.members id s' →
        template.passOn policy operation (depth + 1) occasion' (.growing id) s' =
            (.ok (), after') →
          ∃ calls', template.rollCall policy operation id depth occasion' (s', []) =
              (.ok (), (after', calls')) ∧
            template.members id after <+: calls'.map Entry.call := by
  obtain ⟨calls, recorded, grows, part, all, comes⟩ := rollCall_of_passOn adds run finished
  refine ⟨calls, recorded, comes, ?_, ?_, grows, ?_⟩
  · have same := List.prefix_iff_eq_take.mp part
    rwa [List.length_map] at same
  · intro returns
    rw [← all returns, List.length_map]
  · intro occasion' s' after' present run'
    obtain ⟨calls', recorded', grows', -, all', -⟩ := rollCall_of_passOn adds run' nofun
    refine ⟨calls', recorded', ?_⟩
    rw [all' rfl]
    exact present.trans grows'

/-- A template with one roll of members. A leaf of one sort lets two others join whenever it is
told something, and the others refuse to hear of an end. -/
def joining (refusal : Failure) : Template (List (Listener Bool)) Bool where
  flavour := .direct
  policy _ := none
  listener _ := some (.growing 0)
  examination := ⟨fun _ _ => pure .null, fun _ => pure ()⟩
  chance := ⟨fun low _ => pure low, fun _ => pure ()⟩
  wait _ := pure ()
  notify _ _ occasion joins :=
    if joins then Task.modify (· ++ [.leaf false, .leaf false])
    else if occasion.hook = .exhaustion then Task.raise refusal else pure ()
  members _ roll := roll
  patience := 9

/-- The second member raises after two others have joined; they are there on the next occasion,
when two more join. -/
theorem passOn_latecomers_joining :
    let refusal : Failure := .plain 7 Kind.keyError []
    let template := joining refusal
    let operation : Operation (List (Listener Bool)) :=
      ⟨fun _ => "sample", .operation 0, pure (.ready .null)⟩
    let present : List (Listener Bool) :=
      [.leaf true, .leaf false, .leaf false, .leaf false]
    (∀ occasion leaf, Task.Extends (template.members 0) Unit
        (template.notify none operation occasion leaf)) ∧
      template.observe none (some (.growing 0)) operation (.exhaustion refusal)
          [.leaf true, .leaf false] = (.error (.raised refusal), present) ∧
      (∃ calls : List (Entry (Listener Bool)), ComesTo calls (.error (.raised refusal)) ∧
        calls.map Entry.call = [.leaf true, .leaf false]) ∧
      ∃ calls : List (Entry (Listener Bool)), present <+: calls.map Entry.call ∧
        calls.length = 6 := by
  intro refusal template operation present
  have adds : ∀ occasion leaf, Task.Extends (template.members 0) Unit
      (template.notify none operation occasion leaf) := by
    intro occasion leaf s
    cases leaf with
    | true => exact List.prefix_append _ _
    | false =>
      show s <+: ((if occasion.hook = .exhaustion then Task.raise refusal else pure () :
        Task (List (Listener Bool)) Unit) s).2
      split <;> exact List.prefix_refl _
  have run : template.observe none (some (.growing 0)) operation (.exhaustion refusal)
      [.leaf true, .leaf false] = (.error (.raised refusal), present) := rfl
  obtain ⟨calls, recorded, comes, -, -, -, later⟩ := passOn_latecomers adds
    ((congrFun (observe_eq_passOn _ _) _).symm.trans run) nofun
  obtain ⟨calls', recorded', kept⟩ := later .beforeRetry present _ (List.prefix_refl _) rfl
  refine ⟨adds, run, ⟨calls, comes, ?_⟩, calls', kept, ?_⟩
  · obtain rfl : _ = calls := congrArg (fun result => result.2.2) recorded
    rfl
  · obtain rfl : _ = calls' := congrArg (fun result => result.2.2) recorded'
    rfl

end Template

end Reattempt
