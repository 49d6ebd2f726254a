import Reattempt.Record.Correlation

/-!
# Scopes of correlation ids

Scopes of a context are nested like the blocks of a program, whatever goes on in them. Every block
gives back the id that it found, also when a failure crosses it, and what is read inside is the id
of the innermost block unless that block has assigned another one: `Program.run_disciplined`.
-/

namespace Reattempt

theorem Task.endWith_apply {σ α : Type} (outcome : Except Escape α) (s : σ) :
    endWith outcome s = (outcome, s) := by
  cases outcome <;> rfl

namespace Correlation

variable {σ : Type}

/-! ### Programs in one context -/

/-- What is done in one context. What comes next may depend on the values that were read. -/
inductive Program where
  | done (v : Value)
  | get
  | set (id : Value)
  | clear
  | raise (f : Failure)
  | rescue (body : Program) (handler : Failure → Program)
  | next (first : Program) (rest : Value → Program)
  | scope (id : Value) (body : Program)

inductive Event where
  | seen (id : Value)
  | assigned (id : Value)
  | opened (id : Value)
  /-- A block was left, and this is the id after it. -/
  | closed (id : Value)

def Program.run (correlation : Correlation σ) (note : Event → Task σ Unit) :
    Program → Task σ Value
  | .done v => pure v
  | .get => do
    let id ← correlation.get
    note (.seen id)
    pure id
  | .set id => do
    correlation.set id
    note (.assigned id)
    pure .null
  | .clear => do
    correlation.clear
    note (.assigned .null)
    pure .null
  | .raise f => Task.raise f
  | .rescue body handler => do
    match ← (body.run correlation note).ending with
    | .error (.raised f) => (handler f).run correlation note
    | outcome => Task.endWith outcome
  | .next first rest => do
    let v ← first.run correlation note
    (rest v).run correlation note
  | .scope id body => do
    note (.opened id)
    let outcome ← (correlation.scope id (body.run correlation note)).ending
    note (.closed (← correlation.get))
    Task.endWith outcome

def beside (correlation : Correlation σ) : Correlation (σ × List Event) where
  current x := correlation.current x.1
  assign id x := (correlation.assign id x.1, x.2)
  current_assign id x := correlation.current_assign id x.1

namespace Program

def plain (correlation : Correlation σ) (p : Program) : Task σ Value :=
  p.run correlation fun _ => pure ()

def traced (correlation : Correlation σ) (p : Program) : Task (σ × List Event) Value :=
  p.run correlation.beside fun event => Task.modify fun x => (x.1, x.2 ++ [event])

end Program

/-! ### Stacks of ids -/

/-- An event moves the ids of the open blocks, that of the innermost block first. -/
def Event.move (stack : List Value) : Event → List Value
  | .seen _ => stack
  | .assigned id => id :: stack.tail
  | .opened id => id :: stack
  | .closed _ => stack.tail

def stackAfter (id : Value) (events : List Event) : List Value := events.foldl Event.move [id]

def Event.Fits (stack : List Value) : Event → Prop
  | .seen id => stack.head? = some id
  | .closed id => stack.tail.head? = some id
  | _ => True

def Follow : List Value → List Event → Prop
  | _, [] => True
  | stack, event :: later => event.Fits stack ∧ Follow (event.move stack) later

inductive Balanced : List Event → Prop where
  | nil : Balanced []
  | seen {id : Value} {later : List Event} (rest : Balanced later) : Balanced (.seen id :: later)
  | assigned {id : Value} {later : List Event} (rest : Balanced later) :
      Balanced (.assigned id :: later)
  | block {id left : Value} {inner later : List Event} (body : Balanced inner)
      (rest : Balanced later) : Balanced (.opened id :: (inner ++ .closed left :: later))

theorem Follow.append {stack : List Value} {first later : List Event} (follow : Follow stack first)
    (next : Follow (first.foldl Event.move stack) later) : Follow stack (first ++ later) := by
  induction first generalizing stack with
  | nil => exact next
  | cons event first ih => exact ⟨follow.1, ih follow.2 next⟩

theorem Follow.fits {stack : List Value} {before later : List Event} {event : Event}
    (follow : Follow stack (before ++ event :: later)) :
    event.Fits (before.foldl Event.move stack) := by
  induction before generalizing stack with
  | nil => exact follow.1
  | cons first before ih => exact ih follow.2

theorem Balanced.append {first later : List Event} (balanced : Balanced first)
    (next : Balanced later) : Balanced (first ++ later) := by
  induction balanced with
  | nil => exact next
  | seen _ ih => exact .seen ih
  | assigned _ ih => exact .assigned ih
  | block body _ _ ih =>
    rw [List.cons_append, List.append_assoc, List.cons_append]
    exact .block body ih

theorem Balanced.moves {events : List Event} (balanced : Balanced events) (id : Value)
    (outer : List Value) : ∃ id', events.foldl Event.move (id :: outer) = id' :: outer := by
  induction balanced generalizing id outer with
  | nil => exact ⟨id, rfl⟩
  | seen _ ih => exact ih id outer
  | @assigned id' _ _ ih => exact ih id' outer
  | @block inside _ _ _ _ _ ihBody ihRest =>
    obtain ⟨last, moved⟩ := ihBody inside (id :: outer)
    rw [List.foldl_cons, List.foldl_append, Event.move, moved]
    exact ihRest id outer

/-! ### Runs -/

variable (correlation : Correlation σ)

theorem get_apply (s : σ) : correlation.get s = (.ok (correlation.current s), s) := rfl

/-- What the run of a program from one state to another leaves: events that follow the ids, on top
of any open blocks. -/
structure Leaves (s after : σ) (events : List Event) : Prop where
  balanced : Balanced events
  follow (outer : List Value) : Follow (correlation.current s :: outer) events
  moved (outer : List Value) : events.foldl Event.move (correlation.current s :: outer) =
    correlation.current after :: outer

variable {correlation}

theorem Leaves.nothing (s : σ) : correlation.Leaves s s [] :=
  ⟨.nil, fun _ => trivial, fun _ => rfl⟩

theorem Leaves.append {s between after : σ} {first later : List Event}
    (leaves : correlation.Leaves s between first) (next : correlation.Leaves between after later) :
    correlation.Leaves s after (first ++ later) where
  balanced := leaves.balanced.append next.balanced
  follow outer := by
    refine (leaves.follow outer).append ?_
    rw [leaves.moved]
    exact next.follow outer
  moved outer := by rw [List.foldl_append, leaves.moved, next.moved]

theorem Leaves.assigned (id : Value) (s : σ) :
    correlation.Leaves s (correlation.assign id s) [.assigned id] where
  balanced := .assigned .nil
  follow _ := ⟨trivial, trivial⟩
  moved _ := by rw [correlation.current_assign]; rfl

theorem Leaves.block {id : Value} {s inside : σ} {inner : List Event}
    (leaves : correlation.Leaves (correlation.assign id s) inside inner) :
    correlation.Leaves s (correlation.assign (correlation.current s) inside)
      (.opened id :: (inner ++ [.closed (correlation.current s)])) where
  balanced := .block leaves.balanced .nil
  follow outer := by
    have follow := leaves.follow (correlation.current s :: outer)
    have moved := leaves.moved (correlation.current s :: outer)
    rw [correlation.current_assign] at follow moved
    refine ⟨trivial, Follow.append follow ?_⟩
    rw [Event.move, moved]
    exact ⟨rfl, trivial⟩
  moved outer := by
    have moved := leaves.moved (correlation.current s :: outer)
    rw [correlation.current_assign] at moved
    rw [List.foldl_cons, List.foldl_append, Event.move, moved, correlation.current_assign]
    rfl

namespace Program

theorem plain_scope (id : Value) (body : Program) (s : σ) :
    (scope id body).plain correlation s =
      ((body.plain correlation (correlation.assign id s)).1,
        correlation.assign (correlation.current s)
          (body.plain correlation (correlation.assign id s)).2) := by
  unfold plain
  rw [run, Task.bind_ok (Task.pure_apply _ _), Task.bind_ok (Task.ending_apply _ _),
    scope_apply, Task.bind_ok (get_apply _ _), Task.bind_ok (Task.pure_apply _ _),
    Task.endWith_apply]

theorem traced_scope (id : Value) (body : Program) (s : σ) (events : List Event) :
    (scope id body).traced correlation (s, events) =
      let left := body.traced correlation (correlation.assign id s, events ++ [.opened id])
      (left.1, (correlation.assign (correlation.current s) left.2.1,
        left.2.2 ++ [.closed (correlation.current s)])) := by
  unfold traced
  rw [run, Task.bind_ok (Task.modify_apply _ _), Task.bind_ok (Task.ending_apply _ _),
    scope_apply, Task.bind_ok (get_apply _ _), Task.bind_ok (Task.modify_apply _ _),
    Task.endWith_apply, correlation.beside.current_assign]
  rfl

theorem rescue_run (correlation : Correlation σ) (note : Event → Task σ Unit) (body : Program)
    (handler : Failure → Program) (s : σ) :
    (rescue body handler).run correlation note s =
      match body.run correlation note s with
      | (.error (.raised f), s') => (handler f).run correlation note s'
      | result => result := by
  rw [run, Task.bind_ok (Task.ending_apply _ s)]
  rcases body.run correlation note s with ⟨(_ | _) | _, _⟩ <;> rfl

theorem traced_leaves (correlation : Correlation σ) (p : Program) (s : σ) (events : List Event) :
    ∃ new, p.traced correlation (s, events) =
        ((p.plain correlation s).1, ((p.plain correlation s).2, events ++ new)) ∧
      correlation.Leaves s (p.plain correlation s).2 new := by
  induction p generalizing s events with
  | done v => exact ⟨[], by rw [List.append_nil]; rfl, .nothing s⟩
  | raise f => exact ⟨[], by rw [List.append_nil]; rfl, .nothing s⟩
  | get =>
    exact ⟨[.seen (correlation.current s)], rfl, .seen .nil, fun _ => ⟨rfl, trivial⟩, fun _ => rfl⟩
  | set id => exact ⟨[.assigned id], rfl, .assigned id s⟩
  | clear => exact ⟨[.assigned .null], rfl, .assigned .null s⟩
  | rescue body handler ihBody ihHandler =>
    obtain ⟨first, same, leaves⟩ := ihBody s events
    simp only [plain, traced] at same leaves ⊢
    rw [rescue_run, rescue_run, same]
    rcases ended : body.run correlation _ s with ⟨(f | _) | v, s'⟩
    · obtain ⟨later, same', leaves'⟩ := ihHandler f s' (events ++ first)
      rw [ended] at leaves
      refine ⟨first ++ later, ?_, leaves.append leaves'⟩
      rw [← List.append_assoc]
      exact same'
    · rw [ended] at leaves
      exact ⟨first, rfl, leaves⟩
    · rw [ended] at leaves
      exact ⟨first, rfl, leaves⟩
  | next first rest ihFirst ihRest =>
    obtain ⟨before, same, leaves⟩ := ihFirst s events
    simp only [plain, traced] at same leaves ⊢
    rw [run, run]
    rcases ended : first.run correlation _ s with ⟨e | v, s'⟩
    · rw [ended] at same leaves
      rw [Task.bind_error ended, Task.bind_error same]
      exact ⟨before, rfl, leaves⟩
    · rw [ended] at same leaves
      obtain ⟨later, same', leaves'⟩ := ihRest v s' (events ++ before)
      rw [Task.bind_ok ended, Task.bind_ok same]
      refine ⟨before ++ later, ?_, leaves.append leaves'⟩
      rw [← List.append_assoc]
      exact same'
  | scope id body ih =>
    obtain ⟨inner, same, leaves⟩ := ih (correlation.assign id s) (events ++ [.opened id])
    rw [traced_scope, plain_scope, same]
    refine ⟨.opened id :: (inner ++ [.closed (correlation.current s)]), ?_, leaves.block⟩
    simp only [List.append_assoc, List.cons_append, List.nil_append]

/-- Scopes are blocks of a stack. A block ends as what is done in it ends, with the same value or
the same failure, and leaves the id that it found. In the events of any program, with blocks nested
to any depth and failures that cross them, every block that is opened is closed; after it the id is
the one from before it, and every id that is read is the one on top of the stack: that of the
innermost open block, or the one that was assigned in it last. Noting the events changes nothing. -/
theorem run_disciplined (correlation : Correlation σ) :
    (∀ id (body : Program) s,
      ((scope id body).plain correlation s).1 =
          (body.plain correlation (correlation.assign id s)).1 ∧
        correlation.current ((scope id body).plain correlation s).2 = correlation.current s) ∧
    ∀ (p : Program) s, ∃ events,
      p.traced correlation (s, []) =
          ((p.plain correlation s).1, ((p.plain correlation s).2, events)) ∧
        Balanced events ∧
        stackAfter (correlation.current s) events =
          [correlation.current (p.plain correlation s).2] ∧
        (∀ before id later, events = before ++ .seen id :: later →
          (stackAfter (correlation.current s) before).head? = some id) ∧
        ∀ before id inner left later,
          events = before ++ .opened id :: (inner ++ .closed left :: later) → Balanced inner →
            (stackAfter (correlation.current s) before).head? = some left := by
  refine ⟨fun id body s => ?_, fun p s => ?_⟩
  · rw [plain_scope]
    exact ⟨rfl, correlation.current_assign _ _⟩
  · obtain ⟨events, same, leaves⟩ := traced_leaves correlation p s []
    have follow := leaves.follow []
    refine ⟨events, same, leaves.balanced, leaves.moved [], ?_, ?_⟩
    · rintro before id later rfl
      exact follow.fits
    · rintro before id inner left later rfl balanced
      rw [← List.cons_append, ← List.append_assoc] at follow
      have fits := follow.fits
      obtain ⟨last, moved⟩ := balanced.moves id (stackAfter (correlation.current s) before)
      have whole : (before ++ .opened id :: inner).foldl Event.move [correlation.current s] =
          last :: stackAfter (correlation.current s) before := by
        rw [List.foldl_append, List.foldl_cons]
        exact moved
      rw [whole] at fits
      exact fits

/-- A failure crosses a block in which an id was assigned, and is caught in the block around it. -/
example :
    let ids : Correlation Value := ⟨id, fun id _ => id, fun _ _ => rfl⟩
    let inner : Program := scope (.text "b") (.next (.set (.text "c")) fun _ =>
      .raise (.plain 1 Kind.valueError []))
    (scope (.text "a") (.rescue inner fun _ => .get)).plain ids .null =
      (.ok (.text "a"), .null) := by cbv

end Program

end Correlation

end Reattempt
