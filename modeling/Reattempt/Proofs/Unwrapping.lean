import Reattempt.Proofs.Answers
import Reattempt.Proofs.Interruption

/-!
# Unwrapping

An operation can be invoked so that its last failure itself is raised when the execution gives up.
This takes the last failure out of whatever carries one, so it is faithful to the execution exactly
when no call cuts the execution short with a failure that carries another one.
-/

namespace Reattempt

variable {σ τ ℓ κ α : Type}

/-! ### What unwrapping does to a failure -/

/-- The last failure that a failure carries, or the failure itself if it carries none. -/
def Failure.unwrapped (f : Failure) : Failure :=
  match f.detail.last? with
  | none => f
  | some (.failure last) => last
  | some _ => Fault.notFailure.toFailure

theorem Failure.unwrapped_ne {f : Failure} (carries : f.detail.last? ≠ none) : f.unwrapped ≠ f := by
  intro same
  obtain ⟨id, kind, args, cause, detail⟩ := f
  cases detail with
  | exhausted message last history operation =>
    cases last with
    | failure last =>
      -- A failure is larger than the one it carries.
      have same : last = ⟨id, kind, args, cause, .exhausted message (.failure last) history
        operation⟩ := same
      have sizes := congrArg sizeOf same
      simp only [Failure.mk.sizeOf_spec, Detail.exhausted.sizeOf_spec,
        Value.failure.sizeOf_spec] at sizes
      omega
    | _ => cases same
  | _ => exact carries rfl

def Escape.unwrapped : Escape → Escape
  | .raised f => .raised f.unwrapped
  | .unfinished => .unfinished

theorem Task.unwrapped_apply (t : Task σ α) (s : σ) :
    t.unwrapped s = ((t s).1.mapError Escape.unwrapped, (t s).2) := by
  rw [unwrapped, bind_ok (ending_apply t s)]
  rcases t s with ⟨(f | _) | a, s'⟩
  · obtain ⟨id, kind, args, cause, detail⟩ := f
    cases detail with
    | exhausted message last history operation => cases last <;> rfl
    | _ => rfl
  · rfl
  · rfl

namespace Flavour

variable (flavour : Flavour)

theorem outward_outward (e : Escape) : flavour.outward (flavour.outward e) = flavour.outward e := by
  cases flavour with
  | direct => rfl
  | awaited =>
    cases e with
    | unfinished => rfl
    | raised f =>
      refine outward_raised _ ?_
      cases stops : f.kind.isA Kind.stopIteration with
      | true =>
        rw [Failure.insulated, if_pos stops]
        rfl
      | false =>
        rw [Failure.insulated, if_neg (by rw [stops]; simp)]
        exact stops

theorem outward_cases (f : Failure) :
    flavour.outward (.raised f) = .raised f ∨
      ∃ g, flavour.outward (.raised f) = .raised g ∧ g.detail.last? = none := by
  cases flavour with
  | direct => exact .inl rfl
  | awaited =>
    cases stops : f.kind.isA Kind.stopIteration with
    | true => exact .inr ⟨_, rfl, by rw [Failure.insulated, if_pos stops]; rfl⟩
    | false => exact .inl (outward_raised _ stops)

theorem outward_unwrapped_ne {f : Failure} (carries : f.detail.last? ≠ none) :
    flavour.outward (.raised f.unwrapped) ≠ .raised f := by
  intro same
  rcases flavour.outward_cases f.unwrapped with stays | ⟨g, leaves, bare⟩
  · exact Failure.unwrapped_ne carries (Escape.raised.inj (stays.symm.trans same))
  · obtain rfl : g = f := Escape.raised.inj (leaves.symm.trans same)
    exact carries bare

end Flavour

/-! ### What an execution can give up with -/

namespace Execution

variable {execution : Execution σ} {asks : Nat} {cursor : Cursor} {earlier : List Failure} {last g : Failure}
  {entries : List (Entry Call)} {ending : Except Escape Value}

/-- What a run gives up with carries the last failure of the operation; any other failure that it
raises by itself carries none. -/
theorem Course.raised (course : execution.Course asks cursor earlier last entries ending)
    (raises : ending = .error (.raised g)) :
    g.detail.last? = none ∨ ∃ message final before,
      g = .exhausted message final before execution.operation ∧
        (final = last ∨ ∃ name, ⟨name, .invoke, .error (.raised final)⟩ ∈ entries) := by
  induction course with
  | cutOff => cases raises
  | rejected | spent | withheld =>
    cases raises
    exact .inr ⟨_, _, _, rfl, .inl rfl⟩
  | faulted =>
    cases raises
    exact .inl rfl
  | succeeded => cases raises
  | failed _ _ _ ih =>
    rcases ih raises with bare | ⟨message, final, before, same, rfl | ⟨name, member⟩⟩
    · exact .inl bare
    · exact .inr ⟨message, final, before, same,
        .inr ⟨_, .tail _ (.tail _ (.tail _ (.tail _ (.tail _ (.head _)))))⟩⟩
    · exact .inr ⟨message, final, before, same, .inr ⟨name,
        List.mem_append_right [_, _, _, _, _, _, _] member⟩⟩

theorem Passage.raised (passage : execution.Passage entries ending)
    (raises : ending = .error (.raised g)) :
    g.detail.last? = none ∨ ∃ message final before name,
      g = .exhausted message final before execution.operation ∧
        ⟨name, .invoke, .error (.raised final)⟩ ∈ entries := by
  cases passage with
  | immediate => cases raises
  | unstarted =>
    cases raises
    exact .inl rfl
  | retried _ course =>
    rcases course.raised raises with bare | ⟨message, final, before, same, rfl | ⟨name, member⟩⟩
    · exact .inl bare
    · exact .inr ⟨message, final, before, _, same, .tail _ (.head _)⟩
    · exact .inr ⟨message, final, before, name, same, List.mem_append_right [_, _] member⟩

end Execution

/-! ### Invocations on templates -/

namespace Template

variable (template : Template σ ℓ) (operation : Operation σ) (s : σ)

theorem invoke_apply :
    template.invoke operation s =
      (((template.execute operation s).1.mapError Escape.unwrapped).mapError
        template.flavour.outward, (template.execute operation s).2) := by
  rw [invoke, Flavour.insulate_apply, Task.unwrapped_apply]

/-- The execution gives up by itself: no call cuts it short, and it raises a failure that carries
the last one of the operation. -/
def GivesUp (last : Failure) : Prop :=
  (∀ entry ∈ template.journal operation s, entry.Smooth .invoke) ∧
    ∃ message earlier, (template.execute operation s).1 =
      .error (.raised (.exhausted message last earlier operation.self))

/-- An invocation is the execution with nothing but the failure unwrapped that it gives up with. -/
structure Faithful : Prop where
  state : (template.invoke operation s).2 = (template.execute operation s).2
  returned : ∀ v, (template.execute operation s).1 = .ok v → (template.invoke operation s).1 = .ok v
  gaveUp : ∀ last, template.GivesUp operation s last →
    (template.invoke operation s).1 = .error (.raised last)
  escaped : ∀ f, (template.execute operation s).1 = .error (.raised f) →
    (∀ last, ¬ template.GivesUp operation s last) →
    (template.invoke operation s).1 = .error (.raised f)

variable {template operation s}

theorem outward_of_invoked {name : String} {f : Failure}
    (member : ⟨name, .invoke, .error (.raised f)⟩ ∈ template.journal operation s) :
    template.flavour.outward (.raised f) = .raised f := by
  obtain ⟨s', ending⟩ := ((template.started operation s).journal_answered s _ member).ending
  have ending : Except.error (.raised f) = (template.flavour.perform operation s').1 := ending
  rw [Flavour.perform, Flavour.insulate_apply] at ending
  cases inner : ((do template.flavour.receive (← operation.invoke)) s').1 with
  | ok v =>
    rw [inner] at ending
    cases ending
  | error e =>
    rw [inner] at ending
    have raised : Escape.raised f = template.flavour.outward e := Except.error.inj ending
    rw [raised, Flavour.outward_outward]

theorem invoke_of_bare {f : Failure}
    (raised : (template.execute operation s).1 = .error (.raised f)) (bare : f.detail.last? = none) :
    (template.invoke operation s).1 = .error (.raised f) := by
  have crosses : template.flavour.outward (.raised f) = .raised f := by
    rw [execute_apply] at raised
    cases inner : ((template.started operation s).run s).1 with
    | ok v =>
      rw [inner] at raised
      cases raised
    | error e =>
      rw [inner] at raised
      rw [← Except.error.inj raised, Flavour.outward_outward]
  have stays : f.unwrapped = f := by rw [Failure.unwrapped, bare]
  rw [invoke_apply, raised]
  show Except.error (template.flavour.outward (.raised f.unwrapped)) = _
  rw [stays, crosses]

theorem execute_of_aborts {entry : Entry Call} {e : Escape}
    (member : entry ∈ template.journal operation s) (aborts : entry.Aborts .invoke e) :
    (template.execute operation s).1 = .error (template.flavour.outward e) := by
  obtain ⟨before, after, split⟩ := List.append_of_mem member
  obtain ⟨-, ends⟩ := (template.started operation s).recorded_stops.last split aborts
  rw [Execution.recorded_run] at ends
  exact execute_error ends

theorem invoke_of_givesUp {last : Failure} (gives : template.GivesUp operation s last) :
    (template.invoke operation s).1 = .error (.raised last) := by
  obtain ⟨smooth, message, earlier, raised⟩ := gives
  rcases (execute_passage smooth).raised raised with
    none | ⟨message', final, before, name, same, member⟩
  · cases none
  · have same : last = final := Option.some.inj (congrArg Failure.cause same)
    rw [invoke_apply, raised, same]
    exact congrArg Except.error (outward_of_invoked member)

theorem bare_or_aborts {f : Failure}
    (raised : (template.execute operation s).1 = .error (.raised f))
    (own : ∀ last, ¬ template.GivesUp operation s last) :
    f.detail.last? = none ∨ ∃ entry ∈ template.journal operation s, ∃ g,
      entry.Aborts .invoke (.raised g) ∧ template.flavour.outward (.raised g) = .raised f := by
  obtain ⟨entries, adds, stops⟩ := (template.started operation s).recorded_stops s []
  have same : template.journal operation s = entries := adds
  rw [← same] at stops
  rcases stops with smooth | ⟨before, entry, e, split, -, aborts, -⟩
  · rcases (execute_passage smooth).raised raised with
      none | ⟨message, final, earlier, name, same', member⟩
    · exact .inl none
    · exact absurd ⟨smooth, message, earlier, same' ▸ raised⟩ (own final)
  · have member : entry ∈ template.journal operation s := by
      rw [split]
      simp
    rw [execute_of_aborts member aborts] at raised
    have leaves : template.flavour.outward e = .raised f := Except.error.inj raised
    cases e with
    | raised g => exact .inr ⟨entry, member, g, aborts, leaves⟩
    | unfinished => cases flavour : template.flavour <;> rw [flavour] at leaves <;> cases leaves

/-- An invocation is faithful to the execution exactly when no call cuts the execution short with a
failure that carries another one. -/
theorem invoke_faithful_iff :
    template.Faithful operation s ↔
      ∀ entry ∈ template.journal operation s, ∀ f, entry.Aborts .invoke (.raised f) →
        ∀ g, template.flavour.outward (.raised f) = .raised g → g.detail.last? = none := by
  constructor
  · intro faithful entry member f aborts g leaves
    refine Classical.byContradiction fun carries => ?_
    -- The failure leaves the execution, which has not given up, and is unwrapped.
    have raised : (template.execute operation s).1 = .error (.raised g) := by
      rw [execute_of_aborts member aborts, leaves]
    have escaped := faithful.escaped g raised fun _ gives => gives.1 entry member _ aborts
    rw [invoke_apply, raised] at escaped
    exact template.flavour.outward_unwrapped_ne carries (Except.error.inj escaped)
  · intro bare
    constructor
    · rw [invoke_apply]
    · intro v returned
      rw [invoke_apply, returned]
      rfl
    · exact fun last gives => invoke_of_givesUp gives
    · intro f raised own
      rcases bare_or_aborts raised own with none | ⟨entry, member, g, aborts, leaves⟩
      · exact invoke_of_bare raised none
      · exact invoke_of_bare raised (bare entry member g aborts f leaves)

/-- A test that raises a failure which carries another one is taken for the execution giving up. -/
theorem invoke_not_faithful :
    ¬ ({ quiet ⟨3, .int 0, 0, .null,
          .classifier ⟨[], [], [.predicate ⟨1, .always (.bool true)⟩]⟩⟩ with
        examination := ⟨fun _ _ => Task.raise (.exhausted "from predicate"
          (.plain 7 Kind.keyError [.text "k"]) [] .null), fun _ => pure ()⟩ } :
        Template Nat Unit).Faithful (.failing 2) 0 := by
  intro faithful
  have escaped := faithful.escaped _ rfl fun last gives =>
    gives.1 ⟨"sample", .classify (.plain 0 Kind.valueError []), _⟩ (.tail _ (.tail _ (.head _))) _
      ⟨rfl, nofun⟩
  cases escaped

end Template

end Reattempt
