import Reattempt.Proofs.Classification
import Reattempt.Proofs.Likeness

/-!
# Combination

The rules of two classifiers together, compared with each of the two. No kinds to let in let all
in, so a combination lets in neither what both let in nor what one of them does;
`Classifier.combine_laws` says what it does let in, and how far it is an algebra.
-/

namespace Reattempt

variable {σ : Type} {examination : Examination σ} {f : Failure} {s : σ}

/-! ### Kinds of two lists -/

theorem Failure.liesIn_append {values others : List Value} :
    f.LiesIn (values ++ others) ↔ f.LiesIn values ∨ f.LiesIn others := by
  constructor
  · rintro ⟨k, member, within⟩
    rcases List.mem_append.mp member with first | second
    · exact .inl ⟨k, first, within⟩
    · exact .inr ⟨k, second, within⟩
  · rintro (⟨k, member, within⟩ | ⟨k, member, within⟩)
    · exact ⟨k, List.mem_append_left _ member, within⟩
    · exact ⟨k, List.mem_append_right _ member, within⟩

namespace Classifier

variable {a b c : Classifier}

theorem Typed.combine (typed : a.Typed) (typed' : b.Typed) : (a.combine b).Typed where
  includes v member := (List.mem_append.mp member).elim (typed.includes v) (typed'.includes v)
  excludes v member := (List.mem_append.mp member).elim (typed.excludes v) (typed'.excludes v)

theorem combine_assoc (a b c : Classifier) :
    (a.combine b).combine c = a.combine (b.combine c) := by
  simp only [combine, List.append_assoc]

theorem all_combine (a : Classifier) : all.combine a = a := by
  cases a
  rfl

theorem combine_all (a : Classifier) : a.combine all = a := by
  cases a
  simp only [combine, all, List.append_nil]

theorem admits_combine : (a.combine b).Admits f ↔
    ((a.includes = [] ∧ b.includes = []) ∨ f.LiesIn a.includes ∨ f.LiesIn b.includes) ∧
      ¬ f.LiesIn a.excludes ∧ ¬ f.LiesIn b.excludes := by
  rw [Admits, combine]
  dsimp only
  rw [List.append_eq_nil_iff, Failure.liesIn_append, Failure.liesIn_append, not_or]

theorem admits_of_both (first : a.Admits f) (second : b.Admits f) : (a.combine b).Admits f := by
  refine admits_combine.mpr ⟨?_, first.2, second.2⟩
  rcases first.1, second.1 with ⟨none | lies, none' | lies'⟩
  · exact .inl ⟨none, none'⟩
  · exact .inr (.inr lies')
  · exact .inr (.inl lies)
  · exact .inr (.inl lies)

theorem admits_of_combine (admits : (a.combine b).Admits f) : a.Admits f ∨ b.Admits f := by
  obtain ⟨lets, out, out'⟩ := admits_combine.mp admits
  rcases lets with ⟨none, -⟩ | lies | lies
  · exact .inl ⟨.inl none, out⟩
  · exact .inl ⟨.inr lies, out⟩
  · exact .inr ⟨.inr lies, out'⟩

theorem admits_combine_comm : (a.combine b).Admits f ↔ (b.combine a).Admits f := by
  rw [admits_combine, admits_combine, and_comm (a := a.includes = []),
    or_comm (a := f.LiesIn a.includes), and_comm (a := ¬ f.LiesIn a.excludes)]

theorem admits_combine_self : (a.combine a).Admits f ↔ a.Admits f := by
  rw [admits_combine, and_self, or_self, and_self, Admits]

end Classifier

/-! ### Verdicts that depend on the failure only -/

/-- How a test ends depends on the test and the failure, and on nothing that happened before. -/
def Examination.Pure (examination : Examination σ) : Prop :=
  ∀ p f s s', (examination.ask p f s).1 = (examination.ask p f s').1

def Examination.Satisfied (examination : Examination σ) (f : Failure) (s : σ) (v : Value) : Prop :=
  ∃ answer, (examination.call f v s).1 = .ok answer ∧ answer.isTruthy = true

theorem Examination.Pure.call (pure : examination.Pure) (quiet : examination.Quiet) (f : Failure)
    (v : Value) (s s' : σ) :
    (examination.call f v s).1 = (examination.call f v s').1 := by
  have congruence := Task.alike_congruence fun _ _ : σ => True
  have alike : Task.Alike (fun _ _ => True) Value (examination.call f v)
      (examination.call f v) := by
    cases v with
    | predicate p => exact fun s s' _ => ⟨pure p f s' s, trivial⟩
    | kind k => exact congruence.map _ (congruence.ofExcept _)
    | classifier c =>
      refine congruence.map _ (Classifier.accepts_related congruence ?_ ?_ f c)
      · exact fun p f s s' _ => ⟨pure p f s' s, trivial⟩
      · exact fun message s s' _ => ⟨(quiet _ s').trans (quiet _ s).symm, trivial⟩
    | _ => exact congruence.escape _
  exact (alike s' s trivial).1

theorem Called.ending {trials : List Trial} {after : σ} {call : Value → Task σ Value}
    (called : Called call s trials after) (alone : ∀ v s s', (call v s).1 = (call v s').1) :
    ∀ trial ∈ trials, trial.ending = (call trial.test s).1 := by
  induction called with
  | nil s => exact nofun
  | @cons s s' _ test ending rest first _ ih =>
    intro trial member
    rcases List.mem_cons.mp member with rfl | later
    · exact (congrArg Prod.fst first).symm
    · exact (ih trial later).trans (alone trial.test s' s)

namespace Classifier

variable {a b c : Classifier}

def Matches (c : Classifier) (examination : Examination σ) (f : Failure) (s : σ) : Prop :=
  (c.accepts examination f s).1 = .ok true

theorem matches_iff (typed : c.Typed) (pure : examination.Pure) (quiet : examination.Quiet) :
    c.Matches examination f s ↔
      c.Admits f ∧ ∀ v ∈ c.predicates, examination.Satisfied f s v := by
  obtain ⟨trials, after, judged⟩ := accepts_judged typed quiet f s
  have ends := judged.called.ending (pure.call quiet f)
  have passes_iff {trial : Trial} (member : trial ∈ trials) :
      trial.Passes ↔ examination.Satisfied f s trial.test := by
    rw [Trial.Passes, ends trial member, Examination.Satisfied]
  rw [Matches, judged.accepted]
  constructor
  · rintro ⟨admits, order, all⟩
    refine ⟨admits, fun v member => ?_⟩
    rw [← order] at member
    obtain ⟨trial, tried, rfl⟩ := List.mem_map.mp member
    exact (passes_iff tried).mp (all trial tried)
  · rintro ⟨admits, satisfied⟩
    have all (trial : Trial) (tried : trial ∈ trials) : trial.Passes :=
      (passes_iff tried).mpr (satisfied _ (judged.inOrder.subset (List.mem_map_of_mem tried)))
    -- The verdict can neither be a rejection nor an escape, as the last test called passes.
    rcases verdict : (c.accepts examination f s).1 with e | _ | _
    · obtain ⟨trial, last, escapes⟩ := (judged.escaped e).mp verdict
      exact absurd (all trial (List.mem_of_getLast? last)) (Trial.not_passes_of_error escapes)
    · rcases judged.rejected.mp verdict with out | ⟨trial, last, rejects⟩
      · exact absurd admits out
      · exact absurd (all trial (List.mem_of_getLast? last)) rejects.not_passes
    · exact judged.accepted.mp verdict

structure CombinesWell (a b : Classifier) (examination : Examination σ) (f : Failure) (s : σ) :
    Prop where
  exactly : (a.combine b).Matches examination f s ↔
    ((a.includes = [] ∧ b.includes = []) ∨ f.LiesIn a.includes ∨ f.LiesIn b.includes) ∧
      ¬ f.LiesIn a.excludes ∧ ¬ f.LiesIn b.excludes ∧
      (∀ v ∈ a.predicates, examination.Satisfied f s v) ∧
      ∀ v ∈ b.predicates, examination.Satisfied f s v
  of_both : a.Matches examination f s → b.Matches examination f s →
    (a.combine b).Matches examination f s
  to_one : (a.combine b).Matches examination f s →
    a.Matches examination f s ∨ b.Matches examination f s
  comm : (a.combine b).Matches examination f s ↔ (b.combine a).Matches examination f s
  self : (a.combine a).Matches examination f s ↔ a.Matches examination f s

theorem satisfied_combine : (∀ v ∈ (a.combine b).predicates, examination.Satisfied f s v) ↔
    (∀ v ∈ a.predicates, examination.Satisfied f s v) ∧
      ∀ v ∈ b.predicates, examination.Satisfied f s v :=
  List.forall_mem_append

theorem combinesWell (pure : examination.Pure) (quiet : examination.Quiet) (typed : a.Typed)
    (typed' : b.Typed) (f : Failure) (s : σ) : a.CombinesWell b examination f s where
  exactly := by
    rw [matches_iff (typed.combine typed') pure quiet, admits_combine, satisfied_combine, and_assoc,
      and_assoc]
  of_both first second := by
    obtain ⟨admits, all⟩ := (matches_iff typed pure quiet).mp first
    obtain ⟨admits', all'⟩ := (matches_iff typed' pure quiet).mp second
    exact (matches_iff (typed.combine typed') pure quiet).mpr
      ⟨admits_of_both admits admits', satisfied_combine.mpr ⟨all, all'⟩⟩
  to_one both := by
    obtain ⟨admits, all⟩ := (matches_iff (typed.combine typed') pure quiet).mp both
    obtain ⟨first, second⟩ := satisfied_combine.mp all
    rcases admits_of_combine admits with admits | admits
    · exact .inl ((matches_iff typed pure quiet).mpr ⟨admits, first⟩)
    · exact .inr ((matches_iff typed' pure quiet).mpr ⟨admits, second⟩)
  comm := by
    rw [matches_iff (typed.combine typed') pure quiet, matches_iff (typed'.combine typed) pure quiet,
      admits_combine_comm, satisfied_combine, satisfied_combine,
      and_comm (a := ∀ v ∈ a.predicates, _)]
  self := by
    rw [matches_iff (typed.combine typed) pure quiet, matches_iff typed pure quiet,
      admits_combine_self, satisfied_combine, and_self]

/-- Combining is associative and leaves a classifier alone that is combined with the one without
rules; up to what matches it is also commutative and idempotent. -/
theorem combine_laws (a b c : Classifier) :
    (a.combine b).combine c = a.combine (b.combine c) ∧ all.combine a = a ∧ a.combine all = a ∧
      ∀ examination : Examination σ, examination.Pure → examination.Quiet → a.Typed → b.Typed →
        ∀ f s, a.CombinesWell b examination f s :=
  ⟨combine_assoc a b c, all_combine a, combine_all a,
    fun _ pure quiet typed typed' => combinesWell pure quiet typed typed'⟩

end Classifier

theorem Examination.answering_pure : answering.Pure := by
  intro p f s s'
  obtain ⟨id, test⟩ := p
  cases test <;> rfl

namespace Classifier

/-- A failure that one of two classifiers lets in is let in by both together, and has to satisfy
the tests of the other one too. -/
theorem combine_laws_one_sided :
    let a : Classifier :=
      ⟨[.kind Kind.osError], [.kind Kind.keyError], [.predicate ⟨7, .always (.int 1)⟩]⟩
    let b : Classifier := ⟨[.kind Kind.valueError], [], []⟩
    let f : Failure := .plain 1 Kind.valueError []
    a.accepts .answering f [] = (.ok false, []) ∧
      (a.combine b).accepts .answering f [] = (.ok true, [7]) ∧
      a.CombinesWell b .answering f [] := by
  intro a b f
  have typed : a.Typed := typed_kinds [Kind.osError] [Kind.keyError] _
  have typed' : b.Typed := typed_kinds [Kind.valueError] [] []
  obtain ⟨-, -, -, laws⟩ := combine_laws (σ := List Nat) a b all
  exact ⟨rfl, rfl, laws .answering Examination.answering_pure Examination.answering_quiet typed
    typed' f []⟩

end Classifier

end Reattempt
