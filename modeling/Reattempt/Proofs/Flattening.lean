import Reattempt.Proofs.Observing

/-!
# Flat listeners

A tree of composites tells its leaves from left to right. As long as nobody adds members to its
composites, an execution does not tell it apart from one composite that holds all its leaves: the
same calls are made with the same endings, and the outcome is the same.
-/

namespace Reattempt

variable {σ ℓ α : Type}

/-! ### States of a kind -/

def Unmoved (kind : σ → Prop) (s s' : σ) : Prop := s' = s ∧ kind s

namespace Task

variable {kind : σ → Prop} {t u v : Task σ α}

theorem alike_unmoved_iff : Alike (Unmoved kind) α t u ↔ ∀ s, kind s → u s = t s ∧ kind (t s).2 := by
  constructor
  · intro alike s present
    obtain ⟨ends, same, after⟩ := alike s s ⟨rfl, present⟩
    exact ⟨Prod.ext ends same, after⟩
  · rintro coincide s s' ⟨rfl, present⟩
    obtain ⟨same, after⟩ := coincide _ present
    rw [same]
    exact ⟨rfl, rfl, after⟩

theorem alike_of_common (first : Alike (Unmoved kind) α t v) (second : Alike (Unmoved kind) α u v) :
    Alike (Unmoved kind) α t u := by
  refine alike_unmoved_iff.mpr fun s present => ?_
  obtain ⟨same, after⟩ := alike_unmoved_iff.mp first s present
  obtain ⟨same', -⟩ := alike_unmoved_iff.mp second s present
  exact ⟨same'.symm.trans same, after⟩

end Task

/-! ### Trees of listeners -/

namespace Listener

/-- The leaves of a tree from left to right, down to a depth, with the members that growing
composites have. -/
def flattened (roll : Nat → List (Listener ℓ)) : (depth : Nat) → Listener ℓ → List ℓ
  | 0 => fun _ => []
  | depth + 1 => leaves fun id => (roll id).flatMap (flattened roll depth)

/-- A tree that is told to the end. Its growing composites are among those that are given, have
fewer members than the patience, and hold each other up to a depth. -/
inductive Fits (own : Nat → Prop) (roll : Nat → List (Listener ℓ)) (patience : Nat) :
    Nat → Listener ℓ → Prop where
  | leaf {depth : Nat} {l : ℓ} : Fits own roll patience (depth + 1) (.leaf l)
  | composite {depth : Nat} {parts : List (Listener ℓ)}
      (each : ∀ part ∈ parts, Fits own roll patience (depth + 1) part) :
      Fits own roll patience (depth + 1) (.composite parts)
  | growing {depth id : Nat} (owned : own id) (few : (roll id).length < patience)
      (each : ∀ member ∈ roll id, Fits own roll patience depth member) :
      Fits own roll patience (depth + 1) (.growing id)

variable {kind : σ → Prop} {tell : ℓ → Task σ Unit} {members : Nat → σ → List (Listener ℓ)}
  {own : Nat → Prop} {roll : Nat → List (Listener ℓ)} {patience depth : Nat}

theorem visitAll_flattened {grown : Nat → Task σ Unit} {rolled : Nat → List ℓ}
    {parts : List (Listener ℓ)} (each : ∀ part ∈ parts, Task.Alike (Unmoved kind) Unit
      (visit tell grown part) (forM (leaves rolled part) tell)) :
    Task.Alike (Unmoved kind) Unit (visitAll tell grown parts) (forM (leavesAll rolled parts) tell) := by
  have congruence := Task.alike_congruence (Unmoved kind)
  induction parts with
  | nil =>
    rw [visitAll, leavesAll]
    exact congruence.pure ()
  | cons part rest ih =>
    rw [visitAll, leavesAll, List.forM_append]
    exact congruence.bind (each part (.head _)) fun _ => ih fun later member => each later (.tail _ member)

/-- The induction is on the patience, which covers the members from the position on. -/
theorem walk_flattened {visitMember : Listener ℓ → Task σ Unit} {present : List (Listener ℓ)}
    {look : σ → List (Listener ℓ)} {below : Listener ℓ → List ℓ}
    (held : ∀ s, kind s → look s = present)
    (each : ∀ member ∈ present,
      Task.Alike (Unmoved kind) Unit (visitMember member) (forM (below member) tell))
    {patience position : Nat} (within : position ≤ present.length)
    (enough : present.length < patience + position) :
    Task.Alike (Unmoved kind) Unit (walk visitMember look patience position)
      (forM ((present.drop position).flatMap below) tell) := by
  have congruence := Task.alike_congruence (Unmoved kind)
  induction patience generalizing position with
  | zero => omega
  | succ patience ih =>
    refine Task.alike_unmoved_iff.mpr fun s known => ?_
    rw [walk, Task.bind_ok (Task.gets_apply look s), held s known]
    cases found : present[position]? with
    | none =>
      have ended : present.drop position = [] :=
        List.drop_of_length_le (List.getElem?_eq_none_iff.mp found)
      rw [ended]
      exact ⟨rfl, known⟩
    | some member =>
      obtain ⟨before, same⟩ := List.getElem?_eq_some_iff.mp found
      have first := each member (List.mem_of_getElem? found)
      have later := ih (show position + 1 ≤ present.length from before) (by omega)
      rw [List.drop_eq_getElem_cons before, same, List.flatMap_cons, List.forM_append]
      exact Task.alike_unmoved_iff.mp (congruence.bind first fun _ => later) s known

theorem Fits.dispatch {l : Listener ℓ} (fits : Fits own roll patience depth l)
    (held : ∀ s, kind s → ∀ id, own id → members id s = roll id)
    (stays : ∀ leaf, Task.Alike (Unmoved kind) Unit (tell leaf) (tell leaf)) :
    Task.Alike (Unmoved kind) Unit (dispatch tell members patience depth l)
      (forM (l.flattened roll depth) tell) := by
  induction fits with
  | leaf =>
    rw [Listener.dispatch, visit, flattened, leaves, List.forM_cons, List.forM_nil, bind_pure_unit]
    exact stays _
  | composite _ ih =>
    rw [Listener.dispatch, visit, flattened, leaves]
    exact visitAll_flattened ih
  | @growing depth id owned few _ ih =>
    rw [Listener.dispatch, visit, flattened, leaves]
    exact walk_flattened (fun s known => held s known id owned) ih (Nat.zero_le _) few

theorem Fits.positive {l : Listener ℓ} (fits : Fits own roll patience depth l) :
    ∃ below, depth = below + 1 := by
  cases fits <;> exact ⟨_, rfl⟩

def flat (present : List ℓ) : Listener ℓ := .composite (present.map .leaf)

theorem fits_flat (present : List ℓ) : Fits own roll patience (depth + 1) (flat present) := by
  refine .composite fun part member => ?_
  obtain ⟨l, -, rfl⟩ := List.mem_map.mp member
  exact .leaf

theorem flattened_flat (present : List ℓ) : (flat present).flattened roll (depth + 1) = present := by
  rw [flattened, flat, leaves]
  induction present with
  | nil => rw [List.map_nil, leavesAll]
  | cons l rest ih => rw [List.map_cons, leavesAll, ih, leaves, List.singleton_append]

end Listener

/-! ### Leaves that are told -/

/-- Telling leaves one after the other, in the state that the one before left: the leaves that were
told, how that ended, and the state after it. A leaf that raises is the last one. -/
inductive Told (tell : ℓ → Task σ Unit) : σ → List ℓ → Except Escape Unit → σ → Prop where
  | done (s : σ) : Told tell s [] (.ok ()) s
  | returned {s s' after : σ} {l : ℓ} {later : List ℓ} {ending : Except Escape Unit}
      (first : tell l s = (.ok (), s')) (rest : Told tell s' later ending after) :
      Told tell s (l :: later) ending after
  | raised {s after : σ} {l : ℓ} {e : Escape} (first : tell l s = (.error e, after)) :
      Told tell s [l] (.error e) after

/-- Leaves are told from the first one on, and all of them unless one raises; each telling is
entered once. -/
theorem told_in_order (tell : ℓ → Task σ Unit) (name : σ → String) (occasion : Occasion)
    (leaves : List ℓ) (s : σ) (transcript : List (Entry (Contact ℓ))) :
    ∃ told entries ending after, told <+: leaves ∧ Told tell s told ending after ∧
      (ending = .ok () → told = leaves) ∧
      entries.map Entry.call = told.map (Contact.notify occasion) ∧
      forM leaves (fun leaf => (tell leaf).entered name (.notify occasion leaf) fun _ => .null)
        (s, transcript) = (ending, (after, transcript ++ entries)) := by
  induction leaves generalizing s transcript with
  | nil =>
    refine ⟨[], [], .ok (), s, List.prefix_refl _, .done s, fun _ => rfl, rfl, ?_⟩
    rw [List.append_nil]
    rfl
  | cons l rest ih =>
    rw [List.forM_cons]
    rcases first : tell l s with ⟨e | _, s'⟩
    · refine ⟨[l], [⟨name s, .notify occasion l, .error e⟩], .error e, s', ?_, .raised first, nofun,
        rfl, ?_⟩
      · exact (List.cons_prefix_cons).mpr ⟨rfl, List.nil_prefix⟩
      · exact Task.bind_error (Task.entered_error first transcript)
    · obtain ⟨told, entries, ending, after, part, tells, all, calls, run⟩ :=
        ih s' (transcript ++ [⟨name s, .notify occasion l, .ok .null⟩])
      refine ⟨l :: told, ⟨name s, .notify occasion l, .ok .null⟩ :: entries, ending, after, ?_,
        .returned first tells, ?_, ?_, ?_⟩
      · exact (List.cons_prefix_cons).mpr ⟨rfl, part⟩
      · intro returns
        rw [all returns]
      · rw [List.map_cons, List.map_cons, calls]
      · rw [Task.bind_ok (Task.entered_ok first transcript), run, List.append_assoc]
        rfl

/-! ### Executions -/

theorem Task.Keeps.entered {β κ : Type} {view : σ → β} {t : Task σ α} {present : β}
    (keeps : Task.Keeps view α t) (name : σ → String) (call : κ) (shown : α → Value) :
    Task.Alike (Unmoved fun x : σ × List (Entry κ) => view x.1 = present) α
      (t.entered name call shown) (t.entered name call shown) :=
  Task.alike_unmoved_iff.mpr fun x known => ⟨rfl, (keeps x.1).trans known⟩

namespace Template

variable {template : Template σ ℓ} {operation : Operation σ} {own : Nat → Prop} {s : σ}
  {l l' : Listener ℓ}

def roster (template : Template σ ℓ) (own : Nat → Prop) (s : σ) (id : { id // own id }) :
    List (Listener ℓ) :=
  template.members id s

def leavesOf (template : Template σ ℓ) (s : σ) (l : Listener ℓ) : List ℓ :=
  l.flattened (fun id => template.members id s) template.patience

def Hears (template : Template σ ℓ) (own : Nat → Prop) (s : σ) (l : Listener ℓ) : Prop :=
  l.Fits own (fun id => template.members id s) template.patience template.patience

theorem observe_flattened (operation : Operation σ)
    (spares : template.Spares (template.roster own)) (hears : template.Hears own s l) (occasion : Occasion) :
    Task.Alike (Unmoved fun x => template.roster own x.1 = template.roster own s) Unit
      (((template.heard l).surroundings operation s).recorded.observe occasion)
      (forM (template.leavesOf s l) fun leaf =>
        (template.notify (template.policy s) operation occasion leaf).entered operation.name
          (.notify occasion leaf) fun _ => .null) := by
  refine Listener.Fits.dispatch hears (fun x known id owned => ?_) fun leaf => ?_
  · exact congrFun known ⟨id, owned⟩
  · exact (spares.notify _ _ occasion leaf).entered _ _ _

theorem heard_related (spares : template.Spares (template.roster own))
    (performs : Task.Keeps (template.roster own) Value (template.flavour.perform operation))
    (hears : template.Hears own s l) (hears' : template.Hears own s l')
    (same : template.leavesOf s l' = template.leavesOf s l) :
    Execution.Related
      (Task.Alike (Unmoved fun x => template.roster own x.1 = template.roster own s))
      ((template.heard l).surroundings operation s).recorded.execution
      ((template.heard l').surroundings operation s).recorded.execution := by
  let kind : σ × List (Entry (Contact ℓ)) → Prop :=
    fun x => template.roster own x.1 = template.roster own s
  have congruence := Task.alike_congruence (Unmoved kind)
  have name : Task.Alike (Unmoved kind) String
      (Task.gets fun x => operation.name x.1) (Task.gets fun x => operation.name x.1) :=
    Task.alike_unmoved_iff.mpr fun _ known => ⟨rfl, known⟩
  have told (notice : Notice) : Task.Alike (Unmoved kind) Unit
      ((template.examination.tell notice).entered operation.name (.tell notice) fun _ => .null)
      ((template.examination.tell notice).entered operation.name (.tell notice) fun _ => .null) :=
    (spares.tell notice).entered _ _ _
  have calculates (strategy : Strategy) (attempt : Value) :
      Task.Keeps (template.roster own) Value (strategy.calculate template.chance attempt) :=
    @Strategy.calculate_related σ σ _ (Task.keeps_congruence _) template.chance template.chance
      spares.uniform (fun _ => spares.jitter _) strategy attempt
  -- Only what observes an occasion differs; both sides tell the leaves they have in common.
  exact {
    exhausted := fun _ _ _ => congruence.escape _
    start := rfl
    patience := rfl
    name := name
    attempt := Execution.attempt_alike (performs.entered _ _ _)
    announce := Execution.announce_related congruence rfl name told
    accepts := Surroundings.accepts_related congruence rfl
      (fun p f => (spares.ask p f).entered _ _ _) fun _ => told _
    calculate := fun cursor _ attempts => (calculates _ _).entered _ _ _
    wait := fun delay => (spares.wait delay).entered _ _ _
    observe := fun occasion => by
      have first := observe_flattened operation spares hears occasion
      have second := observe_flattened operation spares hears' occasion
      rw [same] at second
      exact Task.alike_of_common first second }

theorem executed_alike (spares : template.Spares (template.roster own))
    (performs : Task.Keeps (template.roster own) Value (template.flavour.perform operation))
    (hears : template.Hears own s l) (hears' : template.Hears own s l')
    (same : template.leavesOf s l' = template.leavesOf s l) :
    (template.heard l').transcript operation s = (template.heard l).transcript operation s ∧
      (template.heard l').execute operation s = (template.heard l).execute operation s := by
  have run := Execution.run_related (Task.alike_congruence _)
    (heard_related spares performs hears hears' same)
  obtain ⟨equal, -⟩ := Task.alike_unmoved_iff.mp run (s, []) rfl
  rw [recorded_run, recorded_run] at equal
  simp only [Prod.mk.injEq] at equal
  obtain ⟨ends, after, transcripts⟩ := equal
  refine ⟨transcripts, ?_⟩
  rw [execute_apply, execute_apply, ends, after]
  rfl

/-- Trees of listeners are flat. As long as nobody adds members to its composites, a tree and one
composite with the same leaves from left to right make no difference to an execution: it makes the
same calls, with the same arguments and endings, and ends the same way in the same state. On each
occasion the leaves are told one after the other, each of them once, and a leaf that raises is the
last one that is told, with what it raises going out unchanged. -/
theorem execute_flattened (spares : template.Spares (template.roster own))
    (performs : Task.Keeps (template.roster own) Value (template.flavour.perform operation))
    (hears : template.Hears own s l) :
    (template.heard (.flat (template.leavesOf s l))).transcript operation s =
        (template.heard l).transcript operation s ∧
      (template.heard (.flat (template.leavesOf s l))).execute operation s =
        (template.heard l).execute operation s ∧
      ∀ occasion s' transcript, template.roster own s' = template.roster own s →
        ∃ told entries ending after, told <+: template.leavesOf s l ∧
          Told (template.notify (template.policy s) operation occasion) s' told ending after ∧
          (ending = .ok () → told = template.leavesOf s l) ∧
          entries.map Entry.call = told.map (Contact.notify occasion) ∧
          ((template.heard l).surroundings operation s).recorded.observe occasion (s', transcript) =
            (ending, (after, transcript ++ entries)) := by
  obtain ⟨below, deep⟩ := hears.positive
  have flat : template.Hears own s (.flat (template.leavesOf s l)) := by
    unfold Hears
    rw [deep]
    exact Listener.fits_flat _
  have same : template.leavesOf s (.flat (template.leavesOf s l)) = template.leavesOf s l := by
    unfold leavesOf
    rw [deep]
    exact Listener.flattened_flat _
  obtain ⟨transcripts, outcomes⟩ := executed_alike spares performs hears flat same
  refine ⟨transcripts, outcomes, fun occasion s' transcript known => ?_⟩
  obtain ⟨told, entries, ending, after, part, tells, all, calls, run⟩ :=
    told_in_order (template.notify (template.policy s) operation occasion) operation.name occasion
      (template.leavesOf s l) s' transcript
  obtain ⟨observes, -⟩ := Task.alike_unmoved_iff.mp
    (observe_flattened operation spares hears occasion) (s', transcript) known
  exact ⟨told, entries, ending, after, part, tells, all, calls, observes.symm.trans run⟩

/-- An empty composite, a repeated leaf and a growing composite; the leaf before the last one
raises. -/
theorem execute_flattened_raising :
    let refusal : Failure := .plain 7 Kind.keyError []
    let template : Template (Nat × Nat) Bool :=
      { counting ⟨2, .int 0, 0, .null, .classifier .all⟩ with
        notify := fun _ _ _ counts => if counts then Task.modify fun (invoked, told) =>
          (invoked, told + 1) else Task.raise refusal }
    let tree : Listener Bool := .composite [.composite [], .leaf true, .growing 0,
      .composite [.leaf false, .composite [.leaf true]]]
    let own : Nat → Prop := fun id => id = 0
    template.Spares (template.roster own) ∧
      Task.Keeps (template.roster own) Value (template.flavour.perform .failingTwice) ∧
      template.Hears own (0, 0) tree ∧
      template.leavesOf (0, 0) tree = [true, true, false, true] ∧
      (template.heard (.flat [true, true, false, true])).transcript .failingTwice (0, 0) =
        (template.heard tree).transcript .failingTwice (0, 0) ∧
      (template.heard tree).execute .failingTwice (0, 0) = (.error (.raised refusal), (1, 2)) := by
  intro refusal template tree own
  have spares : template.Spares (template.roster own) :=
    ⟨fun _ _ _ => rfl, fun _ _ => rfl, fun _ _ _ => rfl, fun _ _ => rfl, fun _ _ => rfl,
      fun _ _ _ _ _ => rfl⟩
  have performs : Task.Keeps (template.roster own) Value (template.flavour.perform .failingTwice) :=
    fun _ => rfl
  have hears : template.Hears own (0, 0) tree := by
    refine .composite fun part member => ?_
    simp only [List.mem_cons, List.not_mem_nil, or_false] at member
    rcases member with rfl | rfl | rfl | rfl
    · exact .composite nofun
    · exact .leaf
    · refine .growing rfl (by decide) fun late held => ?_
      obtain rfl : late = .leaf true := List.mem_singleton.mp held
      exact .leaf
    · refine .composite fun part member => ?_
      simp only [List.mem_cons, List.not_mem_nil, or_false] at member
      rcases member with rfl | rfl
      · exact .leaf
      · exact Listener.fits_flat [true]
  obtain ⟨transcripts, -, -⟩ := execute_flattened spares performs hears
  exact ⟨spares, performs, hears, rfl, transcripts, rfl⟩

end Template

end Reattempt
