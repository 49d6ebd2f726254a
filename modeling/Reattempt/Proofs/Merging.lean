import Reattempt.Proofs.Building
import Reattempt.Proofs.Nesting

/-!
# Merged policies

A merge overrides the fields of a policy that are given a value, and an absent value counts as not
given. What a field comes to is the last value given for it, so a chain of merges comes to the same
as one merge; and since what is merged is checked like any other policy, no merge gets around the
checks. `Policy.merge_lawful` says so.
-/

namespace Reattempt

namespace Arguments

variable {first second arguments : Arguments} {name other : String} {v : Value}

/-! ### Given values -/

def given (arguments : Arguments) : Arguments := arguments.filter fun argument => !argument.2.isNull

/-- Settings overlaid with what others give: old names keep their places, new ones come last. -/
def overlay (first second : Arguments) : Arguments :=
  (first.map fun argument => (argument.1, (second.given.lookup argument.1).getD argument.2))
    ++ second.given.filter fun argument => (first.lookup argument.1).isNone

/-- The setting that the delay comes from when settings are overlaid. -/
def delaySetting (second : Arguments) (setting later : Nat) : Nat :=
  if (second.given.lookup "delay").isSome then later else setting

theorem mem_given {argument : String × Value} :
    argument ∈ arguments.given ↔ argument ∈ arguments ∧ argument.2 ≠ .null := by
  rw [given, List.mem_filter, Bool.not_eq_true', ← Bool.not_eq_true, Value.isNull_iff]

theorem mem_of_lookup (found : arguments.lookup name = some v) : (name, v) ∈ arguments := by
  obtain ⟨before, after, rfl, -⟩ := List.lookup_eq_some_iff.mp found
  simp

theorem given_cons_null (name : String) (rest : Arguments) :
    given ((name, .null) :: rest) = rest.given := rfl

theorem given_cons (present : v ≠ .null) (name : String) (rest : Arguments) :
    given ((name, v) :: rest) = (name, v) :: rest.given := by
  refine List.filter_cons_of_pos ?_
  rw [Bool.not_eq_true', ← Bool.not_eq_true, Value.isNull_iff]
  exact present

theorem lookup_other (differs : name ≠ other) (v : Value) (rest : Arguments) :
    List.lookup name ((other, v) :: rest) = rest.lookup name := by
  rw [List.lookup_cons, beq_eq_false_iff_ne.mpr differs]

theorem lookup_given_other (differs : name ≠ other) (v : Value) (rest : Arguments) :
    (given ((other, v) :: rest)).lookup name = rest.given.lookup name := by
  by_cases absent : v = .null
  · rw [absent, given_cons_null]
  · rw [given_cons absent, lookup_other differs]

theorem lookup_given_none (absent : arguments.lookup name = none) :
    arguments.given.lookup name = none := by
  rw [List.lookup_eq_none_iff] at absent ⊢
  exact fun argument member => absent argument (mem_given.mp member).1

theorem lookup_given_append (first second : Arguments) :
    (given (first ++ second)).lookup name =
      (first.given.lookup name).or (second.given.lookup name) := by
  rw [given, List.filter_append, List.lookup_append]
  rfl

theorem lookup_filter (keep : String → Bool) (arguments : Arguments) :
    (arguments.filter fun argument => keep argument.1).lookup name =
      if keep name then arguments.lookup name else none := by
  induction arguments with
  | nil => exact (ite_self none).symm
  | cons argument rest ih =>
    obtain ⟨other, v⟩ := argument
    rw [List.filter_cons]
    by_cases same : name = other
    · subst same
      cases kept : keep name with
      | true => rw [if_pos rfl, List.lookup_cons_self, List.lookup_cons_self, if_pos rfl]
      | false => rw [if_neg Bool.false_ne_true, ih, kept, if_neg Bool.false_ne_true, if_neg Bool.false_ne_true]
    · rw [lookup_other same]
      split
      · rw [lookup_other same, ih]
      · exact ih

theorem lookup_given_replaced (replaced : String → Option Value)
    (present : ∀ v, replaced name = some v → v ≠ .null) (arguments : Arguments) :
    (given (arguments.map fun argument =>
        (argument.1, (replaced argument.1).getD argument.2))).lookup name =
      if (arguments.lookup name).isNone then none
      else (replaced name).or (arguments.given.lookup name) := by
  induction arguments with
  | nil => rfl
  | cons argument rest ih =>
    obtain ⟨other, v⟩ := argument
    rw [List.map_cons]
    by_cases same : name = other
    · subst same
      rw [List.lookup_cons_self, Option.isNone_some, if_neg Bool.false_ne_true]
      cases now : replaced name with
      | some w =>
        rw [Option.getD_some, given_cons (present w now), List.lookup_cons_self, Option.some_or]
      | none =>
        rw [Option.getD_none, Option.none_or]
        by_cases absent : v = .null
        · rw [absent, given_cons_null, given_cons_null, ih, now, Option.none_or]
          cases found : rest.lookup name with
          | none => rw [lookup_given_none found, ite_self]
          | some => rfl
        · rw [given_cons absent, given_cons absent, List.lookup_cons_self, List.lookup_cons_self]
    · rw [lookup_given_other same, lookup_given_other same, lookup_other same, ih]

theorem lookup_given_overlay (first second : Arguments) (name : String) :
    (overlay first second).given.lookup name =
      (second.given.lookup name).or (first.given.lookup name) := by
  have present (v : Value) (found : second.given.lookup name = some v) : v ≠ .null :=
    (mem_given.mp (mem_of_lookup found)).2
  have kept : (given (second.given.filter fun argument => (first.lookup argument.1).isNone)) =
      second.given.filter fun argument => (first.lookup argument.1).isNone := by
    rw [given, List.filter_eq_self]
    intro argument member
    have present := (mem_given.mp (List.mem_filter.mp member).1).2
    rw [Bool.not_eq_true', ← Bool.not_eq_true, Value.isNull_iff]
    exact present
  rw [overlay, lookup_given_append, lookup_given_replaced (fun name => second.given.lookup name) present,
    kept, lookup_filter fun name => (first.lookup name).isNone]
  cases found : first.lookup name with
  | none => rw [Option.isNone_none, if_pos rfl, if_pos rfl, lookup_given_none found,
      Option.none_or, Option.or_none]
  | some v => rw [Option.isNone_some, if_neg Bool.false_ne_true, if_neg Bool.false_ne_true,
      Option.or_none]

theorem get_given_overlay (first second : Arguments) (name : String) (default : Value) :
    (overlay first second).given.get name default =
      second.given.get name (first.given.get name default) := by
  rw [get, lookup_given_overlay, get, get]
  cases second.given.lookup name <;> rfl

theorem mem_given_overlay {argument : String × Value}
    (member : argument ∈ (overlay first second).given) :
    (∃ v, (argument.1, v) ∈ first.given) ∨ argument ∈ second.given := by
  obtain ⟨member, present⟩ := mem_given.mp member
  rcases List.mem_append.mp member with member | member
  · obtain ⟨⟨name, v⟩, kept, rfl⟩ := List.mem_map.mp member
    dsimp only at present ⊢
    cases found : second.given.lookup name with
    | none =>
      rw [found, Option.getD_none] at present
      exact .inl ⟨v, mem_given.mpr ⟨kept, present⟩⟩
    | some w => exact .inr (mem_of_lookup found)
  · exact .inr (List.mem_filter.mp member).1

/-! ### Expected names -/

theorem check_optional (function : String) (taken names : List String) (arguments : Arguments) :
    arguments.check function taken [] names =
      match arguments.find? fun argument =>
        taken.contains argument.1 || !names.contains argument.1 with
      | some (name, _) =>
        if taken.contains name then .error (.repeatedArgument function name)
        else .error (.unexpectedArgument function name)
      | none => .ok () := by
  rw [check, bind]
  simp only [List.nil_append, List.zip_nil_right, List.map_nil, List.append_nil]
  cases arguments.find? _ with
  | none => rfl
  | some argument => dsimp only; split <;> rfl

theorem check_ok_iff {function : String} {taken names : List String} :
    arguments.check function taken [] names = .ok () ↔
      ∀ argument ∈ arguments, argument.1 ∉ taken ∧ argument.1 ∈ names := by
  have expected : (∀ argument ∈ arguments, argument.1 ∉ taken ∧ argument.1 ∈ names) ↔
      (arguments.find? fun argument =>
        taken.contains argument.1 || !names.contains argument.1) = none := by
    simp [List.find?_eq_none]
  rw [check_optional, expected]
  cases arguments.find? _ with
  | none => simp
  | some argument => simp; split <;> simp

end Arguments

/-! ### Policies with fields replaced -/

namespace Policy

variable {policy result next : Policy} {setting later : Nat} {changes overrides more : Arguments}

def IsMade (policy : Policy) : Prop :=
  ∃ maxAttempts delay setting backoff classifier,
    make maxAttempts delay setting backoff classifier = .ok policy

theorem make_ok_iff {maxAttempts delay backoff classifier : Value} :
    make maxAttempts delay setting backoff classifier = .ok policy ↔
      validatePolicy maxAttempts delay = .ok policy.maxAttempts ∧
        policy = ⟨policy.maxAttempts, delay, setting, backoff, classifier⟩ := by
  constructor
  · intro made
    obtain ⟨attempts, checked, made⟩ := ok_of_bind made
    cases made
    exact ⟨checked, rfl⟩
  · rintro ⟨checked, same⟩
    rw [make, checked]
    exact congrArg Except.ok same.symm

theorem isMade_iff :
    policy.IsMade ↔ validatePolicy (.int policy.maxAttempts) policy.delay = .ok policy.maxAttempts := by
  constructor
  · rintro ⟨maxAttempts, delay, setting, backoff, classifier, made⟩
    obtain ⟨checked, same⟩ := make_ok_iff.mp made
    rw [same]
    rw [(bounds_of_validatePolicy checked).1] at checked
    exact checked
  · exact fun checked => ⟨_, _, _, _, _, make_ok_iff.mpr ⟨checked, rfl⟩⟩

theorem default_isMade : default.IsMade := isMade_iff.mpr (validatePolicy_int (by decide) rfl)

/-- What a field is replaced by must have an expected name, and the new numbers must pass. -/
theorem replace_ok_iff :
    policy.replace setting changes = .ok result ↔
      (∀ change ∈ changes, change.1 ∈ fieldNames) ∧
        make (changes.get "max_attempts" (.int policy.maxAttempts)) (changes.get "delay" policy.delay)
          (if (changes.lookup "delay").isSome then setting else policy.delaySetting)
          (changes.get "backoff" policy.backoff) (changes.get "classifier" policy.classifier) =
            .ok result := by
  have expected : changes.check "RetryPolicy.__init__" Arguments.receiver [] fieldNames = .ok () ↔
      ∀ change ∈ changes, change.1 ∈ fieldNames := by
    have other : "self" ∉ fieldNames := by decide
    rw [Arguments.check_ok_iff]
    refine forall₂_congr fun change _ => and_iff_right_of_imp fun member => ?_
    rw [Arguments.receiver, List.mem_singleton]
    rintro same
    exact other (same ▸ member)
  rw [← expected, replace]
  rcases changes.check _ _ _ _ with fault | _
  · exact ⟨nofun, fun both => nomatch both.1⟩
  · exact ⟨fun made => ⟨rfl, made⟩, And.right⟩

/-! ### Merges -/

structure Merged (policy : Policy) (setting : Nat) (overrides : Arguments) (result : Policy) :
    Prop where
  maxAttempts : .int result.maxAttempts = overrides.given.get "max_attempts" (.int policy.maxAttempts)
  delay : result.delay = overrides.given.get "delay" policy.delay
  delaySetting : result.delaySetting =
    if (overrides.given.lookup "delay").isSome then setting else policy.delaySetting
  backoff : result.backoff = overrides.given.get "backoff" policy.backoff
  classifier : result.classifier = overrides.given.get "classifier" policy.classifier

structure Acceptable (overrides : Arguments) : Prop where
  names : ∀ override ∈ overrides, override.2 ≠ .null → override.1 ∈ fieldNames
  maxAttempts : ∀ v, overrides.given.lookup "max_attempts" = some v → ∃ n ≥ 1, v = .int n
  delay : ∀ v, overrides.given.lookup "delay" = some v →
    v.compareBy .below (.int 0) = .ok false

theorem merge_ok_iff :
    policy.merge setting overrides = .ok result ↔
      (∀ override ∈ overrides.given, override.1 ∈ fieldNames) ∧
        validatePolicy (.int result.maxAttempts) result.delay = .ok result.maxAttempts ∧
        policy.Merged setting overrides result := by
  rw [merge, show overrides.filter _ = overrides.given from rfl, replace_ok_iff, make_ok_iff]
  refine and_congr_right fun _ => ?_
  constructor
  · rintro ⟨checked, same⟩
    have whole := (bounds_of_validatePolicy checked).1
    rw [same]
    dsimp only
    refine ⟨by rw [← whole]; exact checked, whole.symm, rfl, rfl, rfl, rfl⟩
  · rintro ⟨checked, merged⟩
    rw [← merged.maxAttempts, ← merged.delay, ← merged.delaySetting, ← merged.backoff,
      ← merged.classifier]
    exact ⟨checked, rfl⟩

theorem Merged.backoff_kept (merged : policy.Merged setting overrides result)
    (given : policy.backoff ≠ .null) : result.backoff ≠ .null := by
  rw [merged.backoff, Arguments.get]
  cases found : overrides.given.lookup "backoff" with
  | none => exact given
  | some v => exact (Arguments.mem_given.mp (Arguments.mem_of_lookup found)).2

/-- The numbers that are left as they are have passed before. -/
theorem merge_accepts_iff (made : policy.IsMade) :
    (∃ result, policy.merge setting overrides = .ok result) ↔ Acceptable overrides := by
  obtain ⟨-, most, least⟩ := bounds_of_validatePolicy (isMade_iff.mp made)
  constructor
  · rintro ⟨result, merges⟩
    obtain ⟨names, checked, merged⟩ := merge_ok_iff.mp merges
    obtain ⟨-, positive, passes⟩ := bounds_of_validatePolicy checked
    refine ⟨fun override member present => names _ (Arguments.mem_given.mpr ⟨member, present⟩),
      fun v found => ?_, fun v found => ?_⟩
    · have same := merged.maxAttempts
      rw [Arguments.get, found] at same
      exact ⟨_, positive, same.symm⟩
    · have same := merged.delay
      rw [Arguments.get, found] at same
      rw [same] at passes
      exact passes
  · intro acceptable
    obtain ⟨attempts, positive, whole⟩ : ∃ n : Int, 1 ≤ n ∧
        overrides.given.get "max_attempts" (.int policy.maxAttempts) = .int n := by
      rw [Arguments.get]
      cases found : overrides.given.lookup "max_attempts" with
      | none => exact ⟨_, most, rfl⟩
      | some v => exact acceptable.maxAttempts v found
    have passes : (overrides.given.get "delay" policy.delay).compareBy .below (.int 0) =
        .ok false := by
      rw [Arguments.get]
      cases found : overrides.given.lookup "delay" with
      | none => exact least
      | some v => exact acceptable.delay v found
    refine ⟨⟨attempts, overrides.given.get "delay" policy.delay,
      if (overrides.given.lookup "delay").isSome then setting else policy.delaySetting,
      overrides.given.get "backoff" policy.backoff,
      overrides.given.get "classifier" policy.classifier⟩, merge_ok_iff.mpr ⟨?_, ?_, ?_⟩⟩
    · intro override member
      obtain ⟨member, present⟩ := Arguments.mem_given.mp member
      exact acceptable.names override member present
    · exact validatePolicy_int positive passes
    · exact ⟨whole.symm, rfl, rfl, rfl, rfl⟩

theorem merge_nothing (made : policy.IsMade) (absent : ∀ override ∈ overrides, override.2 = .null) :
    policy.merge setting overrides = .ok policy := by
  have nothing : overrides.given = [] := by
    refine List.eq_nil_iff_forall_not_mem.mpr fun override member => ?_
    obtain ⟨member, present⟩ := Arguments.mem_given.mp member
    exact present (absent override member)
  refine merge_ok_iff.mpr ⟨?_, isMade_iff.mp made, ?_⟩
  · rw [nothing]
    exact fun _ member => nomatch member
  · constructor <;> rw [nothing] <;> rfl

/-! ### Merges one after the other -/

theorem Merged.overlay (before : policy.Merged setting overrides result)
    (after : result.Merged later more next) :
    policy.Merged (Arguments.delaySetting more setting later) (overrides.overlay more) next where
  maxAttempts := by
    rw [Arguments.get_given_overlay, ← before.maxAttempts]
    exact after.maxAttempts
  delay := by
    rw [Arguments.get_given_overlay, ← before.delay]
    exact after.delay
  delaySetting := by
    rw [Arguments.lookup_given_overlay, after.delaySetting, before.delaySetting,
      Arguments.delaySetting]
    cases more.given.lookup "delay" <;> rfl
  backoff := by
    rw [Arguments.get_given_overlay, ← before.backoff]
    exact after.backoff
  classifier := by
    rw [Arguments.get_given_overlay, ← before.classifier]
    exact after.classifier

/-- The values that are overridden again are not checked a second time. -/
theorem merge_merge (first : policy.merge setting overrides = .ok result)
    (second : result.merge later more = .ok next) :
    policy.merge (Arguments.delaySetting more setting later) (overrides.overlay more) = .ok next := by
  obtain ⟨names, -, before⟩ := merge_ok_iff.mp first
  obtain ⟨names', checked, after⟩ := merge_ok_iff.mp second
  refine merge_ok_iff.mpr ⟨fun override member => ?_, checked, before.overlay after⟩
  rcases Arguments.mem_given_overlay member with ⟨v, member⟩ | member
  · exact names (override.1, v) member
  · exact names' override member

def mergeAll (policy : Policy) (merges : List (Nat × Arguments)) : Except Fault Policy :=
  merges.foldlM (fun policy merge => policy.merge merge.1 merge.2) policy

/-- The overrides of several merges in one, and the setting that the delay comes from. -/
def overlayAll (merges : List (Nat × Arguments)) : Nat × Arguments :=
  merges.foldl
    (fun all merge => (Arguments.delaySetting merge.2 all.1 merge.1, all.2.overlay merge.2)) (0, [])

theorem mergeAll_overlay (made : policy.IsMade) {merges : List (Nat × Arguments)}
    (merged : policy.mergeAll merges = .ok result) :
    policy.merge (overlayAll merges).1 (overlayAll merges).2 = .ok result := by
  induction merges using List.reverseRecOn generalizing result with
  | nil =>
    cases merged
    exact merge_nothing made fun _ member => nomatch member
  | append_singleton merges last ih =>
    rw [mergeAll, List.foldlM_append] at merged
    obtain ⟨before, merged, lastly⟩ := ok_of_bind merged
    obtain ⟨after, lastly, same⟩ := ok_of_bind lastly
    cases same
    rw [overlayAll, List.foldl_append]
    exact merge_merge (ih merged) lastly

/-! ### What merges make of policies -/

/-- How often a policy retries: its cursor starts with its strategy, the explicit one if there is
one, and with its limit. -/
structure Retries (policy : Policy) (strategy : Strategy) : Prop where
  start : policy.start = .ok ⟨strategy, policy.limit, 0⟩
  explicit : ∀ explicit, policy.backoff = .strategy explicit → strategy = explicit
  handsOut : ∀ n, policy.limit.Bounds n → policy.HandsOut strategy n
  executions : ∀ n, policy.limit.Bounds n → ∀ {σ ℓ : Type} (template : Template σ ℓ)
    (operation : Operation σ) (s : σ), template.policy s = some policy →
      template.KeepsToItself operation n s

theorem Sound.retries (sound : policy.Sound) : ∃ strategy, policy.Retries strategy := by
  obtain ⟨strategy, made, start⟩ := sound.start
  refine ⟨strategy, start, fun explicit given => ?_, fun n => handsOut_of_start start,
    fun n bounds σ ℓ template operation s held => ?_⟩
  · rw [strategy_of_given given] at made
    exact (Value.strategy.inj (Except.ok.inj made)).symm
  · exact Template.Allows.keepsToItself ⟨policy, held, sound, bounds⟩

structure MergesLawfully (policy : Policy) : Prop where
  accepts : ∀ setting overrides,
    (∃ result, policy.merge setting overrides = .ok result) ↔ Acceptable overrides
  merged : ∀ setting overrides result, policy.merge setting overrides = .ok result →
    policy.Merged setting overrides result ∧ (policy.backoff ≠ .null → result.backoff ≠ .null)
  checked : ∀ setting overrides result, policy.merge setting overrides = .ok result →
    make (.int result.maxAttempts) result.delay result.delaySetting result.backoff
      result.classifier = .ok result
  nothing : ∀ setting overrides, (∀ override ∈ overrides, override.2 = .null) →
    policy.merge setting overrides = .ok policy
  composes : ∀ setting overrides later more result next,
    policy.merge setting overrides = .ok result → result.merge later more = .ok next →
      policy.merge (Arguments.delaySetting more setting later) (overrides.overlay more) = .ok next
  chains : ∀ merges result, policy.mergeAll merges = .ok result →
    policy.merge (overlayAll merges).1 (overlayAll merges).2 = .ok result
  retries : ∀ setting overrides result, policy.merge setting overrides = .ok result →
    (result.backoff = .null ∨ ∃ strategy, result.backoff = .strategy strategy) →
      ∃ strategy, result.Retries strategy

/-- Merging composes, and it never makes a policy that could not be made otherwise. -/
theorem merge_lawful (made : policy.IsMade) : policy.MergesLawfully where
  accepts _ _ := merge_accepts_iff made
  merged _ _ _ merges :=
    have merged := (merge_ok_iff.mp merges).2.2
    ⟨merged, merged.backoff_kept⟩
  checked _ _ _ merges := make_ok_iff.mpr ⟨(merge_ok_iff.mp merges).2.1, rfl⟩
  nothing _ _ := merge_nothing made
  composes _ _ _ _ _ _ := merge_merge
  chains _ _ := mergeAll_overlay made
  retries _ _ _ merges typed := Sound.retries ⟨(merge_ok_iff.mp merges).2.1, typed⟩

/-- The number of attempts is overridden twice and the strategy stays, so there are as many retries
as the strategy says. -/
theorem merge_lawful_strategy_kept :
    let strategy : Strategy := ⟨1, .int 4, .constant (.int 0), []⟩
    let policy : Policy := ⟨3, .float 1.0, 0, .strategy strategy, .classifier .all⟩
    let overrides : Arguments := [("max_attempts", .int 5), ("backoff", .null)]
    let more : Arguments := [("delay", .float 0.5), ("max_attempts", .int 2)]
    let result : Policy := ⟨2, .float 0.5, 8, .strategy strategy, .classifier .all⟩
    policy.IsMade ∧ overrides.overlay more =
        [("max_attempts", .int 2), ("backoff", .null), ("delay", .float 0.5)] ∧
      policy.merge 8 (overrides.overlay more) = .ok result ∧ result.HandsOut strategy 4 ∧
      ¬ ∃ next, result.merge 9 [("max_attempts", .bool true)] = .ok next := by
  intro strategy policy overrides more result
  have made : policy.IsMade := isMade_iff.mpr (validatePolicy_int (by decide) rfl)
  have lawful := merge_lawful made
  have first : policy.merge 7 overrides = .ok { policy with maxAttempts := 5 } := rfl
  have second : Policy.merge { policy with maxAttempts := 5 } 8 more = .ok result := rfl
  have merges : policy.merge 8 (overrides.overlay more) = .ok result :=
    lawful.composes 7 overrides 8 more _ _ first second
  obtain ⟨kept, retries⟩ := lawful.retries 8 _ result merges (.inr ⟨strategy, rfl⟩)
  obtain rfl : kept = strategy := retries.explicit strategy rfl
  refine ⟨made, rfl, merges, retries.handsOut 4 (Value.bounds_of_whole (i := 4) rfl), ?_⟩
  have made' : result.IsMade := ⟨_, _, _, _, _, lawful.checked 8 _ result merges⟩
  rw [(merge_lawful made').accepts]
  intro acceptable
  obtain ⟨n, -, same⟩ := acceptable.maxAttempts (.bool true) rfl
  cases same

end Policy

end Reattempt
