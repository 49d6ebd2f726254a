import Mathlib.Data.List.Forall2
import Reattempt.Proofs.Budget
import Reattempt.Proofs.Digits
import Reattempt.Proofs.Legible
import Reattempt.Record.Writing

/-!
# Values that can be expressed

A value has a tree exactly if every dictionary in it has names only, `Value.toTree_ok_iff`, and what
is written of the tree is a text of the format exactly if every float in it is finite,
`Value.spelled_iff`.
-/

namespace Reattempt

open Text.Json

/-! ### Parts of values -/

inductive Value.Lists (items : List Value) : Value → Prop
  | list : Value.Lists items (.list items)
  | tuple : Value.Lists items (.tuple items)

/-- The parts of a value that are written for themselves: the items of lists and tuples, and the
values of dictionaries. -/
inductive Value.Part (part : Value) : Value → Prop
  | whole : Value.Part part part
  | item {v item : Value} {items : List Value} (lists : Value.Lists items v) (member : item ∈ items)
    (inside : Value.Part part item) : Value.Part part v
  | entry {entry : Value × Value} {entries : List (Value × Value)} (member : entry ∈ entries)
    (inside : Value.Part part entry.2) : Value.Part part (.dict entries)

theorem Value.induct {P : Value → Prop}
    (lists : ∀ v items, Value.Lists items v → (∀ item ∈ items, P item) → P v)
    (dict : ∀ entries : List (Value × Value), (∀ entry ∈ entries, P entry.2) → P (.dict entries))
    (other : ∀ v, (∀ items, ¬ Value.Lists items v) → (∀ entries, v ≠ .dict entries) → P v) :
    (v : Value) → P v
  | .list items => lists _ items .list fun v member =>
    have smaller : sizeOf v < sizeOf (Value.list items) := by
      have part := List.sizeOf_lt_of_mem member
      simp only [Value.list.sizeOf_spec]
      omega
    Value.induct lists dict other v
  | .tuple items => lists _ items .tuple fun v member =>
    have smaller : sizeOf v < sizeOf (Value.tuple items) := by
      have part := List.sizeOf_lt_of_mem member
      simp only [Value.tuple.sizeOf_spec]
      omega
    Value.induct lists dict other v
  | .dict entries => dict entries fun (key, v) member =>
    have smaller : sizeOf v < sizeOf (Value.dict entries) := by
      have part := List.sizeOf_lt_of_mem member
      simp only [Prod.mk.sizeOf_spec] at part
      simp only [Value.dict.sizeOf_spec]
      omega
    Value.induct lists dict other v
  | .null | .bool _ | .int _ | .float _ | .text _ | .set _ | .bytes _ | .duration _ _ _ | .failure _
  | .kind _ | .predicate _ | .strategy _ | .classifier _ | .operation _ | .response _
  | .thing _ _ => other _ nofun nofun
termination_by v => sizeOf v
decreasing_by all_goals exact smaller

theorem Value.Lists.unique {v : Value} {items others : List Value} (one : Value.Lists items v)
    (another : Value.Lists others v) : items = others := by
  cases one <;> cases another <;> rfl

theorem Value.Part.eq_of_leaf {v part : Value} (inside : Value.Part part v)
    (lists : ∀ items, ¬ Value.Lists items v) (dict : ∀ entries, v ≠ .dict entries) : part = v := by
  cases inside with
  | whole => rfl
  | item lists' => exact absurd lists' (lists _)
  | entry => exact absurd rfl (dict _)

/-- Names that an object can have: texts and simple values. -/
def Value.isName : Value → Bool
  | .text _ | .null | .bool _ | .int _ | .float _ => true
  | _ => false

/-- A dictionary with names only, or a value of another kind. -/
def Value.Named : Value → Prop
  | .dict entries => ∀ entry ∈ entries, entry.1.isName = true
  | _ => True

def Value.Counted : Value → Prop
  | .float x => x.isFinite = true
  | _ => True

/-- Values that the format has no form for. -/
def Value.isForeign : Value → Bool
  | .null | .bool _ | .int _ | .float _ | .text _ | .list _ | .tuple _ | .dict _ => false
  | _ => true

theorem Value.isName_iff (v : Value) : v.isName = true ↔ ∃ name, v.keyText = .ok name := by
  cases v <;> simp [isName, keyText]

/-! ### Trees of values -/

theorem exists_forall₂ {α β : Type} {R : α → β → Prop} {as : List α} :
    (∃ bs, List.Forall₂ R as bs) ↔ ∀ a ∈ as, ∃ b, R a b := by
  induction as with
  | nil => simp
  | cons a rest ih =>
    rw [List.forall_mem_cons, ← ih]
    constructor
    · rintro ⟨_, _ | ⟨first, later⟩⟩
      exact ⟨⟨_, first⟩, _, later⟩
    · rintro ⟨⟨b, first⟩, bs, later⟩
      exact ⟨b :: bs, .cons first later⟩

theorem forall₂_left {α β : Type} {R : α → β → Prop} {as : List α} {bs : List β}
    (pairs : List.Forall₂ R as bs) : ∀ a ∈ as, ∃ b ∈ bs, R a b := by
  induction pairs with
  | nil => nofun
  | cons first later ih =>
    intro a member
    rcases List.mem_cons.mp member with rfl | member
    · exact ⟨_, List.mem_cons_self, first⟩
    · obtain ⟨b, there, related⟩ := ih a member
      exact ⟨b, List.mem_cons_of_mem _ there, related⟩

theorem forall₂_right {α β : Type} {R : α → β → Prop} {as : List α} {bs : List β}
    (pairs : List.Forall₂ R as bs) : ∀ b ∈ bs, ∃ a ∈ as, R a b :=
  forall₂_left (List.Forall₂.flip pairs)

theorem toTrees_iff {items : List Value} {trees : List Tree} :
    toTrees items = .ok trees ↔ List.Forall₂ (fun v t => v.toTree = .ok t) items trees := by
  induction items generalizing trees with
  | nil => cases trees <;> simp [toTrees]
  | cons v rest ih =>
    rw [toTrees]
    constructor
    · intro made
      obtain ⟨t, first, made⟩ := ok_of_bind made
      obtain ⟨others, later, made⟩ := ok_of_bind made
      cases made
      exact .cons first (ih.mp later)
    · rintro (_ | ⟨first, later⟩)
      rw [first, ih.mpr later]
      rfl

theorem entriesToTrees_iff {entries : List (Value × Value)} {fields : List (String × Tree)} :
    entriesToTrees entries = .ok fields ↔ List.Forall₂ (fun entry field =>
      entry.1.keyText = .ok field.1 ∧ entry.2.toTree = .ok field.2) entries fields := by
  induction entries generalizing fields with
  | nil => cases fields <;> simp [entriesToTrees]
  | cons entry rest ih =>
    obtain ⟨key, item⟩ := entry
    rw [entriesToTrees, entryToTree]
    constructor
    · intro made
      obtain ⟨field, first, made⟩ := ok_of_bind made
      obtain ⟨name, named, first⟩ := ok_of_bind first
      obtain ⟨t, tree, first⟩ := ok_of_bind first
      obtain ⟨others, later, made⟩ := ok_of_bind made
      cases first
      cases made
      exact .cons ⟨named, tree⟩ (ih.mp later)
    · rintro (_ | ⟨⟨named, tree⟩, later⟩)
      rw [named, tree, ih.mpr later]
      rfl

theorem toTree_lists {v : Value} {items : List Value} {t : Tree} (lists : Value.Lists items v) :
    v.toTree = .ok t ↔
      ∃ trees, t = .array trees ∧ List.Forall₂ (fun v t => v.toTree = .ok t) items trees := by
  have same : v.toTree = (do return .array (← toTrees items)) := by
    cases lists <;> rw [Value.toTree]
  rw [same]
  constructor
  · intro made
    obtain ⟨trees, all, made⟩ := ok_of_bind made
    exact ⟨trees, (Except.ok.inj made).symm, toTrees_iff.mp all⟩
  · rintro ⟨trees, rfl, all⟩
    rw [toTrees_iff.mpr all]
    rfl

theorem toTree_dict {entries : List (Value × Value)} {t : Tree} :
    (Value.dict entries).toTree = .ok t ↔ ∃ fields, t = .object fields ∧
      List.Forall₂ (fun entry field => entry.1.keyText = .ok field.1 ∧
        entry.2.toTree = .ok field.2) entries fields := by
  rw [Value.toTree]
  constructor
  · intro made
    obtain ⟨fields, all, made⟩ := ok_of_bind made
    exact ⟨fields, (Except.ok.inj made).symm, entriesToTrees_iff.mp all⟩
  · rintro ⟨fields, rfl, all⟩
    rw [entriesToTrees_iff.mpr all]
    rfl

namespace Value

variable {v part : Value} {t : Tree}

/-- A value has a tree exactly if all dictionaries that are written for themselves have names
only. -/
theorem toTree_ok_iff : (∃ t, v.toTree = .ok t) ↔ ∀ part, Part part v → part.Named := by
  induction v using Value.induct with
  | lists v items lists ih =>
    constructor
    · rintro ⟨t, tree⟩ part inside
      obtain ⟨trees, -, all⟩ := (toTree_lists lists).mp tree
      cases inside with
      | whole => cases lists <;> trivial
      | item lists' member inside =>
        cases lists.unique lists'
        obtain ⟨t', -, tree'⟩ := forall₂_left all _ member
        exact (ih _ member).mp ⟨t', tree'⟩ part inside
      | entry => cases lists
    · intro named
      have each : ∀ item ∈ items, ∃ t, item.toTree = .ok t := fun item member =>
        (ih item member).mpr fun part inside => named part (.item lists member inside)
      obtain ⟨trees, all⟩ := exists_forall₂.mpr each
      exact ⟨_, (toTree_lists lists).mpr ⟨trees, rfl, all⟩⟩
  | dict entries ih =>
    constructor
    · rintro ⟨t, tree⟩ part inside
      obtain ⟨fields, -, all⟩ := toTree_dict.mp tree
      cases inside with
      | whole =>
        intro entry member
        obtain ⟨field, -, named, -⟩ := forall₂_left all entry member
        exact entry.1.isName_iff.mpr ⟨_, named⟩
      | item lists => cases lists
      | entry member inside =>
        obtain ⟨field, -, -, tree'⟩ := forall₂_left all _ member
        exact (ih _ member).mp ⟨_, tree'⟩ part inside
    · intro named
      have each : ∀ entry ∈ entries, ∃ field : String × Tree,
          entry.1.keyText = .ok field.1 ∧ entry.2.toTree = .ok field.2 := by
        intro entry member
        obtain ⟨name, name_⟩ := entry.1.isName_iff.mp (named _ .whole entry member)
        obtain ⟨t, tree⟩ :=
          (ih entry member).mpr fun part inside => named part (.entry member inside)
        exact ⟨(name, t), name_, tree⟩
      obtain ⟨fields, all⟩ := exists_forall₂.mpr each
      exact ⟨_, toTree_dict.mpr ⟨fields, rfl, all⟩⟩
  | other v lists dict =>
    refine ⟨fun _ part inside => ?_, fun _ => ?_⟩
    · cases inside.eq_of_leaf lists dict
      cases v with
      | dict entries => exact absurd rfl (dict entries)
      | _ => trivial
    · cases v with
      | list items => exact absurd .list (lists items)
      | tuple items => exact absurd .tuple (lists items)
      | dict entries => exact absurd rfl (dict entries)
      | _ => exact ⟨_, rfl⟩

theorem toTree_foreign (foreign : v.isForeign = true) : v.toTree = .ok (.string v.quote) := by
  cases v <;> first | rfl | cases foreign

theorem part_of_toTree (tree : v.toTree = .ok t) (inside : Part part v) :
    ∃ t', part.toTree = .ok t' ∧ t'.Part t := by
  induction inside generalizing t with
  | whole => exact ⟨t, tree, .whole⟩
  | item lists member _ ih =>
    obtain ⟨trees, rfl, all⟩ := (toTree_lists lists).mp tree
    obtain ⟨item, there, tree'⟩ := forall₂_left all _ member
    obtain ⟨t', made, inside⟩ := ih tree'
    exact ⟨t', made, .item there inside⟩
  | entry member _ ih =>
    obtain ⟨fields, rfl, all⟩ := toTree_dict.mp tree
    obtain ⟨field, there, -, tree'⟩ := forall₂_left all _ member
    obtain ⟨t', made, inside⟩ := ih tree'
    exact ⟨t', made, .field there inside⟩

theorem part_of_part {t' : Tree} (tree : v.toTree = .ok t) (inside : t'.Part t) :
    ∃ part, Part part v ∧ part.toTree = .ok t' := by
  induction v using Value.induct generalizing t with
  | lists v items lists ih =>
    obtain ⟨trees, rfl, all⟩ := (toTree_lists lists).mp tree
    cases inside with
    | whole => exact ⟨v, .whole, tree⟩
    | item there inside =>
      obtain ⟨item, member, tree'⟩ := forall₂_right all _ there
      obtain ⟨part, here, made⟩ := ih item member tree' inside
      exact ⟨part, .item lists member here, made⟩
  | dict entries ih =>
    obtain ⟨fields, rfl, all⟩ := toTree_dict.mp tree
    cases inside with
    | whole => exact ⟨_, .whole, tree⟩
    | field there inside =>
      obtain ⟨entry, member, -, tree'⟩ := forall₂_right all _ there
      obtain ⟨part, here, made⟩ := ih entry member tree' inside
      exact ⟨part, .entry member here, made⟩
  | other v lists dict =>
    refine ⟨v, .whole, ?_⟩
    cases v with
    | list items => exact absurd .list (lists items)
    | tuple items => exact absurd .tuple (lists items)
    | dict entries => exact absurd rfl (dict entries)
    | _ =>
      cases tree
      cases inside
      rfl

theorem word_cases {written : String} (tree : part.toTree = .ok (.word written)) :
    IsWord written.toList ∨ ∃ x, part = .float x ∧ written = Decimal.Layout.record.render x := by
  cases part with
  | null =>
    cases tree
    exact .inl (.inl rfl)
  | bool b =>
    cases tree
    cases b
    · exact .inl (.inr (.inr (.inl rfl)))
    · exact .inl (.inr (.inl rfl))
  | int i =>
    cases tree
    exact .inl (.inr (.inr (.inr (Decimal.isNumber_int i))))
  | float x =>
    cases tree
    exact .inr ⟨x, rfl, rfl⟩
  | list items =>
    obtain ⟨trees, word, -⟩ := (toTree_lists .list).mp tree
    cases word
  | tuple items =>
    obtain ⟨trees, word, -⟩ := (toTree_lists .tuple).mp tree
    cases word
  | dict entries =>
    obtain ⟨fields, word, -⟩ := toTree_dict.mp tree
    cases word
  | _ => cases tree

theorem chars_of_word {written : String} (tree : v.toTree = .ok t)
    (inside : (Tree.word written).Part t) :
    ∀ c ∈ written.toList, c ∈ wordChars ∨ c ∈ specialChars := by
  obtain ⟨part, -, made⟩ := part_of_part tree inside
  rcases word_cases made with word | ⟨x, -, rfl⟩
  · exact fun c member => .inl (word.chars c member)
  · cases finite : x.isFinite with
    | false => exact (chars_of_special (Decimal.render_special finite)).1
    | true => exact fun c member => .inl ((Decimal.isNumber_render finite).chars c member)

theorem oneLine_render (tree : v.toTree = .ok t) : OneLine t.render.toList := by
  apply Tree.oneLine_render
  intro written inside c member
  exact oneLine_words c (List.mem_append.mpr (chars_of_word tree inside c member))

/-- What is written of a value is a text of the format exactly if every float in it is finite, and
then stands for the tree of the value. -/
theorem spelled_iff (tree : v.toTree = .ok t) :
    ((∃ other, Tree.Spelled other t.render.toList) ↔ ∀ part, Part part v → part.Counted) ∧
      ((∀ part, Part part v → part.Counted) → t.Spelled t.render.toList) := by
  have spelled (counted : ∀ part, Part part v → part.Counted) : t.Spelled t.render.toList := by
    apply Tree.spelled_render
    intro written inside
    obtain ⟨part, here, made⟩ := part_of_part tree inside
    rcases word_cases made with word | ⟨x, rfl, rfl⟩
    · exact word
    · exact .inr (.inr (.inr (Decimal.isNumber_render (counted _ here))))
  refine ⟨⟨?_, fun counted => ⟨t, spelled counted⟩⟩, spelled⟩
  rintro ⟨other, spelled⟩ part inside
  cases part with
  | float x =>
    cases finite : x.isFinite with
    | true => exact finite
    | false =>
      obtain ⟨t', made, there⟩ := part_of_toTree tree inside
      cases made
      have bare : ∀ written, (Tree.word written).Part t → '"' ∉ written.toList := by
        intro written inside quote
        have quoted := chars_of_word tree inside '"' quote
        exact absurd quoted (by decide)
      obtain ⟨c, member, strange⟩ := (chars_of_special (Decimal.render_special finite)).2
      exact absurd (Tree.bareChars_of_spelled bare spelled there c member) strange
  | _ => trivial

end Value

end Reattempt
