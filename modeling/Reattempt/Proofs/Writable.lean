import Reattempt.Proofs.Expressible
import Reattempt.Proofs.Overwriting

/-!
# Records that can be written

A record is written as one line that readers of the format accept exactly if its fields can be told,
every name in their values is a simple value, and every float there is finite:
`Record.write_legible_iff`. A name of another kind leaves no line, and a float that is not finite a
line that is no text of the format.
-/

namespace Reattempt

open Text.Json

/-! ### Timestamps -/

namespace Timestamp

/-- So many seconds are less than twenty thousand years. -/
def near : Nat := 2 ^ 39

theorem year_near (days : Int) : 400 * ((days + 719468) / 146097) ≤ (Date.ofDays days).year ∧
    (Date.ofDays days).year ≤ 400 * ((days + 719468) / 146097) + 402 := by
  have bit (c : Prop) [Decidable c] :
      0 ≤ (if c then 1 else 0 : Int) ∧ (if c then 1 else 0 : Int) ≤ 1 := by split <;> omega
  let dayOfEra := ((days + 719468) % 146097).toNat
  obtain ⟨more, bounds, year⟩ : ∃ more : Int, (0 ≤ more ∧ more ≤ 1) ∧ (Date.ofDays days).year =
      ((dayOfEra - dayOfEra / 1460 + dayOfEra / 36524 - dayOfEra / 146096) / 365 : Nat) +
        (days + 719468) / 146097 * 400 + more := ⟨if _ then 1 else 0, bit _, rfl⟩
  omega

theorem clockText_near {seconds : Int} (within : seconds.natAbs ≤ near) :
    ∃ clock, clockText seconds = .ok clock := by
  have year := year_near (seconds / secondsPerDay)
  simp only [secondsPerDay, near] at year within
  have counts : countsYear (Date.ofDays (seconds / secondsPerDay)).year = true := by
    rw [countsYear, secondsPerDay, Bool.and_eq_true, decide_eq_true_eq, decide_eq_true_eq]
    omega
  have last : ¬ lastYear < (Date.ofDays (seconds / secondsPerDay)).year := by
    simp only [lastYear, secondsPerDay]
    omega
  rw [clockText]
  simp only [counts, Bool.not_true, Bool.false_eq_true, if_false]
  rw [if_neg last]
  exact ⟨_, rfl⟩

theorem text_near {x y : Float} {seconds : Int} (floor : Decimal.floor? x = some seconds)
    (within : seconds.natAbs ≤ near) (finite : y.isFinite = true) :
    ∃ timestamp, Timestamp.text (.float x) (.float y) = .ok timestamp := by
  have number : x.isNaN = false := by
    cases nan : x.isNaN with
    | false => rfl
    | true =>
      rw [Decimal.floor?, Decimal.truncate?, Decimal.notNumber_iff.mpr nan] at floor
      cases floor
  have whole : wholeSeconds (.float x) = .ok seconds := by
    simp only [wholeSeconds, Value.number?, number, floor, Bool.false_eq_true, if_false]
    rw [wholeSeconds.bounded, if_pos]
    rw [lastSecond, Bool.and_eq_true, decide_eq_true_eq, decide_eq_true_eq]
    rw [near] at within
    omega
  obtain ⟨negative, significand, exponent, binary⟩ := Decimal.finite_of_isFinite finite
  have fraction : ∃ i, (Value.float y).toWhole = .ok i := by
    simp only [Value.toWhole, Value.number?, Decimal.truncate?, binary]
    exact ⟨_, rfl⟩
  obtain ⟨i, fraction⟩ := fraction
  obtain ⟨clock, shown⟩ := clockText_near within
  rw [Timestamp.text, whole, fraction]
  simp only [bind, Except.bind, shown]
  exact ⟨_, rfl⟩

end Timestamp

namespace Record

variable {record : Record} {correlation : Value} {fields : List (String × Value)} {line : String}

/-! ### Fields that can be told -/

structure Told (record : Record) : Prop where
  timestamp : ∃ timestamp, Timestamp.text record.created record.milliseconds = .ok timestamp
  message : ∃ message, record.text = .ok message
  report : record.trouble.isTruthy = true → ∃ report, Trouble.text record.trouble = .ok report

theorem fields_ok_iff : (∃ fields, record.fields correlation = .ok fields) ↔ record.Told := by
  constructor
  · rintro ⟨fields, told⟩
    obtain ⟨standard, first, told⟩ := ok_of_bind told
    obtain ⟨occasional, second, -⟩ := ok_of_bind told
    obtain ⟨timestamp, time, first⟩ := ok_of_bind first
    obtain ⟨message, text, -⟩ := ok_of_bind first
    refine ⟨⟨timestamp, time⟩, ⟨message, text⟩, fun troubled => ?_⟩
    rw [occasionalFields, if_pos troubled] at second
    obtain ⟨report, told, -⟩ := ok_of_bind second
    exact ⟨report, told⟩
  · rintro ⟨⟨timestamp, time⟩, ⟨message, text⟩, report⟩
    have standard : ∃ standard, record.standardFields = .ok standard := by
      rw [standardFields, time, text]
      exact ⟨_, rfl⟩
    have occasional : ∃ occasional, record.occasionalFields correlation = .ok occasional := by
      rw [occasionalFields]
      by_cases troubled : record.trouble.isTruthy = true
      · obtain ⟨report, told⟩ := report troubled
        rw [if_pos troubled, told]
        exact ⟨_, rfl⟩
      · rw [if_neg troubled]
        exact ⟨_, rfl⟩
    obtain ⟨standard, first⟩ := standard
    obtain ⟨occasional, second⟩ := occasional
    rw [Record.fields, first, second]
    exact ⟨_, rfl⟩

/-- A record of recent times whose trouble, if there is any, can be told. -/
structure Ordinary (record : Record) : Prop where
  created : ∃ x seconds, record.created = .float x ∧ Decimal.floor? x = some seconds ∧
    seconds.natAbs ≤ Timestamp.near
  milliseconds : ∃ y, record.milliseconds = .float y ∧ y.isFinite = true
  report : record.trouble.isTruthy = true → ∃ report, Trouble.text record.trouble = .ok report

theorem Ordinary.told_iff (ordinary : record.Ordinary) :
    record.Told ↔ ∃ message, record.text = .ok message := by
  refine ⟨Told.message, fun message => ⟨?_, message, ordinary.report⟩⟩
  obtain ⟨x, seconds, created, floor, within⟩ := ordinary.created
  obtain ⟨y, milliseconds, finite⟩ := ordinary.milliseconds
  rw [created, milliseconds]
  exact Timestamp.text_near floor within finite

/-! ### The tree of a record -/

def entriesOf (fields : List (String × Value)) : List (Value × Value) :=
  fields.map fun field => (.text field.1, field.2)

theorem toTree_entriesOf {t : Tree} : (Value.dict (entriesOf fields)).toTree = .ok t ↔
    ∃ items, t = .object items ∧ Depicts items fields := by
  have name (s : String) (item : String × Tree) :
      (Value.text s).keyText = .ok item.1 ↔ item.1 = s := by
    rw [Value.keyText, Except.ok.injEq, eq_comm]
  rw [toTree_dict, entriesOf]
  simp only [List.forall₂_map_left_iff, name, Depicts]

theorem part_entriesOf {part : Value} : Value.Part part (.dict (entriesOf fields)) ↔
    part = .dict (entriesOf fields) ∨ ∃ field ∈ fields, Value.Part part field.2 := by
  constructor
  · intro inside
    cases inside with
    | whole => exact .inl rfl
    | item lists => cases lists
    | entry member inside =>
      obtain ⟨field, here, rfl⟩ := List.mem_map.mp member
      exact .inr ⟨field, here, inside⟩
  · rintro (rfl | ⟨field, here, inside⟩)
    · exact .whole
    · exact .entry (List.mem_map_of_mem here) inside

/-- The line of a record is what is written of the dictionary with its fields. -/
theorem write_ok_iff (told : record.fields correlation = .ok fields) :
    record.write correlation = .ok line ↔
      ∃ t, (Value.dict (entriesOf fields)).toTree = .ok t ∧ line = t.render := by
  have same : record.write correlation =
      (do return (Tree.object (← fieldsToTrees fields)).render) := by
    rw [write, told]
    rfl
  rw [same]
  constructor
  · intro written
    obtain ⟨items, made, written⟩ := ok_of_bind written
    exact ⟨_, toTree_entriesOf.mpr ⟨items, rfl, fieldsToTrees_iff.mp made⟩,
      (Except.ok.inj written).symm⟩
  · rintro ⟨t, tree, rfl⟩
    obtain ⟨items, rfl, depicts⟩ := toTree_entriesOf.mp tree
    rw [fieldsToTrees_iff.mpr depicts]
    rfl

/-- All parts of the values of fields that are written for themselves. -/
def Throughout (P : Value → Prop) (fields : List (String × Value)) : Prop :=
  ∀ field ∈ fields, ∀ part, Value.Part part field.2 → P part

theorem throughout_iff {P : Value → Prop} (dict : ∀ entries, P (.dict (entriesOf entries))) :
    Throughout P fields ↔ ∀ part, Value.Part part (.dict (entriesOf fields)) → P part := by
  constructor
  · intro throughout part inside
    rcases part_entriesOf.mp inside with rfl | ⟨field, here, inside⟩
    · exact dict fields
    · exact throughout field here part inside
  · intro all field here part inside
    exact all part (part_entriesOf.mpr (.inr ⟨field, here, inside⟩))

theorem named_entriesOf (fields : List (String × Value)) :
    (Value.dict (entriesOf fields)).Named := by
  intro entry member
  obtain ⟨field, -, rfl⟩ := List.mem_map.mp member
  rfl

theorem written_iff (told : record.fields correlation = .ok fields) :
    (∃ line, record.write correlation = .ok line) ↔ Throughout Value.Named fields := by
  rw [throughout_iff named_entriesOf, ← Value.toTree_ok_iff]
  constructor
  · rintro ⟨line, written⟩
    obtain ⟨t, tree, -⟩ := (write_ok_iff told).mp written
    exact ⟨t, tree⟩
  · rintro ⟨t, tree⟩
    exact ⟨_, (write_ok_iff told).mpr ⟨t, tree, rfl⟩⟩

/-- A text that readers of the format accept as an object. -/
def IsObject (line : String) : Prop :=
  ∃ fields, (Tree.object fields).Spelled line.toList

theorem isObject_iff (told : record.fields correlation = .ok fields)
    (written : record.write correlation = .ok line) :
    IsObject line ↔ Throughout Value.Counted fields := by
  obtain ⟨t, tree, rfl⟩ := (write_ok_iff told).mp written
  rw [throughout_iff fun _ => trivial]
  have spelled := Value.spelled_iff tree
  constructor
  · rintro ⟨others, object⟩
    exact spelled.1.mp ⟨_, object⟩
  · intro counted
    obtain ⟨items, rfl, -⟩ := toTree_entriesOf.mp tree
    exact ⟨items, spelled.2 counted⟩

theorem oneLine_write (told : record.fields correlation = .ok fields)
    (written : record.write correlation = .ok line) : OneLine line.toList := by
  obtain ⟨t, tree, rfl⟩ := (write_ok_iff told).mp written
  exact Value.oneLine_render tree

theorem quoted_parts {items : List (String × Tree)} (depicts : Depicts items fields) :
    Throughout (fun part => part.isForeign = true →
      (Tree.string part.quote).Part (.object items)) fields := by
  intro field here part inside foreign
  have within := part_entriesOf.mpr (.inr ⟨field, here, inside⟩)
  obtain ⟨t, quoted, there⟩ :=
    Value.part_of_toTree (toTree_entriesOf.mpr ⟨items, rfl, depicts⟩) within
  rw [Value.toTree_foreign foreign] at quoted
  exact Except.ok.inj quoted ▸ there

/-- A record has fields exactly if its time, its message and its trouble can be told, for ordinary
records exactly if its message can. Its line is written exactly if all names in them are simple, and
it is one line that readers accept as an object exactly if moreover all floats in them are finite.
Readers find the fields there, and what the format has no form for as the text that quotes it. -/
theorem write_legible_iff (record : Record) (correlation : Value) :
    ((∃ fields, record.fields correlation = .ok fields) ↔ record.Told) ∧
      (record.Ordinary → (record.Told ↔ ∃ message, record.text = .ok message)) ∧
      ∀ fields, record.fields correlation = .ok fields →
        ((∃ line, record.write correlation = .ok line) ↔ Throughout Value.Named fields) ∧
        ((∃ line, record.write correlation = .ok line ∧ IsObject line ∧ OneLine line.toList) ↔
          Throughout Value.Named fields ∧ Throughout Value.Counted fields) ∧
        ∀ line, record.write correlation = .ok line → ∃ items, Depicts items fields ∧
          (Throughout Value.Counted fields → (Tree.object items).Spelled line.toList) ∧
          Throughout (fun part => part.isForeign = true →
            (Tree.string part.quote).Part (.object items)) fields := by
  refine ⟨fields_ok_iff, Ordinary.told_iff, fun fields told => ⟨written_iff told, ?_, ?_⟩⟩
  · constructor
    · rintro ⟨line, written, object, -⟩
      exact ⟨(written_iff told).mp ⟨line, written⟩, (isObject_iff told written).mp object⟩
    · rintro ⟨named, counted⟩
      obtain ⟨line, written⟩ := (written_iff told).mpr named
      exact ⟨line, written, (isObject_iff told written).mpr counted, oneLine_write told written⟩
  · intro line written
    obtain ⟨t, tree, rfl⟩ := (write_ok_iff told).mp written
    obtain ⟨items, rfl, depicts⟩ := toTree_entriesOf.mp tree
    refine ⟨items, depicts, fun counted => (Value.spelled_iff tree).2 ?_, quoted_parts depicts⟩
    exact (throughout_iff fun _ => trivial).mp counted

theorem brief_ordinary (extras : List (String × Value)) : (brief .null extras).Ordinary where
  created := ⟨0, 0, rfl, by decide +kernel, by decide⟩
  milliseconds := ⟨0, rfl, by decide +kernel⟩
  report := nofun

def nan : Float := Float.ofBits 0x7ff8000000000000

theorem fields_brief (v : Value) : (brief .null [("value", v)]).fields .null =
    .ok [("timestamp", .text "1970-01-01T00:00:00.000Z"), ("level", .text "INFO"),
      ("logger", .text "aretry"), ("message", .text "m"), ("module", .text "mod"),
      ("function", .null), ("line", .int 1), ("value", v)] := by
  have distinct : ["value"].Nodup := by decide
  have free : ∀ name ∈ ["value"], name ∉ reservedNames := by decide
  have accepted : (brief .null [("value", v)]).Accepted := accepted_of_names distinct free
  have speaks := @brief_speaks .null "" [("value", v)] nofun
  exact @Accepted.fields_of_text _ .null _ _ _ accepted speaks _ rfl

theorem throughout_brief {P : Value → Prop} {v : Value} (text : ∀ s, P (.text s)) (null : P .null)
    (int : ∀ i, P (.int i)) (value : ∀ part, Value.Part part v → P part) :
    Throughout P [("timestamp", .text "1970-01-01T00:00:00.000Z"), ("level", .text "INFO"),
      ("logger", .text "aretry"), ("message", .text "m"), ("module", .text "mod"),
      ("function", .null), ("line", .int 1), ("value", v)] := by
  have ofText (s : String) (part : Value) (inside : Value.Part part (.text s)) : P part :=
    inside.eq_of_leaf nofun nofun ▸ text s
  have ofNull (part : Value) (inside : Value.Part part .null) : P part :=
    inside.eq_of_leaf nofun nofun ▸ null
  have ofInt (i : Int) (part : Value) (inside : Value.Part part (.int i)) : P part :=
    inside.eq_of_leaf nofun nofun ▸ int i
  simp only [Throughout, List.forall_mem_cons]
  exact ⟨ofText _, ofText _, ofText _, ofText _, ofText _, ofNull, ofInt _, value, nofun⟩

def nested : Value := .dict [(.int 1, .list [.failure boom, .set [.int 2]])]

theorem nested_parts {part : Value} (inside : Value.Part part nested) :
    part.Named ∧ part.Counted := by
  cases inside with
  | whole => exact ⟨List.forall_mem_singleton.mpr rfl, trivial⟩
  | item lists => cases lists
  | entry member inside =>
    cases List.mem_singleton.mp member
    cases inside with
    | whole => exact ⟨trivial, trivial⟩
    | item lists member inside =>
      cases lists
      simp only [List.mem_cons, List.not_mem_nil, or_false] at member
      rcases member with rfl | rfl
      · cases inside.eq_of_leaf nofun nofun
        exact ⟨trivial, trivial⟩
      · cases inside.eq_of_leaf nofun nofun
        exact ⟨trivial, trivial⟩

theorem write_legible_iff_nested :
    ∃ line, (brief .null [("value", nested)]).write .null = .ok line ∧ IsObject line ∧
      OneLine line.toList := by
  apply (((write_legible_iff _ _).2.2 _ (fields_brief nested)).2.1).mpr
  constructor
  · exact throughout_brief (fun _ => trivial) trivial (fun _ => trivial)
      fun _ inside => (nested_parts inside).1
  · exact throughout_brief (fun _ => trivial) trivial (fun _ => trivial)
      fun _ inside => (nested_parts inside).2

/-- Of a record whose message is plain, a pair as a name leaves no line, and a float that is no
number leaves a line that is no object for readers. -/
theorem brief_not_legible :
    (brief .null [("value", .dict [(.tuple [.int 1, .int 2], .int 3)])]).Ordinary ∧
      (brief .null [("value", .dict [(.tuple [.int 1, .int 2], .int 3)])]).text = .ok (.text "m") ∧
      (brief .null [("value", .dict [(.tuple [.int 1, .int 2], .int 3)])]).write .null =
        .error (.unwritableKey "tuple") ∧
      (brief .null [("value", .float nan)]).Ordinary ∧
      (brief .null [("value", .float nan)]).text = .ok (.text "m") ∧
      ∃ line, (brief .null [("value", .float nan)]).write .null = .ok line ∧ ¬ IsObject line := by
  refine ⟨brief_ordinary _, rfl, ?_, brief_ordinary _, rfl, ?_⟩
  · rw [write, fields_brief]
    rfl
  · obtain ⟨line, written⟩ :
        ∃ line, (brief .null [("value", .float nan)]).write .null = .ok line := by
      rw [write, fields_brief]
      exact ⟨_, rfl⟩
    refine ⟨line, written, fun object => ?_⟩
    have counted := (isObject_iff (fields_brief _) written).mp object
    have finite : nan.isFinite = true := counted ("value", .float nan) (by simp) _ .whole
    exact absurd finite (by decide +kernel)

end Record

end Reattempt
