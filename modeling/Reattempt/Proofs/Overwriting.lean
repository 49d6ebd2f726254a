import Mathlib.Data.List.Forall2
import Reattempt.Proofs.Budget
import Reattempt.Record.Writing

/-!
# Fields that overwrite others

A further field stands in for a standard field of its name, and one name replaces the message. So a
record tells the truth about itself exactly as long as no further field makes use of that:
`Record.fields_truthful_iff`.
-/

namespace Reattempt.Record

/-! ### Fields that are put in -/

theorem putField_of_not_mem {name : String} {v : Value} {kept : List (String × Value)}
    (fresh : name ∉ kept.map Prod.fst) : putField name v kept = kept ++ [(name, v)] := by
  induction kept with
  | nil => rfl
  | cons field rest ih =>
    simp only [List.map_cons, List.mem_cons, not_or] at fresh
    rw [putField, if_neg fun same => fresh.1 same.symm, ih fresh.2, List.cons_append]

theorem putField_of_mem {name : String} {v : Value} {kept : List (String × Value)}
    (distinct : (kept.map Prod.fst).Nodup) (present : name ∈ kept.map Prod.fst) :
    putField name v kept =
      kept.map fun field => if field.1 = name then (name, v) else field := by
  induction kept with
  | nil => cases present
  | cons field rest ih =>
    simp only [List.map_cons, List.nodup_cons] at distinct
    rw [putField, List.map_cons]
    by_cases here : field.1 = name
    · have others : ∀ other ∈ rest, (if other.1 = name then (name, v) else other) = other := by
        intro other member
        apply if_neg
        intro same
        exact distinct.1 (List.mem_map.mpr ⟨other, member, same.trans here.symm⟩)
      rw [if_pos here, if_pos here, List.map_congr_left others, List.map_id']
    · have later : name ∈ rest.map Prod.fst := by
        rcases List.mem_cons.mp present with same | later
        · exact absurd same.symm here
        · exact later
      rw [if_neg here, if_neg here, ih distinct.2 later]

def standIns (extras kept : List (String × Value)) : List (String × Value) :=
  kept.map fun field => (field.1, (extras.lookup field.1).getD field.2)

def newcomers (extras kept : List (String × Value)) : List (String × Value) :=
  extras.filter fun field => !(kept.map Prod.fst).contains field.1

theorem lookup_eq_none {name : String} {fields : List (String × Value)}
    (absent : name ∉ fields.map Prod.fst) : fields.lookup name = none := by
  rw [List.lookup_eq_none_iff]
  intro field member
  rw [bne_iff_ne]
  rintro rfl
  exact absent (List.mem_map_of_mem member)

theorem mem_of_lookup {name : String} {v : Value} {fields : List (String × Value)}
    (found : fields.lookup name = some v) : (name, v) ∈ fields := by
  obtain ⟨before, after, rfl, -⟩ := List.lookup_eq_some_iff.mp found
  simp

theorem lookup_of_mem {field : String × Value} {fields : List (String × Value)}
    (distinct : (fields.map Prod.fst).Nodup) (member : field ∈ fields) :
    fields.lookup field.1 = some field.2 := by
  induction fields with
  | nil => cases member
  | cons first rest ih =>
    simp only [List.map_cons, List.nodup_cons] at distinct
    rw [List.lookup_cons]
    rcases List.mem_cons.mp member with rfl | later
    · rw [beq_self_eq_true]
    · have other : field.1 ≠ first.1 :=
        fun same => distinct.1 (List.mem_map.mpr ⟨field, later, same⟩)
      rw [beq_eq_false_iff_ne.mpr other]
      exact ih distinct.2 later

theorem standIns_put {name : String} {v : Value} {extras kept : List (String × Value)}
    (absent : name ∉ extras.map Prod.fst) :
    standIns extras (kept.map fun field => if field.1 = name then (name, v) else field) =
      standIns ((name, v) :: extras) kept := by
  rw [standIns, standIns, List.map_map]
  apply List.map_congr_left
  intro field _
  by_cases same : field.1 = name
  · simp [same, lookup_eq_none absent]
  · simp [same, List.lookup_cons, beq_eq_false_iff_ne.mpr same]

theorem standIns_fresh {name : String} {v : Value} {extras kept : List (String × Value)}
    (fresh : name ∉ kept.map Prod.fst) :
    standIns ((name, v) :: extras) kept = standIns extras kept := by
  apply List.map_congr_left
  intro field member
  have other : field.1 ≠ name := fun same => fresh (List.mem_map.mpr ⟨field, member, same⟩)
  simp [List.lookup_cons, beq_eq_false_iff_ne.mpr other]

theorem foldl_putField {extras kept : List (String × Value)} (distinct : (kept.map Prod.fst).Nodup)
    (distinct' : (extras.map Prod.fst).Nodup) :
    extras.foldl (fun kept field => putField field.1 field.2 kept) kept =
      standIns extras kept ++ newcomers extras kept := by
  induction extras generalizing kept with
  | nil => simp [standIns, newcomers]
  | cons field rest ih =>
    obtain ⟨name, v⟩ := field
    simp only [List.map_cons, List.nodup_cons] at distinct'
    obtain ⟨absent, distinct'⟩ := distinct'
    rw [List.foldl_cons]
    by_cases present : name ∈ kept.map Prod.fst
    · have names :
          (kept.map fun field => if field.1 = name then (name, v) else field).map Prod.fst =
            kept.map Prod.fst := by
        rw [List.map_map]
        apply List.map_congr_left
        intro field _
        by_cases same : field.1 = name <;> simp [same]
      rw [putField_of_mem distinct present, ih (by rwa [names]) distinct', standIns_put absent]
      simp only [newcomers, names, List.filter_cons, List.contains_eq_mem, present, decide_true,
        Bool.not_true, Bool.false_eq_true, if_false]
    · have others : ∀ field ∈ rest, field.1 ≠ name :=
        fun field member same => absent (List.mem_map.mpr ⟨field, member, same⟩)
      have longer : ((kept ++ [(name, v)]).map Prod.fst).Nodup := by
        rw [List.map_append, List.nodup_append]
        refine ⟨distinct, by simp, ?_⟩
        rintro a member b (single : b ∈ [name]) rfl
        rw [List.mem_singleton.mp single] at member
        exact present member
      rw [putField_of_not_mem present, ih longer distinct', standIns_fresh present]
      have last : standIns rest (kept ++ [(name, v)]) = standIns rest kept ++ [(name, v)] := by
        simp [standIns, lookup_eq_none absent]
      have later : newcomers rest (kept ++ [(name, v)]) = newcomers rest kept := by
        apply List.filter_congr
        intro field member
        simp [others field member]
      have first : newcomers ((name, v) :: rest) kept = (name, v) :: newcomers rest kept := by
        apply List.filter_cons_of_pos
        rw [Bool.not_eq_true', List.contains_eq_mem]
        exact decide_eq_false present
      rw [last, later, first, List.append_assoc, List.singleton_append]

/-! ### What a record has to say -/

/-- Further fields that a logger lets pass: none is given twice, and none has the name of an
attribute. -/
structure Accepted (record : Record) : Prop where
  distinct : (record.extras.map Prod.fst).Nodup
  free : ∀ field ∈ record.extras, field.1 ∉ reservedNames

def writtenNames : List String :=
  ["timestamp", "level", "logger", "message", "module", "function", "line", "correlation_id",
    "exception"]

/-- A record that can say when it was made, what its message is without further fields, and what
went wrong if something did. -/
structure Speaks (record : Record) (timestamp : String) (message : Value) (report : String) :
    Prop where
  timestamp : Timestamp.text record.created record.milliseconds = .ok timestamp
  message : { record with extras := [] : Record }.text = .ok message
  report : record.trouble.isTruthy = true → Trouble.text record.trouble = .ok report

def ownFields (record : Record) (correlation : Value) (timestamp : String) (message : Value)
    (report : String) : List (String × Value) :=
  [("timestamp", .text timestamp), ("level", record.levelName), ("logger", record.logger),
    ("message", message), ("module", record.moduleName), ("function", record.function),
    ("line", record.line)]
    ++ ((if correlation.isNull then [] else [("correlation_id", correlation)])
      ++ if record.trouble.isTruthy then [("exception", .text report)] else [])

def otherFields (record : Record) : List (String × Value) :=
  record.extras.filter fun field => !writtenNames.contains field.1

variable {record : Record} {correlation : Value} {timestamp report : String} {message : Value}

theorem ownFields_names (correlation : Value) (timestamp : String) (message : Value)
    (report : String) :
    ((record.ownFields correlation timestamp message report).map Prod.fst).Sublist
      writtenNames := by
  rw [ownFields]
  cases correlation.isNull <;> cases record.trouble.isTruthy <;>
    exact List.isSublist_iff_sublist.mp rfl

theorem ownFields_distinct (correlation : Value) (timestamp : String) (message : Value)
    (report : String) :
    ((record.ownFields correlation timestamp message report).map Prod.fst).Nodup :=
  (ownFields_names correlation timestamp message report).nodup (by decide)

theorem Accepted.furtherFields (accepted : record.Accepted) :
    record.furtherFields = record.extras := by
  apply List.filter_eq_self.mpr
  intro field member
  simpa using accepted.free field member

theorem Accepted.fields_of_text (accepted : record.Accepted)
    (speaks : record.Speaks timestamp message report) {told : Value}
    (text : record.text = .ok told) :
    record.fields correlation =
      .ok (standIns record.extras (record.ownFields correlation timestamp told report) ++
        newcomers record.extras (record.ownFields correlation timestamp told report)) := by
  have standard : record.standardFields = .ok [("timestamp", .text timestamp),
      ("level", record.levelName), ("logger", record.logger), ("message", told),
      ("module", record.moduleName), ("function", record.function), ("line", record.line)] := by
    rw [standardFields, speaks.timestamp, text]
    rfl
  have occasional : record.occasionalFields correlation =
      .ok ((if correlation.isNull then [] else [("correlation_id", correlation)])
        ++ if record.trouble.isTruthy then [("exception", .text report)] else []) := by
    rw [occasionalFields]
    by_cases troubled : record.trouble.isTruthy = true
    · rw [if_pos troubled, if_pos troubled, speaks.report troubled]
      rfl
    · rw [if_neg troubled, if_neg troubled]
      rfl
  rw [← foldl_putField (ownFields_distinct correlation timestamp told report) accepted.distinct,
    fields, standard, occasional, accepted.furtherFields]
  rfl

theorem text_of_absent (absent : record.extras.lookup messageMaker = none) :
    record.text = { record with extras := [] : Record }.text := by
  rw [text, absent]
  rfl

theorem text_of_given {v : Value} (given : record.extras.lookup messageMaker = some v) :
    record.text = callWithout v := by
  rw [text, given]

theorem failure_of_callWithout {v told : Value} (called : callWithout v = .ok told) :
    ∃ f, told = .failure f := by
  cases v with
  | kind k =>
    obtain ⟨f, -, made⟩ := ok_of_map called
    exact ⟨f, made.symm⟩
  | _ => cases called

theorem text_of_speaks (speaks : record.Speaks timestamp message report) :
    ∃ s, message = .text s := by
  have told := speaks.message
  rw [text] at told
  change (if record.arguments.isTruthy then
      .text <$> Percent.format record.message.display record.arguments
    else .ok (.text record.message.display)) = Except.ok message at told
  split at told
  · obtain ⟨s, -, filled⟩ := ok_of_map told
    exact ⟨s, filled.symm⟩
  · exact ⟨_, (Except.ok.inj told).symm⟩

/-- Where the message is the record's own, the others have changed nothing exactly if each of them
that uses a name of the record's own says the same. -/
theorem Accepted.standIns_iff (accepted : record.Accepted) {own : List (String × Value)}
    (names : (own.map Prod.fst).Sublist writtenNames) :
    standIns record.extras own ++ newcomers record.extras own = own ++ record.otherFields ↔
      ∀ field ∈ record.extras, field.1 ∈ writtenNames → field ∈ own := by
  have distinct : (own.map Prod.fst).Nodup := names.nodup (by decide)
  constructor
  · intro same field member used
    obtain ⟨kept, later⟩ := List.append_inj same (by simp [standIns])
    by_cases standard : field.1 ∈ own.map Prod.fst
    · obtain ⟨before, present, name⟩ := List.mem_map.mp standard
      rw [← kept]
      refine List.mem_map.mpr ⟨before, present, ?_⟩
      rw [name, lookup_of_mem accepted.distinct member]
      rfl
    · have new : field ∈ newcomers record.extras own :=
        List.mem_filter.mpr ⟨member, by simpa using standard⟩
      rw [later] at new
      have unused := (List.mem_filter.mp new).2
      simp [used] at unused
  · intro agree
    have kept : standIns record.extras own = own := by
      apply (List.map_congr_left _).trans (List.map_id _)
      intro field present
      cases found : record.extras.lookup field.1 with
      | none => rfl
      | some v =>
        have used := names.subset (List.mem_map_of_mem (f := Prod.fst) present)
        have same := lookup_of_mem distinct (agree _ (mem_of_lookup found) used)
        rw [lookup_of_mem distinct present] at same
        exact Prod.ext rfl (Option.some.inj same).symm
    have later : newcomers record.extras own = record.otherFields := by
      apply List.filter_congr
      intro field member
      rw [Bool.eq_iff_iff, Bool.not_eq_true', Bool.not_eq_true', List.contains_eq_mem,
        List.contains_eq_mem, decide_eq_false_iff_not, decide_eq_false_iff_not]
      refine not_congr ⟨fun standard => names.subset standard, fun used => ?_⟩
      exact List.mem_map_of_mem (agree field member used)
    rw [kept, later]

/-- A further field in place of the making of the message leaves no message, or another one. -/
theorem Accepted.absent_of_truthful (accepted : record.Accepted)
    (speaks : record.Speaks timestamp message report)
    (truthful : record.fields correlation =
      .ok (record.ownFields correlation timestamp message report ++ record.otherFields)) :
    record.extras.lookup messageMaker = none := by
  cases given : record.extras.lookup messageMaker with
  | none => rfl
  | some v =>
    have text := text_of_given given
    cases called : callWithout v with
    | error fault =>
      rw [called] at text
      rw [fields, standardFields, speaks.timestamp, text] at truthful
      cases truthful
    | ok told =>
      rw [called] at text
      rw [accepted.fields_of_text speaks text] at truthful
      obtain ⟨kept, -⟩ := List.append_inj (Except.ok.inj truthful) (by simp [standIns, ownFields])
      -- no further field is named `message`, so that what was made is still there
      have unnamed : record.extras.lookup "message" = none := by
        apply lookup_eq_none
        rintro named
        obtain ⟨field, member, name⟩ := List.mem_map.mp named
        exact accepted.free field member (name ▸ by decide)
      have same : told = message := by
        have fourth := congrArg (fun own => own[3]?.map Prod.snd) kept
        simpa [standIns, ownFields, unnamed] using fourth
      obtain ⟨f, rfl⟩ := failure_of_callWithout called
      obtain ⟨s, rfl⟩ := text_of_speaks speaks
      cases same

/-! ### Records that say little -/

/-- A record at the start of time, with further fields and perhaps with a failure. -/
def brief (trouble : Value) (extras : List (String × Value)) : Record where
  logger := .text "aretry"
  levelName := .text "INFO"
  message := .text "m"
  arguments := .tuple []
  moduleName := .text "mod"
  function := .null
  line := .int 1
  created := .float 0
  milliseconds := .float 0
  trouble
  extras

theorem text_epoch : Timestamp.text (.float 0) (.float 0) = .ok "1970-01-01T00:00:00.000Z" := by
  have number : (0 : Float).isNaN = false := by decide +kernel
  have below : Decimal.floor? 0 = some 0 := by decide +kernel
  have toward : Decimal.truncate? 0 = some 0 := by decide +kernel
  have seconds : Timestamp.wholeSeconds (.float 0) = .ok 0 := by
    simp only [Timestamp.wholeSeconds, Value.number?, number, below, Bool.false_eq_true, if_false]
    rfl
  have fraction : (Value.float 0).toWhole = .ok 0 := by
    simp only [Value.toWhole, Value.number?, toward]
  rw [Timestamp.text, seconds, fraction]
  rfl

theorem brief_speaks {trouble : Value} {report : String} (extras : List (String × Value))
    (told : trouble.isTruthy = true → Trouble.text trouble = .ok report) :
    (brief trouble extras).Speaks "1970-01-01T00:00:00.000Z" (.text "m") report where
  timestamp := text_epoch
  message := rfl
  report := told

def boom : Failure := ⟨0, Kind.valueError, [.text "Boom!"], none, .plain⟩

def refusal : Value := .tuple [.kind Kind.valueError, .failure boom, .null]

theorem text_refusal : Trouble.text refusal = .ok "ValueError: Boom!" := by
  have report : Trouble.reportOf (.failure boom) = .ok "ValueError: Boom!\n" := rfl
  have ends : "ValueError: Boom!\n".endsWith "\n" = true := by decide +kernel
  have rest : ("ValueError: Boom!\n".dropEnd 1).toString = "ValueError: Boom!" := by decide +kernel
  change (do
    let report ← Trouble.reportOf (.failure boom)
    pure (if report.endsWith "\n" then (report.dropEnd 1).toString else report)) = _
  rw [report]
  change Except.ok (if _ then _ else _) = _
  rw [if_pos ends, rest]

theorem accepted_of_names {trouble : Value} {extras : List (String × Value)}
    (distinct : (extras.map Prod.fst).Nodup)
    (free : ∀ name ∈ extras.map Prod.fst, name ∉ reservedNames) :
    (brief trouble extras).Accepted where
  distinct
  free field member := free field.1 (List.mem_map_of_mem member)

/-! ### The fields that are written -/

/-- The fields of an object stand for fields of a record, one for one: each has the name and the
tree of the value. -/
def Depicts (items : List (String × Text.Json.Tree)) (fields : List (String × Value)) : Prop :=
  List.Forall₂ (fun field item => item.1 = field.1 ∧ field.2.toTree = .ok item.2) fields items

theorem fieldsToTrees_iff {fields : List (String × Value)}
    {items : List (String × Text.Json.Tree)} :
    fieldsToTrees fields = .ok items ↔ Depicts items fields := by
  unfold Depicts
  induction fields generalizing items with
  | nil => cases items <;> simp [fieldsToTrees]
  | cons field rest ih =>
    obtain ⟨name, v⟩ := field
    rw [fieldsToTrees]
    constructor
    · intro made
      obtain ⟨tree, first, made⟩ := ok_of_bind made
      obtain ⟨others, later, made⟩ := ok_of_bind made
      cases made
      exact .cons ⟨rfl, first⟩ (ih.mp later)
    · rintro (_ | @⟨_, item, _, _, ⟨rfl, first⟩, later⟩)
      rw [first, ih.mpr later]
      rfl

/-- The fields of a record are what they should be, its own ones as they are and then every other
one once, exactly if no further field replaces the making of the message or says otherwise under a
name of the record's own. Otherwise, as long as the message is made, a further field under such a
name is written in place of what the record says. The line is the object with these fields. -/
theorem Accepted.fields_truthful_iff (accepted : record.Accepted)
    (speaks : record.Speaks timestamp message report) (correlation : Value) :
    (record.fields correlation =
        .ok (record.ownFields correlation timestamp message report ++ record.otherFields) ↔
      record.extras.lookup messageMaker = none ∧
        ∀ field ∈ record.extras, field.1 ∈ writtenNames →
          field ∈ record.ownFields correlation timestamp message report) ∧
      (record.extras.lookup messageMaker = none → record.fields correlation =
        .ok (standIns record.extras (record.ownFields correlation timestamp message report) ++
          newcomers record.extras (record.ownFields correlation timestamp message report))) ∧
      ∀ line, record.write correlation = .ok line → ∃ fields items,
        record.fields correlation = .ok fields ∧ Depicts items fields ∧
          line = (Text.Json.Tree.object items).render := by
  have names := @ownFields_names record correlation timestamp message report
  have replaced (absent : record.extras.lookup messageMaker = none) :=
    @Accepted.fields_of_text record correlation timestamp report message accepted speaks message
      ((text_of_absent absent).trans speaks.message)
  refine ⟨⟨fun truthful => ?_, ?_⟩, replaced, fun line written => ?_⟩
  · have absent := accepted.absent_of_truthful speaks truthful
    rw [replaced absent] at truthful
    exact ⟨absent, (accepted.standIns_iff names).mp (Except.ok.inj truthful)⟩
  · rintro ⟨absent, agree⟩
    rw [replaced absent, (accepted.standIns_iff names).mpr agree]
  · obtain ⟨fields, listed, written⟩ := ok_of_bind written
    obtain ⟨items, made, written⟩ := ok_of_bind written
    exact ⟨fields, items, listed, fieldsToTrees_iff.mp made, (Except.ok.inj written).symm⟩

/-- A failing call, told with its operation and its attempt in the scope of a job: nothing is
overwritten. -/
theorem Accepted.fields_truthful_iff_told :
    (brief refusal [("operation", .text "fetch"), ("attempt", .int 2)]).Accepted ∧
      (brief refusal [("operation", .text "fetch"), ("attempt", .int 2)]).Speaks
        "1970-01-01T00:00:00.000Z" (.text "m") "ValueError: Boom!" ∧
      (brief refusal [("operation", .text "fetch"), ("attempt", .int 2)]).fields (.text "job-1") =
        .ok [("timestamp", .text "1970-01-01T00:00:00.000Z"), ("level", .text "INFO"),
          ("logger", .text "aretry"), ("message", .text "m"), ("module", .text "mod"),
          ("function", .null), ("line", .int 1), ("correlation_id", .text "job-1"),
          ("exception", .text "ValueError: Boom!"), ("operation", .text "fetch"),
          ("attempt", .int 2)] := by
  have accepted : (brief refusal [("operation", .text "fetch"), ("attempt", .int 2)]).Accepted :=
    accepted_of_names (by decide) (by decide)
  have speaks := brief_speaks [("operation", .text "fetch"), ("attempt", .int 2)]
    fun _ => text_refusal
  refine ⟨accepted, speaks, ?_⟩
  apply (accepted.fields_truthful_iff speaks (.text "job-1")).1.mpr
  refine ⟨rfl, ?_⟩
  intro field member used
  have unused : ∀ name ∈ ["operation", "attempt"], name ∉ writtenNames := by decide
  exact absurd used (unused field.1 (List.mem_map_of_mem member))

/-- The name of the level is the one of the further field, though the record has its own. -/
theorem level_replaced :
    (brief .null [("level", .text "x")]).Accepted ∧
      (brief .null [("level", .text "x")]).Speaks "1970-01-01T00:00:00.000Z" (.text "m") "" ∧
      (brief .null [("level", .text "x")]).fields .null =
        .ok [("timestamp", .text "1970-01-01T00:00:00.000Z"), ("level", .text "x"),
          ("logger", .text "aretry"), ("message", .text "m"), ("module", .text "mod"),
          ("function", .null), ("line", .int 1)] ∧
      (brief .null [("level", .text "x")]).fields .null ≠
        .ok ((brief .null [("level", .text "x")]).ownFields .null "1970-01-01T00:00:00.000Z"
            (.text "m") "" ++ (brief .null [("level", .text "x")]).otherFields) := by
  have accepted : (brief .null [("level", .text "x")]).Accepted :=
    accepted_of_names (by decide) (by decide)
  have speaks := @brief_speaks .null "" [("level", .text "x")] nofun
  have listed := @Accepted.fields_of_text _ .null _ _ _ accepted speaks _ rfl
  refine ⟨accepted, speaks, listed, fun same => ?_⟩
  have second := congrArg (fun fields => fields[1]?) (Except.ok.inj (listed.symm.trans same))
  simp [standIns, ownFields, brief, List.lookup_cons] at second

end Reattempt.Record
