import Reattempt.Proofs.Grammar

/-!
# Legible texts

What a reader meets outside the strings of a text. A text of the format shows characters of the
format there, and what is written of a tree shows its words, so that a tree with other words is no
text of the format: `Tree.bareChars_of_spelled`. What is written takes one line,
`Tree.oneLine_render`.
-/

namespace Reattempt.Text.Json

/-! ### Outside strings -/

/-- Where a reader stands: between strings, in a string, or behind a backslash in a string. -/
inductive Mode where
  | bare
  | quoted
  | escaped

def outside : Mode → List Char → List Char
  | _, [] => []
  | .bare, c :: rest => if c = '"' then outside .quoted rest else c :: outside .bare rest
  | .quoted, c :: rest =>
    outside (if c = '"' then .bare else if c = '\\' then .escaped else .quoted) rest
  | .escaped, _ :: rest => outside .quoted rest

/-- A text with complete strings shows these characters outside them. -/
def Shows (cs own : List Char) : Prop :=
  ∀ rest, outside .bare (cs ++ rest) = own ++ outside .bare rest

theorem Shows.unique {cs own other : List Char} (one : Shows cs own) (another : Shows cs other) :
    own = other := by
  have same := (one []).symm.trans (another [])
  exact List.append_cancel_right same

theorem Shows.append {cs own later other : List Char} (one : Shows cs own)
    (another : Shows later other) : Shows (cs ++ later) (own ++ other) := by
  intro rest
  rw [List.append_assoc, one, another, List.append_assoc]

theorem shows_self {cs : List Char} (bare : '"' ∉ cs) : Shows cs cs := by
  intro rest
  induction cs with
  | nil => rfl
  | cons c cs ih =>
    rw [List.mem_cons, not_or] at bare
    rw [List.cons_append, outside, if_neg fun same => bare.1 same.symm, ih bare.2, List.cons_append]

theorem hexValue?_plain {c : Char} {n : Nat} (digit : hexValue? c = some n) :
    c ≠ '"' ∧ c ≠ '\\' := by
  constructor
  · rintro rfl
    cases digit
  · rintro rfl
    cases digit

theorem outside_of_spells {cs : List Char} {us : List Nat} (spells : Spells cs us)
    (rest : List Char) : outside .quoted (cs ++ '"' :: rest) = outside .bare rest := by
  have skip {c : Char} (plain : c ≠ '"' ∧ c ≠ '\\') (later : List Char) :
      outside .quoted (c :: later) = outside .quoted later := by
    rw [outside, if_neg plain.1, if_neg plain.2]
  have escape (c : Char) (later : List Char) :
      outside .quoted ('\\' :: c :: later) = outside .quoted later := rfl
  induction spells with
  | nothing => rfl
  | plain visible unquoted unescaped _ ih => rw [List.cons_append, skip ⟨unquoted, unescaped⟩, ih]
  | short known _ ih => rw [List.cons_append, List.cons_append, escape, ih]
  | unit third second first zeroth _ ih =>
    simp only [List.cons_append]
    rw [escape, skip (hexValue?_plain third), skip (hexValue?_plain second),
      skip (hexValue?_plain first), skip (hexValue?_plain zeroth), ih]

theorem shows_string {cs : List Char} {us : List Nat} (spells : Spells cs us) :
    Shows ('"' :: (cs ++ ['"'])) [] := by
  intro rest
  rw [List.cons_append, List.append_assoc]
  exact outside_of_spells spells rest

/-! ### Characters of the format -/

theorem forall_of_all {P : Char → Prop} [DecidablePred P] {cs : List Char}
    (all : cs.all (fun c => P c) = true) : ∀ c ∈ cs, P c := by
  intro c member
  exact of_decide_eq_true (List.all_eq_true.mp all c member)

def wordChars : List Char := "+-.0123456789Eaeflnrstu".toList

def bareChars : List Char := "\x7b\x7d[],: \t\n\r".toList ++ wordChars

theorem AllDigits.chars {cs : List Char} (digits : AllDigits cs) : ∀ c ∈ cs, c ∈ wordChars := by
  intro c member
  have digit := digits c member
  rw [Char.isDigit, Bool.and_eq_true, decide_eq_true_eq, decide_eq_true_eq] at digit
  have all : ∀ n < 58, 48 ≤ n → Char.ofNat n ∈ wordChars := by decide
  rw [← Char.ofNat_toNat c]
  exact all c.toNat (Nat.lt_succ_of_le digit.2) digit.1

theorem IsNumber.chars {cs : List Char} (number : IsNumber cs) : ∀ c ∈ cs, c ∈ wordChars := by
  obtain ⟨signs, counts, divides, scales⟩ := number
  simp only [List.forall_mem_append]
  refine ⟨?_, ?_, ?_, ?_⟩
  · rcases signs with rfl | rfl <;> exact forall_of_all (by decide)
  · cases counts with
    | zero => exact forall_of_all (by decide)
    | digits digits => exact digits.chars
  · cases divides with
    | absent => nofun
    | digits digits => exact List.forall_mem_cons.mpr ⟨by decide, digits.chars⟩
  · cases scales with
    | absent => nofun
    | digits marks signs digits =>
      refine List.forall_mem_cons.mpr ⟨?_, List.forall_mem_append.mpr ⟨?_, digits.chars⟩⟩
      · rcases marks with rfl | rfl <;> decide
      · rcases signs with rfl | rfl | rfl <;> exact forall_of_all (by decide)

theorem IsWord.chars {cs : List Char} (word : IsWord cs) : ∀ c ∈ cs, c ∈ wordChars := by
  rcases word with rfl | rfl | rfl | number
  · exact forall_of_all (by decide)
  · exact forall_of_all (by decide)
  · exact forall_of_all (by decide)
  · exact number.chars

/-- The characters of the names for what is no finite number, apart from those of other words. -/
def specialChars : List Char := "NIity".toList

theorem chars_of_special {name : String} (special : name ∈ ["NaN", "Infinity", "-Infinity"]) :
    (∀ c ∈ name.toList, c ∈ wordChars ∨ c ∈ specialChars) ∧ ∃ c ∈ name.toList, c ∉ bareChars := by
  simp only [List.mem_cons, List.not_mem_nil, or_false] at special
  rcases special with rfl | rfl | rfl
  · exact ⟨forall_of_all (by decide), 'N', by decide, by decide⟩
  · exact ⟨forall_of_all (by decide), 'I', by decide, by decide⟩
  · exact ⟨forall_of_all (by decide), 'I', by decide, by decide⟩

/-- Outside strings a text shows characters of the format only. -/
def Tame (cs : List Char) : Prop := ∃ own, Shows cs own ∧ ∀ c ∈ own, c ∈ bareChars

theorem tame_self {cs : List Char} (bare : ∀ c ∈ cs, c ∈ bareChars) : Tame cs :=
  ⟨cs, shows_self fun member => absurd (bare _ member) (by decide), bare⟩

theorem Tame.append {cs later : List Char} (one : Tame cs) (another : Tame later) :
    Tame (cs ++ later) := by
  obtain ⟨own, shows, bare⟩ := one
  obtain ⟨other, shows', bare'⟩ := another
  refine ⟨own ++ other, shows.append shows', ?_⟩
  intro c member
  rcases List.mem_append.mp member with here | there
  · exact bare c here
  · exact bare' c there

theorem Tame.cons {c : Char} {cs : List Char} (bare : c ∈ bareChars) (tame : Tame cs) :
    Tame (c :: cs) :=
  (@tame_self [c] fun _ member => List.mem_singleton.mp member ▸ bare).append tame

theorem Tame.enclose {first last : Char} {cs : List Char} (opens : first ∈ bareChars)
    (closes : last ∈ bareChars) (tame : Tame cs) : Tame (first :: (cs ++ [last])) :=
  (tame.append (tame_self fun _ member => List.mem_singleton.mp member ▸ closes)).cons opens

theorem Blank.tame {cs : List Char} (blank : Blank cs) : Tame cs := by
  apply tame_self
  intro c member
  rcases blank c member with rfl | rfl | rfl | rfl <;> decide

theorem IsWord.tame {cs : List Char} (word : IsWord cs) : Tame cs :=
  tame_self fun c member => List.mem_append_right _ (word.chars c member)

theorem tame_string {cs : List Char} {us : List Nat} (spells : Spells cs us) :
    Tame ('"' :: (cs ++ ['"'])) :=
  ⟨[], shows_string spells, nofun⟩

mutual

theorem Tree.Spelled.tame {t : Tree} {cs : List Char} : t.Spelled cs → Tame cs
  | .word word => word.tame
  | .string spells => tame_string spells
  | .noItems blank => blank.tame.enclose (by decide) (by decide)
  | .items items => items.tame.enclose (by decide) (by decide)
  | .noFields blank => blank.tame.enclose (by decide) (by decide)
  | .fields fields => fields.tame.enclose (by decide) (by decide)
  | .spread leading tree trailing => leading.tame.append (tree.tame.append trailing.tame)

theorem SpelledItems.tame {items : List Tree} {cs : List Char} : SpelledItems items cs → Tame cs
  | .last item => item.tame
  | .more item others => item.tame.append (others.tame.cons (by decide))

theorem SpelledFields.tame {fields : List (String × Tree)} {cs : List Char} :
    SpelledFields fields cs → Tame cs
  | .last first => first.tame
  | .more first others => first.tame.append (others.tame.cons (by decide))

theorem SpelledField.tame {field : String × Tree} {cs : List Char} :
    SpelledField field cs → Tame cs
  | .make leading spells trailing item => by
    apply leading.tame.append
    have rest := trailing.tame.append (item.tame.cons (by decide : ':' ∈ bareChars))
    simpa using (tame_string spells).append rest

end

/-- Outside strings a text shows certain characters, perhaps among others. -/
def Exhibits (cs : List Char) (needed : Char → Prop) : Prop :=
  ∃ own, Shows cs own ∧ ∀ c, needed c → c ∈ own

theorem exhibits_self {cs : List Char} (bare : '"' ∉ cs) : Exhibits cs (· ∈ cs) :=
  ⟨cs, shows_self bare, fun _ member => member⟩

theorem Exhibits.mono {cs : List Char} {needed fewer : Char → Prop} (exhibits : Exhibits cs needed)
    (less : ∀ c, fewer c → needed c) : Exhibits cs fewer := by
  obtain ⟨own, shows, all⟩ := exhibits
  exact ⟨own, shows, fun c few => all c (less c few)⟩

theorem Exhibits.append {cs later : List Char} {needed wanted : Char → Prop}
    (one : Exhibits cs needed) (another : Exhibits later wanted) :
    Exhibits (cs ++ later) fun c => needed c ∨ wanted c := by
  obtain ⟨own, shows, all⟩ := one
  obtain ⟨other, shows', all'⟩ := another
  refine ⟨own ++ other, shows.append shows', ?_⟩
  rintro c (need | want)
  · exact List.mem_append_left _ (all c need)
  · exact List.mem_append_right _ (all' c want)

theorem Exhibits.enclose {first last : Char} {cs : List Char} {needed : Char → Prop}
    (opens : '"' ≠ first) (closes : '"' ≠ last) (exhibits : Exhibits cs needed) :
    Exhibits (first :: (cs ++ [last])) needed := by
  have before := @exhibits_self [first] (by simpa using opens)
  have after := @exhibits_self [last] (by simpa using closes)
  exact (before.append (exhibits.append after)).mono fun c need => .inr (.inl need)

theorem exhibits_intercalate {β : Type} {piece : β → List Char} {needed : β → Char → Prop}
    {items : List β} (each : ∀ b ∈ items, Exhibits (piece b) (needed b)) :
    Exhibits (", ".toList.intercalate (items.map piece)) fun c => ∃ b ∈ items, needed b c := by
  induction items with
  | nil => exact ⟨[], fun _ => rfl, by simp⟩
  | cons b rest ih =>
    obtain ⟨here, others⟩ := List.forall_mem_cons.mp each
    cases rest with
    | nil =>
      rw [List.map_singleton, List.intercalate_singleton]
      exact here.mono (by simp)
    | cons next later =>
      rw [List.map_cons, List.map_cons, List.intercalate_cons_cons, List.append_assoc]
      have separator := @exhibits_self ", ".toList (by decide)
      apply (here.append (separator.append (ih others))).mono
      rintro c ⟨b', member, need⟩
      rcases List.mem_cons.mp member with rfl | later
      · exact .inl need
      · exact .inr (.inr ⟨b', later, need⟩)

theorem Tree.exhibits_render {t : Tree}
    (bare : ∀ written, (Tree.word written).Part t → '"' ∉ written.toList) :
    Exhibits t.render.toList fun c =>
      ∃ written, (Tree.word written).Part t ∧ c ∈ written.toList := by
  induction t using Tree.induct with
  | word written =>
    rw [Tree.render]
    apply (exhibits_self (bare written .whole)).mono
    rintro c ⟨_, ⟨⟩, member⟩
    exact member
  | string s =>
    rw [Tree.render, Json.string, String.toList_append, String.toList_append]
    refine ⟨[], shows_string (spells_string s), ?_⟩
    rintro c ⟨_, ⟨⟩, -⟩
  | array items ih =>
    rw [toList_array]
    have each := exhibits_intercalate fun item member =>
      ih item member fun written part => bare written (.item member part)
    apply (each.enclose (by decide) (by decide)).mono
    rintro c ⟨written, part, member⟩
    cases part with
    | item here part => exact ⟨_, here, written, part, member⟩
  | object fields ih =>
    rw [toList_object]
    have each : ∀ field ∈ fields, Exhibits (fieldText field) fun c =>
        ∃ written, (Tree.word written).Part field.2 ∧ c ∈ written.toList := by
      intro field member
      have value := ih field member fun written part => bare written (.field member part)
      have key : Exhibits _ fun _ => False :=
        ⟨[], shows_string (spells_string field.1), fun _ => False.elim⟩
      have colon := @exhibits_self [':', ' '] (by decide)
      have whole := (key.append (colon.append value)).mono fun c need => .inr (.inr need)
      simpa [fieldText] using whole
    apply ((exhibits_intercalate each).enclose (by decide) (by decide)).mono
    rintro c ⟨written, part, member⟩
    cases part with
    | field here part => exact ⟨_, here, written, part, member⟩

theorem Tree.bareChars_of_spelled {t other : Tree}
    (bare : ∀ written, (Tree.word written).Part t → '"' ∉ written.toList)
    (spelled : other.Spelled t.render.toList) {written : String}
    (part : (Tree.word written).Part t) :
    ∀ c ∈ written.toList, c ∈ bareChars := by
  intro c member
  obtain ⟨own, shows, all⟩ := Tree.exhibits_render bare
  obtain ⟨own', shows', tame⟩ := spelled.tame
  rw [shows.unique shows'] at all
  exact tame c (all c ⟨written, part, member⟩)

/-! ### One line -/

def OneLine (cs : List Char) : Prop := ∀ c ∈ cs, 0x20 ≤ c.toNat ∧ c.toNat < 0x7f

theorem oneLine_words : OneLine (wordChars ++ specialChars) := forall_of_all (by decide)

theorem oneLine_space : OneLine [':', ' '] := forall_of_all (by decide)

theorem oneLine_separator : OneLine ", ".toList := forall_of_all (by decide)

theorem OneLine.append {cs later : List Char} (one : OneLine cs) (another : OneLine later) :
    OneLine (cs ++ later) := List.forall_mem_append.mpr ⟨one, another⟩

theorem OneLine.enclose {first last : Char} {cs : List Char} (line : OneLine cs)
    (ends : OneLine [first, last]) : OneLine (first :: (cs ++ [last])) := by
  intro c member
  simp only [List.mem_cons, List.mem_append, List.not_mem_nil, or_false] at member
  rcases member with rfl | inside | rfl
  · exact ends c List.mem_cons_self
  · exact line c inside
  · exact ends c (List.mem_cons_of_mem _ List.mem_cons_self)

theorem oneLine_hex {n : Nat} (bound : n < 0x10000) : OneLine ("\\u" ++ hex 4 n).toList := by
  have digit : ∀ n < 16, 0x20 ≤ n.digitChar.toNat ∧ n.digitChar.toNat < 0x7f := by decide
  rw [String.toList_append, toList_hex bound]
  apply OneLine.append
  · exact forall_of_all (by decide)
  · simp only [OneLine, List.forall_mem_cons]
    exact ⟨digit _ (by omega), digit _ (by omega), digit _ (by omega), digit _ (by omega), nofun⟩

theorem oneLine_escapeChar (c : Char) : OneLine (escapeChar c).toList := by
  rw [escapeChar]
  -- seven short escapes, plain characters, and units
  split
  · exact forall_of_all (by decide)
  split
  · exact forall_of_all (by decide)
  split
  · exact forall_of_all (by decide)
  split
  · exact forall_of_all (by decide)
  split
  · exact forall_of_all (by decide)
  split
  · exact forall_of_all (by decide)
  split
  · exact forall_of_all (by decide)
  split
  · next plain =>
    simp only [Bool.and_eq_true, decide_eq_true_eq] at plain
    intro d member
    rw [show c.toString.toList = [c] from String.toList_singleton c] at member
    rw [List.mem_singleton.mp member]
    exact plain
  · rw [String.toList_join, List.flatMap_map]
    intro d member
    obtain ⟨unit, here, digit⟩ := List.mem_flatMap.mp member
    exact oneLine_hex (units_lt c unit here) d digit

theorem oneLine_string (s : String) : OneLine (Json.string s).toList := by
  rw [Json.string, String.toList_append, String.toList_append]
  apply OneLine.enclose _ (forall_of_all (by decide))
  rw [String.toList_join, List.flatMap_map]
  intro d member
  obtain ⟨c, -, digit⟩ := List.mem_flatMap.mp member
  exact oneLine_escapeChar c d digit

theorem oneLine_intercalate {pieces : List (List Char)} (each : ∀ cs ∈ pieces, OneLine cs) :
    OneLine (", ".toList.intercalate pieces) := by
  induction pieces with
  | nil => nofun
  | cons cs rest ih =>
    obtain ⟨here, others⟩ := List.forall_mem_cons.mp each
    cases rest with
    | nil =>
      rw [List.intercalate_singleton]
      exact here
    | cons next later =>
      rw [List.intercalate_cons_cons, List.append_assoc]
      exact here.append (OneLine.append oneLine_separator (ih others))

theorem Tree.oneLine_render {t : Tree}
    (words : ∀ written, (Tree.word written).Part t → OneLine written.toList) :
    OneLine t.render.toList := by
  induction t using Tree.induct with
  | word written =>
    rw [Tree.render]
    exact words written .whole
  | string s =>
    rw [Tree.render]
    exact oneLine_string s
  | array items ih =>
    rw [toList_array]
    apply OneLine.enclose _ (forall_of_all (by decide))
    apply oneLine_intercalate
    intro cs member
    obtain ⟨item, here, rfl⟩ := List.mem_map.mp member
    exact ih item here fun written part => words written (.item here part)
  | object fields ih =>
    rw [toList_object]
    apply OneLine.enclose _ (forall_of_all (by decide))
    apply oneLine_intercalate
    intro cs member
    obtain ⟨field, here, rfl⟩ := List.mem_map.mp member
    have value := ih field here fun written part => words written (.field here part)
    simpa [fieldText, Json.string] using
      (oneLine_string field.1).append (oneLine_space.append value)

end Reattempt.Text.Json
