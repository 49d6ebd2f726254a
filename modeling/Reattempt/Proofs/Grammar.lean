import Mathlib.Data.List.Basic
import Reattempt.Text.Json

/-!
# The grammar of written records

`Tree.Spelled` says which texts stand for a tree, by the rules that readers of the format follow:
blanks may stand around every part, strings may use every escape, and a word is a number or one of
three names. What is written of a tree is such a text as long as its words are words of the format:
`Tree.spelled_render`.
-/

namespace Reattempt.Text.Json

/-! ### Numbers -/

def AllDigits (cs : List Char) : Prop := ∀ c ∈ cs, c.isDigit = true

inductive WholePart : List Char → Prop
  | zero : WholePart ['0']
  | digits {c : Char} {rest : List Char} (digits : AllDigits (c :: rest)) (leads : c ≠ '0') :
    WholePart (c :: rest)

inductive FractionPart : List Char → Prop
  | absent : FractionPart []
  | digits {cs : List Char} (digits : AllDigits cs) (some : cs ≠ []) : FractionPart ('.' :: cs)

inductive ExponentPart : List Char → Prop
  | absent : ExponentPart []
  | digits {mark : Char} {sign cs : List Char} (marks : mark = 'e' ∨ mark = 'E')
    (signs : sign = [] ∨ sign = ['+'] ∨ sign = ['-']) (digits : AllDigits cs) (some : cs ≠ []) :
    ExponentPart (mark :: (sign ++ cs))

inductive IsNumber : List Char → Prop
  | make {sign whole fraction exponent : List Char} (signs : sign = [] ∨ sign = ['-'])
    (counts : WholePart whole) (divides : FractionPart fraction) (scales : ExponentPart exponent) :
    IsNumber (sign ++ (whole ++ (fraction ++ exponent)))

def IsWord (cs : List Char) : Prop :=
  cs = "null".toList ∨ cs = "true".toList ∨ cs = "false".toList ∨ IsNumber cs

/-! ### Strings -/

def hexValue? (c : Char) : Option Nat :=
  if '0' ≤ c ∧ c ≤ '9' then some (c.toNat - '0'.toNat)
  else if 'a' ≤ c ∧ c ≤ 'f' then some (c.toNat - 'a'.toNat + 10)
  else if 'A' ≤ c ∧ c ≤ 'F' then some (c.toNat - 'A'.toNat + 10)
  else none

/-- The letters of the short escapes, and what they stand for. -/
def shortEscapes : List (Char × Char) :=
  [('"', '"'), ('\\', '\\'), ('/', '/'), ('b', '\x08'), ('f', '\x0c'), ('n', '\n'), ('r', '\r'),
    ('t', '\t')]

/-- The sixteen-bit units that characters between quotes stand for. -/
inductive Spells : List Char → List Nat → Prop
  | nothing : Spells [] []
  | plain {c : Char} {cs : List Char} {us : List Nat} (visible : 0x20 ≤ c.toNat)
    (unquoted : c ≠ '"') (unescaped : c ≠ '\\') (rest : Spells cs us) :
    Spells (c :: cs) (units c.toNat ++ us)
  | short {letter c : Char} {cs : List Char} {us : List Nat}
    (known : (letter, c) ∈ shortEscapes) (rest : Spells cs us) :
    Spells ('\\' :: letter :: cs) (c.toNat :: us)
  | unit {c₃ c₂ c₁ c₀ : Char} {h₃ h₂ h₁ h₀ : Nat} {cs : List Char} {us : List Nat}
    (third : hexValue? c₃ = some h₃) (second : hexValue? c₂ = some h₂)
    (first : hexValue? c₁ = some h₁) (zeroth : hexValue? c₀ = some h₀) (rest : Spells cs us) :
    Spells ('\\' :: 'u' :: c₃ :: c₂ :: c₁ :: c₀ :: cs)
      ((((h₃ * 16 + h₂) * 16 + h₁) * 16 + h₀) :: us)

def unitsOf (s : String) : List Nat := s.toList.flatMap fun c => units (code c)

/-! ### Trees -/

def Blank (cs : List Char) : Prop := ∀ c ∈ cs, c = ' ' ∨ c = '\t' ∨ c = '\n' ∨ c = '\r'

mutual

inductive Tree.Spelled : Tree → List Char → Prop
  | word {written : String} (word : IsWord written.toList) :
    Tree.Spelled (.word written) written.toList
  | string {s : String} {cs : List Char} (spells : Spells cs (unitsOf s)) :
    Tree.Spelled (.string s) ('"' :: (cs ++ ['"']))
  | noItems {blanks : List Char} (blank : Blank blanks) :
    Tree.Spelled (.array []) ('[' :: (blanks ++ [']']))
  | items {trees : List Tree} {cs : List Char} (items : SpelledItems trees cs) :
    Tree.Spelled (.array trees) ('[' :: (cs ++ [']']))
  | noFields {blanks : List Char} (blank : Blank blanks) :
    Tree.Spelled (.object []) ('\x7b' :: (blanks ++ ['\x7d']))
  | fields {fields : List (String × Tree)} {cs : List Char} (spelled : SpelledFields fields cs) :
    Tree.Spelled (.object fields) ('\x7b' :: (cs ++ ['\x7d']))
  | spread {t : Tree} {before cs after : List Char} (leading : Blank before)
    (tree : Tree.Spelled t cs) (trailing : Blank after) : Tree.Spelled t (before ++ (cs ++ after))

inductive SpelledItems : List Tree → List Char → Prop
  | last {t : Tree} {cs : List Char} (item : Tree.Spelled t cs) : SpelledItems [t] cs
  | more {t : Tree} {rest : List Tree} {cs later : List Char} (item : Tree.Spelled t cs)
    (others : SpelledItems rest later) : SpelledItems (t :: rest) (cs ++ ',' :: later)

inductive SpelledFields : List (String × Tree) → List Char → Prop
  | last {field : String × Tree} {cs : List Char} (first : SpelledField field cs) :
    SpelledFields [field] cs
  | more {field : String × Tree} {rest : List (String × Tree)} {cs later : List Char}
    (first : SpelledField field cs) (others : SpelledFields rest later) :
    SpelledFields (field :: rest) (cs ++ ',' :: later)

inductive SpelledField : String × Tree → List Char → Prop
  | make {name : String} {t : Tree} {before key between cs : List Char} (leading : Blank before)
    (spells : Spells key (unitsOf name)) (trailing : Blank between) (item : Tree.Spelled t cs) :
    SpelledField (name, t) (before ++ ('"' :: (key ++ '"' :: (between ++ ':' :: cs))))

end

/-! ### Strings as they are written -/

theorem hexValue?_digitChar {n : Nat} (small : n < 16) : hexValue? n.digitChar = some n := by
  decide +revert

theorem toList_pushn (c : Char) (n : Nat) : ("".pushn c n).toList = List.replicate n c := by
  rw [String.pushn_eq_repeat_push]
  induction n with
  | zero => rfl
  | succ n ih => rw [Nat.repeat, String.toList_push, ih, List.replicate_succ']

theorem toList_hex {unit : Nat} (bound : unit < 0x10000) :
    (hex 4 unit).toList = [(unit / 0x1000).digitChar, (unit / 0x100 % 16).digitChar,
      (unit / 0x10 % 16).digitChar, (unit % 16).digitChar] := by
  have shorter {n : Nat} (large : 16 ≤ n) :
      Nat.toDigits 16 n = Nat.toDigits 16 (n / 16) ++ [(n % 16).digitChar] :=
    Nat.toDigits_of_base_le (by decide) large
  have zero : Nat.digitChar 0 = '0' := rfl
  rw [hex, String.toList_append, toList_pushn]
  rw [String.toList_ofList, String.length_ofList]
  rcases (show unit < 16 ∨ 16 ≤ unit ∧ unit < 0x100 ∨ 0x100 ≤ unit ∧ unit < 0x1000 ∨
    0x1000 ≤ unit by omega) with small | ⟨large, small⟩ | ⟨large, small⟩ | large
  · rw [Nat.toDigits_of_lt_base small, show unit / 0x1000 = 0 by omega,
      show unit / 0x100 % 16 = 0 by omega, show unit / 0x10 % 16 = 0 by omega, zero,
      Nat.mod_eq_of_lt small]
    rfl
  · rw [shorter large, Nat.toDigits_of_lt_base (by omega), show unit / 0x1000 = 0 by omega,
      show unit / 0x100 % 16 = 0 by omega, Nat.mod_eq_of_lt (show unit / 0x10 < 16 by omega), zero]
    rfl
  · rw [shorter (by omega), shorter (by omega), Nat.toDigits_of_lt_base (by omega),
      show unit / 0x1000 = 0 by omega, show unit / 16 / 16 = unit / 0x100 % 16 by omega, zero]
    rfl
  · rw [shorter (by omega), shorter (by omega), shorter (by omega),
      Nat.toDigits_of_lt_base (by omega), show unit / 16 / 16 / 16 = unit / 0x1000 by omega,
      show unit / 16 / 16 = unit / 0x100 by omega]
    rfl

theorem Spells.hex {n : Nat} {cs : List Char} {us : List Nat} (bound : n < 0x10000)
    (rest : Spells cs us) : Spells (("\\u" ++ Text.hex 4 n).toList ++ cs) (n :: us) := by
  have value : ((n / 0x1000 * 16 + n / 0x100 % 16) * 16 + n / 0x10 % 16) * 16 + n % 16 = n := by
    omega
  rw [String.toList_append, toList_hex bound]
  conv => rhs; rw [← value]
  exact .unit (hexValue?_digitChar (by omega)) (hexValue?_digitChar (by omega))
    (hexValue?_digitChar (by omega)) (hexValue?_digitChar (by omega)) rest

theorem code_lt (c : Char) : code c < 0x110000 := by
  have bound : c.toNat < 0x110000 := by
    rcases c.valid with low | ⟨-, high⟩
    · exact Nat.lt_trans low (by decide)
    · exact high
  rw [code]
  split <;> omega

theorem units_lt (c : Char) : ∀ unit ∈ units (code c), unit < 0x10000 := by
  intro unit member
  have bound := code_lt c
  rw [units] at member
  split at member
  · simp only [List.mem_singleton] at member
    omega
  · simp only [List.mem_cons, List.not_mem_nil, or_false] at member
    omega

theorem Spells.escapeChar {cs : List Char} {us : List Nat} (c : Char) (rest : Spells cs us) :
    Spells ((Json.escapeChar c).toList ++ cs) (units (code c) ++ us) := by
  rw [Json.escapeChar]
  split
  · next same => subst same; exact .short (by decide) rest
  split
  · next same => subst same; exact .short (by decide) rest
  split
  · next same => subst same; exact .short (by decide) rest
  split
  · next same => subst same; exact .short (by decide) rest
  split
  · next same => subst same; exact .short (by decide) rest
  split
  · next same => subst same; exact .short (by decide) rest
  split
  · next same => subst same; exact .short (by decide) rest
  split
  · next unquoted unescaped _ _ _ _ _ plain =>
    simp only [Bool.and_eq_true, decide_eq_true_eq] at plain
    have itself : code c = c.toNat := by
      have low : ¬ halfShift ≤ c.toNat := by
        rw [halfShift]
        omega
      rw [code, decide_eq_false low, Bool.false_and, if_neg Bool.false_ne_true]
    have alone : c.toString.toList = [c] := String.toList_singleton c
    rw [itself, alone]
    exact .plain plain.1 unquoted unescaped rest
  · rw [String.toList_join, List.flatMap_map]
    generalize all : units (code c) = escaped
    have bound : ∀ unit ∈ escaped, unit < 0x10000 := all ▸ units_lt c
    clear all
    induction escaped with
    | nil => exact rest
    | cons unit later ih =>
      obtain ⟨first, others⟩ := List.forall_mem_cons.mp bound
      rw [List.flatMap_cons, List.append_assoc]
      exact (ih others).hex first

theorem spells_string (s : String) :
    Spells (String.join (s.toList.map escapeChar)).toList (unitsOf s) := by
  rw [String.toList_join, List.flatMap_map, unitsOf]
  induction s.toList with
  | nil => exact .nothing
  | cons c rest ih => exact ih.escapeChar c

/-! ### Trees as they are written -/

theorem Tree.induct {P : Tree → Prop} (word : ∀ written, P (.word written))
    (string : ∀ s, P (.string s))
    (array : ∀ items : List Tree, (∀ t ∈ items, P t) → P (.array items))
    (object : ∀ fields : List (String × Tree), (∀ field ∈ fields, P field.2) → P (.object fields)) :
    (t : Tree) → P t
  | .word written => word written
  | .string s => string s
  | .array items => array items fun t member =>
    have smaller : sizeOf t < sizeOf (Tree.array items) := by
      have part := List.sizeOf_lt_of_mem member
      simp only [Tree.array.sizeOf_spec]
      omega
    Tree.induct word string array object t
  | .object fields => object fields fun (name, t) member =>
    have smaller : sizeOf t < sizeOf (Tree.object fields) := by
      have part := List.sizeOf_lt_of_mem member
      simp only [Prod.mk.sizeOf_spec] at part
      simp only [Tree.object.sizeOf_spec]
      omega
    Tree.induct word string array object t
termination_by t => sizeOf t
decreasing_by all_goals exact smaller

inductive Tree.Part (part : Tree) : Tree → Prop
  | whole : Tree.Part part part
  | item {t : Tree} {items : List Tree} (member : t ∈ items) (inside : Tree.Part part t) :
    Tree.Part part (.array items)
  | field {field : String × Tree} {fields : List (String × Tree)} (member : field ∈ fields)
    (inside : Tree.Part part field.2) : Tree.Part part (.object fields)

theorem renderAll_eq (items : List Tree) : renderAll items = items.map Tree.render := by
  induction items with
  | nil => rfl
  | cons t rest ih => rw [renderAll, ih, List.map_cons]

theorem renderFields_eq (fields : List (String × Tree)) :
    renderFields fields = fields.map fun field => (field.1, field.2.render) := by
  induction fields with
  | nil => rfl
  | cons field rest ih => rw [renderFields, ih, List.map_cons, renderField]

theorem toList_array (items : List Tree) :
    (Tree.array items).render.toList =
      '[' :: (", ".toList.intercalate (items.map fun t => t.render.toList) ++ [']']) := by
  rw [Tree.render, array, renderAll_eq, String.toList_append, String.toList_append,
    String.toList_intercalate, List.map_map]
  rfl

def fieldText (field : String × Tree) : List Char :=
  '"' :: ((String.join (field.1.toList.map escapeChar)).toList ++
    '"' :: ':' :: ' ' :: field.2.render.toList)

theorem object_eq (fields : List (String × String)) : object fields =
    "\x7b" ++ ", ".intercalate (fields.map fun field => Json.string field.1 ++ ": " ++ field.2) ++
      "\x7d" := rfl

theorem toList_object (fields : List (String × Tree)) :
    (Tree.object fields).render.toList =
      '\x7b' :: (", ".toList.intercalate (fields.map fieldText) ++ ['\x7d']) := by
  have same : (fun field : String × Tree =>
      (Json.string field.1 ++ ": " ++ field.2.render).toList) = fieldText := by
    funext field
    simp [fieldText, Json.string]
  rw [Tree.render, object_eq, renderFields_eq, String.toList_append, String.toList_append,
    String.toList_intercalate, List.map_map, List.map_map, ← same]
  rfl

theorem blank_none : Blank [] := nofun

theorem blank_space : Blank [' '] := by
  intro c member
  exact .inl (List.mem_singleton.mp member)

theorem Tree.Spelled.after_space {t : Tree} {cs : List Char} (spelled : t.Spelled cs) :
    t.Spelled (' ' :: cs) := by
  simpa using Tree.Spelled.spread blank_space spelled blank_none

theorem SpelledItems.after_space {items : List Tree} {cs : List Char}
    (spelled : SpelledItems items cs) : SpelledItems items (' ' :: cs) := by
  cases spelled with
  | last item => exact .last item.after_space
  | more item others => exact .more item.after_space others

theorem SpelledFields.after_space {fields : List (String × Tree)} {cs : List Char}
    (spelled : SpelledFields fields cs) : SpelledFields fields (' ' :: cs) := by
  have moved {field : String × Tree} {cs : List Char} (first : SpelledField field cs) :
      SpelledField field (' ' :: cs) := by
    cases first with
    | make leading spells trailing item =>
      have spaced := List.forall_mem_cons.mpr ⟨.inl rfl, leading⟩
      exact @SpelledField.make _ _ (' ' :: _) _ _ _ spaced spells trailing item
  cases spelled with
  | last first => exact .last (moved first)
  | more first others => exact .more (moved first) others

theorem spelledItems_intercalate {t : Tree} {rest : List Tree}
    (spelled : ∀ item ∈ t :: rest, item.Spelled item.render.toList) :
    SpelledItems (t :: rest)
      (", ".toList.intercalate ((t :: rest).map fun t => t.render.toList)) := by
  induction rest generalizing t with
  | nil =>
    rw [List.map_singleton, List.intercalate_singleton]
    exact .last (spelled t (List.mem_singleton.mpr rfl))
  | cons next later ih =>
    obtain ⟨first, others⟩ := List.forall_mem_cons.mp spelled
    rw [List.map_cons, List.map_cons, List.intercalate_cons_cons, List.append_assoc]
    exact .more first (ih others).after_space

theorem spelledFields_intercalate {first : String × Tree} {rest : List (String × Tree)}
    (spelled : ∀ field ∈ first :: rest, field.2.Spelled field.2.render.toList) :
    SpelledFields (first :: rest) (", ".toList.intercalate ((first :: rest).map fieldText)) := by
  have spelledField {field : String × Tree} (spelled : field.2.Spelled field.2.render.toList) :
      SpelledField field (fieldText field) :=
    @SpelledField.make _ _ [] _ _ _ blank_none (spells_string field.1) blank_none
      spelled.after_space
  induction rest generalizing first with
  | nil =>
    rw [List.map_singleton, List.intercalate_singleton]
    exact .last (spelledField (spelled first (List.mem_singleton.mpr rfl)))
  | cons next later ih =>
    obtain ⟨here, others⟩ := List.forall_mem_cons.mp spelled
    rw [List.map_cons, List.map_cons, List.intercalate_cons_cons, List.append_assoc]
    exact .more (spelledField here) (ih others).after_space

/-- What is written of a tree stands for it, as long as its words are words. -/
theorem Tree.spelled_render {t : Tree}
    (words : ∀ written, (Tree.word written).Part t → IsWord written.toList) :
    t.Spelled t.render.toList := by
  induction t using Tree.induct with
  | word written =>
    rw [Tree.render]
    exact .word (words written .whole)
  | string s =>
    rw [Tree.render, Json.string, String.toList_append, String.toList_append]
    exact .string (spells_string s)
  | array items ih =>
    rw [toList_array]
    cases items with
    | nil => exact .noItems blank_none
    | cons t rest =>
      refine .items (spelledItems_intercalate fun item member => ih item member ?_)
      exact fun written part => words written (.item member part)
  | object fields ih =>
    rw [toList_object]
    cases fields with
    | nil => exact .noFields blank_none
    | cons first rest =>
      refine .fields (spelledFields_intercalate fun field member => ih field member ?_)
      exact fun written part => words written (.field member part)

end Reattempt.Text.Json
