import Mathlib.Algebra.Order.Field.Power
import Mathlib.Algebra.Order.Field.Rat
import Mathlib.Data.Rat.Cast.Order
import Mathlib.Tactic.NormNum
import Reattempt.Decimal.Layout
import Reattempt.Proofs.Grammar
import Reattempt.Proofs.Range

/-!
# Numbers as they are written

Every integer and every finite float is written as a number of the format, `isNumber_int` and
`isNumber_render`. The shortest digits of a float start with one that is not zero, because the
search for them never settles for nothing.
-/

namespace Reattempt.Decimal

open Text.Json (AllDigits WholePart FractionPart ExponentPart IsNumber)

/-! ### Digits of naturals -/

theorem toDigits_leads {n : Nat} (positive : 0 < n) :
    ∃ c rest, Nat.toDigits 10 n = c :: rest ∧ c ≠ '0' := by
  induction n using Nat.strongRecOn with
  | ind n ih =>
    by_cases small : n < 10
    · refine ⟨n.digitChar, [], Nat.toDigits_of_lt_base small, fun zero => ?_⟩
      rw [Nat.digitChar_eq_zero] at zero
      omega
    · obtain ⟨c, rest, same, leads⟩ := ih (n / 10) (by omega) (by omega)
      refine ⟨c, rest ++ [(n % 10).digitChar], ?_, leads⟩
      rw [Nat.toDigits_of_base_le (by decide) (by omega), same, List.cons_append]

theorem allDigits_toDigits (n : Nat) : AllDigits (Nat.toDigits 10 n) :=
  fun _ member => Nat.isDigit_of_mem_toDigits (by decide) (by decide) member

theorem wholePart_nat (n : Nat) : WholePart (toString n).toList := by
  rw [Nat.toString_eq_ofList_toDigits, String.toList_ofList]
  rcases Nat.eq_zero_or_pos n with rfl | positive
  · exact .zero
  · obtain ⟨c, rest, same, leads⟩ := toDigits_leads positive
    have digits := allDigits_toDigits n
    rw [same] at digits ⊢
    exact .digits digits leads

theorem isNumber_int (i : Int) : IsNumber (toString i).toList := by
  rw [Int.toString_eq_repr, Int.repr_eq_if]
  have whole (n : Nat) : IsNumber ([] ++ (n.repr.toList ++ ([] ++ []))) :=
    .make (.inl rfl) (wholePart_nat n) .absent .absent
  split
  · simpa using whole i.toNat
  · have negative : IsNumber (['-'] ++ ((-i).toNat.repr.toList ++ ([] ++ []))) :=
      .make (.inr rfl) (wholePart_nat _) .absent .absent
    simpa using negative

/-! ### Digits that start with one that is not zero -/

def Leads (digits : List Nat) : Prop :=
  ∃ d rest, digits = d :: rest ∧ d ≠ 0 ∧ ∀ digit ∈ d :: rest, digit < 10

theorem value_of_isDigit {c : Char} (digit : c.isDigit = true) :
    48 ≤ c.toNat ∧ c.toNat - '0'.toNat < 10 := by
  rw [Char.isDigit, Bool.and_eq_true, decide_eq_true_eq, decide_eq_true_eq] at digit
  have low : 48 ≤ c.toNat := digit.1
  have high : c.toNat ≤ 57 := digit.2
  have zero : '0'.toNat = 48 := rfl
  omega

theorem digitsOf_lt (n : Nat) : ∀ digit ∈ digitsOf n, digit < 10 := by
  intro digit member
  obtain ⟨c, here, rfl⟩ := List.mem_map.mp member
  exact (value_of_isDigit (allDigits_toDigits n c here)).2

theorem leads_digitsOf {n : Nat} (positive : 0 < n) : Leads (digitsOf n) := by
  obtain ⟨c, rest, same, leads⟩ := toDigits_leads positive
  have digits : digitsOf n = (c.toNat - '0'.toNat) :: rest.map fun c => c.toNat - '0'.toNat := by
    rw [digitsOf, same, List.map_cons]
  refine ⟨_, _, digits, fun zero => ?_, digits ▸ digitsOf_lt n⟩
  have here : c ∈ Nat.toDigits 10 n := same ▸ List.mem_cons_self
  have low := (value_of_isDigit (allDigits_toDigits n c here)).1
  have zero : c.toNat = '0'.toNat := Nat.le_antisymm (Nat.sub_eq_zero_iff_le.mp zero) low
  exact leads (Char.toNat_inj.mp zero)

theorem Leads.trimmed {digits : List Nat} (leads : Leads digits) :
    Leads (digits.reverse.dropWhile (· = 0)).reverse := by
  obtain ⟨d, rest, rfl, first, small⟩ := leads
  have shorter : ∃ rest', ((d :: rest).reverse.dropWhile (· = 0)).reverse = d :: rest' ∧
      ∀ digit ∈ rest', digit ∈ rest := by
    rw [List.reverse_cons, List.dropWhile_append]
    split
    · refine ⟨[], ?_, nofun⟩
      rw [List.dropWhile_cons_of_neg (by simpa using first), List.reverse_singleton]
    · refine ⟨(rest.reverse.dropWhile (· = 0)).reverse, by simp, ?_⟩
      intro digit member
      have kept := (List.dropWhile_sublist _).subset (List.mem_reverse.mp member)
      exact List.mem_reverse.mp kept
  obtain ⟨rest', same, fewer⟩ := shorter
  refine ⟨d, rest', same, first, ?_⟩
  intro digit member
  rcases List.mem_cons.mp member with rfl | later
  · exact small _ List.mem_cons_self
  · exact small digit (List.mem_cons_of_mem _ (fewer digit later))

/-! ### Powers of ten -/

theorem ten_pow_le {m b : ℤ} (above : 10 * m ≤ 3 * b) (below : 13 * m ≤ 4 * b) :
    (10 : ℚ) ^ m ≤ 2 ^ b := by
  rcases le_total 0 m with positive | negative
  · -- 10 ^ 3 ≤ 2 ^ 10
    have cubes : ((10 : ℚ) ^ m) ^ (3 : ℤ) ≤ (2 ^ b) ^ (3 : ℤ) :=
      calc ((10 : ℚ) ^ m) ^ (3 : ℤ) = (10 ^ (3 : ℤ)) ^ m := zpow_comm _ _ _
        _ ≤ (2 ^ (10 : ℤ)) ^ m := zpow_le_zpow_left₀ positive (by norm_num) (by norm_num)
        _ = 2 ^ (10 * m) := (zpow_mul _ _ _).symm
        _ ≤ 2 ^ (3 * b) := zpow_le_zpow_right₀ (by norm_num) above
        _ = (2 ^ b) ^ (3 : ℤ) := by rw [mul_comm, zpow_mul]
    exact (zpow_le_zpow_iff_left₀ (by positivity) (by positivity) (by norm_num)).mp cubes
  · -- 2 ^ 13 ≤ 10 ^ 4
    have powers : ((10 : ℚ) ^ m) ^ (4 : ℤ) ≤ (2 ^ b) ^ (4 : ℤ) :=
      calc ((10 : ℚ) ^ m) ^ (4 : ℤ) = (10 ^ (4 : ℤ)) ^ m := zpow_comm _ _ _
        _ = ((10 ^ (4 : ℤ)) ^ (-m))⁻¹ := by rw [zpow_neg, inv_inv]
        _ ≤ ((2 ^ (13 : ℤ)) ^ (-m))⁻¹ :=
          inv_anti₀ (by positivity) (zpow_le_zpow_left₀ (by omega) (by norm_num) (by norm_num))
        _ = 2 ^ (13 * m) := by rw [zpow_neg, inv_inv, zpow_mul]
        _ ≤ 2 ^ (4 * b) := zpow_le_zpow_right₀ (by norm_num) below
        _ = (2 ^ b) ^ (4 : ℤ) := by rw [mul_comm, zpow_mul]
    exact (zpow_le_zpow_iff_left₀ (by positivity) (by positivity) (by norm_num)).mp powers

variable {num den : Nat}

theorem inTens_le_iff (positive : 0 < den) (e : Int) :
    (inTens num den e).2 ≤ (inTens num den e).1 ↔ (10 : ℚ) ^ e ≤ num / den := by
  have positive : (0 : ℚ) < den := by exact_mod_cast positive
  cases e with
  | ofNat up =>
    rw [inTens, Int.ofNat_eq_natCast, zpow_natCast, le_div_iff₀ positive, mul_comm]
    exact_mod_cast Iff.rfl
  | negSucc down =>
    rw [inTens, zpow_negSucc, le_div_iff₀ positive, inv_mul_le_iff₀ (by positivity), mul_comm]
    exact_mod_cast Iff.rfl

theorem two_pow_le_quotient (numerator : num ≠ 0) (positive : 0 < den) :
    (2 : ℚ) ^ ((num.log2 : ℤ) - den.log2 - 1) ≤ num / den := by
  have low : 2 ^ num.log2 ≤ num := Nat.log2_self_le numerator
  have high : den ≤ 2 ^ (den.log2 + 1) := Nat.le_of_lt Nat.lt_log2_self
  have exact : (2 : ℚ) ^ ((num.log2 : ℤ) - den.log2 - 1) = 2 ^ num.log2 / 2 ^ (den.log2 + 1) := by
    rw [sub_sub, zpow_sub₀ (by norm_num)]
    norm_cast
  rw [exact]
  apply div_le_div₀ (by positivity) (by exact_mod_cast low) (by exact_mod_cast positive)
  exact_mod_cast high

/-- Seventeen digits are enough for a quotient to count at least one. -/
theorem reaches_decimalPoint (numerator : num ≠ 0) (positive : 0 < den)
    (large : -2000 ≤ (num.log2 : ℤ) - den.log2) (small : (num.log2 : ℤ) - den.log2 ≤ 2000) :
    (10 : ℚ) ^ (decimalPoint num den - 17) ≤ num / den := by
  have reached {e point : Int} (step : point - 17 ≤ e)
      (unreached : ¬ ((inTens num den e).1 < (inTens num den e).2)) :
      (10 : ℚ) ^ (point - 17) ≤ num / den :=
    (zpow_le_zpow_right₀ (by norm_num) step).trans
      ((inTens_le_iff positive e).mp (Nat.le_of_not_lt unreached))
  rw [decimalPoint]
  dsimp only
  split
  · apply (ten_pow_le _ _).trans (two_pow_le_quotient numerator positive)
    · omega
    · omega
  · next unreached =>
    rw [decide_eq_true_eq] at unreached
    split
    · exact reached (by omega) unreached
    · next unreached =>
      rw [decide_eq_true_eq] at unreached
      exact reached (by omega) unreached

/-! ### The search for the fewest digits -/

theorem inTens_positive (num : Nat) {den : Nat} (positive : 0 < den) (e : Int) :
    0 < (inTens num den e).2 := by
  cases e with
  | ofNat up => exact Nat.mul_pos positive (Nat.pow_pos (by decide))
  | negSucc down => exact positive

structure Interval.Sound (interval : Interval) (point : Int) : Prop where
  positive : 0 < interval.low
  divides : 0 < interval.denominator
  reaches : (10 : ℚ) ^ (point - 17) ≤ interval.value / interval.denominator

variable {interval : Interval} {point : Int}

theorem Interval.Sound.onGrid? (sound : interval.Sound point) {count n : Nat}
    (found : interval.onGrid? point count = some n) : 0 < n := by
  have positive : 0 < (inTens interval.low interval.denominator (point - count)).1 := by
    cases point - count with
    | ofNat up => exact sound.positive
    | negSucc down => exact Nat.mul_pos sound.positive (Nat.pow_pos (by decide))
  have chosen (inside : Nat → Bool) {near far : Nat}
      (found : (if inside near then some near else if inside far then some far else none) =
        some n) :
      inside n = true := by
    split at found
    · next held => exact Option.some.inj found ▸ held
    · split at found
      · next held => exact Option.some.inj found ▸ held
      · cases found
  rw [Interval.onGrid?] at found
  dsimp only at found
  generalize inTens interval.low interval.denominator (point - count) = low at found positive
  generalize inTens interval.value interval.denominator (point - count) = value at found
  generalize inTens interval.high interval.denominator (point - count) = high at found
  have held := chosen (fun k => if interval.closed then low.1 ≤ k * value.2 && k * value.2 ≤ high.1
    else low.1 < k * value.2 && k * value.2 < high.1) found
  -- zero is not inside, because the lower end is above it
  rcases Nat.eq_zero_or_pos n with rfl | above
  · simp only [Nat.zero_mul] at held
    split at held <;> simp only [Bool.and_eq_true, decide_eq_true_eq] at held <;> omega
  · exact above

theorem Interval.Sound.search (sound : interval.Sound point) {fuel count : Nat}
    (together : fuel + count = 17) : 0 < (interval.search point fuel count).1 := by
  induction fuel generalizing count with
  | zero =>
    have all : (count : Int) = 17 := by omega
    rw [Interval.search]
    dsimp only
    rw [all]
    have divides := inTens_positive interval.value sound.divides (point - 17)
    have reaches := (inTens_le_iff sound.divides (point - 17)).mpr sound.reaches
    have one : 0 < (inTens interval.value interval.denominator (point - 17)).1 /
        (inTens interval.value interval.denominator (point - 17)).2 := Nat.div_pos reaches divides
    exact Nat.lt_of_lt_of_le one (le_roundHalfEven _ _)
  | succ fuel ih =>
    rw [Interval.search]
    split
    · next found => exact sound.onGrid? found
    · exact ih (by omega)

theorem log2_lt {n k : Nat} (bound : n < 2 ^ k) (positive : n ≠ 0) : n.log2 < k :=
  (Nat.log2_lt positive).mpr bound

/-- The interval of a positive float reaches the point that the search starts with. -/
theorem sound_interval {significand : Nat} {exponent : Int} (positive : 0 < significand)
    (bits : significand < 2 ^ 53) (least : -1074 ≤ exponent) (greatest : exponent ≤ 971) :
    (Interval.of significand exponent).Sound (decimalPoint (Interval.of significand exponent).value
      (Interval.of significand exponent).denominator) := by
  have four (n : Nat) : 4 * 2 ^ n = 2 ^ (n + 2) := by
    rw [Nat.pow_add]
    omega
  have low (narrow : Bool) : 0 < 4 * significand - if narrow then 1 else 2 := by
    cases narrow <;> simp <;> omega
  cases exponent with
  | ofNat up =>
    have up_le : up ≤ 971 := Int.ofNat_le.mp greatest
    have value : (Interval.of significand (.ofNat up)).value = 4 * significand * 2 ^ up := rfl
    have divisor : (Interval.of significand (.ofNat up)).denominator = 4 := rfl
    have numerator : 4 * significand * 2 ^ up ≠ 0 :=
      Nat.mul_ne_zero (by omega) (Nat.two_pow_pos up).ne'
    have wide : 4 * significand * 2 ^ up < 2 ^ (55 + up) := by
      rw [Nat.pow_add]
      exact Nat.mul_lt_mul_of_pos_right (by omega) (Nat.two_pow_pos up)
    have log := log2_lt wide numerator
    have log' : Nat.log2 4 = 2 := by decide
    rw [value, divisor]
    refine ⟨Nat.mul_pos (low _) (Nat.two_pow_pos up), divisor ▸ by decide, ?_⟩
    rw [value, divisor]
    exact reaches_decimalPoint numerator (by decide) (by omega) (by omega)
  | negSucc down =>
    have down_le : down ≤ 1073 := by omega
    have value : (Interval.of significand (.negSucc down)).value = 4 * significand := by
      rw [Interval.of, Nat.mul_one]
    have divisor : (Interval.of significand (.negSucc down)).denominator = 2 ^ (down + 3) := by
      rw [Interval.of, four]
    have numerator : 4 * significand ≠ 0 := by omega
    have log : (4 * significand).log2 < 55 := log2_lt (by omega) numerator
    have log' : (2 ^ (down + 3)).log2 = down + 3 := Nat.log2_two_pow
    rw [value, divisor]
    refine ⟨Nat.mul_pos (low _) (by decide), ?_, ?_⟩
    · rw [divisor]
      exact Nat.two_pow_pos _
    · rw [value, divisor]
      exact reaches_decimalPoint numerator (Nat.two_pow_pos _) (by omega) (by omega)

theorem leads_shortest {significand : Nat} {exponent : Int} (positive : 0 < significand)
    (bits : significand < 2 ^ 53) (least : -1074 ≤ exponent) (greatest : exponent ≤ 971) :
    Leads (shortest significand exponent).digits := by
  have sound := sound_interval positive bits least greatest
  have found := @Interval.Sound.search _ _ sound 16 1 rfl
  exact (leads_digitsOf found).trimmed

/-! ### Layouts -/

theorem toList_textOfDigits (digits : List Nat) :
    (textOfDigits digits).toList = digits.map Nat.digitChar := String.toList_ofList

theorem allDigits_textOfDigits {digits : List Nat} (small : ∀ digit ∈ digits, digit < 10) :
    AllDigits (textOfDigits digits).toList := by
  intro c member
  rw [toList_textOfDigits] at member
  obtain ⟨digit, here, rfl⟩ := List.mem_map.mp member
  rw [Nat.isDigit_digitChar]
  exact decide_eq_true (small digit here)

theorem allDigits_replicate (n : Nat) : AllDigits (List.replicate n '0') := by
  intro c member
  rw [List.eq_of_mem_replicate member]
  decide

theorem allDigits_append {cs later : List Char} (one : AllDigits cs) (another : AllDigits later) :
    AllDigits (cs ++ later) := List.forall_mem_append.mpr ⟨one, another⟩

def IsSize (cs : List Char) : Prop :=
  ∃ whole fraction exponent, cs = whole ++ (fraction ++ exponent) ∧ WholePart whole ∧
    FractionPart fraction ∧ ExponentPart exponent

theorem Leads.wholePart {digits : List Nat} (leads : Leads digits) (zeros : Nat) :
    WholePart ((textOfDigits digits).toList ++ List.replicate zeros '0') := by
  obtain ⟨d, rest, rfl, first, small⟩ := leads
  have all := allDigits_append (allDigits_textOfDigits small) (allDigits_replicate zeros)
  rw [toList_textOfDigits, List.map_cons, List.cons_append] at all ⊢
  refine .digits all fun zero => first (Nat.digitChar_eq_zero.mp zero)

theorem Leads.small {digits : List Nat} (leads : Leads digits) : ∀ digit ∈ digits, digit < 10 := by
  obtain ⟨d, rest, rfl, -, small⟩ := leads
  exact small

theorem Leads.take {digits : List Nat} (leads : Leads digits) {count : Nat} (some : 0 < count) :
    Leads (digits.take count) := by
  obtain ⟨d, rest, rfl, first, small⟩ := leads
  obtain ⟨count, rfl⟩ := Nat.exists_eq_add_one_of_ne_zero some.ne'
  refine ⟨d, rest.take count, List.take_succ_cons, first, ?_⟩
  intro digit member
  exact small digit ((List.take_sublist (count + 1) (d :: rest)).subset member)

theorem fractionPart_drop {digits : List Nat} (small : ∀ digit ∈ digits, digit < 10) {count : Nat}
    (short : count < digits.length) :
    FractionPart ('.' :: (textOfDigits (digits.drop count)).toList) := by
  refine .digits (allDigits_textOfDigits fun digit member => ?_) fun none => ?_
  · exact small digit ((List.drop_sublist count digits).subset member)
  · rw [toList_textOfDigits, List.map_eq_nil_iff, List.drop_eq_nil_iff] at none
    omega

theorem Leads.positional {digits : List Nat} (leads : Leads digits) (point : Int) :
    IsSize (positional ".0" digits point).toList := by
  rw [Decimal.positional]
  split
  · refine ⟨['0'], '.' :: (List.replicate (-point).toNat '0' ++ (textOfDigits digits).toList), [],
      ?_, .zero, .digits ?_ ?_, .absent⟩
    · simp [Text.Json.toList_pushn]
    · exact allDigits_append (allDigits_replicate _) (allDigits_textOfDigits leads.small)
    · obtain ⟨d, rest, rfl, -, -⟩ := leads
      simp [toList_textOfDigits]
  · next above =>
    dsimp only
    split
    · refine ⟨_, ['.', '0'], [], ?_, leads.wholePart (point.toNat - digits.length), ?_, .absent⟩
      · simp [Text.Json.toList_pushn]
      · exact .digits (allDigits_replicate 1) (by decide)
    · next longer =>
      have whole := (leads.take (show 0 < point.toNat by omega)).wholePart 0
      refine ⟨_, _, [], ?_, whole, fractionPart_drop leads.small (Nat.lt_of_not_le longer), .absent⟩
      simp

theorem exponentPart_text (exponent : Int) : ExponentPart (exponentText "e" 2 exponent).toList := by
  have digits (n : Nat) : AllDigits (padded 2 n).toList := by
    rw [padded, String.toList_append, Text.Json.toList_pushn, Nat.toString_eq_ofList_toDigits,
      String.toList_ofList]
    exact allDigits_append (allDigits_replicate _) (allDigits_toDigits n)
  have some (n : Nat) : (padded 2 n).toList ≠ [] := by
    intro none
    rw [padded, String.toList_append, Nat.toString_eq_ofList_toDigits, String.toList_ofList,
      List.append_eq_nil_iff] at none
    exact Nat.toDigits_ne_nil none.2
  rw [exponentText, String.toList_append, String.toList_append]
  split
  · exact .digits (.inl rfl) (.inr (.inr rfl)) (digits _) (some _)
  · exact .digits (.inl rfl) (.inr (.inl rfl)) (digits _) (some _)

theorem Leads.scientific {digits : List Nat} (leads : Leads digits) (point : Int) :
    IsSize (scientific "e" 2 false digits point).toList := by
  have whole := (leads.take Nat.one_pos).wholePart 0
  rw [List.replicate_zero, List.append_nil] at whole
  rw [Decimal.scientific]
  split
  · refine ⟨_, [], _, ?_, whole, .absent, exponentPart_text (point - 1)⟩
    simp
  · next more =>
    have longer : 1 < digits.length := by
      rw [List.isEmpty_iff, List.drop_eq_nil_iff] at more
      omega
    refine ⟨_, _, _, ?_, whole, fractionPart_drop leads.small longer, exponentPart_text (point - 1)⟩
    simp

theorem binary_bounds {x : Float} {negative : Bool} {significand : Nat} {exponent : Int}
    (binary : Binary.ofFloat x = .finite negative significand exponent) :
    significand < 2 ^ 53 ∧ -1074 ≤ exponent ∧ exponent ≤ 971 := by
  rw [Binary.ofFloat] at binary
  split at binary
  · split at binary <;> cases binary
  · split at binary
    · cases binary
      omega
    · cases binary
      omega

theorem isNumber_render {x : Float} (finite : x.isFinite = true) :
    IsNumber (Layout.record.render x).toList := by
  obtain ⟨negative, significand, exponent, binary⟩ := finite_of_isFinite finite
  obtain ⟨bits, least, greatest⟩ := binary_bounds binary
  have sized {size : String} (sized : IsSize size.toList) :
      IsNumber ((if negative then "-" else "") ++ size).toList := by
    obtain ⟨whole, fraction, exponent, same, counts, divides, scales⟩ := sized
    rw [String.toList_append, same]
    cases negative with
    | true => exact .make (.inr rfl) counts divides scales
    | false => exact .make (.inl rfl) counts divides scales
  rw [Layout.render, binary]
  dsimp only
  apply sized
  split
  · exact ⟨['0'], ['.', '0'], [], by simp [Layout.record, Layout.plain], .zero,
      .digits (allDigits_replicate 1) (by decide), .absent⟩
  · next some =>
    have leads := leads_shortest (Nat.pos_of_ne_zero some) bits least greatest
    split
    · exact leads.positional _
    · exact leads.scientific _

theorem render_special {x : Float} (special : x.isFinite = false) :
    Layout.record.render x ∈ ["NaN", "Infinity", "-Infinity"] := by
  rw [Layout.render]
  rcases special_of_not_isFinite special with ⟨negative, binary⟩ | binary
  · rw [binary]
    cases negative <;> decide
  · rw [binary]
    decide

end Reattempt.Decimal
