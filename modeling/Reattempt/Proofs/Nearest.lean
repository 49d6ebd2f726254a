import Reattempt.Proofs.Signs

/-!
# Nearest floats

What the float nearest to an exact value is made of. A whole number becomes a whole float, and a
power of what is not below one stays above zero.
-/

namespace Reattempt.Decimal

open Float.Model Float.Model.UnpackedFloat

variable {x y : Float}

/-! ### Bits -/

theorem packComponents_of_unpacked {bits : BitVec Format.binary64.numBits}
    {exponent : BitVec Format.binary64.exponentBits}
    {mantissa : BitVec Format.binary64.mantissaBitsWithoutImplicit}
    (he : unpackExponent bits = exponent) (hm : unpackMantissa bits = mantissa) :
    packComponents Format.binary64 (Sign.ofBitVec (unpackSign bits)) exponent mantissa = bits := by
  subst he hm
  exact packComponents_unpack bits

/-- Bits that are no number aside, unpacking loses nothing. -/
theorem pack_unpack {bits : BitVec Format.binary64.numBits}
    (number : (UnpackedFloat.unpack Format.binary64 bits).isNaN = false) :
    UnpackedFloat.pack Format.binary64 (UnpackedFloat.unpack Format.binary64 bits) = bits := by
  have width : (unpackExponent bits).toNat < 2 ^ 11 := (unpackExponent bits).isLt
  have width' : (unpackMantissa bits).toNat < 2 ^ 52 := (unpackMantissa bits).isLt
  have kept : unpackMantissa bits = BitVec.ofNat 52 (unpackMantissa bits).toNat :=
    BitVec.eq_of_toNat_eq (by simp)
  rw [UnpackedFloat.unpack] at number ⊢
  dsimp only at number ⊢
  split
  · next largest =>
    split
    · next none => exact packComponents_of_unpacked largest none
    · next some =>
      rw [if_pos largest, if_neg some] at number
      cases number
  · next small =>
    have small : (unpackExponent bits).toNat ≠ 2047 := fun h =>
      small (BitVec.toNat_inj.mp h)
    split
    · next least =>
      split
      · next none => exact packComponents_of_unpacked least none
      · next some =>
        have positive : (unpackMantissa bits).toNat ≠ 0 := fun h => some (BitVec.toNat_inj.mp h)
        have zero : (unpackExponent bits).toNat = 0 := by rw [least]; rfl
        have short : (unpackMantissa bits).toNat.log2 < 52 :=
          (Nat.log2_lt positive).mpr width'
        rw [UnpackedFloat.pack, zero]
        dsimp only
        rw [if_neg (by decide), if_neg]
        · exact packComponents_of_unpacked least kept
        · show ¬ (unpackMantissa bits).toNat.log2 + 1 = 53
          omega
    · next normal =>
      rw [UnpackedFloat.pack]
      dsimp only
      generalize mantissa : (1#1 ++ unpackMantissa bits).toNat = size
      have sized : size = 2 ^ 52 + (unpackMantissa bits).toNat := by
        rw [← mantissa, BitVec.toNat_append, ← Nat.shiftLeft_add_eq_or_of_lt width']
        simp [Nat.shiftLeft_eq]
      have log : size.log2 = 52 := (Nat.log2_eq_iff (by omega)).mpr ⟨by omega, by omega⟩
      have biased : ((unpackExponent bits).toNat -
          ((Format.binary64.exponentBias : Int) + Format.binary64.mantissaBitsWithoutImplicit) +
          Format.binary64.exponentBias + Format.binary64.mantissaBitsWithoutImplicit : Int).toNat =
          (unpackExponent bits).toNat := by omega
      rw [biased, if_neg, if_pos]
      · refine packComponents_of_unpacked (BitVec.eq_of_toNat_eq (by simp)) ?_
        refine BitVec.eq_of_toNat_eq ?_
        rw [BitVec.toNat_ofNat, sized]
        show _ = (2 ^ 52 + (unpackMantissa bits).toNat) % 2 ^ 52
        omega
      · show size.log2 + 1 = 53
        omega
      · show ¬ 2 ^ 11 ≤ (unpackExponent bits).toNat + 1
        omega

/-- The bits of the infinite float above zero. All bits up to there stand for what is not below
zero. -/
def infinityBits : Nat := 2047 * 2 ^ 52

theorem toBits_ofBits {b : Nat} (range : b ≤ infinityBits) :
    (Float.ofBits (UInt64.ofNat b)).toBits.toNat = b := by
  have range : b ≤ 2047 * 2 ^ 52 := range
  obtain ⟨bits, word⟩ : ∃ bits : BitVec Format.binary64.numBits,
      (UInt64.ofNat b).toBitVec = bits := ⟨_, rfl⟩
  have value : bits.toNat = b := by
    rw [← word]
    show b % 2 ^ 64 = b
    omega
  have number : (UnpackedFloat.unpack Format.binary64 bits).isNaN = false := by
    rw [UnpackedFloat.unpack]
    dsimp only
    split
    · next largest =>
      have exponent := congrArg BitVec.toNat largest
      rw [unpackExponent_toNat, value] at exponent
      have exponent : b / 2 ^ 52 % 2 ^ 11 = 2047 := exponent
      have none : unpackMantissa bits = 0#_ := by
        rw [← BitVec.toNat_inj, unpackMantissa_toNat, value]
        show b % 2 ^ 52 = 0
        omega
      rw [if_pos none]
      rfl
    · split
      · split <;> rfl
      · rfl
  show (UnpackedFloat.pack Format.binary64 (UnpackedFloat.unpack Format.binary64
    (UInt64.ofNat b).toBitVec)).toNat = b
  rw [word, pack_unpack number, value]

theorem standing_of_bits {b : Nat} (bits : x.toBits.toNat = b) (range : b ≤ infinityBits) :
    standing x = if b = 0 then .zero else if b < infinityBits then .above else .infinite := by
  have range : b ≤ 2047 * 2 ^ 52 := range
  have sign : (b / 2 ^ 63 == 1) = false := beq_false_of_ne (by omega)
  rw [← standing_ofFloat, Binary.ofFloat, bits, sign, infinityBits]
  by_cases none : b = 0
  · rw [none]
    rfl
  · rw [if_neg none]
    by_cases finite : b < 2047 * 2 ^ 52
    · rw [if_pos finite, if_neg (by omega)]
      split
      · rw [Binary.standing, if_neg (by omega)]
        rfl
      · rw [Binary.standing, if_neg (by omega)]
        rfl
    · rw [if_neg finite, if_pos (by omega), if_pos (by omega)]
      rfl

theorem isInf_of_infinite (infinite : standing x = .infinite) : x.isInf = true := by
  show x.toModel.unpack.isInf = true
  rw [unpack_of_infinite infinite]
  rfl

/-! ### The float nearest to a quotient -/

theorem nearestBits_le (num den : Nat) : nearestBits false num den ≤ infinityBits := by
  rw [nearestBits]
  dsimp only
  split
  · exact Nat.zero_le _
  · rw [if_neg Bool.false_ne_true, Nat.zero_add]
    exact Nat.min_le_right _ _

theorem toBits_nearest (num den : Nat) :
    (nearest false num den).toBits.toNat = nearestBits false num den :=
  toBits_ofBits (nearestBits_le num den)

theorem two_le_inUnits {num den : Nat} {exponent : Int} (positive : num ≠ 0)
    (fine : exponent + den.log2 + 2 ≤ num.log2) :
    2 ≤ (inUnits num den exponent).1 / (inUnits num den exponent).2 ∨ den = 0 := by
  by_cases zero : den = 0
  · exact .inr zero
  have above := Nat.log2_self_le positive
  have below : den < 2 ^ (den.log2 + 1) := Nat.lt_log2_self
  left
  cases exponent with
  | ofNat up =>
    have size : 0 < den * 2 ^ up := Nat.mul_pos (Nat.pos_of_ne_zero zero) (Nat.two_pow_pos up)
    have digits : den.log2 + 1 + up + 1 ≤ num.log2 := by
      have : (up : Int) + den.log2 + 2 ≤ num.log2 := fine
      omega
    rw [inUnits, Nat.le_div_iff_mul_le size]
    calc 2 * (den * 2 ^ up) ≤ 2 * (2 ^ (den.log2 + 1) * 2 ^ up) :=
          Nat.mul_le_mul_left 2 (Nat.mul_le_mul_right _ (Nat.le_of_lt below))
      _ = 2 ^ (den.log2 + 1 + up + 1) := by rw [← Nat.pow_add, Nat.pow_succ 2, Nat.mul_comm]
      _ ≤ 2 ^ num.log2 := Nat.pow_le_pow_right (by decide) digits
      _ ≤ num := above
  | negSucc down =>
    have digits : den.log2 + 1 + 1 ≤ num.log2 + (down + 1) := by
      have : -((down : Int) + 1) + den.log2 + 2 ≤ num.log2 := fine
      omega
    rw [inUnits, Nat.le_div_iff_mul_le (Nat.pos_of_ne_zero zero)]
    calc 2 * den ≤ 2 * 2 ^ (den.log2 + 1) := Nat.mul_le_mul_left 2 (Nat.le_of_lt below)
      _ = 2 ^ (den.log2 + 1 + 1) := by rw [Nat.pow_succ 2 (den.log2 + 1), Nat.mul_comm]
      _ ≤ 2 ^ (num.log2 + (down + 1)) := Nat.pow_le_pow_right (by decide) digits
      _ = 2 ^ num.log2 * 2 ^ (down + 1) := Nat.pow_add ..
      _ ≤ num * 2 ^ (down + 1) := Nat.mul_le_mul_right _ above

theorem two_le_nearestBits {num den : Nat} (positive : 0 < den) (least : den ≤ num) :
    2 ≤ nearestBits false num den := by
  have some : num ≠ 0 := by omega
  have logs : den.log2 ≤ num.log2 :=
    (Nat.le_log2 some).mpr (Nat.le_trans (Nat.log2_self_le (by omega)) least)
  have bounds : -1074 ≤ unitExponent num den ∧ unitExponent num den + den.log2 + 2 ≤ num.log2 := by
    rw [unitExponent]
    dsimp only
    constructor
    · exact Int.le_max_left _ _
    · split <;> omega
  have many : 2 ≤ roundHalfEven (inUnits num den (unitExponent num den)).1
      (inUnits num den (unitExponent num den)).2 := by
    rcases two_le_inUnits some bounds.2 with units | none
    · exact Nat.le_trans units (le_roundHalfEven _ _)
    · omega
  rw [nearestBits]
  dsimp only
  rw [if_neg some, if_neg Bool.false_ne_true, Nat.zero_add]
  refine Nat.le_min.mpr ⟨?_, by decide⟩
  split
  · exact many
  · have exponent : 1 ≤ (unitExponent num den + 1075).toNat := by omega
    have : 1 * 2 ^ 52 ≤ (unitExponent num den + 1075).toNat * 2 ^ 52 :=
      Nat.mul_le_mul_right _ exponent
    omega

theorem standing_nearest {num den : Nat} (positive : 0 < den) (least : den ≤ num) :
    standing (nearest false num den) = .above ∨ (nearest false num den).isInf = true := by
  have least := two_le_nearestBits positive least
  have stands := standing_of_bits (toBits_nearest num den) (nearestBits_le num den)
  rw [if_neg (by omega)] at stands
  split at stands
  · exact .inl stands
  · exact .inr (isInf_of_infinite stands)

/-! ### Whole numbers -/

theorem ofInt?_natCast {n : Nat} (float : ofInt? n = some x) :
    x = nearest false n 1 ∧ x.isInf = false := by
  have side : decide ((n : Int) < 0) = false := decide_eq_false (by omega)
  rw [ofInt?, side, Int.natAbs_natCast] at float
  split at float
  · cases float
  · next finite =>
    cases float
    exact ⟨rfl, Bool.eq_false_iff.mpr finite⟩

theorem standing_ofInt? {n : Nat} (float : ofInt? n = some x) :
    standing x = if n = 0 then .zero else .above := by
  obtain ⟨rfl, finite⟩ := ofInt?_natCast float
  by_cases none : n = 0
  · rw [none]
    have zero : nearestBits false 0 1 = 0 := rfl
    exact standing_of_bits ((toBits_nearest 0 1).trans zero) (Nat.zero_le _)
  · rw [if_neg none]
    rcases standing_nearest Nat.one_pos (Nat.one_le_iff_ne_zero.mpr none) with above | infinite
    · exact above
    · rw [finite] at infinite
      cases infinite

theorem binary_of_bits {b : Nat} (bits : x.toBits.toNat = b) (normal : 2 ^ 52 ≤ b)
    (range : b < infinityBits) :
    Binary.ofFloat x = .finite false (2 ^ 52 + b % 2 ^ 52) ((b / 2 ^ 52 : Nat) - 1075) := by
  have range : b < 2047 * 2 ^ 52 := range
  have sign : (b / 2 ^ 63 == 1) = false := beq_false_of_ne (by omega)
  have exponent : b / 2 ^ 52 % 2 ^ 11 = b / 2 ^ 52 := Nat.mod_eq_of_lt (by omega)
  rw [Binary.ofFloat, bits, sign, exponent, if_neg (by omega), if_neg (by omega)]

def IsWhole (x : Float) : Prop :=
  ∃ k : Nat, 0 < k ∧ floor? x = some (k : Int) ∧ compareInt? x k = some .eq

theorem isWhole_of_truncated {k : Nat} (positive : 0 < k) (part : truncate? x = some (k : Int))
    (same : compareInt? x k = some .eq) : IsWhole x := by
  refine ⟨k, positive, ?_, same⟩
  rw [floor?, part, Option.map_some, same]
  rfl

theorem isWhole_scaled {significand up : Nat} (positive : 0 < significand)
    (binary : Binary.ofFloat x = .finite false significand (.ofNat up)) : IsWhole x := by
  have size : ((significand * 2 ^ up : Nat) : Int) = (significand : Int) * 2 ^ up := by
    push_cast
    rfl
  refine isWhole_of_truncated (Nat.mul_pos positive (Nat.two_pow_pos up)) ?_ ?_
  · rw [truncate?, binary]
    rfl
  · rw [compareInt?, binary, size]
    exact congrArg some (Int.compare_eq_eq.mpr rfl)

theorem isWhole_divided {k down : Nat} (positive : 0 < k)
    (binary : Binary.ofFloat x = .finite false (k * 2 ^ (down + 1)) (.negSucc down)) :
    IsWhole x := by
  refine isWhole_of_truncated positive ?_ ?_
  · rw [truncate?, binary]
    exact congrArg some (congrArg Int.ofNat (Nat.mul_div_cancel k (Nat.two_pow_pos (down + 1))))
  · rw [compareInt?, binary]
    refine congrArg some (Int.compare_eq_eq.mpr ?_)
    push_cast
    rfl

/-- A small number, moved to the left until it has 53 digits. -/
theorem two_pow_le_mul {n : Nat} (positive : n ≠ 0) (small : n.log2 < 52) :
    2 ^ 52 ≤ n * 2 ^ (51 - n.log2 + 1) := by
  calc 2 ^ 52 = 2 ^ (n.log2 + (51 - n.log2 + 1)) := congrArg (2 ^ ·) (by omega)
    _ = 2 ^ n.log2 * 2 ^ (51 - n.log2 + 1) := Nat.pow_add ..
    _ ≤ n * 2 ^ (51 - n.log2 + 1) := Nat.mul_le_mul_right _ (Nat.log2_self_le positive)

theorem unitExponent_of_small {n : Nat} (positive : n ≠ 0) (small : n.log2 < 52) :
    unitExponent n 1 = .negSucc (51 - n.log2) := by
  have guess : (n.log2 : Int) - (Nat.log2 1 : Nat) - 52 = .negSucc (51 - n.log2) := by
    have : Nat.log2 1 = 0 := by decide
    rw [this]
    show _ = -((51 - n.log2 : Nat) + 1 : Int)
    omega
  have digits : 2 ^ 52 ≤ n * 2 ^ (51 - n.log2 + 1) / 1 := by
    rw [Nat.div_one]
    exact two_pow_le_mul positive small
  rw [unitExponent]
  dsimp only
  rw [guess, inUnits]
  dsimp only
  rw [if_neg (Nat.not_lt.mpr digits)]
  refine Int.max_eq_right ?_
  show (-1074 : Int) ≤ -((51 - n.log2 : Nat) + 1 : Int)
  omega

theorem roundHalfEven_one (n : Nat) : roundHalfEven n 1 = n := by
  rw [roundHalfEven, Nat.mod_one, if_pos (by decide), Nat.div_one]

theorem le_nearestBits_of_large {n : Nat} (large : 52 ≤ n.log2) :
    1075 * 2 ^ 52 ≤ nearestBits false n 1 := by
  have positive : n ≠ 0 := by
    rintro rfl
    cases large
  have count : 2 ^ 52 ≤ roundHalfEven n (1 * 2 ^ (n.log2 - 52)) := by
    rw [Nat.one_mul]
    exact Nat.le_trans (two_pow_le_div large) (le_roundHalfEven _ _)
  have exponent : 1075 ≤ (Int.ofNat (n.log2 - 52) + 1075).toNat := by
    show 1075 ≤ (((n.log2 - 52 : Nat) : Int) + 1075).toNat
    omega
  rw [nearestBits]
  dsimp only
  rw [if_neg positive, unitExponent_of_large large, inUnits]
  dsimp only
  rw [if_neg (Nat.not_lt.mpr count), if_neg Bool.false_ne_true, Nat.zero_add]
  refine Nat.le_min.mpr ⟨?_, by decide⟩
  exact Nat.le_trans (Nat.mul_le_mul_right _ exponent) (Nat.le_add_right _ _)

/-- A number of at most 52 digits is its own significand, moved to the left. -/
theorem nearestBits_of_small {n : Nat} (positive : n ≠ 0) (small : n.log2 < 52) :
    nearestBits false n 1 =
      min ((1023 + n.log2) * 2 ^ 52 + (n * 2 ^ (51 - n.log2 + 1) - 2 ^ 52)) infinityBits := by
  have low := two_pow_le_mul positive small
  have exponent : (Int.negSucc (51 - n.log2) + 1075).toNat = 1023 + n.log2 := by
    show (-((51 - n.log2 : Nat) + 1 : Int) + 1075).toNat = 1023 + n.log2
    omega
  rw [nearestBits]
  dsimp only
  rw [if_neg positive, unitExponent_of_small positive small, inUnits]
  dsimp only
  rw [roundHalfEven_one, if_neg (Nat.not_lt.mpr low), if_neg Bool.false_ne_true, Nat.zero_add,
    exponent]
  rfl

theorem isWhole_ofInt? {n : Nat} (positive : n ≠ 0) (float : ofInt? n = some x) : IsWhole x := by
  have stands := standing_ofInt? float
  obtain ⟨rfl, finite⟩ := ofInt?_natCast float
  have bits := toBits_nearest n 1
  have range : nearestBits false n 1 < infinityBits := by
    have stands' := standing_of_bits bits (nearestBits_le n 1)
    rw [stands, if_neg positive] at stands'
    by_cases below : nearestBits false n 1 < infinityBits
    · exact below
    · rw [if_neg below] at stands'
      split at stands' <;> cases stands'
  by_cases large : 52 ≤ n.log2
  · have heavy := le_nearestBits_of_large large
    have exponent : ((nearestBits false n 1 / 2 ^ 52 : Nat) : Int) - 1075 =
        .ofNat (nearestBits false n 1 / 2 ^ 52 - 1075) := by
      show _ = ((nearestBits false n 1 / 2 ^ 52 - 1075 : Nat) : Int)
      omega
    have binary := binary_of_bits bits (by omega) range
    rw [exponent] at binary
    exact isWhole_scaled (by omega) binary
  · have small : n.log2 < 52 := Nat.not_le.mp large
    have low := two_pow_le_mul positive small
    have high : n * 2 ^ (51 - n.log2 + 1) < 2 ^ 53 := by
      calc n * 2 ^ (51 - n.log2 + 1) < 2 ^ (n.log2 + 1) * 2 ^ (51 - n.log2 + 1) :=
            Nat.mul_lt_mul_of_pos_right Nat.lt_log2_self (Nat.two_pow_pos _)
        _ = 2 ^ (n.log2 + 1 + (51 - n.log2 + 1)) := (Nat.pow_add ..).symm
        _ = 2 ^ 53 := congrArg (2 ^ ·) (by omega)
    have value := nearestBits_of_small positive small
    have binary := binary_of_bits bits (by omega) range
    generalize nearestBits false n 1 = b at value binary range
    have significand : 2 ^ 52 + b % 2 ^ 52 = n * 2 ^ (51 - n.log2 + 1) := by omega
    have exponent : ((b / 2 ^ 52 : Nat) : Int) - 1075 = .negSucc (51 - n.log2) := by
      show _ = -((51 - n.log2 : Nat) + 1 : Int)
      omega
    rw [significand, exponent] at binary
    exact isWhole_divided (Nat.pos_of_ne_zero positive) binary

end Reattempt.Decimal
