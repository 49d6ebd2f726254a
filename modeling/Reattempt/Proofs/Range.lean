import Reattempt.Proofs.Floats

/-!
# The range of floats

What happens at the edge of the range: a product of finite floats may leave it but stays a number,
an integer beyond it has no float, and a power of what is not below one fails in no other way than
by leaving it.
-/

namespace Reattempt.Decimal

open Float.Model Float.Model.UnpackedFloat

variable {x y : Float}

/-! ### Products -/

theorem isNaN_unpack_pack {a : UnpackedFloat} (number : a.isNaN = false) :
    (UnpackedFloat.unpack Format.binary64 (UnpackedFloat.pack Format.binary64 a)).isNaN = false := by
  have of_exponent {sign exponent mantissa} (finite : exponent ≠ -1#_) :
      (UnpackedFloat.unpack Format.binary64 (packComponents Format.binary64 sign exponent mantissa)).isNaN = false := by
    rw [UnpackedFloat.unpack, unpackExponent_packComponents]
    rw [if_neg finite]
    split
    · split <;> rfl
    · rfl
  have of_infinity (sign : Sign) :
      (UnpackedFloat.unpack Format.binary64 (packedInfinity Format.binary64 sign)).isNaN = false := by
    simp [packedInfinity, UnpackedFloat.unpack, UnpackedFloat.isNaN]
  cases a with
  | notANumber => cases number
  | infinity sign => exact of_infinity sign
  | zero sign => exact of_exponent (by decide)
  | finite sign mantissa exponent positive =>
    rw [UnpackedFloat.pack]
    dsimp only
    split
    · exact of_infinity sign
    · next small =>
      split
      · refine of_exponent ?_
        have small : ¬ 2 ^ 11 ≤ (exponent + 1023 + 52).toNat + 1 := small
        rw [ne_eq, ← BitVec.toNat_inj, BitVec.toNat_ofNat]
        show ¬ (exponent + 1023 + 52).toNat % 2 ^ 11 = 2047
        omega
      · exact of_exponent (by decide)

theorem isNaN_roundWithAccuracy (sign : Sign) (mantissa : Nat) (exponent : Int)
    (accuracy : Accuracy) :
    (roundWithAccuracy Format.binary64 sign mantissa exponent accuracy).isNaN = false := by
  rw [roundWithAccuracy]
  dsimp only
  split <;> rfl

theorem isNaN_mul (left : x.isFinite = true) (right : y.isFinite = true) :
    (x * y).isNaN = false := by
  refine isNaN_unpack_pack ?_
  have left : x.toModel.unpack.isFinite = true := left
  have right : y.toModel.unpack.isFinite = true := right
  cases unpacked : x.toModel.unpack with
  | notANumber | infinity =>
    rw [unpacked] at left
    cases left
  | zero =>
    cases unpacked' : y.toModel.unpack with
    | notANumber | infinity =>
      rw [unpacked'] at right
      cases right
    | zero | finite => rfl
  | finite =>
    cases unpacked' : y.toModel.unpack with
    | notANumber | infinity =>
      rw [unpacked'] at right
      cases right
    | zero => rfl
    | finite => exact isNaN_roundWithAccuracy _ _ _ _

/-! ### Integers beyond all floats -/

theorem le_roundHalfEven (num den : Nat) : num / den ≤ roundHalfEven num den := by
  rw [roundHalfEven]
  split
  · exact Nat.le_refl _
  · split
    · exact Nat.le_succ _
    · split
      · exact Nat.le_refl _
      · exact Nat.le_succ _

variable {num : Nat}

theorem two_pow_le_div (large : 52 ≤ num.log2) : 2 ^ 52 ≤ num / 2 ^ (num.log2 - 52) := by
  have positive : num ≠ 0 := by
    rintro rfl
    cases large
  rw [Nat.le_div_iff_mul_le (Nat.two_pow_pos _), ← Nat.pow_add, Nat.add_sub_cancel' large]
  exact Nat.log2_self_le positive

theorem unitExponent_of_large (large : 52 ≤ num.log2) :
    unitExponent num 1 = .ofNat (num.log2 - 52) := by
  have guess : (num.log2 : Int) - (Nat.log2 1 : Nat) - 52 = .ofNat (num.log2 - 52) := by
    have : Nat.log2 1 = 0 := by decide
    rw [this]
    show _ = ((num.log2 - 52 : Nat) : Int)
    omega
  rw [unitExponent]
  dsimp only
  rw [guess, inUnits]
  dsimp only
  rw [Nat.one_mul, if_neg (Nat.not_lt.mpr (two_pow_le_div large))]
  exact Int.max_eq_right (by show (-1074 : Int) ≤ ((num.log2 - 52 : Nat) : Int); omega)

def rangeBits : Nat := 1024

def range : Nat := 2 ^ rangeBits

theorem range_pos : 0 < range := Nat.two_pow_pos rangeBits

theorem nearestBits_of_large (large : rangeBits ≤ num.log2) :
    nearestBits false num 1 = 2047 * 2 ^ 52 := by
  have large : 1024 ≤ num.log2 := large
  have wide : 52 ≤ num.log2 := by omega
  have positive : num ≠ 0 := by
    rintro rfl
    cases large
  have count : 2 ^ 52 ≤ roundHalfEven num (1 * 2 ^ (num.log2 - 52)) := by
    rw [Nat.one_mul]
    exact Nat.le_trans (two_pow_le_div wide) (le_roundHalfEven _ _)
  rw [nearestBits]
  dsimp only
  rw [if_neg positive, unitExponent_of_large wide, inUnits]
  dsimp only
  rw [if_neg (Nat.not_lt.mpr count), if_neg Bool.false_ne_true, Nat.zero_add]
  refine Nat.min_eq_right ?_
  have exponent : 2047 ≤ (Int.ofNat (num.log2 - 52) + 1075).toNat := by
    show 2047 ≤ (((num.log2 - 52 : Nat) : Int) + 1075).toNat
    omega
  exact Nat.le_trans (Nat.mul_le_mul_right _ exponent) (Nat.le_add_right _ _)

theorem ofInt?_eq_none {i : Int} (large : (range : Int) ≤ i) : ofInt? i = none := by
  have size : range ≤ i.natAbs := Int.ofNat_le.mp (Int.le_trans large Int.le_natAbs)
  have positive : ¬ i < 0 := Int.not_lt.mpr (Int.le_trans (Int.natCast_nonneg _) large)
  have digits : rangeBits ≤ i.natAbs.log2 :=
    (Nat.le_log2 (Nat.ne_of_gt (Nat.lt_of_lt_of_le range_pos size))).mpr size
  have infinite : (nearest (i < 0) i.natAbs 1).isInf = true := by
    rw [decide_eq_false positive, nearest, nearestBits_of_large digits]
    rfl
  rw [ofInt?, if_pos infinite]

/-! ### Powers -/

theorem ne_zero_of_not_below_one (least : compareInt? x 1 ≠ some .lt) (negative : Bool)
    (exponent : Int) : Binary.ofFloat x ≠ .finite negative 0 exponent := by
  intro zero
  refine least ?_
  rw [compareInt?, zero]
  cases exponent with
  | ofNat up =>
    refine congrArg some ?_
    rw [Int.natCast_zero, Int.neg_zero, ite_self, Int.zero_mul]
    rfl
  | negSucc down =>
    refine congrArg some (Int.compare_eq_lt.mpr ?_)
    rw [Int.natCast_zero, Int.neg_zero, ite_self, Int.one_mul]
    exact Int.pow_pos (by decide)

theorem not_beq_zero_of_not_below_one (least : compareInt? x 1 ≠ some .lt) :
    (x == 0.0) = false := by
  cases same : x == 0.0 with
  | false => rfl
  | true =>
    have compares := beq_iff_compare.mp same
    have classes := sameClass x
    have zero : (0.0 : Float).toModel.unpack = .zero .positive := by rfl
    rw [zero] at compares
    cases unpacked : x.toModel.unpack with
    | zero sign =>
      rw [unpacked] at classes
      cases binary : Binary.ofFloat x with
      | finite negative significand exponent =>
        rw [binary] at classes
        cases classes
        exact absurd binary (ne_zero_of_not_below_one least negative exponent)
      | infinite | notNumber =>
        rw [binary] at classes
        cases classes
    | notANumber =>
      rw [unpacked] at compares
      cases compares
    | infinity sign | finite sign =>
      rw [unpacked] at compares
      cases sign <;> cases compares

theorem powerInt_error {n : Int} {fault : PowerFault} (least : compareInt? x 1 ≠ some .lt)
    (fails : powerInt x n = .error fault) : fault = .outOfRange := by
  rw [powerInt] at fails
  dsimp only at fails
  split at fails
  · cases fails
  · split at fails
    · cases fails
    · cases fails
    · next negative significand exponent binary =>
      have positive : significand ≠ 0 := by
        rintro rfl
        exact ne_zero_of_not_below_one least negative exponent binary
      rw [if_neg positive] at fails
      split at fails
      · cases fails
      · split at fails
        · cases fails
          rfl
        · split at fails <;> cases fails

theorem powerFloat_error {fault : PowerFault} (least : compareInt? x 1 ≠ some .lt)
    (fails : powerFloat x y = .error fault) : fault = .outOfRange := by
  rw [powerFloat] at fails
  split at fails
  · cases fails
  · split at fails
    · cases fails
    · cases fails
    · split at fails
      · cases fails
      · split at fails
        · exact powerInt_error least fails
        · split at fails
          · cases fails
          · rw [not_beq_zero_of_not_below_one least, if_neg Bool.false_ne_true] at fails
            dsimp only at fails
            split at fails
            · cases fails
              rfl
            · cases fails

end Reattempt.Decimal

namespace Reattempt.Number

/-! ### Products and powers of numbers -/

variable {a b : Number} {x : Float} {i : Int} {n : Nat}

def product : Number → Number → Except Fault Number := combine (· * ·) (· * ·)

theorem toFloat_cases (a : Number) :
    (∃ x, a.toFloat = .ok x) ∨ a.toFloat = .error .integerTooLarge := by
  cases a with
  | binary x => exact .inl ⟨x, rfl⟩
  | whole i =>
    rw [toFloat]
    cases Decimal.ofInt? i with
    | none => exact .inr rfl
    | some x => exact .inl ⟨x, rfl⟩

theorem toFloat_of_large (large : (Decimal.range : Int) ≤ i) :
    (whole i).toFloat = .error .integerTooLarge := by
  rw [toFloat, Decimal.ofInt?_eq_none large]

theorem product_of_float (mixed : ∀ i j, a = .whole i → b ≠ .whole j) :
    a.product b = a.toFloat >>= fun x => b.toFloat >>= fun y => pure (binary (x * y)) := by
  cases a with
  | binary x => rfl
  | whole i =>
    cases b with
    | binary y => rfl
    | whole j => exact absurd rfl (mixed i j rfl)

/-- A product fails only if a whole number in it is beyond the range. -/
theorem product_error {fault : Fault} (fails : a.product b = .error fault) :
    fault.kind = Kind.overflowError := by
  by_cases both : ∃ i j, a = .whole i ∧ b = .whole j
  · obtain ⟨i, j, rfl, rfl⟩ := both
    cases fails
  · rw [product_of_float fun i j left right => both ⟨i, j, left, right⟩] at fails
    rcases toFloat_cases a with ⟨x, left⟩ | large
    · rcases toFloat_cases b with ⟨y, right⟩ | large
      · rw [left, right] at fails
        cases fails
      · rw [left, large] at fails
        cases fails
        rfl
    · rw [large] at fails
      cases fails
      rfl

theorem product_of_large (x : Float) (large : (Decimal.range : Int) ≤ i) :
    (binary x).product (whole i) = .error .integerTooLarge := by
  have fails : (binary x).product (whole i) =
      (whole i).toFloat >>= fun y => pure (binary (x * y)) := rfl
  rw [fails, toFloat_of_large large]
  rfl

theorem product_one (finite : x.isFinite = true) :
    (binary x).product (whole 1) = .ok (binary (x * 1.0)) ∧ (x * 1.0).isNaN = false :=
  ⟨rfl, Decimal.isNaN_mul finite (by decide)⟩

theorem power_of_float (x : Float) (n : Nat) :
    (binary x).power (.whole n) = (whole n).toFloat >>= fun y => floatPower x y := rfl

theorem power_of_large (x : Float) (large : Decimal.range ≤ n) :
    (binary x).power (.whole n) = .error .integerTooLarge := by
  rw [power_of_float, toFloat_of_large (Int.ofNat_le.mpr large)]
  rfl

theorem power_error {fault : Fault} (least : a.compare? (.whole 1) ≠ some .lt)
    (fails : a.power (.whole n) = .error fault) : fault.kind = Kind.overflowError := by
  cases a with
  | whole i => cases fails
  | binary x =>
    rw [power_of_float] at fails
    rcases toFloat_cases (whole n) with ⟨y, float⟩ | large
    · rw [float] at fails
      have fails : floatPower x y = .error fault := fails
      rw [floatPower] at fails
      cases result : Decimal.powerFloat x y with
      | ok z =>
        rw [result] at fails
        cases fails
      | error cause =>
        rw [result, Decimal.powerFloat_error least result] at fails
        cases fails
        rfl
    · rw [large] at fails
      cases fails
      rfl

theorem wholePower_of_two_le (large : 2 ≤ n) (m : Nat) : wholePower n m = (n ^ m : Nat) := by
  have positive : ¬ (n : Int) < 0 := by omega
  rw [wholePower, if_neg (by omega), if_neg (by omega)]
  dsimp only
  rw [if_neg (by simp [positive]), Int.natAbs_natCast]

end Reattempt.Number
