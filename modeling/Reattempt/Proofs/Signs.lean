import Reattempt.Proofs.Range

/-!
# Signs of floats

Where a float stands to zero, and what becomes of that in products, sums and roundings. Products
and sums of what is not below zero are not below zero; the one new way to cease to be a number is
a product of zero and infinity.
-/

namespace Reattempt

/-- Where a number stands to zero. What is above zero is finite or infinite. -/
inductive Standing where
  | below
  | zero
  | above
  | infinite
  | nowhere
  deriving DecidableEq

def Standing.order? : Standing → Option Ordering
  | below => some .lt
  | zero => some .eq
  | above | infinite => some .gt
  | nowhere => none

def Standing.losesNumber (a b : Standing) : Prop :=
  a = .nowhere ∨ b = .nowhere ∨ (a = .zero ∧ b = .infinite) ∨ (a = .infinite ∧ b = .zero)

namespace Decimal

open Float.Model Float.Model.UnpackedFloat

def standingOf : UnpackedFloat → Standing
  | .notANumber => .nowhere
  | .zero _ => .zero
  | .infinity .positive => .infinite
  | .finite .positive .. => .above
  | .infinity .negative | .finite .negative .. => .below

def standing (x : Float) : Standing := standingOf x.toModel.unpack

/-! ### Signs and bits -/

theorem unpackSign_toNat (bits : BitVec Format.binary64.numBits) :
    (unpackSign bits).toNat = bits.toNat / 2 ^ 63 % 2 := by
  simp [unpackSign, BitVec.extractLsb_toNat, Nat.shiftRight_eq_div_pow]

theorem sign_of_bits (bits : BitVec Format.binary64.numBits) :
    Sign.ofBitVec (unpackSign bits) =
      if bits.toNat / 2 ^ 63 == 1 then .negative else .positive := by
  have small : bits.toNat / 2 ^ 63 < 2 := by
    have := bits.isLt
    have : bits.toNat < 2 ^ 64 := this
    omega
  have clear : unpackSign bits = 0#1 ↔ bits.toNat / 2 ^ 63 = 0 := by
    rw [← BitVec.toNat_inj, unpackSign_toNat, Nat.mod_eq_of_lt small]
    rfl
  rw [Sign.ofBitVec]
  by_cases low : bits.toNat / 2 ^ 63 = 0
  · rw [if_pos (clear.mpr low), low]
    rfl
  · have high : bits.toNat / 2 ^ 63 = 1 := by omega
    rw [if_neg (fun h => low (clear.mp h)), high]
    rfl

variable {x y : Float}

def Binary.standing : Binary → Standing
  | .notNumber => .nowhere
  | .infinite negative => if negative then .below else .infinite
  | .finite negative significand _ =>
    if significand = 0 then .zero else if negative then .below else .above

theorem standing_ofFloat (x : Float) : (Binary.ofFloat x).standing = standing x := by
  let bits : BitVec Format.binary64.numBits := x.toModel.toBits.toBitVec
  have largest : unpackExponent bits = -1#_ ↔ x.toBits.toNat / 2 ^ 52 % 2 ^ 11 = 2047 := by
    rw [← BitVec.toNat_inj, unpackExponent_toNat]
    rfl
  have least : unpackExponent bits = 0#_ ↔ x.toBits.toNat / 2 ^ 52 % 2 ^ 11 = 0 := by
    rw [← BitVec.toNat_inj, unpackExponent_toNat]
    rfl
  have fraction : unpackMantissa bits = 0#_ ↔ x.toBits.toNat % 2 ^ 52 = 0 := by
    rw [← BitVec.toNat_inj, unpackMantissa_toNat]
    rfl
  have sign : Sign.ofBitVec (unpackSign bits) =
      if x.toBits.toNat / 2 ^ 63 == 1 then .negative else .positive := sign_of_bits bits
  show _ = standingOf (UnpackedFloat.unpack Format.binary64 bits)
  rw [Binary.ofFloat, UnpackedFloat.unpack]
  simp only [largest, least, fraction, sign]
  generalize (x.toBits.toNat / 2 ^ 63 == 1) = negative
  split
  · split
    · cases negative <;> rfl
    · rfl
  · split
    · split
      · next none =>
        rw [none]
        rfl
      · next some =>
        rw [Binary.standing, if_neg some]
        cases negative <;> rfl
    · rw [Binary.standing, if_neg (by omega)]
      cases negative <;> rfl

theorem unpack_of_infinite (infinite : standing x = .infinite) :
    x.toModel.unpack = .infinity .positive := by
  rw [standing] at infinite
  cases unpacked : x.toModel.unpack with
  | infinity sign =>
    rw [unpacked] at infinite
    cases sign with
    | positive => rfl
    | negative => cases infinite
  | notANumber | zero =>
    rw [unpacked] at infinite
    cases infinite
  | finite sign =>
    rw [unpacked] at infinite
    cases sign <;> cases infinite

theorem binary_of_infinite (infinite : standing x = .infinite) :
    Binary.ofFloat x = .infinite false := by
  rw [← standing_ofFloat] at infinite
  cases binary : Binary.ofFloat x with
  | notNumber =>
    rw [binary] at infinite
    cases infinite
  | infinite negative =>
    rw [binary] at infinite
    cases negative with
    | false => rfl
    | true => cases infinite
  | finite negative significand exponent =>
    rw [binary, Binary.standing] at infinite
    split at infinite
    · cases infinite
    · cases negative <;> cases infinite

theorem compare_scaled (signed : Int) (size : Nat) (positive : 0 < size) :
    compare (signed * size) 0 = compare signed 0 := by
  have scale : (0 : Int) < size := Int.natCast_pos.mpr positive
  rcases Int.lt_trichotomy signed 0 with less | rfl | more
  · rw [Int.compare_eq_lt.mpr less, Int.compare_eq_lt.mpr (Int.mul_neg_of_neg_of_pos less scale)]
  · rw [Int.zero_mul]
  · rw [Int.compare_eq_gt.mpr more, Int.compare_eq_gt.mpr (Int.mul_pos more scale)]

theorem compareInt?_zero (x : Float) : compareInt? x 0 = (standing x).order? := by
  rw [← standing_ofFloat, compareInt?]
  cases Binary.ofFloat x with
  | notNumber => rfl
  | infinite negative => cases negative <;> rfl
  | finite negative significand exponent =>
    have same : (Binary.finite negative significand exponent).standing.order? =
        some (compare (if negative then -(significand : Int) else significand) 0) := by
      rw [Binary.standing]
      by_cases none : significand = 0
      · rw [if_pos none, none]
        cases negative <;> rfl
      · rw [if_neg none]
        cases negative with
        | false =>
          exact congrArg some (Int.compare_eq_gt.mpr (show (0 : Int) < significand by omega)).symm
        | true =>
          exact congrArg some (Int.compare_eq_lt.mpr (show -(significand : Int) < 0 by omega)).symm
    rw [same]
    cases exponent with
    | ofNat up =>
      have scaled := compare_scaled (if negative then -(significand : Int) else significand)
        (2 ^ up) (Nat.two_pow_pos up)
      exact congrArg some (by rw [← scaled]; push_cast; rfl)
    | negSucc down =>
      dsimp only
      rw [Int.zero_mul]

/-! ### Packing -/

theorem unpackSign_packComponents (sign : Sign) (exponent : BitVec Format.binary64.exponentBits)
    (mantissa : BitVec Format.binary64.mantissaBitsWithoutImplicit) :
    Sign.ofBitVec (unpackSign (packComponents Format.binary64 sign exponent mantissa)) = sign := by
  have same : unpackSign (packComponents Format.binary64 sign exponent mantissa) =
      sign.toBitVec := by
    simp only [unpackSign, packComponents, BitVec.extractLsb]
    ext i hi
    grind
  rw [same]
  cases sign <;> rfl

theorem packComponents_unpack (bits : BitVec Format.binary64.numBits) :
    packComponents Format.binary64 (Sign.ofBitVec (unpackSign bits)) (unpackExponent bits)
      (unpackMantissa bits) = bits := by
  have sign : (Sign.ofBitVec (unpackSign bits)).toBitVec = unpackSign bits := by
    generalize unpackSign bits = b
    revert b
    decide
  rw [packComponents, sign]
  simp only [unpackSign, unpackExponent, unpackMantissa, BitVec.extractLsb]
  ext i hi
  grind

def repacked (a : UnpackedFloat) : UnpackedFloat :=
  UnpackedFloat.unpack Format.binary64 (UnpackedFloat.pack Format.binary64 a)

theorem standing_packed (sign : Sign) (exponent : BitVec Format.binary64.exponentBits)
    (mantissa : BitVec Format.binary64.mantissaBitsWithoutImplicit) (number : exponent ≠ -1#_) :
    let stands := standingOf (UnpackedFloat.unpack Format.binary64
      (packComponents Format.binary64 sign exponent mantissa))
    stands ≠ .nowhere ∧ (sign = .positive → stands ≠ .below) := by
  rw [UnpackedFloat.unpack]
  simp only [unpackExponent_packComponents, unpackSign_packComponents,
    unpackMantissa_packComponents]
  rw [if_neg number]
  split
  · split <;> cases sign <;> simp [standingOf]
  · cases sign <;> simp [standingOf]

theorem standing_packedInfinity (sign : Sign) :
    standingOf (UnpackedFloat.unpack Format.binary64 (packedInfinity Format.binary64 sign)) =
      standingOf (.infinity sign) := by
  rw [packedInfinity, UnpackedFloat.unpack]
  simp only [unpackExponent_packComponents, unpackSign_packComponents,
    unpackMantissa_packComponents]
  rfl

/-- Packing may make a finite float zero or infinite, but it neither changes the side on which a
float stands nor makes or loses a number. -/
theorem standing_repacked (a : UnpackedFloat) :
    (standingOf (repacked a) = .nowhere ↔ standingOf a = .nowhere) ∧
      (standingOf a ≠ .below → standingOf (repacked a) ≠ .below) := by
  rw [repacked]
  cases a with
  | notANumber => exact ⟨⟨fun _ => rfl, fun _ => rfl⟩, fun _ => by decide⟩
  | infinity sign =>
    rw [UnpackedFloat.pack, standing_packedInfinity]
    exact ⟨Iff.rfl, id⟩
  | zero sign => cases sign <;> decide
  | finite sign mantissa exponent positive =>
    have finite : standingOf (.finite sign mantissa exponent positive) ≠ .nowhere := by
      cases sign <;> simp [standingOf]
    have upward (h : standingOf (.finite sign mantissa exponent positive) ≠ .below) :
        sign = .positive := by
      cases sign with
      | negative => exact absurd rfl h
      | positive => rfl
    have packed {exponent : BitVec Format.binary64.exponentBits}
        {fraction : BitVec Format.binary64.mantissaBitsWithoutImplicit} (number : exponent ≠ -1#_) :=
      standing_packed sign exponent fraction number
    rw [UnpackedFloat.pack]
    dsimp only
    split
    · rw [standing_packedInfinity]
      refine ⟨iff_of_false ?_ finite, fun h => ?_⟩
      · cases sign <;> simp [standingOf]
      · rw [upward h]
        decide
    · next small =>
      split
      · have small : ¬ 2 ^ 11 ≤ (exponent + 1023 + 52).toNat + 1 := small
        have number : BitVec.ofNat Format.binary64.exponentBits
            (exponent + Format.binary64.exponentBias +
              Format.binary64.mantissaBitsWithoutImplicit).toNat ≠ -1#_ := by
          rw [ne_eq, ← BitVec.toNat_inj, BitVec.toNat_ofNat]
          show ¬ (exponent + 1023 + 52).toNat % 2 ^ 11 = 2047
          omega
        exact ⟨iff_of_false (packed number).1 finite, fun h => (packed number).2 (upward h)⟩
      · have number : (0#_ : BitVec Format.binary64.exponentBits) ≠ -1#_ := by decide
        exact ⟨iff_of_false (packed number).1 finite, fun h => (packed number).2 (upward h)⟩

/-! ### Rounding, products and sums -/

theorem standing_round (sign : Sign) (mantissa : Nat) (exponent : Int) (accuracy : Accuracy) :
    let stands := standingOf (roundWithAccuracy Format.binary64 sign mantissa exponent accuracy)
    stands ≠ .nowhere ∧ (sign = .positive → stands ≠ .below) := by
  rw [roundWithAccuracy]
  dsimp only
  split <;> cases sign <;> simp [standingOf]

theorem standing_unpackedMul {a b : UnpackedFloat} (left : standingOf a ≠ .below)
    (right : standingOf b ≠ .below) :
    standingOf (UnpackedFloat.mul Format.binary64 a b) ≠ .below ∧
      (standingOf (UnpackedFloat.mul Format.binary64 a b) = .nowhere ↔
        Standing.losesNumber (standingOf a) (standingOf b)) := by
  have positive : Sign.positive * Sign.positive = Sign.positive := rfl
  cases a with
  | notANumber => simp [UnpackedFloat.mul, standingOf, Standing.losesNumber]
  | infinity s =>
    cases s with
    | negative => exact absurd rfl left
    | positive =>
      cases b with
      | notANumber | zero => simp [UnpackedFloat.mul, standingOf, Standing.losesNumber]
      | infinity t | finite t =>
        cases t with
        | negative => exact absurd rfl right
        | positive => simp [UnpackedFloat.mul, standingOf, Standing.losesNumber, positive]
  | zero s =>
    cases b with
    | notANumber | zero => simp [UnpackedFloat.mul, standingOf, Standing.losesNumber]
    | infinity t | finite t =>
      cases t with
      | negative => exact absurd rfl right
      | positive => simp [UnpackedFloat.mul, standingOf, Standing.losesNumber]
  | finite s m e =>
    cases s with
    | negative => exact absurd rfl left
    | positive =>
      cases b with
      | notANumber | zero => simp [UnpackedFloat.mul, standingOf, Standing.losesNumber]
      | infinity t =>
        cases t with
        | negative => exact absurd rfl right
        | positive => simp [UnpackedFloat.mul, standingOf, Standing.losesNumber, positive]
      | finite t m' e' =>
        cases t with
        | negative => exact absurd rfl right
        | positive =>
          obtain ⟨number, side⟩ := standing_round .positive (m * m') (e + e') .exact
          refine ⟨side rfl, iff_of_false number ?_⟩
          simp [standingOf, Standing.losesNumber]

theorem standing_mul (left : standing x ≠ .below) (right : standing y ≠ .below) :
    standing (x * y) ≠ .below ∧
      (standing (x * y) = .nowhere ↔ Standing.losesNumber (standing x) (standing y)) := by
  obtain ⟨number, side⟩ := standing_repacked
    (UnpackedFloat.mul Format.binary64 x.toModel.unpack y.toModel.unpack)
  obtain ⟨upward, loses⟩ := standing_unpackedMul left right
  exact ⟨side upward, number.trans loses⟩

theorem standing_normalize {mantissa : Int} (positive : 0 ≤ mantissa) (exponent : Int) :
    let stands := standingOf (UnpackedFloat.normalize Format.binary64 mantissa exponent .positive)
    stands ≠ .nowhere ∧ stands ≠ .below := by
  rw [UnpackedFloat.normalize]
  rcases Int.lt_trichotomy mantissa 0 with less | rfl | more
  · omega
  · rw [Int.compare_eq_eq.mpr rfl]
    exact ⟨nofun, nofun⟩
  · rw [Int.compare_eq_gt.mpr more]
    obtain ⟨number, side⟩ := standing_round .positive _ _ .exact
    exact ⟨number, side rfl⟩

theorem standing_unpackedAdd {a b : UnpackedFloat} (left : standingOf a ≠ .below)
    (right : standingOf b ≠ .below) :
    standingOf (UnpackedFloat.add Format.binary64 a b) ≠ .below ∧
      (standingOf (UnpackedFloat.add Format.binary64 a b) = .nowhere ↔
        standingOf a = .nowhere ∨ standingOf b = .nowhere) := by
  cases a with
  | notANumber => simp [UnpackedFloat.add, standingOf]
  | infinity s =>
    cases s with
    | negative => exact absurd rfl left
    | positive =>
      cases b with
      | notANumber | zero => simp [UnpackedFloat.add, standingOf]
      | infinity t | finite t =>
        cases t with
        | negative => exact absurd rfl right
        | positive => simp [UnpackedFloat.add, standingOf]
  | zero s =>
    cases b with
    | notANumber => simp [UnpackedFloat.add, standingOf]
    | zero t => cases s <;> cases t <;> simp [UnpackedFloat.add, standingOf]
    | infinity t | finite t =>
      cases t with
      | negative => exact absurd rfl right
      | positive => simp [UnpackedFloat.add, standingOf]
  | finite s m e =>
    cases s with
    | negative => exact absurd rfl left
    | positive =>
      cases b with
      | notANumber | zero => simp [UnpackedFloat.add, standingOf]
      | infinity t =>
        cases t with
        | negative => exact absurd rfl right
        | positive => simp [UnpackedFloat.add, standingOf]
      | finite t m' e' =>
        cases t with
        | negative => exact absurd rfl right
        | positive =>
          have sum : (0 : Int) ≤ Sign.apply .positive (decreaseExponent m e (min e e')).1 +
              Sign.apply .positive (decreaseExponent m' e' (min e e')).1 :=
            Int.add_nonneg (Int.natCast_nonneg _) (Int.natCast_nonneg _)
          obtain ⟨number, side⟩ := standing_normalize sum (min e e')
          rw [UnpackedFloat.add]
          exact ⟨side, iff_of_false number (by simp [standingOf])⟩

theorem standing_add (left : standing x ≠ .below) (right : standing y ≠ .below) :
    standing (x + y) ≠ .below ∧
      (standing (x + y) = .nowhere ↔ standing x = .nowhere ∨ standing y = .nowhere) := by
  obtain ⟨number, side⟩ := standing_repacked
    (UnpackedFloat.add Format.binary64 x.toModel.unpack y.toModel.unpack)
  obtain ⟨upward, loses⟩ := standing_unpackedAdd left right
  exact ⟨side upward, number.trans loses⟩

end Decimal

end Reattempt
