import Reattempt.Proofs.Budget
import Reattempt.Proofs.Nearest

/-!
# Powers of what is not below one

The parts of a power are kept to a guard width. Cutting them keeps the position of the first
digit, so a power of what is not below one is computed as such, and so is the float for it.
-/

namespace Reattempt.Decimal

open Float.Model Float.Model.UnpackedFloat

variable {x y : Float}

/-! ### Parts of a power -/

/-- A significand times a power of two is not below one. -/
def IsHigh (significand : Nat) (exponent : Int) : Prop :=
  significand ≠ 0 ∧ 0 ≤ significand.log2 + exponent

theorem le_log2_mul {a b : Nat} (left : a ≠ 0) (right : b ≠ 0) :
    a.log2 + b.log2 ≤ (a * b).log2 := by
  rw [Nat.le_log2 (Nat.mul_ne_zero left right), Nat.pow_add]
  exact Nat.mul_le_mul (Nat.log2_self_le left) (Nat.log2_self_le right)

theorem IsHigh.mul {a b : Nat} {e f : Int} (left : IsHigh a e) (right : IsHigh b f) :
    IsHigh (a * b) (e + f) := by
  have digits := le_log2_mul left.1 right.1
  have := left.2
  have := right.2
  exact ⟨Nat.mul_ne_zero left.1 right.1, by omega⟩

theorem IsHigh.cut {a : Nat} {e : Int} (high : IsHigh a e) :
    IsHigh (cut a e).1 (cut a e).2 := by
  obtain ⟨positive, first⟩ := high
  have guard : guardBits = 320 := rfl
  rw [Decimal.cut]
  -- Fewer digits are cut than there are, so the first one stays where it is.
  generalize excess : a.log2 + 1 - guardBits = n
  have narrow : n ≤ a.log2 := by omega
  have below : 2 ^ n ≤ a :=
    Nat.le_trans (Nat.pow_le_pow_right (by decide) narrow) (Nat.log2_self_le positive)
  have rest : a / 2 ^ n ≠ 0 := Nat.ne_of_gt (Nat.div_pos below (Nat.two_pow_pos n))
  have digits : a.log2 - n ≤ (a / 2 ^ n).log2 := by
    rw [Nat.le_log2 rest, Nat.le_div_iff_mul_le (Nat.two_pow_pos n), ← Nat.pow_add,
      Nat.sub_add_cancel narrow]
    exact Nat.log2_self_le positive
  refine ⟨rest, ?_⟩
  show 0 ≤ ((a / 2 ^ n).log2 : Int) + (e + n)
  omega

/-- The invariant of repeated squaring. -/
theorem IsHigh.powerParts {significand : Nat} {exponent : Int}
    (high : IsHigh significand exponent) (fuel n : Nat) :
    IsHigh (powerParts significand exponent fuel n).1
      (powerParts significand exponent fuel n).2 := by
  have one : IsHigh 1 0 := ⟨by decide, by decide⟩
  induction fuel generalizing n with
  | zero => exact one
  | succ fuel ih =>
    rw [Decimal.powerParts]
    by_cases none : n = 0
    · rw [if_pos none]
      exact one
    · rw [if_neg none]
      have square := ((ih (n / 2)).mul (ih (n / 2))).cut
      rw [← Int.two_mul] at square
      dsimp only
      by_cases even : n % 2 = 0
      · rw [if_pos even]
        exact square
      · rw [if_neg even]
        exact (square.mul high).cut

theorem IsHigh.nearestScaled {significand : Nat} {exponent : Int}
    (high : IsHigh significand exponent) :
    2 ≤ (nearestScaled false false significand exponent).toBits.toNat ∧
      (nearestScaled false false significand exponent).toBits.toNat ≤ infinityBits := by
  obtain ⟨positive, first⟩ := high
  have quotient {num den : Nat} (some : 0 < den) (least : den ≤ num) :
      2 ≤ (nearest false num den).toBits.toNat ∧
        (nearest false num den).toBits.toNat ≤ infinityBits := by
    rw [toBits_nearest]
    exact ⟨two_le_nearestBits some least, nearestBits_le num den⟩
  rw [Decimal.nearestScaled]
  simp only [Bool.false_eq_true, if_false]
  by_cases large : 1100 < (significand.log2 : Int) + exponent
  · rw [if_pos large]
    exact quotient Nat.one_pos (Nat.two_pow_pos 1100)
  · rw [if_neg large, if_neg (by omega)]
    cases exponent with
    | ofNat up =>
      exact quotient Nat.one_pos (Nat.mul_pos (Nat.pos_of_ne_zero positive) (Nat.two_pow_pos up))
    | negSucc down =>
      have digits : down + 1 ≤ significand.log2 := by
        have : 0 ≤ (significand.log2 : Int) + -((down : Int) + 1) := first
        omega
      have least : 1 * 2 ^ (down + 1) ≤ significand := by
        rw [Nat.one_mul]
        exact (Nat.le_log2 positive).mp digits
      exact quotient (by rw [Nat.one_mul]; exact Nat.two_pow_pos _) least

/-! ### Powers of floats -/

theorem standing_of_high_bits (low : 1 ≤ x.toBits.toNat) (range : x.toBits.toNat ≤ infinityBits)
    (finite : x.isInf = false) : standing x = .above := by
  have stands := standing_of_bits rfl range
  rw [if_neg (by omega)] at stands
  split at stands
  · exact stands
  · rw [isInf_of_infinite stands] at finite
    cases finite

theorem isInf_of_isFinite (finite : x.isFinite = true) : x.isInf = false := by
  have finite : x.toModel.unpack.isFinite = true := finite
  show x.toModel.unpack.isInf = false
  cases unpacked : x.toModel.unpack with
  | infinity sign =>
    rw [unpacked] at finite
    cases finite
  | _ => rfl

theorem standing_settled (low : 2 ≤ x.toBits.toNat) (range : x.toBits.toNat ≤ infinityBits)
    (finite : x.isInf = false) : standing (settled x y) = .above := by
  have below : x.toBits.toNat < infinityBits := by
    refine Nat.lt_of_le_of_ne range fun same => ?_
    have stands := standing_of_bits same (Nat.le_refl _)
    rw [if_neg (by decide), if_neg (Nat.lt_irrefl _)] at stands
    rw [isInf_of_infinite stands] at finite
    cases finite
  rw [settled]
  split
  · next close =>
    simp only [Bool.and_eq_true, decide_eq_true_eq] at close
    obtain ⟨⟨settles, above⟩, near⟩ := close
    exact standing_of_high_bits (by omega) (by omega) (isInf_of_isFinite settles)
  · exact standing_of_high_bits (by omega) range finite

theorem standing_abs (infinite : standing x = .infinite) : standing x.abs = .infinite := by
  show standingOf (repacked x.toModel.unpack.abs) = .infinite
  rw [unpack_of_infinite infinite]
  exact standing_packedInfinity .positive

theorem binary_of_not_below_one (least : compareInt? x 1 ≠ some .lt) :
    Binary.ofFloat x = .notNumber ∨ Binary.ofFloat x = .infinite false ∨
      ∃ significand exponent, Binary.ofFloat x = .finite false significand exponent ∧
        IsHigh significand exponent := by
  rw [compareInt?] at least
  cases binary : Binary.ofFloat x with
  | notNumber => exact .inl rfl
  | infinite negative =>
    rw [binary] at least
    cases negative with
    | true => exact absurd rfl least
    | false => exact .inr (.inl rfl)
  | finite negative significand exponent =>
    rw [binary] at least
    cases exponent with
    | ofNat up =>
      have scale : (0 : Int) < 2 ^ up := Int.pow_pos (by decide)
      have above : 1 ≤ (if negative then -(significand : Int) else significand) * 2 ^ up := by
        refine Int.not_lt.mp fun below => least (congrArg some (Int.compare_eq_lt.mpr below))
      have signed : 0 < (if negative then -(significand : Int) else significand) :=
        Int.pos_of_mul_pos_left (by omega) scale
      cases negative with
      | true =>
        have signed : 0 < -(significand : Int) := signed
        omega
      | false =>
        have signed : 0 < (significand : Int) := signed
        exact .inr (.inr ⟨_, _, rfl, by omega, Int.add_nonneg (Int.natCast_nonneg _)
          (Int.natCast_nonneg up)⟩)
    | negSucc down =>
      have above : 1 * 2 ^ (down + 1) ≤ (if negative then -(significand : Int) else significand) := by
        refine Int.not_lt.mp fun below => least (congrArg some (Int.compare_eq_lt.mpr below))
      have scale : (0 : Int) < 2 ^ (down + 1) := Int.pow_pos (by decide)
      rw [Int.one_mul] at above
      cases negative with
      | true =>
        have above : 2 ^ (down + 1) ≤ -(significand : Int) := above
        omega
      | false =>
        have above : (2 : Int) ^ (down + 1) ≤ significand := above
        have above : 2 ^ (down + 1) ≤ significand := by exact_mod_cast above
        have some : significand ≠ 0 := by
          have := Nat.two_pow_pos (down + 1)
          omega
        have digits := (Nat.le_log2 some).mpr above
        refine .inr (.inr ⟨_, _, rfl, some, ?_⟩)
        show 0 ≤ (significand.log2 : Int) + -((down : Int) + 1)
        omega

theorem standing_powerInt {k : Nat} {z : Float} (least : compareInt? x 1 ≠ some .lt)
    (positive : 0 < k) (ends : powerInt x k = .ok z) : standing z = standing x := by
  have some : ¬ (k : Int) = 0 := by omega
  have forward : 0 < (k : Int) := by omega
  have stands := standing_ofFloat x
  rw [powerInt] at ends
  dsimp only at ends
  rw [if_neg some] at ends
  rcases binary_of_not_below_one least with binary | binary | ⟨significand, exponent, binary, high⟩
  · rw [binary] at ends
    cases ends
    rfl
  · rw [binary] at ends stands
    dsimp only at ends
    rw [if_pos forward] at ends
    cases ends
    split
    · rfl
    · rw [← stands]
      exact standing_abs stands.symm
  · have above : standing x = .above := by
      rw [← stands, binary, Binary.standing, if_neg high.1]
      rfl
    have backward : decide ((k : Int) < 0) = false := decide_eq_false (by omega)
    rw [binary] at ends
    simp only [if_neg high.1, Bool.false_and, backward] at ends
    rw [above]
    split at ends
    · cases ends
      rfl
    · -- However the digits were cut on the way, the parts of the result are not below one.
      have parts := high.powerParts (Nat.log2 (min (k : Int).natAbs (2 ^ 80)) + 1)
        (min (k : Int).natAbs (2 ^ 80))
      obtain ⟨low, range⟩ := parts.nearestScaled
      split at ends
      · cases ends
      · next finite =>
        have finite := Bool.eq_false_iff.mpr finite
        split at ends
        · cases ends
          exact standing_of_high_bits (by omega) range finite
        · cases ends
          exact standing_settled low range finite

theorem powerFloat_of_floor {k : Int} (part : floor? y = some k)
    (same : compareInt? y k = some .eq) :
    powerFloat x y = if x == 1.0 then .ok 1.0 else powerInt x k := by
  rw [powerFloat]
  cases binary : Binary.ofFloat y with
  | notNumber | infinite =>
    rw [floor?, truncate?, binary] at part
    cases part
  | finite =>
    rw [part]
    dsimp only
    rw [same]
    rfl

theorem standing_of_beq_one (one : (x == 1.0) = true) : standing x = .above := by
  have compares := beq_iff_compare.mp one
  have unit : (1.0 : Float).toModel.unpack = .finite .positive (2 ^ 52) (-52) (by decide) := by rfl
  rw [unit] at compares
  rw [standing]
  cases unpacked : x.toModel.unpack with
  | notANumber =>
    rw [unpacked] at compares
    cases compares
  | zero sign =>
    rw [unpacked] at compares
    cases compares
  | infinity sign | finite sign =>
    rw [unpacked] at compares
    cases sign
    · cases compares
    · first
      | rfl
      | cases compares

theorem standing_powerFloat {z : Float} (least : compareInt? x 1 ≠ some .lt) (whole : IsWhole y)
    (ends : powerFloat x y = .ok z) : standing z = standing x := by
  obtain ⟨k, positive, part, same⟩ := whole
  rw [powerFloat_of_floor part same] at ends
  split at ends
  · next one =>
    cases ends
    rw [standing_of_beq_one one]
    rfl
  · exact standing_powerInt least positive ends

theorem powerFloat_zero (x : Float) : powerFloat x (nearest false 0 1) = .ok 1.0 := by
  have part : floor? (nearest false 0 1) = some 0 := by decide +kernel
  have same : compareInt? (nearest false 0 1) 0 = some .eq := by decide +kernel
  rw [powerFloat_of_floor part same, powerInt]
  exact ite_self _

end Reattempt.Decimal

namespace Reattempt.Number

/-! ### Numbers -/

variable {a b c : Number} {x : Float} {n : Nat}

def standing : Number → Standing
  | whole i => if i < 0 then .below else if i = 0 then .zero else .above
  | binary x => Decimal.standing x

theorem compare?_zero (a : Number) : a.compare? (.whole 0) = a.standing.order? := by
  cases a with
  | binary x => exact Decimal.compareInt?_zero x
  | whole i =>
    rw [compare?, standing]
    rcases Int.lt_trichotomy i 0 with less | rfl | more
    · rw [Int.compare_eq_lt.mpr less, if_pos less]
      rfl
    · rfl
    · rw [Int.compare_eq_gt.mpr more, if_neg (by omega), if_neg (by omega)]
      rfl

theorem isNaN_iff (a : Number) : a.isNaN = true ↔ a.standing = .nowhere := by
  cases a with
  | whole i =>
    rw [standing]
    split
    · exact ⟨nofun, nofun⟩
    · split <;> exact ⟨nofun, nofun⟩
  | binary x =>
    rw [isNaN, standing, Decimal.standing]
    show x.toModel.unpack.isNaN = true ↔ _
    cases x.toModel.unpack with
    | notANumber => exact ⟨fun _ => rfl, fun _ => rfl⟩
    | zero sign => exact ⟨nofun, nofun⟩
    | infinity sign | finite sign => cases sign <;> exact ⟨nofun, nofun⟩

theorem natural_of_whole {i : Int} (upward : (whole i).standing ≠ .below) : ∃ n : Nat, i = n := by
  have least : ¬ i < 0 := fun less => upward (by rw [standing, if_pos less])
  exact ⟨i.toNat, by omega⟩

theorem standing_natural (n : Nat) :
    (whole n).standing = if n = 0 then .zero else .above := by
  rw [standing, if_neg (by omega)]
  by_cases none : n = 0
  · rw [if_pos none, if_pos (by omega)]
  · rw [if_neg none, if_neg (by omega)]

theorem standing_toFloat (upward : a.standing ≠ .below) (float : a.toFloat = .ok x) :
    Decimal.standing x = a.standing := by
  cases a with
  | binary y =>
    cases float
    rfl
  | whole i =>
    obtain ⟨n, rfl⟩ := natural_of_whole upward
    rw [toFloat] at float
    cases near : Decimal.ofInt? n with
    | none =>
      rw [near] at float
      cases float
    | some y =>
      rw [near] at float
      cases float
      rw [Decimal.standing_ofInt? near, standing_natural]

theorem standing_whole_ne (i : Int) :
    (whole i).standing ≠ .nowhere ∧ (whole i).standing ≠ .infinite := by
  rw [standing]
  split
  · exact ⟨nofun, nofun⟩
  · split <;> exact ⟨nofun, nofun⟩

theorem combine_cases {exact_ : Int → Int → Int} {rounded : Float → Float → Float}
    (combined : a.combine exact_ rounded b = .ok c) :
    (∃ i j, a = .whole i ∧ b = .whole j ∧ c = .whole (exact_ i j)) ∨
      ∃ x y, a.toFloat = .ok x ∧ b.toFloat = .ok y ∧ c = .binary (rounded x y) := by
  have floats (combined : (a.toFloat >>= fun x => b.toFloat >>= fun y =>
      pure (binary (rounded x y))) = .ok c) :
      ∃ x y, a.toFloat = .ok x ∧ b.toFloat = .ok y ∧ c = .binary (rounded x y) := by
    obtain ⟨x, float, combined⟩ := ok_of_bind combined
    obtain ⟨y, float', combined⟩ := ok_of_bind combined
    cases combined
    exact ⟨x, y, float, float', rfl⟩
  cases a with
  | binary x => exact .inr (floats combined)
  | whole i =>
    cases b with
    | binary y => exact .inr (floats combined)
    | whole j =>
      cases combined
      exact .inl ⟨i, j, rfl, rfl, rfl⟩

theorem standing_product (left : a.standing ≠ .below) (right : b.standing ≠ .below)
    (product : a.combine (· * ·) (· * ·) b = .ok c) :
    c.standing ≠ .below ∧
      (c.standing = .nowhere ↔ Standing.losesNumber a.standing b.standing) := by
  rcases combine_cases product with ⟨i, j, rfl, rfl, rfl⟩ | ⟨x, y, float, float', rfl⟩
  · obtain ⟨m, rfl⟩ := natural_of_whole left
    obtain ⟨n, rfl⟩ := natural_of_whole right
    have upward : (whole ((m : Int) * n)).standing ≠ .below := by
      rw [← Int.natCast_mul, standing_natural]
      split <;> exact nofun
    refine ⟨upward, iff_of_false (standing_whole_ne _).1 ?_⟩
    simp [Standing.losesNumber, standing_whole_ne]
  · have first := standing_toFloat left float
    have second := standing_toFloat right float'
    rw [← first] at left ⊢
    rw [← second] at right ⊢
    exact Decimal.standing_mul left right

theorem standing_sum (left : a.standing ≠ .below) (right : b.standing ≠ .below)
    (sum : a.combine (· + ·) (· + ·) b = .ok c) :
    c.standing ≠ .below ∧
      (c.standing = .nowhere ↔ a.standing = .nowhere ∨ b.standing = .nowhere) := by
  rcases combine_cases sum with ⟨i, j, rfl, rfl, rfl⟩ | ⟨x, y, float, float', rfl⟩
  · obtain ⟨m, rfl⟩ := natural_of_whole left
    obtain ⟨n, rfl⟩ := natural_of_whole right
    have upward : (whole ((m : Int) + n)).standing ≠ .below := by
      rw [← Int.natCast_add, standing_natural]
      split <;> exact nofun
    refine ⟨upward, iff_of_false (standing_whole_ne _).1 ?_⟩
    simp [standing_whole_ne]
  · have first := standing_toFloat left float
    have second := standing_toFloat right float'
    rw [← first] at left ⊢
    rw [← second] at right ⊢
    exact Decimal.standing_add left right

theorem standing_of_not_below_one (least : a.compare? (.whole 1) ≠ some .lt) :
    a.standing = .above ∨ a.standing = .infinite ∨ a.standing = .nowhere := by
  cases a with
  | whole i =>
    have positive : ¬ i < 1 := fun less => least (congrArg some (Int.compare_eq_lt.mpr less))
    left
    rw [standing, if_neg (by omega), if_neg (by omega)]
  | binary x =>
    have stands := Decimal.standing_ofFloat x
    rw [standing, ← stands]
    rcases Decimal.binary_of_not_below_one least with binary | binary | ⟨_, _, binary, high⟩
    · rw [binary]
      exact .inr (.inr rfl)
    · rw [binary]
      exact .inr (.inl rfl)
    · rw [binary, Decimal.Binary.standing, if_neg high.1]
      exact .inl rfl

theorem standing_power (least : b.compare? (.whole 1) ≠ some .lt)
    (power : b.power (.whole n) = .ok c) :
    c.standing = if n = 0 then .above else b.standing := by
  cases b with
  | whole i =>
    have positive : ¬ i < 1 := fun less => least (congrArg some (Int.compare_eq_lt.mpr less))
    cases power
    have stands : (whole i).standing = .above := by
      rw [standing, if_neg (by omega), if_neg (by omega)]
    have above : 0 < wholePower i n := by
      rw [wholePower]
      split
      · decide
      · rw [if_neg (by omega), if_neg (by simp; omega)]
        exact Int.natCast_pos.mpr (Nat.pow_pos (by omega))
    rw [stands, ite_self, standing, if_neg (by omega), if_neg (by omega)]
  | binary x =>
    rw [power_of_float] at power
    obtain ⟨y, float, power⟩ := ok_of_bind power
    rw [toFloat] at float
    cases near : Decimal.ofInt? n with
    | none =>
      rw [near] at float
      cases float
    | some y' =>
      rw [near] at float
      cases float
      rw [floatPower] at power
      cases result : Decimal.powerFloat x y with
      | error fault =>
        rw [result] at power
        cases fault <;> cases power
      | ok z =>
        rw [result] at power
        cases power
        by_cases none : n = 0
        · subst none
          rw [(Decimal.ofInt?_natCast near).1, Decimal.powerFloat_zero] at result
          cases result
          rfl
        · rw [if_neg none]
          exact Decimal.standing_powerFloat least (Decimal.isWhole_ofInt? none near) result

end Reattempt.Number
