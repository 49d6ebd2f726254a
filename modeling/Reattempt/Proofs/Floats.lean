import Mathlib
import Reattempt.Value.Arithmetic

/-!
# Floats as numbers

How floats compare. A float that is a number compares with every other number, comparisons turn
around, and a finite float has a ceiling that stands in for it when it is compared with integers.
-/

namespace Reattempt.Decimal

open Float.Model Float.Model.UnpackedFloat

/-! ### Classes of floats -/

theorem unpackExponent_toNat (bits : BitVec Format.binary64.numBits) :
    (unpackExponent bits).toNat = bits.toNat / 2 ^ 52 % 2 ^ 11 := by
  simp [unpackExponent, BitVec.extractLsb_toNat, Nat.shiftRight_eq_div_pow]

theorem unpackMantissa_toNat (bits : BitVec Format.binary64.numBits) :
    (unpackMantissa bits).toNat = bits.toNat % 2 ^ 52 := by
  simp [unpackMantissa, BitVec.extractLsb_toNat]

/-- A float taken apart in two ways: both tell finite floats, infinities and what is no number from
each other. -/
inductive SameClass : Binary → UnpackedFloat → Prop where
  | infinite {negative sign} : SameClass (.infinite negative) (.infinity sign)
  | notNumber : SameClass .notNumber .notANumber
  | zero {negative exponent sign} : SameClass (.finite negative 0 exponent) (.zero sign)
  | finite {negative significand exponent sign mantissa power positive} :
      SameClass (.finite negative significand exponent) (.finite sign mantissa power positive)

theorem sameClass (x : Float) : SameClass (Binary.ofFloat x) x.toModel.unpack := by
  let bits : BitVec Format.binary64.numBits := x.toModel.toBits.toBitVec
  have largest : unpackExponent bits = -1#_ ↔ x.toBits.toNat / 2 ^ 52 % 2 ^ 11 = 2047 := by
    rw [← BitVec.toNat_inj, unpackExponent_toNat]
    rfl
  have least : unpackExponent bits = 0#_ ↔ x.toBits.toNat / 2 ^ 52 % 2 ^ 11 = 0 := by
    rw [← BitVec.toNat_inj, unpackExponent_toNat]
    rfl
  have fraction : unpackMantissa bits = 0#_ ↔ x.toBits.toNat % 2 ^ 52 = 0 := by
    rw [← BitVec.toNat_inj, unpackMantissa_toNat]
    rfl
  show SameClass _ (UnpackedFloat.unpack Format.binary64 bits)
  rw [Binary.ofFloat, UnpackedFloat.unpack]
  simp only [largest, least, fraction]
  split
  · split
    · exact .infinite
    · exact .notNumber
  · split
    · split
      · next none =>
        rw [none]
        exact .zero
      · exact .finite
    · exact .finite

variable {x y : Float}

theorem finite_of_isFinite (finite : x.isFinite = true) :
    ∃ negative significand exponent, Binary.ofFloat x = .finite negative significand exponent := by
  have finite : x.toModel.unpack.isFinite = true := finite
  have classes := sameClass x
  cases binary : Binary.ofFloat x with
  | finite negative significand exponent => exact ⟨_, _, _, rfl⟩
  | infinite | notNumber =>
    rw [binary] at classes
    cases unpacked : x.toModel.unpack
    all_goals
      rw [unpacked] at classes finite
      cases classes
    all_goals cases finite

theorem special_of_not_isFinite (special : x.isFinite = false) :
    (∃ negative, Binary.ofFloat x = .infinite negative) ∨ Binary.ofFloat x = .notNumber := by
  have special : x.toModel.unpack.isFinite = false := special
  have classes := sameClass x
  cases binary : Binary.ofFloat x with
  | infinite negative => exact .inl ⟨negative, rfl⟩
  | notNumber => exact .inr rfl
  | finite =>
    rw [binary] at classes
    cases unpacked : x.toModel.unpack <;> rw [unpacked] at classes special <;> cases classes <;>
      cases special

theorem notNumber_iff : Binary.ofFloat x = .notNumber ↔ x.isNaN = true := by
  show _ ↔ x.toModel.unpack.isNaN = true
  have classes := sameClass x
  cases binary : Binary.ofFloat x <;> cases unpacked : x.toModel.unpack <;>
    rw [binary, unpacked] at classes <;> cases classes <;> simp [UnpackedFloat.isNaN]

theorem isNaN_of_isFinite (finite : x.isFinite = true) : x.isNaN = false := by
  obtain ⟨negative, significand, exponent, binary⟩ := finite_of_isFinite finite
  cases nan : x.isNaN with
  | false => rfl
  | true =>
    rw [notNumber_iff.mpr nan] at binary
    cases binary

theorem compareInt?_isSome (number : x.isNaN = false) (i : Int) :
    ∃ outcome, compareInt? x i = some outcome := by
  rw [compareInt?]
  cases binary : Binary.ofFloat x with
  | finite negative significand exponent => cases exponent <;> exact ⟨_, rfl⟩
  | infinite => exact ⟨_, rfl⟩
  | notNumber =>
    rw [notNumber_iff.mp binary] at number
    cases number

/-! ### Ceilings -/

theorem ceiling_le_iff {signed size ceiling i : Int} (positive : 0 < size)
    (above : signed ≤ ceiling * size) (least : (ceiling - 1) * size < signed) :
    signed ≤ i * size ↔ ceiling ≤ i := by
  constructor
  · intro within
    have : (ceiling - 1) * size < i * size := Int.lt_of_lt_of_le least within
    have := Int.lt_of_mul_lt_mul_right this (Int.le_of_lt positive)
    omega
  · intro within
    exact Int.le_trans above (Int.mul_le_mul_of_nonneg_right within (Int.le_of_lt positive))

theorem compare_ne_gt (i j : Int) : compare i j ≠ .gt ↔ i ≤ j := by
  rw [ne_eq, Int.compare_eq_gt, Int.not_lt]

theorem truncated_bounds (negative : Bool) (significand size : Nat) (positive : 0 < size) :
    let signed : Int := if negative then -(significand : Int) else significand
    let part : Int := if negative then -((significand / size : Nat) : Int) else (significand / size : Nat)
    (part - 1) * size < signed ∧ signed < (part + 1) * size := by
  have split : ((significand / size : Nat) : Int) * size + (significand % size : Nat) =
      significand := by
    rw [← Int.natCast_mul, ← Int.natCast_add, Nat.mul_comm, Nat.div_add_mod]
  have rest : significand % size < size := Nat.mod_lt significand positive
  cases negative with
  | false =>
    dsimp only
    rw [if_neg Bool.false_ne_true, if_neg Bool.false_ne_true, Int.sub_mul, Int.add_mul]
    omega
  | true =>
    dsimp only
    rw [if_pos rfl, if_pos rfl, Int.sub_mul, Int.add_mul, Int.neg_mul]
    omega

theorem ceiling_of_isFinite (finite : x.isFinite = true) :
    ∃ ceiling, ceiling? x = some ceiling ∧
      ∀ i, ∃ outcome, compareInt? x i = some outcome ∧ (outcome ≠ .gt ↔ ceiling ≤ i) := by
  obtain ⟨negative, significand, exponent, binary⟩ := finite_of_isFinite finite
  let signed : Int := if negative then -(significand : Int) else significand
  cases exponent with
  | ofNat up =>
    have compares (i : Int) : compareInt? x i = some (compare (signed * 2 ^ up) i) := by
      rw [compareInt?, binary]
    have whole : truncate? x = some (signed * 2 ^ up) := by
      rw [truncate?, binary]
      cases negative with
      | false => exact congrArg some (by push_cast; rfl)
      | true => exact congrArg some (by push_cast; exact (Int.neg_mul _ _).symm)
    refine ⟨signed * 2 ^ up, ?_, fun i => ⟨_, compares i, compare_ne_gt _ _⟩⟩
    rw [ceiling?, whole, Option.map_some, compares, Int.compare_eq_eq.mpr rfl]
    rfl
  | negSucc down =>
    let size : Nat := 2 ^ (down + 1)
    let part : Int := if negative then -((significand / size : Nat) : Int) else (significand / size : Nat)
    have positive : 0 < size := Nat.two_pow_pos (down + 1)
    have compares (i : Int) : compareInt? x i = some (compare signed (i * size)) := by
      rw [compareInt?, binary]
      exact congrArg some (congrArg (compare signed) rfl)
    have whole : truncate? x = some part := by
      rw [truncate?, binary]
    obtain ⟨low, high⟩ := truncated_bounds negative significand size positive
    have positive' : (0 : Int) < size := by exact_mod_cast positive
    by_cases beyond : part * size < signed
    · refine ⟨part + 1, ?_, fun i => ⟨_, compares i, ?_⟩⟩
      · rw [ceiling?, whole, Option.map_some, compares, Int.compare_eq_gt.mpr beyond]
        rfl
      · rw [compare_ne_gt]
        refine ceiling_le_iff positive' (Int.le_of_lt high) ?_
        rwa [Int.add_sub_cancel]
    · have within : signed ≤ part * size := Int.not_lt.mp beyond
      refine ⟨part, ?_, fun i => ⟨_, compares i, ?_⟩⟩
      · rw [ceiling?, whole, Option.map_some, compares]
        have below := (compare_ne_gt _ _).mpr within
        cases outcome : compare signed (part * size) with
        | gt => exact absurd outcome below
        | lt | eq => rfl
      · rw [compare_ne_gt]
        exact ceiling_le_iff positive' within low

/-! ### Order of floats -/

theorem then_swap (e f : Int) (m n : Nat) :
    (compare f e).then (compare n m) = ((compare e f).then (compare m n)).swap := by
  rw [Ordering.swap_then, Std.OrientedOrd.eq_swap (a := f), Std.OrientedOrd.eq_swap (a := n)]

theorem unpacked_compare_swap (a b : UnpackedFloat) :
    b.compare a = (a.compare b).map Ordering.swap := by
  cases a with
  | notANumber => cases b <;> rfl
  | infinity s =>
    cases b with
    | notANumber => rfl
    | infinity t => cases s <;> cases t <;> rfl
    | zero t => cases s <;> rfl
    | finite t => cases s <;> rfl
  | zero s =>
    cases b with
    | notANumber => rfl
    | infinity t => cases t <;> rfl
    | zero t => rfl
    | finite t => cases t <;> rfl
  | finite s m e =>
    cases b with
    | notANumber => rfl
    | infinity t => cases t <;> rfl
    | zero t => cases s <;> rfl
    | finite t n f =>
      cases s <;> cases t
      · exact congrArg some (congrArg Ordering.swap (then_swap e f m n))
      · rfl
      · rfl
      · exact congrArg some (then_swap e f m n)

theorem unpacked_compare_isSome {a b : UnpackedFloat} (left : a.isNaN = false)
    (right : b.isNaN = false) : ∃ outcome, a.compare b = some outcome := by
  cases a with
  | notANumber => cases left
  | infinity s =>
    cases b with
    | notANumber => cases right
    | infinity => exact ⟨_, rfl⟩
    | zero | finite => cases s <;> exact ⟨_, rfl⟩
  | zero s =>
    cases b with
    | notANumber => cases right
    | infinity t | finite t => cases t <;> exact ⟨_, rfl⟩
    | zero => exact ⟨_, rfl⟩
  | finite s =>
    cases b with
    | notANumber => cases right
    | infinity t => cases t <;> exact ⟨_, rfl⟩
    | zero => cases s <;> exact ⟨_, rfl⟩
    | finite t => cases s <;> cases t <;> exact ⟨_, rfl⟩

theorem lt_iff_compare : x < y ↔ x.toModel.unpack.compare y.toModel.unpack = some .lt := by
  show decide ((x.toModel.unpack.compare y.toModel.unpack == some .lt) = true) = true ↔ _
  rw [decide_eq_true_iff, beq_iff_eq]

theorem beq_iff_compare :
    (x == y) = true ↔ x.toModel.unpack.compare y.toModel.unpack = some .eq := by
  show (x.toModel.unpack.compare y.toModel.unpack == some .eq) = true ↔ _
  rw [beq_iff_eq]

end Reattempt.Decimal

namespace Reattempt

/-! ### Comparisons of numbers -/

namespace Number

def isNaN : Number → Bool
  | whole _ => false
  | binary x => x.isNaN

def isFinite : Number → Bool
  | whole _ => true
  | binary x => x.isFinite

theorem isNaN_of_isFinite {a : Number} (finite : a.isFinite = true) : a.isNaN = false := by
  cases a with
  | whole i => rfl
  | binary x => exact Decimal.isNaN_of_isFinite finite

theorem compare?_binary (x y : Float) :
    (binary x).compare? (binary y) = x.toModel.unpack.compare y.toModel.unpack := by
  rw [compare?]
  simp only [Decimal.lt_iff_compare, Decimal.beq_iff_compare,
    Decimal.unpacked_compare_swap x.toModel.unpack]
  rcases x.toModel.unpack.compare y.toModel.unpack with _ | _ | _ | _ <;> rfl

theorem compare?_swap (a b : Number) : b.compare? a = (a.compare? b).map Ordering.swap := by
  cases a with
  | whole i =>
    cases b with
    | whole j => exact congrArg some Std.OrientedOrd.eq_swap
    | binary y =>
      rw [compare?, compare?]
      rcases Decimal.compareInt? y i with _ | _ | _ | _ <;> rfl
  | binary x =>
    cases b with
    | whole j => rfl
    | binary y => rw [compare?_binary, compare?_binary, Decimal.unpacked_compare_swap]

theorem compare?_isSome {a b : Number} (left : a.isNaN = false) (right : b.isNaN = false) :
    ∃ outcome, a.compare? b = some outcome := by
  cases a with
  | whole i =>
    cases b with
    | whole j => exact ⟨_, rfl⟩
    | binary y =>
      obtain ⟨outcome, compares⟩ := Decimal.compareInt?_isSome right i
      exact ⟨outcome.swap, congrArg (Option.map Ordering.swap) compares⟩
  | binary x =>
    cases b with
    | whole j => exact Decimal.compareInt?_isSome left j
    | binary y =>
      rw [compare?_binary]
      exact Decimal.unpacked_compare_isSome left right

theorem compare?_self {a : Number} (number : a.isNaN = false) : a.compare? a = some .eq := by
  obtain ⟨outcome, compares⟩ := compare?_isSome number number
  have turned := compare?_swap a a
  rw [compares] at turned ⊢
  cases outcome with
  | eq => rfl
  | lt | gt => cases turned

theorem isNaN_of_compares {a b : Number} {outcome : Ordering} (h : a.compare? b = some outcome) :
    b.isNaN = false := by
  cases b with
  | whole j => rfl
  | binary y =>
    cases a with
    | whole i =>
      cases nan : y.isNaN with
      | false => exact nan
      | true =>
        rw [compare?, Decimal.compareInt?, Decimal.notNumber_iff.mpr nan] at h
        cases h
    | binary x =>
      rw [compare?_binary] at h
      show y.toModel.unpack.isNaN = false
      cases unpacked : y.toModel.unpack with
      | notANumber =>
        rw [unpacked] at h
        cases unpacked' : x.toModel.unpack <;> rw [unpacked'] at h <;> cases h
      | _ => rfl

end Number

/-! ### Comparisons of values -/

theorem Value.compareBy_numbers (comparison : Comparison) {v w : Value} {a b : Number}
    (left : v.number? = some a) (right : w.number? = some b) :
    v.compareBy comparison w =
      match a.compare? b with
      | some outcome => .ok (comparison.holds outcome)
      | none => .ok false := by
  rw [compareBy]
  · cases order : a.compare? b <;> simp only [left, right, order]
  all_goals
    intros
    subst_vars
    cases left

end Reattempt
