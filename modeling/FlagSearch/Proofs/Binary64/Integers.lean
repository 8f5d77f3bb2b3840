import FlagSearch.Binary64.Scaled
import FlagSearch.Proofs.Binary64.Value
import FlagSearch.Proofs.Json.Numbers
import Mathlib

/-!
# Integers as binary64 numbers

A number is read in two steps: its digits as an integer, and that times a power of ten.  For an
integer of 64 bits the first step keeps all digits and stays far below infinity, and the second one
multiplies by one, which changes nothing.

* `Binary64.mul_one` — a finite number times one.
* `Binary64.isFinite_ofDecimal` — the number nearest to an integer.
* `Numeral.binary64?_ofNat` — an integer that is read.
* `Json.isPlain_ofNat` — so an integer may stand in a tagged record.
-/

namespace FlagSearch

namespace Binary64

/-! ## Times one -/

section Factor

open Float.Model
open UnpackedFloat (Sign ExtendedMantissa unpackExponent unpackMantissa)

theorem targetExponent_eq (total : Int) :
    Format.binary64.targetExponent total = max (total - 53) (-1074) :=
  rfl

theorem targetExponent_of_unpack {b : BitVec Format.binary64.numBits} {sign : Sign} {mantissa : Nat}
    {exponent : Int} {positive : 0 < mantissa}
    (unpacked : UnpackedFloat.unpack Format.binary64 b = .finite sign mantissa exponent positive) :
    Format.binary64.targetExponent (totalExponent mantissa exponent) = exponent := by
  have bias : (Format.binary64.exponentBias : Int) = 1023 := by decide
  have below : (unpackMantissa b).toNat < 2 ^ 52 := (unpackMantissa b).isLt
  rw [targetExponent_eq, totalExponent]
  unfold UnpackedFloat.unpack at unpacked
  simp only [bias] at unpacked
  split at unpacked
  next =>
    split at unpacked
    · cases unpacked
    · cases unpacked
  next =>
    split at unpacked
    next least =>
      split at unpacked
      next => cases unpacked
      next =>
        cases unpacked
        have few : (unpackMantissa b).toNat.log2 < 52 := (Nat.log2_lt positive.ne').2 below
        rw [least]
        simp only [BitVec.toNat_zero]
        omega
    next above =>
      cases unpacked
      have bits : (1#1 ++ unpackMantissa b).toNat.log2 = 52 := by
        rw [Nat.log2_eq_iff positive.ne', BitVec.toNat_append,
          ← Nat.shiftLeft_add_eq_or_of_lt below, Nat.shiftLeft_eq]
        change 2 ^ 52 ≤ 1 * 2 ^ 52 + _ ∧ 1 * 2 ^ 52 + _ < 2 ^ 53
        omega
      have raised : 0 < (unpackExponent b).toNat := by
        rw [Nat.pos_iff_ne_zero]
        exact fun zero => above (BitVec.eq_of_toNat_eq zero)
      rw [bits]
      omega

theorem shiftRight_exact (mantissa places : Nat) :
    (⟨mantissa * 2 ^ places, false, false⟩ : ExtendedMantissa) >>> places =
      ⟨mantissa, false, false⟩ := by
  induction places generalizing mantissa with
  | zero =>
    rw [Nat.pow_zero, Nat.mul_one]
    rfl
  | succ places ih =>
    have last (em : ExtendedMantissa) : em >>> (places + 1) = (em >>> places).shiftRightOne := rfl
    rw [last, Nat.pow_succ, ← Nat.mul_assoc, Nat.mul_right_comm, ih]
    simp [ExtendedMantissa.shiftRightOne]

theorem shiftToExponent_exact (mantissa : Nat) (exponent : Int) (places : Nat) :
    UnpackedFloat.shiftToExponent (mantissa * 2 ^ places) (exponent - places) .exact exponent =
      (⟨mantissa, false, false⟩, exponent) := by
  have amount : (exponent - (exponent - places)).toNat = places := by omega
  simp only [UnpackedFloat.shiftToExponent, amount, ExtendedMantissa.ofMantissaAndAccuracy,
    shiftRight_exact, Int.sub_add_cancel]

theorem log2_mul_two_pow {mantissa : Nat} (positive : 0 < mantissa) (places : Nat) :
    (mantissa * 2 ^ places).log2 = mantissa.log2 + places := by
  induction places with
  | zero => simp
  | succ places ih =>
    have doubled : mantissa * 2 ^ (places + 1) = 2 * (mantissa * 2 ^ places) := by ring
    rw [doubled, Nat.log2_two_mul (by positivity), ih, Nat.add_assoc]

theorem roundWithAccuracy_exact {sign : Sign} {mantissa : Nat} {exponent : Int}
    (positive : 0 < mantissa) (places : Nat)
    (target : Format.binary64.targetExponent (totalExponent mantissa exponent) = exponent) :
    UnpackedFloat.roundWithAccuracy Format.binary64 sign (mantissa * 2 ^ places) (exponent - places)
      .exact = .finite sign mantissa exponent positive := by
  have total : totalExponent (mantissa * 2 ^ places) (exponent - places) =
      totalExponent mantissa exponent := by
    unfold totalExponent
    rw [log2_mul_two_pow positive]
    push_cast
    omega
  have stays := shiftToExponent_exact mantissa exponent 0
  rw [Nat.pow_zero, Nat.mul_one, Int.natCast_zero, Int.sub_zero] at stays
  have rounded : ExtendedMantissa.roundedMantissa ⟨mantissa, false, false⟩ = mantissa := rfl
  simp only [UnpackedFloat.roundWithAccuracy, UnpackedFloat.shiftToTargetExponent, total, target,
    shiftToExponent_exact, rounded, stays, positive.ne', dite_false]

def one : Binary64 := powerOfTen 0

theorem unpack_one : one.toFloat.toModel.unpack = .finite .positive (2 ^ 52) (-52) (by decide) :=
  rfl

theorem unpack_mul_one (b : BitVec Format.binary64.numBits) :
    UnpackedFloat.mul Format.binary64 (UnpackedFloat.unpack Format.binary64 b)
      (.finite .positive (2 ^ 52) (-52) (by decide)) = UnpackedFloat.unpack Format.binary64 b := by
  cases unpacked : UnpackedFloat.unpack Format.binary64 b with
  | notANumber => rfl
  | infinity sign => cases sign <;> rfl
  | zero sign => cases sign <;> rfl
  | finite sign mantissa exponent positive =>
    have target := targetExponent_of_unpack unpacked
    cases sign with
    | positive => exact roundWithAccuracy_exact positive 52 target
    | negative => exact roundWithAccuracy_exact positive 52 target

theorem valid_of_isFinite {x : Binary64} (finite : x.isFinite = true) :
    Format.binary64.Valid x.bits.toBitVec := by
  refine ⟨fun ones => absurd finite ?_⟩
  have field : x.pattern / 2 ^ 52 % 2 ^ 11 = topExponent := by
    have value := congrArg BitVec.toNat ones
    simpa [unpackExponent, Nat.shiftRight_eq_div_pow, pattern, topExponent] using value
  have same : x.exponentField = x.pattern / 2 ^ 52 % 2 ^ 11 := by
    change x.pattern % 2 ^ 63 / 2 ^ 52 = _
    omega
  rw [isFinite, same, field]
  decide

theorem mul_one {x : Binary64} (finite : x.isFinite = true) : x * one = x := by
  have repacked := UnpackedFloat.pack_unpack_of_valid (valid_of_isFinite finite)
  have read : x.toFloat.toModel.unpack = UnpackedFloat.unpack Format.binary64 x.bits.toBitVec :=
    congrArg (UnpackedFloat.unpack Format.binary64) repacked
  have product : x * one = ⟨.ofBitVec (UnpackedFloat.pack Format.binary64
      (UnpackedFloat.mul Format.binary64 x.toFloat.toModel.unpack one.toFloat.toModel.unpack))⟩ :=
    rfl
  rw [product, read, unpack_one, unpack_mul_one, repacked]

end Factor

/-! ## Integers in range -/

def followedBy (value : Nat) (c : Char) : Nat := 10 * value + (c.toNat - '0'.toNat)

theorem le_foldl_followedBy (digits : List Char) (value : Nat) :
    value ≤ digits.foldl followedBy value := by
  induction digits generalizing value with
  | nil => exact Nat.le_refl value
  | cons c digits ih =>
    have first : value ≤ followedBy value c := by
      unfold followedBy
      omega
    exact first.trans (ih _)

theorem leading_of_lt {digits : List Char} {value : Nat}
    (fits : digits.foldl followedBy value < wordLimit) :
    leading value digits = (digits.foldl followedBy value, []) := by
  induction digits generalizing value with
  | nil => rfl
  | cons c digits ih =>
    have first : followedBy value c < wordLimit := (le_foldl_followedBy digits _).trans_lt fits
    exact (if_pos first).trans (ih fits)

theorem roundEven_le (numerator denominator : Nat) :
    roundEven numerator denominator ≤ numerator / denominator + 1 := by
  unfold roundEven
  simp only
  split
  · omega
  split
  · omega
  split
  · omega
  · omega

theorem scaleRatio_log2 {n : Nat} (positive : 0 < n) :
    let scaled := scaleRatio n 1 (52 - n.log2)
    0 < scaled.2 ∧ scaled.2 * hiddenBit ≤ scaled.1 ∧ scaled.1 < scaled.2 * (2 * hiddenBit) := by
  have least := Nat.log2_self_le positive.ne'
  have most := @Nat.lt_log2_self n
  have hidden : hiddenBit = 2 ^ 52 := rfl
  intro scaled
  unfold scaled scaleRatio
  rw [hidden]
  split
  next long =>
    obtain ⟨more, length⟩ : ∃ more, n.log2 = 52 + more := Nat.exists_eq_add_of_le (by omega)
    have places : (52 - (n.log2 : Int)).natAbs = more := by omega
    have power : 0 < 2 ^ more := by positivity
    rw [length] at least most
    simp only [places, Nat.pow_eq]
    refine ⟨by omega, ?_, ?_⟩
    · calc 1 * 2 ^ more * 2 ^ 52 = 2 ^ (52 + more) := by ring
        _ ≤ n := least
    · calc n < 2 ^ (52 + more + 1) := most
        _ = 1 * 2 ^ more * (2 * 2 ^ 52) := by ring
  next short =>
    obtain ⟨more, length⟩ : ∃ more, 52 = n.log2 + more := Nat.exists_eq_add_of_le (by omega)
    have places : (52 - (n.log2 : Int)).natAbs = more := by omega
    have power : 0 < 2 ^ more := by positivity
    simp only [places, Nat.pow_eq]
    have split : 2 ^ 52 = 2 ^ n.log2 * 2 ^ more := by
      rw [← pow_add, ← length]
    rw [split]
    refine ⟨Nat.one_pos, ?_, ?_⟩
    · rw [Nat.one_mul]
      exact Nat.mul_le_mul_right _ least
    · rw [Nat.one_mul, ← Nat.mul_assoc, ← Nat.pow_succ']
      exact Nat.mul_lt_mul_of_pos_right most power

theorem lastPlace_one {n : Nat} (positive : 0 < n) : lastPlace n 1 = (n.log2 : Int) - 52 := by
  obtain ⟨_, least, _⟩ := scaleRatio_log2 positive
  have single : (1 : Nat).log2 = 0 := rfl
  have moved : -((n.log2 : Int) - ((0 : Nat) : Int) - 52) = 52 - n.log2 := by omega
  unfold lastPlace
  rw [single]
  dsimp only
  rw [moved, if_neg (Nat.not_lt.2 least)]
  omega

theorem ofRatio_lt {n : Nat} (fits : n < wordLimit) : ofRatio n 1 < infinityPattern := by
  rcases Nat.eq_zero_or_pos n with rfl | positive
  · decide
  obtain ⟨divides, _, most⟩ := scaleRatio_log2 positive
  have bits : n.log2 < 64 := (Nat.log2_lt positive.ne').2 fits
  have quotient := (Nat.div_lt_iff_lt_mul divides).2 (by rwa [Nat.mul_comm] at most)
  have rounded := roundEven_le (scaleRatio n 1 (52 - n.log2)).1 (scaleRatio n 1 (52 - n.log2)).2
  have place : -((n.log2 : Int) - 52) = 52 - n.log2 := by omega
  have exponent : ((n.log2 : Int) - 52 + 1074).toNat ≤ 1085 := by omega
  unfold ofRatio
  rw [if_neg positive.ne', lastPlace_one positive]
  simp only [place]
  refine (Nat.min_le_right _ _).trans_lt ?_
  have whole := Nat.mul_le_mul_right hiddenBit exponent
  have top : infinityPattern = 2047 * hiddenBit := rfl
  have hidden : hiddenBit = 2 ^ 52 := rfl
  omega

theorem isFinite_signed {magnitude : Nat} (below : magnitude < infinityPattern) :
    (signed false magnitude).isFinite = true := by
  have top : infinityPattern = 2047 * 2 ^ 52 := rfl
  have word : magnitude < 2 ^ 64 := by omega
  have field : (signed false magnitude).exponentField = magnitude / 2 ^ 52 := by
    change magnitude % 2 ^ 64 % 2 ^ 63 / 2 ^ 52 = magnitude / 2 ^ 52
    omega
  have other : magnitude / 2 ^ 52 ≠ topExponent := by
    unfold topExponent
    omega
  rw [isFinite, field]
  exact bne_iff_ne.2 other

theorem isFinite_ofDecimal {n : Nat} (fits : n < wordLimit) :
    (ofDecimal false n 0).isFinite = true := by
  have short : (Nat.toDigits 10 n).length ≤ 20 :=
    (Nat.length_toDigits_le_iff (by decide) (by decide)).2 (fits.trans (by decide))
  have nonzero := @Nat.length_toDigits_pos 10 n
  unfold ofDecimal
  apply isFinite_signed
  unfold overflowDigits underflowZeros
  split
  next => decide
  rw [if_neg (by omega), if_neg (by omega), if_neg (by omega)]
  exact ofRatio_lt (by simpa using fits)

end Binary64

/-! ## Integers that are read -/

theorem Numeral.binary64?_ofNat {n : Nat} (fits : n < wordLimit) :
    (ofNat n).binary64? = some (.signed false (Binary64.ofDecimal false n 0).magnitude) := by
  have value : (Nat.toDigits 10 n).foldl Binary64.followedBy 0 = n := digitsValue_toDigits n
  have read : Binary64.leading 0 (Nat.toDigits 10 n) = (n, []) := by
    rw [Binary64.leading_of_lt (by rwa [value]), value]
  have finite := Binary64.isFinite_ofDecimal fits
  have scaled : Binary64.scale? (Binary64.ofDecimal false n 0) 0 =
      some (Binary64.ofDecimal false n 0) := by
    have product := Binary64.mul_one finite
    unfold Binary64.one at product
    rw [Binary64.scale?, if_neg (by decide), if_neg (by decide)]
    simp only [Int.natAbs_zero, product, finite, if_true]
  unfold binary64? Binary64.ofDigits?
  simp only [ofNat, read, Binary64.leading]
  rw [if_neg (by decide)]
  exact congrArg (Option.map _) scaled

theorem Json.isPlain_ofNat {n : Nat} (fits : n < wordLimit) (levels : Nat) :
    (Json.ofNat n).isPlain levels = true := by
  rw [Json.ofNat, Json.isPlain, Numeral.binary64?_ofNat fits, Option.isSome_some]

end FlagSearch
