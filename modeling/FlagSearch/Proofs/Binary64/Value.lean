import FlagSearch.Proofs.Ranking
import Mathlib.Algebra.Order.Field.Rat
import Mathlib.Algebra.Order.Field.Power
import Mathlib.Order.Monotone.Basic
import Mathlib.Tactic.Linarith
import Mathlib.Tactic.Ring

/-!
# Binary64 patterns as numbers

The total order of patterns is defined on bits.  A finite pattern stands for a rational number, and
on these the order of patterns is the order of the numbers, with one exception: the two zeros are
one number, and the negative one comes first.  The reason is that magnitude patterns follow the
numbers.  Counted in the least positive number, a magnitude goes up by one step of its exponent from
each pattern to the next, where an exponent ends as well as everywhere else.

* `Binary64.value` — the number that a finite pattern stands for.
* `Binary64.units_strictMono`, `Binary64.value_eq` — magnitudes, counted in the least number.
* `Binary64.order_eq_lt_iff_value` — the order of finite patterns.
* `Binary64.order_infinity` — finite patterns and infinity.
* `Binary64.rank_eq_signedWord` — the place in the order as a signed word.
-/

namespace FlagSearch.Binary64

/-- The number that a finite pattern stands for. -/
def value (x : Binary64) : ℚ :=
  (if x.sign then -1 else 1) * x.scaled.1 * 2 ^ x.scaled.2

/-! ## Magnitudes -/

/-- A magnitude pattern, counted in the least positive number. -/
def units (magnitude : Nat) : Nat :=
  if magnitude / hiddenBit = 0 then magnitude % hiddenBit
  else (hiddenBit + magnitude % hiddenBit) * 2 ^ (magnitude / hiddenBit - 1)

theorem hiddenBit_pos : 0 < hiddenBit := by decide

theorem units_lt_succ (magnitude : Nat) : units magnitude < units (magnitude + 1) := by
  have pos := hiddenBit_pos
  have whole := Nat.div_add_mod magnitude hiddenBit
  have below := Nat.mod_lt magnitude pos
  unfold units
  generalize magnitude / hiddenBit = exponent at whole ⊢
  generalize magnitude % hiddenBit = fraction at whole below ⊢
  subst whole
  by_cases carries : fraction + 1 = hiddenBit
  · have next : hiddenBit * exponent + fraction + 1 = hiddenBit * (exponent + 1) := by
      rw [Nat.mul_add]
      omega
    rw [next, Nat.mul_div_cancel_left _ pos, Nat.mul_mod_right, if_neg (Nat.succ_ne_zero _)]
    cases exponent with
    | zero => simp; omega
    | succ exponent =>
      have power : 0 < 2 ^ exponent := by positivity
      rw [if_neg (Nat.succ_ne_zero _), Nat.add_sub_cancel, Nat.add_sub_cancel, Nat.add_zero,
        Nat.pow_succ]
      nlinarith
  · have rest : fraction + 1 < hiddenBit := by omega
    rw [Nat.add_assoc, Nat.mul_add_div pos, Nat.mul_add_mod, Nat.div_eq_of_lt rest,
      Nat.mod_eq_of_lt rest, Nat.add_zero]
    split
    · omega
    · have power : 0 < 2 ^ (exponent - 1) := by positivity
      nlinarith

theorem units_strictMono : StrictMono units := strictMono_nat_of_lt_succ units_lt_succ

theorem units_zero : units 0 = 0 := by decide

theorem value_eq (x : Binary64) :
    x.value = (if x.sign then -(units x.magnitude : ℚ) else units x.magnitude) *
      2 ^ (-1074 : ℤ) := by
  have magnitude : (x.scaled.1 : ℚ) * 2 ^ x.scaled.2 = units x.magnitude * 2 ^ (-1074 : ℤ) := by
    unfold scaled units exponentField fraction
    by_cases subnormal : x.magnitude / hiddenBit = 0
    · rw [if_pos subnormal, if_pos subnormal]
    · obtain ⟨exponent, high⟩ := Nat.exists_eq_succ_of_ne_zero subnormal
      have places : ((exponent + 1 : Nat) : ℤ) - 1075 = exponent + -1074 := by omega
      simp only [high, Nat.succ_eq_add_one, Nat.succ_ne_zero, if_false, places,
        Nat.add_sub_cancel]
      rw [zpow_add₀ two_ne_zero, zpow_natCast]
      generalize (2 : ℚ) ^ (-1074 : ℤ) = least
      push_cast
      ring
  unfold value
  split
  · rw [neg_one_mul, neg_mul, magnitude, neg_mul]
  · rw [one_mul, magnitude]

/-! ## The order of finite patterns -/

theorem eq_of_sign_magnitude {x y : Binary64} (signs : x.sign = y.sign)
    (magnitudes : x.magnitude = y.magnitude) : x = y :=
  eq_of_rank_eq (by rw [rank, rank, signs, magnitudes])

theorem eq_negZero_iff {x : Binary64} : x = negZero ↔ x.sign = true ∧ x.magnitude = 0 := by
  constructor
  · rintro rfl
    decide
  · rintro ⟨negative, none⟩
    exact eq_of_sign_magnitude (negative.trans (by decide)) (none.trans (by decide))

theorem eq_zero_iff {x : Binary64} : x = zero ↔ x.sign = false ∧ x.magnitude = 0 := by
  constructor
  · rintro rfl
    decide
  · rintro ⟨positive, none⟩
    exact eq_of_sign_magnitude (positive.trans (by decide)) (none.trans (by decide))

/-- The order of patterns is that of the numbers they stand for, and negative zero comes before
positive zero. -/
theorem order_eq_lt_iff_value (x y : Binary64) :
    x.order y = .lt ↔ x.value < y.value ∨ (x = negZero ∧ y = zero) := by
  have least : (0 : ℚ) < 2 ^ (-1074 : ℤ) := by positivity
  have some : ∀ {magnitude : Nat}, 0 < magnitude → 0 < units magnitude := fun positive => by
    rw [← units_zero]
    exact units_strictMono positive
  rw [order_eq_lt, value_eq, value_eq, mul_lt_mul_iff_left₀ least, rank, rank, eq_negZero_iff,
    eq_zero_iff]
  cases x.sign <;> cases y.sign <;>
    simp only [Bool.false_eq_true, if_false, if_true, false_and, and_false, or_false, true_and,
      reduceCtorEq, neg_lt_neg_iff, Nat.cast_lt, units_strictMono.lt_iff_lt]
  case true.true => omega
  case false.true =>
    have left : (0 : ℚ) ≤ units x.magnitude := Nat.cast_nonneg _
    have right : (0 : ℚ) ≤ units y.magnitude := Nat.cast_nonneg _
    constructor
    · intro below
      omega
    · intro below
      linarith
  case true.false =>
    refine iff_of_true (by omega) ?_
    by_cases zeros : x.magnitude = 0 ∧ y.magnitude = 0
    · exact .inr zeros
    · left
      have left : (0 : ℚ) ≤ units x.magnitude := Nat.cast_nonneg _
      have right : (0 : ℚ) ≤ units y.magnitude := Nat.cast_nonneg _
      rcases not_and_or.1 zeros with nonzero | nonzero
      · have : (0 : ℚ) < units x.magnitude := Nat.cast_pos.2 (some (Nat.pos_of_ne_zero nonzero))
        linarith
      · have : (0 : ℚ) < units y.magnitude := Nat.cast_pos.2 (some (Nat.pos_of_ne_zero nonzero))
        linarith

theorem order_eq_eq {x y : Binary64} : x.order y = .eq ↔ x = y := by
  rw [order, Int.compare_eq_eq]
  exact ⟨eq_of_rank_eq, fun same => same ▸ rfl⟩

theorem order_infinity {x : Binary64} (finite : x.isFinite = true) : x.order infinity = .lt := by
  have top : infinity.rank = infinityPattern := by decide
  have below : x.magnitude < 2048 * hiddenBit := Nat.mod_lt _ (by decide)
  have exponent : x.magnitude / hiddenBit ≠ topExponent := by
    simpa [isFinite, exponentField] using finite
  have magnitude : x.magnitude < infinityPattern := by
    have high : x.magnitude / hiddenBit < 2048 := (Nat.div_lt_iff_lt_mul hiddenBit_pos).2 below
    rw [infinityPattern, ← Nat.div_lt_iff_lt_mul hiddenBit_pos]
    unfold topExponent at exponent ⊢
    omega
  rw [order_eq_lt, top, rank]
  split
  · omega
  · exact_mod_cast magnitude

/-! ## Signed words -/

theorem sshiftRight_last (word : BitVec 64) :
    word.sshiftRight 63 = if word.msb then BitVec.allOnes 64 else 0#64 := by
  have last : word[63] = word.msb := (BitVec.msb_eq_getLsbD_last word).symm
  ext i inside
  have sign : (word.sshiftRight 63)[i] = word.msb := by
    rw [BitVec.getElem_sshiftRight]
    cases i with
    | zero => exact last
    | succ i => exact dif_neg (by omega)
  rw [sign]
  cases word.msb
  · simp
  · simp only [if_true, BitVec.getElem_allOnes]

theorem not_xor_ushiftRight {word : BitVec 64} (negative : word.msb = true) :
    ~~~(word ^^^ BitVec.allOnes 64 >>> 1) = word &&& BitVec.allOnes 64 >>> 1 := by
  have top : word[63] = true := by simpa [BitVec.msb_eq_getLsbD_last] using negative
  ext i inside
  rw [BitVec.getElem_not, BitVec.getElem_xor, BitVec.getElem_and, BitVec.getElem_ushiftRight,
    BitVec.getLsbD_allOnes]
  by_cases last : i = 63
  · subst last
    simp [top]
  · have lower : 1 + i < 64 := by omega
    simp [lower]

/-- The bits as a signed word, with all bits but the sign turned over if that is set: the sign bit is
copied to every place, and the copies are moved off the sign. -/
def signedWord (x : Binary64) : Int :=
  (x.bits.toBitVec ^^^ x.bits.toBitVec.sshiftRight 63 >>> 1).toInt

theorem rank_eq_signedWord (x : Binary64) : x.rank = x.signedWord := by
  have pattern : x.bits.toBitVec.toNat = x.pattern := rfl
  have magnitude : x.pattern % 2 ^ 63 = x.magnitude := rfl
  have msb : x.bits.toBitVec.msb = x.sign := x.bits.toBitVec.msb_eq_decide
  have parts := x.pattern_eq
  unfold rank signedWord
  rw [sshiftRight_last]
  cases negative : x.sign with
  | false =>
    have positive : x.bits.toBitVec.msb = false := msb.trans negative
    rw [negative, if_neg Bool.false_ne_true] at parts
    rw [if_neg Bool.false_ne_true, positive, if_neg Bool.false_ne_true, BitVec.zero_ushiftRight,
      BitVec.xor_zero, BitVec.toInt_eq_toNat_of_msb positive, pattern, parts]
  | true =>
    have negative' : x.bits.toBitVec.msb = true := msb.trans negative
    have turned := congrArg BitVec.toNat (not_xor_ushiftRight negative')
    have mask : (BitVec.allOnes 64 >>> 1).toNat = 2 ^ 63 - 1 := by decide
    rw [BitVec.toNat_not, BitVec.toNat_and, mask, Nat.and_two_pow_sub_one_eq_mod, pattern,
      magnitude] at turned
    rw [if_pos rfl, if_pos negative', BitVec.toInt_eq_toNat_cond]
    have below : x.magnitude < 2 ^ 63 := Nat.mod_lt _ (by decide)
    split <;> omega

end FlagSearch.Binary64
