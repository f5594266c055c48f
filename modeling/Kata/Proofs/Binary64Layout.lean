import Kata.Binary64.Arith

/-! The fields of a bit pattern read back as stored; integers below `2^53` are binary64 numbers. -/

namespace Kata.Binary64

theorem ofFields_bits (neg : Bool) (biased fraction : Nat) :
    (ofFields neg biased fraction).bits.toNat =
      (if neg then 2 ^ 63 else 0) + biased % 2048 * 2 ^ 52 + fraction % 2 ^ 52 := by
  have fractionPart : (fraction.toUInt64 &&& 0xFFFFFFFFFFFFF).toNat = fraction % 2 ^ 52 := by
    rw [UInt64.toNat_and, Nat.toUInt64_eq, UInt64.toNat_ofNat']
    show fraction % 2 ^ 64 &&& (2 ^ 52 - 1) = _
    rw [Nat.and_two_pow_sub_one_eq_mod]
    omega
  have biasedPart : ((biased.toUInt64 &&& 0x7FF) <<< 52).toNat = biased % 2048 * 2 ^ 52 := by
    rw [UInt64.toNat_shiftLeft, UInt64.toNat_and, Nat.toUInt64_eq, UInt64.toNat_ofNat']
    show (biased % 2 ^ 64 &&& (2 ^ 11 - 1)) <<< 52 % 2 ^ 64 = _
    rw [Nat.and_two_pow_sub_one_eq_mod, Nat.shiftLeft_eq]
    omega
  have signPart : ((if neg then 1 else 0 : UInt64) <<< 63).toNat = if neg then 2 ^ 63 else 0 := by
    cases neg <;> decide
  simp only [ofFields, UInt64.toNat_or, fractionPart, biasedPart, signPart]
  have signBelow : biased % 2048 * 2 ^ 52 < 2 ^ 63 := by omega
  have fractionBelow : fraction % 2 ^ 52 < 2 ^ 52 := Nat.mod_lt _ (by decide)
  have signAsMultiple : (if neg then 2 ^ 63 else 0 : Nat) = 2 ^ 63 * (if neg then 1 else 0) := by
    split <;> rfl
  rw [signAsMultiple, ← Nat.two_pow_add_eq_or_of_lt signBelow,
    show 2 ^ 63 * (if neg then 1 else 0) + biased % 2048 * 2 ^ 52 =
      2 ^ 52 * (2 ^ 11 * (if neg then 1 else 0) + biased % 2048) by omega,
    ← Nat.two_pow_add_eq_or_of_lt fractionBelow]

theorem exponentField_eq (x : Binary64) : x.exponentField = x.bits.toNat / 2 ^ 52 % 2048 := by
  simp only [exponentField, UInt64.toNat_and, UInt64.toNat_shiftRight, Nat.shiftRight_eq_div_pow]
  show x.bits.toNat / 2 ^ (52 % 64) &&& (2 ^ 11 - 1) = _
  rw [Nat.and_two_pow_sub_one_eq_mod]

theorem fractionField_eq (x : Binary64) : x.fractionField = x.bits.toNat % 2 ^ 52 := by
  simp only [fractionField, UInt64.toNat_and]
  show x.bits.toNat &&& (2 ^ 52 - 1) = _
  rw [Nat.and_two_pow_sub_one_eq_mod]

theorem signBit_eq (x : Binary64) : x.signBit = decide (2 ^ 63 ≤ x.bits.toNat) := by
  have below := x.bits.toNat_lt
  rw [signBit, Bool.eq_iff_iff, beq_iff_eq, decide_eq_true_iff, ← UInt64.toNat_inj,
    UInt64.toNat_shiftRight, Nat.shiftRight_eq_div_pow]
  show x.bits.toNat / 2 ^ 63 = 1 ↔ _
  omega

theorem shape_ofFields (neg : Bool) {biased fraction : Nat} (biasedBound : biased < 2047)
    (fractionBound : fraction < 2 ^ 52) :
    (ofFields neg biased fraction).shape =
      if biased = 0 then .finite neg fraction (-1074)
      else .finite neg (hiddenBit + fraction) ((biased : Int) - 1075) := by
  have bits := ofFields_bits neg biased fraction
  have exponentFound : (ofFields neg biased fraction).bits.toNat / 2 ^ 52 % 2048 = biased := by
    rw [bits]
    split <;> omega
  have fractionFound : (ofFields neg biased fraction).bits.toNat % 2 ^ 52 = fraction := by
    rw [bits]
    split <;> omega
  have signFound : decide (2 ^ 63 ≤ (ofFields neg biased fraction).bits.toNat) = neg := by
    rw [bits]
    cases neg <;> simp <;> omega
  simp only [shape, exponentField_eq, fractionField_eq, signBit_eq, exponentFound,
    fractionFound, signFound]
  rw [if_neg (by omega)]

theorem bitLength_spec {m : Nat} (pos : 0 < m) (small : m < 2 ^ 64) :
    bitLength m = m.log2 + 1 := by
  rw [bitLength, dif_pos small, if_neg (by omega)]

theorem bitLength_bounds {m : Nat} (pos : 0 < m) :
    2 ^ (bitLength m - 1) ≤ m ∧ m < 2 ^ bitLength m := by
  induction m using Nat.strongRecOn with
  | ind m ih =>
    rcases Nat.lt_or_ge m (2 ^ 64) with small | large
    · rw [bitLength_spec pos small, Nat.add_sub_cancel]
      exact ⟨Nat.log2_self_le (by omega), Nat.lt_log2_self⟩
    · have wordsPos : 0 < m / 2 ^ 64 := Nat.div_pos large (Nat.two_pow_pos 64)
      obtain ⟨low, high⟩ := ih (m / 2 ^ 64) (Nat.div_lt_self pos (by decide)) wordsPos
      have restLength : 1 ≤ bitLength (m / 2 ^ 64) := by
        rcases Nat.eq_zero_or_pos (bitLength (m / 2 ^ 64)) with empty | positive
        · rw [empty] at high
          omega
        · exact positive
      rw [bitLength, dif_neg (by omega), Nat.shiftRight_eq_div_pow]
      rw [Nat.le_div_iff_mul_le (Nat.two_pow_pos 64)] at low
      rw [Nat.div_lt_iff_lt_mul (Nat.two_pow_pos 64)] at high
      rw [show 64 + bitLength (m / 2 ^ 64) - 1 = (bitLength (m / 2 ^ 64) - 1) + 64 by omega,
        Nat.pow_add, Nat.pow_add, Nat.mul_comm (2 ^ 64)]
      exact ⟨low, high⟩

theorem one_le_bitLength {m : Nat} (pos : 0 < m) : 1 ≤ bitLength m := by
  have high := (bitLength_bounds pos).2
  rcases Nat.eq_zero_or_pos (bitLength m) with empty | positive
  · rw [empty] at high
    omega
  · exact positive

theorem bitLength_le {n B : Nat} (below : n < 2 ^ B) : bitLength n ≤ B := by
  rcases Nat.eq_zero_or_pos n with zero | pos
  · rw [zero, bitLength, dif_pos (by decide), if_pos rfl]
    exact Nat.zero_le B
  · have low := (bitLength_bounds pos).1
    have := Nat.pow_lt_pow_iff_right (by decide : 1 < 2) |>.mp (Nat.lt_of_le_of_lt low below)
    omega

theorem normalized_bounds {m : Nat} (pos : 0 < m) (small : m < 2 ^ 53) :
    bitLength m ≤ 53 ∧ 2 ^ 52 ≤ m * 2 ^ (53 - bitLength m) ∧
      m * 2 ^ (53 - bitLength m) < 2 ^ 53 := by
  obtain ⟨low, high⟩ := bitLength_bounds pos
  have length : bitLength m ≤ 53 := bitLength_le small
  have nonempty := one_le_bitLength pos
  refine ⟨length, ?_, ?_⟩
  · calc 2 ^ 52 = 2 ^ (bitLength m - 1) * 2 ^ (53 - bitLength m) := by
          rw [← Nat.pow_add]
          congr 1
          omega
      _ ≤ m * 2 ^ (53 - bitLength m) := Nat.mul_le_mul_right _ low
  · calc m * 2 ^ (53 - bitLength m) < 2 ^ bitLength m * 2 ^ (53 - bitLength m) :=
          Nat.mul_lt_mul_of_pos_right high (Nat.two_pow_pos _)
      _ = 2 ^ 53 := by
          rw [← Nat.pow_add]
          congr 1
          omega

theorem shape_normal (neg : Bool) {q : Nat} {k : Int} (low : 2 ^ 52 ≤ q) (high : q < 2 ^ 53)
    (kLow : -1074 ≤ k) (kHigh : k ≤ 971) :
    (if k > 971 then signedInf neg else if q < 2 ^ 52 then ofFields neg 0 q
      else ofFields neg (k + 1075).toNat (q - 2 ^ 52)).shape = .finite neg q k := by
  have biasedBound : (k + 1075).toNat < 2047 := by omega
  have fractionBound : q - 2 ^ 52 < 2 ^ 52 := by omega
  have significand : hiddenBit + (q - 2 ^ 52) = q := by
    unfold hiddenBit
    omega
  have unbiased : ((k + 1075).toNat : Int) - 1075 = k := by omega
  rw [if_neg (by omega), if_neg (by omega), shape_ofFields neg biasedBound fractionBound,
    if_neg (by omega), significand, unbiased]

theorem shape_ofDyadic_exact (neg : Bool) {m : Nat} (e : Int) (pos : 0 < m) (small : m < 2 ^ 53)
    (normal : -1074 ≤ e + bitLength m - 53) (bounded : e + bitLength m - 53 ≤ 971) :
    (ofDyadic neg m e).shape =
      .finite neg (m * 2 ^ (53 - bitLength m)) (e + bitLength m - 53) := by
  obtain ⟨length, low, high⟩ := normalized_bounds pos small
  have exponent : max (e + bitLength m - 53) (-1074) = e + bitLength m - 53 := by omega
  have shift : m <<< (e - (e + bitLength m - 53)).toNat = m * 2 ^ (53 - bitLength m) := by
    rw [Nat.shiftLeft_eq]
    congr 2
    omega
  unfold ofDyadic
  simp only [if_neg (show m ≠ 0 by omega), exponent,
    if_pos (show e + bitLength m - 53 ≤ e by omega), shift]
  exact shape_normal neg low high normal bounded

theorem shape_signedZero (neg : Bool) : (signedZero neg).shape = .finite neg 0 (-1074) := by
  cases neg <;> decide

theorem shape_ofInt {n : Int} (small : n.natAbs < 2 ^ 53) :
    ∃ k : Nat, (ofInt n).shape = .finite (n < 0) (n.natAbs * 2 ^ k) (-(k : Int)) := by
  rcases Nat.eq_zero_or_pos n.natAbs with zero | pos
  · refine ⟨1074, ?_⟩
    have : n = 0 := Int.natAbs_eq_zero.mp zero
    subst this
    rw [ofInt, ofDyadic, if_pos zero, shape_signedZero, zero]
    simp only [Nat.zero_mul]
    rfl
  · obtain ⟨length, -, -⟩ := normalized_bounds pos small
    refine ⟨53 - bitLength n.natAbs, ?_⟩
    rw [ofInt, shape_ofDyadic_exact _ 0 pos small (by omega) (by omega)]
    congr 1
    omega

theorem truncInt?_ofInt {n : Int} (small : n.natAbs < 2 ^ 53) : (ofInt n).truncInt? = some n := by
  obtain ⟨k, shape⟩ := shape_ofInt small
  have magnitude : (if 0 ≤ -(k : Int) then n.natAbs * 2 ^ k * 2 ^ (-(k : Int)).toNat
      else n.natAbs * 2 ^ k / 2 ^ (- -(k : Int)).toNat) = n.natAbs := by
    split
    · have : k = 0 := by omega
      subst this
      simp
    · rw [Int.neg_neg, Int.toNat_natCast, Nat.mul_div_cancel _ (Nat.two_pow_pos k)]
  simp only [truncInt?, shape, magnitude]
  congr 1
  -- the sign picks the branch; `simp` is kept to the branch so the magnitude stays `natAbs`
  by_cases negative : n < 0 <;>
    simp only [negative, decide_true, decide_false, if_true, if_false, Bool.false_eq_true] <;>
    omega

theorem fract_ofInt {n : Int} (small : n.natAbs < 2 ^ 53) :
    (ofInt n).fract = signedZero (n < 0) := by
  obtain ⟨k, shape⟩ := shape_ofInt small
  simp only [fract, shape]
  split
  · rfl
  · rw [Int.neg_neg, Int.toNat_natCast, Nat.mul_mod_left, ofDyadic, if_pos rfl]

theorem mul_signedZero {y : Binary64} {neg other : Bool} {m : Nat} {e : Int}
    (finite : y.shape = .finite other m e) :
    (signedZero neg).mul y = signedZero (neg != other) := by
  simp only [mul, shape_signedZero, finite, Nat.zero_mul]
  rw [ofDyadic, if_pos rfl]

theorem roundHalfEvenInt?_signedZero (neg : Bool) :
    (signedZero neg).roundHalfEvenInt? = some 0 := by
  simp only [roundHalfEvenInt?, shape_signedZero]
  generalize (2 : Nat) ^ (- -1074 : Int).toNat = d
  cases neg <;> simp

end Kata.Binary64
