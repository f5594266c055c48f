import Mathlib
import Kata.Proofs.Binary64Layout

/-! Rounding errors of binary64 operations, measured in the rationals. -/

namespace Kata.Binary64

theorem two_zpow_add (a b : ℤ) : (2 : ℚ) ^ (a + b) = 2 ^ a * 2 ^ b :=
  zpow_add₀ two_ne_zero a b

theorem finiteValue_eq (neg : Bool) (m : Nat) (e : Int) :
    finiteValue neg m e = (if neg then -(m : ℚ) else m) * 2 ^ e := by
  have scaled : (if 0 ≤ e then ((m * 2 ^ e.toNat : Nat) : ℚ)
      else (m : ℚ) / ((2 ^ (-e).toNat : Nat) : ℚ)) = m * 2 ^ e := by
    split
    · rename_i nonneg
      push_cast
      rw [← zpow_natCast, Int.toNat_of_nonneg nonneg]
    · rename_i negative
      push_cast
      rw [div_eq_mul_inv, ← zpow_natCast, ← zpow_neg, Int.toNat_of_nonneg (by omega), neg_neg]
  unfold finiteValue
  simp only [scaled]
  cases neg <;> simp

theorem finiteValue_zero (neg : Bool) (e : Int) : finiteValue neg 0 e = 0 := by
  rw [finiteValue_eq]
  cases neg <;> simp

theorem abs_finiteValue (neg : Bool) (m : Nat) (e : Int) :
    |finiteValue neg m e| = m * 2 ^ e := by
  rw [finiteValue_eq]
  have nonneg : (0 : ℚ) ≤ m * 2 ^ e := by positivity
  cases neg
  · simp [abs_of_nonneg nonneg]
  · simp [neg_mul, abs_neg, abs_of_nonneg nonneg]

theorem abs_finiteValue_sub (neg : Bool) (p m : Nat) (g e : Int) :
    |finiteValue neg p g - finiteValue neg m e| = |(p : ℚ) * 2 ^ g - m * 2 ^ e| := by
  rw [finiteValue_eq, finiteValue_eq]
  cases neg
  · simp
  · rw [← abs_neg]
    simp only [if_true, neg_mul, sub_neg_eq_add, neg_add_rev, neg_neg]
    ring_nf

theorem finiteValue_mul (a b : Bool) (m n : Nat) (e f : Int) :
    finiteValue (a != b) (m * n) (e + f) = finiteValue a m e * finiteValue b n f := by
  rw [finiteValue_eq, finiteValue_eq, finiteValue_eq, two_zpow_add]
  cases a <;> cases b <;> simp <;> ring

theorem normalized_value (m : Nat) (e : Int) (short : bitLength m ≤ 53) :
    ((m * 2 ^ (53 - bitLength m) : Nat) : ℚ) * 2 ^ (e + bitLength m - 53) = m * 2 ^ e := by
  push_cast
  rw [← zpow_natCast, Nat.cast_sub short, mul_assoc, ← two_zpow_add]
  congr 2
  omega

theorem finiteValue_normalized (neg : Bool) (m : Nat) (e : Int) (short : bitLength m ≤ 53) :
    finiteValue neg (m * 2 ^ (53 - bitLength m)) (e + bitLength m - 53) = finiteValue neg m e := by
  rw [finiteValue_eq, finiteValue_eq]
  cases neg
  · simpa using normalized_value m e short
  · simpa [neg_mul] using normalized_value m e short

theorem exponent_lt_of_lt {v : ℚ} {k B : ℤ} (magnitude : 2 ^ 52 * 2 ^ k ≤ v)
    (below : v < 2 ^ B) : k < B - 52 := by
  have ordered : (2 : ℚ) ^ (52 + k) < 2 ^ B := by
    rw [two_zpow_add]
    calc (2 : ℚ) ^ (52 : ℤ) * 2 ^ k = 2 ^ 52 * 2 ^ k := by norm_num
      _ < 2 ^ B := lt_of_le_of_lt magnitude below
  have := (zpow_lt_zpow_iff_right₀ one_lt_two).mp ordered
  omega

theorem lt_exponent_of_lt {v : ℚ} {k A : ℤ} (above : 2 ^ A < v)
    (magnitude : v < 2 ^ 53 * 2 ^ k) : A - 53 < k := by
  have ordered : (2 : ℚ) ^ A < 2 ^ (53 + k) := by
    rw [two_zpow_add]
    calc (2 : ℚ) ^ A < 2 ^ 53 * 2 ^ k := lt_trans above magnitude
      _ = 2 ^ (53 : ℤ) * 2 ^ k := by norm_num
  have := (zpow_lt_zpow_iff_right₀ one_lt_two).mp ordered
  omega

theorem half_unit_le {v : ℚ} {k B : ℤ} (magnitude : 2 ^ 52 * 2 ^ k ≤ v) (below : v < 2 ^ B) :
    (2 : ℚ) ^ k / 2 ≤ 2 ^ (B - 54) := by
  have exponent := exponent_lt_of_lt magnitude below
  calc (2 : ℚ) ^ k / 2 = 2 ^ (k - 1) := by
        rw [zpow_sub₀ two_ne_zero, zpow_one]
    _ ≤ 2 ^ (B - 54) := zpow_le_zpow_right₀ one_le_two (by omega)

theorem rounded_quotient_error {n d q r : Nat} (division : d * q + r = n) (below : r < d)
    (up : Bool) (upWhen : up = true → d ≤ 2 * r) (downWhen : up = false → 2 * r ≤ d) :
    |((if up then q + 1 else q : Nat) : ℚ) * d - n| ≤ d / 2 := by
  have exact : (d : ℚ) * q + r = n := by exact_mod_cast division
  have rBelow : (r : ℚ) < d := by exact_mod_cast below
  rw [abs_le]
  cases up with
  | true =>
    have twice : (d : ℚ) ≤ 2 * r := by exact_mod_cast upWhen rfl
    simp only [if_true, Nat.cast_add, Nat.cast_one]
    constructor <;> nlinarith
  | false =>
    have twice : 2 * (r : ℚ) ≤ d := by exact_mod_cast downWhen rfl
    simp only [Bool.false_eq_true, if_false]
    have : (0 : ℚ) ≤ r := Nat.cast_nonneg r
    constructor <;> nlinarith

def roundedQuotient (n d : Nat) : Nat :=
  if (decide (2 * (n % d) > d) || (2 * (n % d) == d && n / d % 2 == 1)) = true then n / d + 1
  else n / d

theorem roundedQuotient_spec (n : Nat) {d : Nat} (pos : 0 < d) :
    n / d ≤ roundedQuotient n d ∧ roundedQuotient n d ≤ n / d + 1 ∧
      |(roundedQuotient n d : ℚ) * d - n| ≤ d / 2 := by
  have error := rounded_quotient_error (Nat.div_add_mod n d) (Nat.mod_lt n pos)
    (decide (2 * (n % d) > d) || (2 * (n % d) == d && n / d % 2 == 1))
    (by intro up; simp at up; omega) (by intro down; simp at down; omega)
  refine ⟨?_, ?_, error⟩ <;> unfold roundedQuotient <;> split <;> omega

theorem scaleRatio_value (num den : Nat) (k : Int) (denPos : 0 < den) :
    0 < (scaleRatio num den k).2 ∧
      ((scaleRatio num den k).1 : ℚ) / (scaleRatio num den k).2 = num / den * 2 ^ (-k) := by
  unfold scaleRatio
  split
  · rename_i nonneg
    refine ⟨Nat.mul_pos denPos (Nat.two_pow_pos _), ?_⟩
    push_cast
    rw [← zpow_natCast, Int.toNat_of_nonneg nonneg, zpow_neg, div_mul_eq_div_div, div_eq_mul_inv]
  · rename_i negative
    refine ⟨denPos, ?_⟩
    push_cast
    rw [← zpow_natCast, Int.toNat_of_nonneg (by omega)]
    ring

theorem log2_bounds {n : Nat} (pos : 0 < n) :
    (2 : ℚ) ^ (n.log2 : ℤ) ≤ n ∧ (n : ℚ) < 2 ^ ((n.log2 : ℤ) + 1) := by
  have low : ((2 ^ n.log2 : Nat) : ℚ) ≤ n := by exact_mod_cast Nat.log2_self_le (by omega)
  have high : (n : ℚ) < ((2 ^ (n.log2 + 1) : Nat) : ℚ) := by exact_mod_cast Nat.lt_log2_self
  push_cast at low high
  rw [← zpow_natCast] at low high
  exact ⟨low, by exact_mod_cast high⟩

theorem ratioExponent_spec {num den : Nat} (numPos : 0 < num) (denPos : 0 < den) :
    (2 : ℚ) ^ 52 ≤ num / den * 2 ^ (-ratioExponent num den) ∧
      (num : ℚ) / den * 2 ^ (-ratioExponent num den) < 2 ^ 53 := by
  obtain ⟨numLow, numHigh⟩ := log2_bounds numPos
  obtain ⟨denLow, denHigh⟩ := log2_bounds denPos
  have denPos' : (0 : ℚ) < den := by exact_mod_cast denPos
  set k : ℤ := (num.log2 : ℤ) - (den.log2 : ℤ) - 52 with kDef
  have scale : (2 : ℚ) ^ (num.log2 : ℤ) * 2 ^ (-k) = 2 ^ (52 : ℤ) * 2 ^ (den.log2 : ℤ) := by
    rw [← two_zpow_add, ← two_zpow_add]
    congr 1
    omega
  have scalePos : (0 : ℚ) < 2 ^ (-k) := zpow_pos two_pos _
  have above : (2 : ℚ) ^ 51 < num / den * 2 ^ (-k) := by
    rw [div_mul_eq_mul_div, lt_div_iff₀ denPos']
    calc (2 : ℚ) ^ 51 * den < 2 ^ 51 * 2 ^ ((den.log2 : ℤ) + 1) := by gcongr
      _ = 2 ^ (52 : ℤ) * 2 ^ (den.log2 : ℤ) := by
          rw [two_zpow_add, zpow_one, mul_comm _ (2 : ℚ), ← mul_assoc]
          norm_num
      _ = 2 ^ (num.log2 : ℤ) * 2 ^ (-k) := scale.symm
      _ ≤ num * 2 ^ (-k) := by gcongr
  have below : (num : ℚ) / den * 2 ^ (-k) < 2 ^ 53 := by
    rw [div_mul_eq_mul_div, div_lt_iff₀ denPos']
    calc (num : ℚ) * 2 ^ (-k) < 2 ^ ((num.log2 : ℤ) + 1) * 2 ^ (-k) := by gcongr
      _ = 2 ^ 53 * 2 ^ (den.log2 : ℤ) := by
          rw [two_zpow_add, mul_comm _ (2 ^ (1 : ℤ)), mul_assoc, scale, ← mul_assoc]
          norm_num
      _ ≤ 2 ^ 53 * den := by gcongr
  obtain ⟨dPos, value⟩ := scaleRatio_value num den k denPos
  unfold ratioExponent
  simp only [← kDef]
  split
  · rename_i small
    have : (num : ℚ) / den * 2 ^ (-k) < 2 ^ 52 := by
      rw [← value]
      rw [Nat.div_lt_iff_lt_mul dPos] at small
      rw [div_lt_iff₀ (by exact_mod_cast dPos)]
      exact_mod_cast small
    have double : (2 : ℚ) ^ (-(k - 1)) = 2 * 2 ^ (-k) := by
      rw [show -(k - 1) = 1 + -k by ring, two_zpow_add]
      norm_num
    rw [double]
    constructor <;> nlinarith
  · rename_i large
    have : (2 : ℚ) ^ 52 ≤ num / den * 2 ^ (-k) := by
      rw [← value]
      rw [Nat.not_lt, Nat.le_div_iff_mul_le dPos] at large
      rw [le_div_iff₀ (by exact_mod_cast dPos)]
      exact_mod_cast large
    exact ⟨this, below⟩

theorem carry_value (k : Int) :
    ((2 ^ 52 : Nat) : ℚ) * 2 ^ (k + 1) = ((2 ^ 53 : Nat) : ℚ) * 2 ^ k := by
  push_cast
  rw [two_zpow_add, zpow_one]
  ring

theorem roundedSignificand_eq (num den : Nat) :
    roundedSignificand num den =
      let k := max (ratioExponent num den) (-1074)
      let q := roundedQuotient (scaleRatio num den k).1 (scaleRatio num den k).2
      if q = 2 ^ 53 then (2 ^ 52, k + 1) else (q, k) := rfl

theorem roundedSignificand_spec {num den : Nat} (numPos : 0 < num) (denPos : 0 < den)
    (normal : -1074 ≤ ratioExponent num den) :
    2 ^ 52 ≤ (roundedSignificand num den).1 ∧ (roundedSignificand num den).1 < 2 ^ 53 ∧
      ((roundedSignificand num den).2 = ratioExponent num den ∨
        (roundedSignificand num den).2 = ratioExponent num den + 1) ∧
      |((roundedSignificand num den).1 : ℚ) * 2 ^ (roundedSignificand num den).2 - num / den| ≤
        2 ^ ratioExponent num den / 2 := by
  obtain ⟨low, high⟩ := ratioExponent_spec numPos denPos
  obtain ⟨dPos, value⟩ := scaleRatio_value num den (ratioExponent num den) denPos
  rw [roundedSignificand_eq, max_eq_left normal]
  dsimp only
  set k := ratioExponent num den
  set n := (scaleRatio num den k).1
  set d := (scaleRatio num den k).2
  obtain ⟨atLeast, atMost, error⟩ := roundedQuotient_spec n dPos
  have dPos' : (0 : ℚ) < d := by exact_mod_cast dPos
  have quotientLow : 2 ^ 52 ≤ n / d := by
    rw [← value, le_div_iff₀ dPos'] at low
    rw [Nat.le_div_iff_mul_le dPos]
    exact_mod_cast low
  have quotientHigh : n / d < 2 ^ 53 := by
    rw [← value, div_lt_iff₀ dPos'] at high
    rw [Nat.div_lt_iff_lt_mul dPos]
    exact_mod_cast high
  have ratio : (num : ℚ) / den = n / d * 2 ^ k := by
    rw [value, mul_assoc, ← two_zpow_add, neg_add_cancel, zpow_zero, mul_one]
  have near : |(roundedQuotient n d : ℚ) * 2 ^ k - num / den| ≤ 2 ^ k / 2 := by
    have scaled : (roundedQuotient n d : ℚ) * 2 ^ k - num / den =
        ((roundedQuotient n d : ℚ) * d - n) / d * 2 ^ k := by
      rw [ratio]
      field_simp
    rw [scaled, abs_mul, abs_div, abs_of_pos dPos',
      abs_of_pos (zpow_pos two_pos k : (0 : ℚ) < 2 ^ k)]
    calc |(roundedQuotient n d : ℚ) * d - n| / d * 2 ^ k ≤ d / 2 / d * 2 ^ k := by gcongr
      _ = 2 ^ k / 2 := by field_simp
  split
  · rename_i carried
    refine ⟨le_refl _, by norm_num, Or.inr rfl, ?_⟩
    rw [carried, ← carry_value] at near
    exact near
  · exact ⟨by omega, by omega, Or.inl rfl, near⟩

theorem ofRatio_near (neg : Bool) {num den : Nat} (numPos : 0 < num) (denPos : 0 < den)
    (normal : (2 : ℚ) ^ (-1022 : ℤ) ≤ num / den)
    (finite : (num : ℚ) / den < 2 ^ (1023 : ℤ)) :
    ∃ (q : Nat) (e : Int), (ofRatio neg num den).shape = .finite neg q e ∧
      2 ^ 52 ≤ q ∧ q < 2 ^ 53 ∧ (2 : ℚ) ^ 52 * 2 ^ ratioExponent num den ≤ num / den ∧
      |(q : ℚ) * 2 ^ e - num / den| ≤ 2 ^ ratioExponent num den / 2 := by
  obtain ⟨low, high⟩ := ratioExponent_spec numPos denPos
  set k := ratioExponent num den
  have kLow : -1074 ≤ k := by
    have : (2 : ℚ) ^ (-1022 + -k) < 2 ^ (53 : ℤ) := by
      rw [two_zpow_add]
      calc (2 : ℚ) ^ (-1022 : ℤ) * 2 ^ (-k) ≤ num / den * 2 ^ (-k) := by gcongr
        _ < 2 ^ 53 := high
        _ = 2 ^ (53 : ℤ) := by norm_num
    have := (zpow_lt_zpow_iff_right₀ one_lt_two).mp this
    omega
  have kHigh : k ≤ 970 := by
    have : (2 : ℚ) ^ (52 : ℤ) < 2 ^ (1023 + -k) := by
      rw [two_zpow_add]
      calc (2 : ℚ) ^ (52 : ℤ) = 2 ^ 52 := by norm_num
        _ ≤ num / den * 2 ^ (-k) := low
        _ < 2 ^ (1023 : ℤ) * 2 ^ (-k) := by gcongr
    have := (zpow_lt_zpow_iff_right₀ one_lt_two).mp this
    omega
  obtain ⟨qLow, qHigh, exponent, error⟩ := roundedSignificand_spec numPos denPos kLow
  have exponentHigh : ¬ (roundedSignificand num den).2 > 971 := by omega
  have normalSignificand : ¬ (roundedSignificand num den).1 < 2 ^ 52 := by omega
  have biasedBound : ((roundedSignificand num den).2 + 1075).toNat < 2047 := by omega
  have fractionBound : (roundedSignificand num den).1 - 2 ^ 52 < 2 ^ 52 := by omega
  have biasedPos : ¬ ((roundedSignificand num den).2 + 1075).toNat = 0 := by omega
  have significand : hiddenBit + ((roundedSignificand num den).1 - 2 ^ 52) =
      (roundedSignificand num den).1 := by
    unfold hiddenBit
    omega
  have unbiased : (((roundedSignificand num den).2 + 1075).toNat : Int) - 1075 =
      (roundedSignificand num den).2 := by
    omega
  refine ⟨(roundedSignificand num den).1, (roundedSignificand num den).2, ?_, qLow, qHigh, ?_,
    error⟩
  · unfold ofRatio
    rw [if_neg (by omega), if_neg (by omega)]
    dsimp only
    rw [if_neg exponentHigh, if_neg normalSignificand, shape_ofFields neg biasedBound fractionBound,
      if_neg biasedPos, significand, unbiased]
  · calc (2 : ℚ) ^ 52 * 2 ^ k ≤ num / den * 2 ^ (-k) * 2 ^ k := by gcongr
      _ = num / den := by rw [mul_assoc, ← two_zpow_add, neg_add_cancel, zpow_zero, mul_one]

theorem shiftRounded_eq (m : Nat) {s : Nat} (positive : 0 < s) :
    (if (decide (m - m >>> s <<< s > 1 <<< (s - 1)) ||
        (m - m >>> s <<< s == 1 <<< (s - 1) && m >>> s % 2 == 1)) = true
      then m >>> s + 1 else m >>> s) = roundedQuotient m (2 ^ s) := by
  have remainder : m - m >>> s <<< s = m % 2 ^ s := by
    rw [Nat.shiftRight_eq_div_pow, Nat.shiftLeft_eq, Nat.mod_eq_sub_mul_div, Nat.mul_comm]
  have half : 1 <<< (s - 1) * 2 = 2 ^ s := by
    rw [Nat.shiftLeft_eq, Nat.one_mul, ← Nat.pow_succ]
    congr 1
    omega
  have decision : (decide (m % 2 ^ s > 1 <<< (s - 1)) ||
      (m % 2 ^ s == 1 <<< (s - 1) && m / 2 ^ s % 2 == 1)) =
      (decide (2 * (m % 2 ^ s) > 2 ^ s) || (2 * (m % 2 ^ s) == 2 ^ s && m / 2 ^ s % 2 == 1)) := by
    rw [Bool.eq_iff_iff]
    simp only [Bool.or_eq_true, Bool.and_eq_true, decide_eq_true_eq, beq_iff_eq]
    omega
  rw [remainder, Nat.shiftRight_eq_div_pow, decision]
  rfl

theorem roundedQuotient_two_pow_near (m s : Nat) (e : Int) :
    |(roundedQuotient m (2 ^ s) : ℚ) * 2 ^ (e + s) - m * 2 ^ e| ≤ 2 ^ (e + s) / 2 := by
  obtain ⟨-, -, error⟩ := roundedQuotient_spec m (Nat.two_pow_pos s)
  have unit : (2 : ℚ) ^ (e + s) = ((2 ^ s : Nat) : ℚ) * 2 ^ e := by
    push_cast
    rw [← zpow_natCast, ← two_zpow_add, add_comm]
  have scaled : (roundedQuotient m (2 ^ s) : ℚ) * 2 ^ (e + s) - m * 2 ^ e =
      ((roundedQuotient m (2 ^ s) : ℚ) * ((2 ^ s : Nat) : ℚ) - m) * 2 ^ e := by
    rw [unit]
    ring
  rw [scaled, abs_mul, abs_of_pos (zpow_pos two_pos e : (0 : ℚ) < 2 ^ e), unit]
  calc |(roundedQuotient m (2 ^ s) : ℚ) * ((2 ^ s : Nat) : ℚ) - m| * 2 ^ e
      ≤ ((2 ^ s : Nat) : ℚ) / 2 * 2 ^ e := by gcongr
    _ = ((2 ^ s : Nat) : ℚ) * 2 ^ e / 2 := by ring

theorem ofDyadic_near (neg : Bool) {m : Nat} (e : Int) (pos : 0 < m)
    (normal : -1074 ≤ e + bitLength m - 53) (bounded : e + bitLength m - 53 ≤ 970) :
    ∃ (q : Nat) (f : Int), (ofDyadic neg m e).shape = .finite neg q f ∧
      2 ^ 52 ≤ q ∧ q < 2 ^ 53 ∧ (2 : ℚ) ^ 52 * 2 ^ (e + bitLength m - 53) ≤ m * 2 ^ e ∧
      |(q : ℚ) * 2 ^ f - m * 2 ^ e| ≤ 2 ^ (e + bitLength m - 53) / 2 := by
  obtain ⟨low, high⟩ := bitLength_bounds pos
  have nonempty := one_le_bitLength pos
  have lowCast : (2 : ℚ) ^ ((bitLength m : ℤ) - 1) ≤ m := by
    have : ((2 ^ (bitLength m - 1) : Nat) : ℚ) ≤ m := by exact_mod_cast low
    rwa [Nat.cast_pow, Nat.cast_ofNat, ← zpow_natCast, Nat.cast_sub (by omega),
      Nat.cast_one] at this
  have magnitude : (2 : ℚ) ^ 52 * 2 ^ (e + bitLength m - 53) ≤ m * 2 ^ e := by
    calc (2 : ℚ) ^ 52 * 2 ^ (e + bitLength m - 53) = 2 ^ ((bitLength m : ℤ) - 1) * 2 ^ e := by
          rw [← two_zpow_add, show (2 : ℚ) ^ 52 = 2 ^ (52 : ℤ) by norm_num, ← two_zpow_add]
          congr 1
          ring
      _ ≤ m * 2 ^ e := by gcongr
  set k := e + bitLength m - 53 with kDef
  rcases Nat.lt_or_ge 53 (bitLength m) with long | short
  · set s := bitLength m - 53 with sDef
    have shift : (k - e).toNat = s := by omega
    have sPos : 0 < s := by omega
    have quotientLow : 2 ^ 52 ≤ m / 2 ^ s := by
      rw [Nat.le_div_iff_mul_le (Nat.two_pow_pos s), ← Nat.pow_add]
      calc 2 ^ (52 + s) = 2 ^ (bitLength m - 1) := by congr 1; omega
        _ ≤ m := low
    have quotientHigh : m / 2 ^ s < 2 ^ 53 := by
      rw [Nat.div_lt_iff_lt_mul (Nat.two_pow_pos s), ← Nat.pow_add]
      calc m < 2 ^ bitLength m := high
        _ = 2 ^ (53 + s) := by congr 1; omega
    obtain ⟨atLeast, atMost, -⟩ := roundedQuotient_spec m (Nat.two_pow_pos s)
    have near := roundedQuotient_two_pow_near m s e
    rw [show e + (s : Int) = k by omega] at near
    unfold ofDyadic
    rw [if_neg (by omega)]
    dsimp only
    rw [← kDef, max_eq_left normal, if_neg (show ¬ k ≤ e by omega), shift,
      shiftRounded_eq m sPos]
    split
    · rename_i carried
      refine ⟨2 ^ 52, k + 1, shape_normal neg le_rfl (by norm_num) (by omega) (by omega), le_rfl,
        by norm_num, magnitude, ?_⟩
      rw [carried, ← carry_value] at near
      exact near
    · exact ⟨_, k, shape_normal neg (by omega) (by omega) normal (by omega), by omega, by omega,
        magnitude, near⟩
  · have small : m < 2 ^ 53 := Nat.lt_of_lt_of_le high (Nat.pow_le_pow_right (by decide) short)
    obtain ⟨-, normLow, normHigh⟩ := normalized_bounds pos small
    refine ⟨m * 2 ^ (53 - bitLength m), k, shape_ofDyadic_exact neg e pos small normal (by omega),
      normLow, normHigh, magnitude, ?_⟩
    rw [normalized_value m e short, sub_self, abs_zero]
    positivity

theorem mul_near {x y : Binary64} {a b : Bool} {m n : Nat} {e f : Int} (B : Int)
    (xShape : x.shape = .finite a m e) (yShape : y.shape = .finite b n f)
    (below : |finiteValue a m e * finiteValue b n f| < 2 ^ B)
    (normal : 0 < m * n → -1074 ≤ e + f + bitLength (m * n) - 53)
    (bounded : e + f + bitLength (m * n) - 53 ≤ 970) :
    ∃ (c : Bool) (p : Nat) (g : Int), (x.mul y).shape = .finite c p g ∧
      |finiteValue c p g - finiteValue a m e * finiteValue b n f| ≤ 2 ^ (B - 54) := by
  have product : x.mul y = ofDyadic (a != b) (m * n) (e + f) := by
    simp only [mul, xShape, yShape]
  rw [product, ← finiteValue_mul]
  rcases Nat.eq_zero_or_pos (m * n) with zero | pos
  · refine ⟨a != b, 0, -1074, ?_, ?_⟩
    · rw [zero, ofDyadic, if_pos rfl, shape_signedZero]
    · rw [zero, finiteValue_zero, finiteValue_zero, sub_self, abs_zero]
      positivity
  · obtain ⟨q, g, shape, -, -, magnitude, error⟩ :=
      ofDyadic_near (a != b) (e + f) pos (normal pos) bounded
    refine ⟨a != b, q, g, shape, ?_⟩
    rw [abs_finiteValue_sub]
    have exactBelow : ((m * n : Nat) : ℚ) * 2 ^ (e + f) < 2 ^ B := by
      rw [← abs_finiteValue (a != b)]
      rwa [finiteValue_mul]
    exact le_trans error (half_unit_le magnitude exactBelow)

theorem finiteValue_split (neg : Bool) (q : Nat) {f : Int} (fractional : f ≤ 0) :
    finiteValue neg q f -
        (if neg then -((q / 2 ^ (-f).toNat : Nat) : Int) else (q / 2 ^ (-f).toNat : Nat)) =
      finiteValue neg (q % 2 ^ (-f).toNat) f ∧
    |finiteValue neg (q % 2 ^ (-f).toNat) f| < 1 := by
  set d := 2 ^ (-f).toNat with dDef
  have dPos : 0 < d := Nat.two_pow_pos _
  have unit : ((d : Nat) : ℚ) * 2 ^ f = 1 := by
    rw [dDef]
    push_cast
    rw [← zpow_natCast, Int.toNat_of_nonneg (by omega), ← two_zpow_add, neg_add_cancel,
      zpow_zero]
  have split : (q : ℚ) * 2 ^ f = (q / d : Nat) + (q % d : Nat) * 2 ^ f := by
    have parts : (q : ℚ) = d * (q / d : Nat) + (q % d : Nat) := by
      exact_mod_cast (Nat.div_add_mod q d).symm
    rw [parts, add_mul, mul_comm (d : ℚ), mul_assoc, unit, mul_one]
  have below : ((q % d : Nat) : ℚ) * 2 ^ f < 1 := by
    rw [← unit]
    gcongr
    exact_mod_cast Nat.mod_lt q dPos
  constructor
  · rw [finiteValue_eq, finiteValue_eq]
    cases neg
    · simp only [Bool.false_eq_true, if_false, Int.cast_natCast]
      rw [split]
      ring
    · simp only [if_true, Int.cast_neg, Int.cast_natCast, neg_mul]
      rw [split]
      ring
  · rw [finiteValue_eq]
    have nonneg : (0 : ℚ) ≤ ((q % d : Nat) : ℚ) * 2 ^ f := by positivity
    cases neg
    · simpa [abs_of_nonneg nonneg] using below
    · simpa [neg_mul, abs_neg, abs_of_nonneg nonneg] using below

theorem truncInt?_add_fract {x : Binary64} {neg : Bool} {q : Nat} {f : Int}
    (shape : x.shape = .finite neg q f) (small : q < 2 ^ 53) (fractional : f ≤ 0)
    (normal : -1021 ≤ f) :
    ∃ whole : Int, x.truncInt? = some whole ∧ ∃ (a : Bool) (p : Nat) (g : Int),
      x.fract.shape = .finite a p g ∧ p < 2 ^ 53 ∧ g ≤ f ∧ (0 < p → f - 52 ≤ g) ∧
        finiteValue a p g = finiteValue neg q f - whole ∧ |finiteValue a p g| < 1 := by
  obtain ⟨remainderValue, remainderSmall⟩ := finiteValue_split neg q fractional
  set d := 2 ^ (-f).toNat with dDef
  have integerPart : (if 0 ≤ f then q * 2 ^ f.toNat else q / 2 ^ (-f).toNat) = q / d := by
    split
    · have : f = 0 := by omega
      subst this
      simp [dDef]
    · rfl
  refine ⟨if neg then -((q / d : Nat) : Int) else (q / d : Nat), ?_, ?_⟩
  · simp only [truncInt?, shape, integerPart]
  simp only [fract, shape]
  split
  · rename_i nonneg
    have : f = 0 := by omega
    subst this
    refine ⟨neg, 0, -1074, shape_signedZero neg, by norm_num, by omega, by omega, ?_,
      by rw [finiteValue_zero]; norm_num⟩
    have single : d = 1 := by simp [dDef]
    rw [finiteValue_zero, remainderValue, single, Nat.mod_one, finiteValue_zero]
  · rename_i negative
    rcases Nat.eq_zero_or_pos (q % d) with exact | pos
    · refine ⟨neg, 0, -1074, ?_, by norm_num, by omega, by omega, ?_,
        by rw [finiteValue_zero]; norm_num⟩
      · rw [← dDef, exact, ofDyadic, if_pos rfl, shape_signedZero]
      · rw [finiteValue_zero, remainderValue, exact, finiteValue_zero]
    · have remainderLow : q % d < 2 ^ 53 := Nat.lt_of_le_of_lt (Nat.mod_le q d) small
      obtain ⟨length, -, normalHigh⟩ := normalized_bounds pos remainderLow
      have nonempty := one_le_bitLength pos
      refine ⟨neg, q % d * 2 ^ (53 - bitLength (q % d)), f + bitLength (q % d) - 53, ?_,
        normalHigh, by omega, fun _ => by omega, ?_, ?_⟩
      · rw [← dDef]
        exact shape_ofDyadic_exact neg f pos remainderLow (by omega) (by omega)
      · rw [remainderValue, finiteValue_normalized neg _ f length]
      · rw [finiteValue_normalized neg _ f length]
        exact remainderSmall

theorem roundHalfEvenInt?_near {x : Binary64} {neg : Bool} {m : Nat} {e : Int}
    (shape : x.shape = .finite neg m e) :
    ∃ v : Int, x.roundHalfEvenInt? = some v ∧ |(v : ℚ) - finiteValue neg m e| ≤ 1 / 2 := by
  set mag : Nat := if 0 ≤ e then m * 2 ^ e.toNat else roundedQuotient m (2 ^ (-e).toNat)
    with magDef
  have magnitude : |(mag : ℚ) - m * 2 ^ e| ≤ 1 / 2 := by
    rw [magDef]
    split
    · rename_i nonneg
      push_cast
      rw [← zpow_natCast, Int.toNat_of_nonneg nonneg, sub_self, abs_zero]
      norm_num
    · rename_i negative
      have unit : (2 : ℚ) ^ e = 1 / ((2 ^ (-e).toNat : Nat) : ℚ) := by
        push_cast
        rw [← zpow_natCast, Int.toNat_of_nonneg (by omega), zpow_neg, one_div, inv_inv]
      have powPos : (0 : ℚ) < ((2 ^ (-e).toNat : Nat) : ℚ) := by positivity
      obtain ⟨-, -, error⟩ := roundedQuotient_spec m (Nat.two_pow_pos (-e).toNat)
      rw [unit, ← mul_div_assoc, mul_one]
      rw [show (roundedQuotient m (2 ^ (-e).toNat) : ℚ) - m / ((2 ^ (-e).toNat : Nat) : ℚ) =
          ((roundedQuotient m (2 ^ (-e).toNat) : ℚ) * ((2 ^ (-e).toNat : Nat) : ℚ) - m) /
            ((2 ^ (-e).toNat : Nat) : ℚ) by field_simp]
      rw [abs_div, abs_of_pos powPos, div_le_iff₀ powPos]
      linarith
  refine ⟨if neg then -(mag : Int) else mag, ?_, ?_⟩
  · simp only [roundHalfEvenInt?, shape]
    rfl
  · rw [finiteValue_eq]
    cases neg
    · simpa using magnitude
    · rw [← abs_neg]
      simpa [neg_mul, neg_sub, sub_eq_add_neg, add_comm] using magnitude

end Kata.Binary64
