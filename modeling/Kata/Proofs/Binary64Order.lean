import Mathlib
import Kata.Proofs.Binary64Rounding

/-! `compare?` on finite binary64 numbers is the order of their exact values. -/

namespace Kata.Binary64

/-- The layout of a finite shape: an exponent of at least `-1074` and a significand below `2^53`,
of exactly 53 bits above the least exponent. -/
def Laid (q : Nat) (g : Int) : Prop :=
  -1074 ≤ g ∧ q < 2 ^ 53 ∧ (-1074 < g → 2 ^ 52 ≤ q)

def layoutKey (q : Nat) (g : Int) : Int := (g + 1074) * 2 ^ 52 + q

theorem laid_zero : Laid 0 (-1074) := by
  unfold Laid
  omega

theorem layoutKey_nonneg {q : Nat} {g : Int} (laid : Laid q g) : 0 ≤ layoutKey q g := by
  unfold Laid at laid
  unfold layoutKey
  omega

theorem shape_laid {x : Binary64} {neg : Bool} {q : Nat} {g : Int}
    (finite : x.shape = .finite neg q g) : Laid q g := by
  have fraction : x.fractionField < 2 ^ 52 := by
    rw [fractionField_eq]
    omega
  have exponent : x.exponentField < 2048 := by
    rw [exponentField_eq]
    omega
  unfold shape at finite
  dsimp only at finite
  unfold Laid
  split at finite
  · split at finite <;> cases finite
  · split at finite
    · cases finite
      omega
    · cases finite
      unfold hiddenBit
      omega

theorem orderKey_of_shape {x : Binary64} {neg : Bool} {q : Nat} {g : Int}
    (finite : x.shape = .finite neg q g) :
    x.orderKey = if neg then -layoutKey q g else layoutKey q g := by
  have magnitude : ((x.bits &&& 0x7FFFFFFFFFFFFFFF).toNat : Int) =
      x.exponentField * 2 ^ 52 + x.fractionField := by
    rw [UInt64.toNat_and, exponentField_eq, fractionField_eq]
    show ((x.bits.toNat &&& (2 ^ 63 - 1) : Nat) : Int) = _
    rw [Nat.and_two_pow_sub_one_eq_mod]
    omega
  unfold shape at finite
  dsimp only at finite
  unfold orderKey layoutKey
  simp only [magnitude]
  split at finite
  · split at finite <;> cases finite
  · split at finite
    · rename_i subnormal
      cases finite
      rw [subnormal]
      rfl
    · rename_i _ normal
      cases finite
      have : ((x.exponentField : Int) - 1075 + 1074) * 2 ^ 52 +
          ((hiddenBit + x.fractionField : Nat) : Int) =
            x.exponentField * 2 ^ 52 + x.fractionField := by
        unfold hiddenBit
        push_cast
        ring
      rw [this]

theorem value_lt_of_exponent_lt {q q' : Nat} {g g' : Int} (less : g < g') (laid : Laid q g)
    (laid' : Laid q' g') : (q : ℚ) * 2 ^ g < q' * 2 ^ g' := by
  have short : (q : ℚ) < 2 ^ 53 := by exact_mod_cast laid.2.1
  have full : (2 : ℚ) ^ 52 ≤ q' := by exact_mod_cast laid'.2.2 (by unfold Laid at laid; omega)
  calc (q : ℚ) * 2 ^ g < 2 ^ 53 * 2 ^ g := by gcongr
    _ = 2 ^ 52 * 2 ^ (g + 1) := by
        rw [two_zpow_add]
        ring
    _ ≤ 2 ^ 52 * 2 ^ g' := by
        gcongr
        · norm_num
        · omega
    _ ≤ q' * 2 ^ g' := by gcongr

theorem layoutKey_lt_iff {q q' : Nat} {g g' : Int} (laid : Laid q g) (laid' : Laid q' g') :
    layoutKey q g < layoutKey q' g' ↔ (q : ℚ) * 2 ^ g < q' * 2 ^ g' := by
  have keyShort := laid.2.1
  have keyShort' := laid'.2.1
  unfold layoutKey
  rcases lt_trichotomy g g' with less | same | more
  · have full := laid'.2.2 (by unfold Laid at laid; omega)
    exact iff_of_true (by omega) (value_lt_of_exponent_lt less laid laid')
  · subst same
    rw [mul_lt_mul_iff_of_pos_right (zpow_pos two_pos g), Nat.cast_lt]
    omega
  · have full := laid.2.2 (by unfold Laid at laid'; omega)
    exact iff_of_false (by omega) (not_lt.mpr (value_lt_of_exponent_lt more laid' laid).le)

theorem layoutKey_pos_iff {q : Nat} {g : Int} (laid : Laid q g) :
    0 < layoutKey q g ↔ 0 < (q : ℚ) * 2 ^ g := by
  simpa [layoutKey] using layoutKey_lt_iff laid_zero laid

/-- `compare?` on finite numbers is the order of their exact values. -/
theorem compare?_eq_lt_iff {x y : Binary64} {a b : Bool} {m n : Nat} {e f : Int}
    (xShape : x.shape = .finite a m e) (yShape : y.shape = .finite b n f) :
    x.compare? y = some .lt ↔ finiteValue a m e < finiteValue b n f := by
  have laid := shape_laid xShape
  have laid' := shape_laid yShape
  have keyNonneg := layoutKey_nonneg laid
  have keyNonneg' := layoutKey_nonneg laid'
  have valueNonneg : (0 : ℚ) ≤ m * 2 ^ e := by positivity
  have valueNonneg' : (0 : ℚ) ≤ n * 2 ^ f := by positivity
  have keys := layoutKey_lt_iff laid laid'
  have keysBack := layoutKey_lt_iff laid' laid
  simp only [compare?, isNaN, xShape, yShape, Bool.or_false, Bool.false_eq_true, if_false,
    Option.some.injEq, compare_lt_iff_lt, orderKey_of_shape xShape, orderKey_of_shape yShape,
    finiteValue_eq]
  cases a <;> cases b <;> simp only [if_true, if_false, Bool.false_eq_true]
  · exact keys
  · refine iff_of_false (by omega) (not_lt.mpr ?_)
    linarith
  · rw [neg_mul]
    have eitherKey :
        -layoutKey m e < layoutKey n f ↔ 0 < layoutKey m e ∨ 0 < layoutKey n f := by
      omega
    rw [eitherKey, layoutKey_pos_iff laid, layoutKey_pos_iff laid']
    constructor
    · rintro (pos | pos) <;> linarith
    · intro below
      by_contra! neither
      linarith
  · rw [neg_mul, neg_mul, neg_lt_neg_iff, neg_lt_neg_iff]
    exact keysBack

end Kata.Binary64
