import Kata.Drill.Numbers
import Kata.Proofs.Binary64Rounding

/-! Numbers of every kind compare by their exact values. -/

namespace Kata

namespace Dyadic

def value (a : Dyadic) : ℚ := Binary64.finiteValue a.neg a.mag a.exp

theorem value_eq (a : Dyadic) : a.value = (if a.neg then -(a.mag : ℚ) else a.mag) * 2 ^ a.exp :=
  Binary64.finiteValue_eq a.neg a.mag a.exp

@[simp] theorem value_ofInt (n : Int) : (ofInt n).value = n := by
  rw [value_eq, ofInt]
  simp only [zpow_zero, mul_one, decide_eq_true_eq, Nat.cast_natAbs, Int.cast_abs]
  split
  · rename_i negative
    rw [abs_of_neg (by exact_mod_cast negative), neg_neg]
  · rename_i nonneg
    rw [abs_of_nonneg (by exact_mod_cast not_lt.mp nonneg)]

theorem sign_cases (a : Dyadic) :
    (a.sign = 0 ∧ a.value = 0) ∨ (a.sign = -1 ∧ a.value < 0) ∨ (a.sign = 1 ∧ 0 < a.value) := by
  have scale : (0 : ℚ) < 2 ^ a.exp := zpow_pos two_pos a.exp
  rw [value_eq, sign]
  by_cases zero : a.mag = 0
  · simp [zero]
  · have positive : (0 : ℚ) < a.mag := by exact_mod_cast Nat.pos_of_ne_zero zero
    cases a.neg <;> simp [zero, mul_pos positive scale]

theorem neg_of_sign {a : Dyadic} (negative : a.sign = -1) : a.neg = true := by
  unfold sign at negative
  split_ifs at negative
  assumption

theorem not_neg_of_sign {a : Dyadic} (positive : a.sign = 1) : a.neg = false := by
  unfold sign at positive
  split_ifs at positive <;> simp_all

theorem value_lt_of_sign_lt {a b : Dyadic} (lt : a.sign < b.sign) : a.value < b.value := by
  rcases a.sign_cases with ⟨sa, va⟩ | ⟨sa, va⟩ | ⟨sa, va⟩ <;>
    rcases b.sign_cases with ⟨sb, vb⟩ | ⟨sb, vb⟩ | ⟨sb, vb⟩ <;>
    rw [sa, sb] at lt <;> linarith

theorem shifted_value (m : Nat) {e k : Int} (le : k ≤ e) :
    ((m <<< (e - k).toNat : Nat) : ℚ) * 2 ^ k = m * 2 ^ e := by
  rw [Nat.shiftLeft_eq, Nat.cast_mul, Nat.cast_pow, Nat.cast_ofNat, mul_assoc, ← zpow_natCast,
    ← zpow_add₀ two_ne_zero, Int.toNat_of_nonneg (by omega), sub_add_cancel]

theorem value_shifted (a : Dyadic) {k : Int} (le : k ≤ a.exp) :
    a.value = (if a.neg then -1 else 1) * (((a.mag <<< (a.exp - k).toNat : Nat) : ℚ) * 2 ^ k) := by
  rw [shifted_value a.mag le, value_eq]
  cases a.neg <;> simp

theorem compare_cast_mul (A B : Nat) {s : ℚ} (positive : 0 < s) :
    Ord.compare ((A : ℚ) * s) ((B : ℚ) * s) = Ord.compare A B := by
  rw [← cmp_eq_compare, cmp_mul_pos_right positive, Nat.strictMono_cast.cmp_map_eq, cmp_eq_compare]

theorem compare_neg_one_mul (x y : ℚ) :
    Ord.compare (-1 * x) (-1 * y) = (Ord.compare x y).swap := by
  rw [← cmp_eq_compare, cmp_mul_neg_left (by norm_num), ← cmp_swap, cmp_eq_compare]

theorem compare_eq (a b : Dyadic) : a.compare b = Ord.compare a.value b.value := by
  unfold Dyadic.compare
  split
  · rename_i differ
    rcases lt_or_gt_of_ne differ with lt | gt
    · rw [compare_lt_iff_lt.mpr lt, compare_lt_iff_lt.mpr (value_lt_of_sign_lt lt)]
    · rw [compare_gt_iff_gt.mpr gt, compare_gt_iff_gt.mpr (value_lt_of_sign_lt gt)]
  · rename_i same
    simp only [ne_eq, Decidable.not_not] at same
    have shiftedA := a.value_shifted (min_le_left a.exp b.exp)
    have shiftedB := b.value_shifted (min_le_right a.exp b.exp)
    have scale : (0 : ℚ) < 2 ^ min a.exp b.exp := zpow_pos two_pos _
    rcases a.sign_cases with ⟨sa, va⟩ | ⟨sa, va⟩ | ⟨sa, va⟩
    · have vb : b.value = 0 := by
        rcases b.sign_cases with ⟨sb, vb⟩ | ⟨sb, vb⟩ | ⟨sb, vb⟩
        · exact vb
        all_goals omega
      rw [if_pos sa, va, vb, compare_eq_iff_eq.mpr rfl]
    · rw [if_neg (by omega)]
      dsimp only
      rw [if_neg (by omega), shiftedA, shiftedB]
      simp only [neg_of_sign sa, neg_of_sign (same ▸ sa), if_true]
      rw [compare_neg_one_mul, compare_cast_mul _ _ scale]
    · rw [if_neg (by omega)]
      dsimp only
      rw [if_pos (by omega), shiftedA, shiftedB]
      simp only [not_neg_of_sign sa, not_neg_of_sign (same ▸ sa), Bool.false_eq_true, if_false,
        one_mul]
      rw [compare_cast_mul _ _ scale]

end Dyadic

namespace Extended

noncomputable def toEReal : Extended → EReal
  | .negInf => ⊥
  | .fin d => ((d.value : ℝ) : EReal)
  | .posInf => ⊤

@[simp] theorem toEReal_ofInt (n : Int) : (ofInt n).toEReal = ((n : ℝ) : EReal) := by
  simp [ofInt, toEReal]

theorem compare_coe_coe (p q : ℚ) :
    Ord.compare ((p : ℝ) : EReal) ((q : ℝ) : EReal) = Ord.compare p q := by
  rw [← cmp_eq_compare, EReal.coe_strictMono.cmp_map_eq, Rat.cast_strictMono.cmp_map_eq,
    cmp_eq_compare]

theorem compare_eq (x y : Extended) : x.compare y = Ord.compare x.toEReal y.toEReal := by
  cases x with
  | negInf =>
    cases y with
    | negInf => exact (compare_eq_iff_eq.mpr rfl).symm
    | fin d => exact (compare_lt_iff_lt.mpr (EReal.bot_lt_coe _)).symm
    | posInf => exact (compare_lt_iff_lt.mpr bot_lt_top).symm
  | fin a =>
    cases y with
    | negInf => exact (compare_gt_iff_gt.mpr (EReal.bot_lt_coe _)).symm
    | fin b => rw [compare, toEReal, toEReal, compare_coe_coe, Dyadic.compare_eq]
    | posInf => exact (compare_lt_iff_lt.mpr (EReal.coe_lt_top _)).symm
  | posInf =>
    cases y with
    | negInf => exact (compare_gt_iff_gt.mpr bot_lt_top).symm
    | fin d => exact (compare_gt_iff_gt.mpr (EReal.coe_lt_top _)).symm
    | posInf => exact (compare_eq_iff_eq.mpr rfl).symm

end Extended

namespace Value

noncomputable def realValue? (v : Value) : Option EReal := v.magnitude?.map Extended.toEReal

@[simp] theorem realValue?_int (n : Int) : (Value.int n).realValue? = some ((n : ℝ) : EReal) := by
  simp [realValue?, magnitude?]

@[simp] theorem realValue?_bool (b : Bool) :
    (Value.bool b).realValue? = some (((if b then 1 else 0 : Int) : ℝ) : EReal) := by
  simp [realValue?, magnitude?]

theorem realValue?_float (x : Binary64) :
    (Value.float x).realValue? =
      match x.shape with
      | .nan => Option.none
      | .inf neg => some (if neg then ⊥ else ⊤)
      | .finite neg m e => some ((Binary64.finiteValue neg m e : ℝ) : EReal) := by
  rw [realValue?, magnitude?, Binary64.toExtended?]
  cases x.shape with
  | nan => rfl
  | inf neg => cases neg <;> rfl
  | finite neg m e => rfl

theorem realValue?_of_asInt {n : Value} {k : Int} (integral : n.asInt? = some k) :
    n.isNumber ∧ n.realValue? = some ((k : ℝ) : EReal) := by
  cases n with
  | bool b =>
    simp only [asInt?, Option.some.injEq] at integral
    simp [isNumber, integral]
  | int m =>
    simp only [asInt?, Option.some.injEq] at integral
    simp [isNumber, integral]
  | _ => simp [asInt?] at integral

theorem compareBy_numbers (op : Comparison) {a b : Value} (na : a.isNumber) (nb : b.isNumber) :
    compareBy op a b =
      .ok (match a.realValue?, b.realValue? with
        | some u, some v => op.holds (Ord.compare u v)
        | _, _ => false) := by
  rw [compareBy.eq_3 op a b (fun _ _ list _ => by simp [list, isNumber] at na)
      (fun _ _ text _ => by simp [text, isNumber] at na), if_pos (by simp [na, nb]),
    realValue?, realValue?]
  cases a.magnitude? <;> cases b.magnitude? <;> simp [Extended.compare_eq]

end Value

namespace Drill

noncomputable def Verdict.ofValues : Option EReal → Option EReal → Verdict
  | some u, some v => if v < u then .firstGreater else if u < v then .secondGreater else .equal
  | _, _ => .equal

theorem compareNumbers_numbers {a b : Value} (na : a.isNumber) (nb : b.isNumber) :
    compareNumbers a b = .ok (.str (Verdict.ofValues a.realValue? b.realValue?).text) := by
  simp only [compareNumbers, verdict, Value.compareBy_numbers _ na nb]
  cases a.realValue? with
  | none => rfl
  | some u =>
    cases b.realValue? with
    | none => rfl
    | some v =>
      simp only [Comparison.holds, Verdict.ofValues, beq_iff_eq, compare_gt_iff_gt,
        compare_lt_iff_lt, bind, Except.bind, pure, Except.pure, Except.map]
      split_ifs <;> rfl

/-- An integer or truth value and a binary64 number compare by their exact values in either order:
no integer is rounded, the infinities lie beyond every integer, and a NaN is neither greater nor
smaller. -/
theorem compareNumbers_integer_binary64 {n : Value} {k : Int} (integral : n.asInt? = some k)
    (x : Binary64) :
    compareNumbers n (.float x) =
        .ok (.str (Verdict.ofValues (some ((k : ℝ) : EReal)) (Value.float x).realValue?).text) ∧
      compareNumbers (.float x) n =
        .ok (.str (Verdict.ofValues (Value.float x).realValue? (some ((k : ℝ) : EReal))).text) := by
  obtain ⟨numeric, valued⟩ := Value.realValue?_of_asInt integral
  have float : (Value.float x).isNumber := rfl
  rw [compareNumbers_numbers numeric float, compareNumbers_numbers float numeric, valued]
  exact ⟨rfl, rfl⟩

theorem compareNumbers_two_pow_53_succ :
    (Value.int (2 ^ 53 + 1)).asInt? = some (2 ^ 53 + 1) ∧
      compareNumbers (.int (2 ^ 53 + 1)) (.float ⟨0x4340000000000000⟩) =
        .ok (.str "first is greater") ∧
      compareNumbers (.float ⟨0x4340000000000000⟩) (.int (2 ^ 53 + 1)) =
        .ok (.str "second is greater") := by
  have integral : (Value.int (2 ^ 53 + 1)).asInt? = some (2 ^ 53 + 1) := rfl
  obtain ⟨forward, backward⟩ := compareNumbers_integer_binary64 integral ⟨0x4340000000000000⟩
  have shape : Binary64.shape ⟨0x4340000000000000⟩ = .finite false (2 ^ 52) 1 := by decide
  have valued : (Value.float ⟨0x4340000000000000⟩).realValue? = some ((2 ^ 53 : ℝ) : EReal) := by
    rw [Value.realValue?_float, shape]
    dsimp only
    rw [Binary64.finiteValue_eq]
    norm_num
  have below : ((2 ^ 53 : ℝ) : EReal) < (((2 ^ 53 + 1 : ℤ) : ℝ) : EReal) := by
    rw [EReal.coe_lt_coe_iff]
    norm_num
  refine ⟨integral, ?_, ?_⟩
  · rw [forward, valued, Verdict.ofValues, if_pos below]
    rfl
  · rw [backward, valued, Verdict.ofValues, if_neg (not_lt.mpr below.le), if_pos below]
    rfl

end Drill

end Kata
