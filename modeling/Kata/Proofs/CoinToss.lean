import Mathlib
import Kata.Proofs.Binary64Order
import Kata.Proofs.PrintedTally
import Kata.Proofs.MailDate

/-! The biased coin's wheel: a toss is heads exactly when its uniform number is below 3/8. -/

namespace Kata.Random

open Binary64

theorem Twister.units_lt (t : Twister) : t.units.1 < 2 ^ 53 := by
  have first := t.next.1.toNat_lt
  have second := t.next.2.next.1.toNat_lt
  simp only [Twister.units, UInt32.toNat_shiftRight, Nat.shiftRight_eq_div_pow]
  show t.next.1.toNat / 2 ^ 5 * 2 ^ 26 + t.next.2.next.1.toNat / 2 ^ 6 < 2 ^ 53
  omega

theorem ofUnits_shape {v : Nat} (below : v < 2 ^ 53) :
    ∃ m e, (ofUnits v).shape = .finite false m e ∧ finiteValue false m e = v / 2 ^ 53 ∧
      m < 2 ^ 53 ∧ e ≤ -53 ∧ (0 < m → -106 ≤ e) := by
  have scaled : finiteValue false v (-53) = v / 2 ^ 53 := by
    rw [finiteValue_eq]
    norm_num [zpow_neg, div_eq_mul_inv]
  rcases Nat.eq_zero_or_pos v with zero | pos
  · subst zero
    refine ⟨0, -1074, ?_, by rw [finiteValue_zero]; simp, by norm_num, by norm_num, by omega⟩
    rw [ofUnits, ofDyadic, if_pos rfl, shape_signedZero]
  · obtain ⟨length, -, high⟩ := normalized_bounds pos below
    have nonempty := one_le_bitLength pos
    refine ⟨_, _, shape_ofDyadic_exact false (-53) pos below (by omega) (by omega), ?_, high,
      by omega, fun _ => by omega⟩
    rw [finiteValue_normalized false v (-53) length, scaled]

theorem bisect_pair {α : Type} (less : Nat → Bool) (a b : α) :
    bisect less 0 (#[a, b].size - 1) = if less 0 then 0 else 1 := by
  show bisect less 0 1 = _
  rw [bisect]
  by_cases holds : less 0 <;> simp [holds, bisect]

def Twister.unitsRun : Nat → Twister → List Nat × Twister
  | 0, t => ([], t)
  | n + 1, t => (t.units.1 :: (unitsRun n t.units.2).1, (unitsRun n t.units.2).2)

theorem Twister.lt_of_mem_unitsRun {n : Nat} {t : Twister} {v : Nat}
    (mem : v ∈ (t.unitsRun n).1) : v < 2 ^ 53 := by
  induction n generalizing t with
  | zero => simp [unitsRun] at mem
  | succ n ih =>
    rcases List.mem_cons.mp mem with rfl | later
    · exact t.units_lt
    · exact ih later

theorem ofUnits_lt_iff {v : Nat} (below : v < 2 ^ 53) {y : Binary64} {q k : Nat}
    (yShape : y.shape = .finite false q (-53 - k)) :
    (ofUnits v).compare? y = some .lt ↔ v * 2 ^ k < q := by
  obtain ⟨m, e, shape, value, -⟩ := ofUnits_shape below
  rw [compare?_eq_lt_iff shape yShape, value, finiteValue_eq, if_neg Bool.false_ne_true]
  have unit : (q : ℚ) * 2 ^ (-53 - (k : ℤ)) = q / (2 ^ 53 * 2 ^ k) := by
    rw [div_eq_mul_inv, ← zpow_natCast, ← zpow_natCast, ← two_zpow_add, ← zpow_neg]
    congr 2
    push_cast
    ring
  have count : (v : ℚ) / 2 ^ 53 * (2 ^ 53 * 2 ^ k) = ((v * 2 ^ k : Nat) : ℚ) := by
    push_cast
    field_simp
  rw [unit, lt_div_iff₀ (by positivity), count, Nat.cast_lt]

end Kata.Random

namespace Kata.Play

open Kata.Random Kata.Binary64

def coinTotal : Binary64 := (ofRatio false 60 100).add (ofRatio false 100 100)

theorem coinTotal_shape : coinTotal.shape = .finite false 7205759403792794 (-52) := by
  decide +kernel

theorem sixTenths_shape : (ofRatio false 60 100).shape = .finite false 5404319552844595 (-53) := by
  decide +kernel

theorem threeEighths_shape : (ofRatio false 3 8).shape = .finite false 6755399441055744 (-54) := by
  decide +kernel

theorem ofUnits_lt_threeEighths_iff {v : Nat} (below : v < 2 ^ 53) :
    (ofUnits v).compare? (ofRatio false 3 8) = some .lt ↔ v < 3 * 2 ^ 50 := by
  rw [ofUnits_lt_iff below (k := 1) threeEighths_shape]
  omega

theorem ofUnits_lt_sixTenths_iff {v : Nat} (below : v < 2 ^ 53) :
    (ofUnits v).compare? (ofRatio false 60 100) = some .lt ↔ v < 5404319552844595 := by
  rw [ofUnits_lt_iff below (k := 0) sixTenths_shape, pow_zero, mul_one]

theorem coinWheel_fields {w : Wheel} (built : coinWheel = .ok w) :
    w.totals = #[.float (ofRatio false 60 100), .float coinTotal] ∧ w.total = coinTotal ∧
      w.cutoffs = #[cutoff coinTotal (.float (ofRatio false 60 100)),
        cutoff coinTotal (.float coinTotal)] := by
  obtain ⟨cum, last, running, -, ended, totals, sum, cutoffs⟩ := Wheel.ofWeights_ok built
  have accumulated :
      runningTotals [.float (ofRatio false 60 100), .float (ofRatio false 100 100)] =
        .ok [.float (ofRatio false 60 100), .float coinTotal] := rfl
  rw [accumulated, Except.ok.injEq] at running
  subst running
  have plusZero : (Value.float coinTotal).add (.float Binary64.zero) =
      .ok (.float (coinTotal.add Binary64.zero)) := rfl
  have unchanged : coinTotal.add Binary64.zero = coinTotal := by decide +kernel
  have lastTotal : last = .float coinTotal := by
    rw [show [Value.float (ofRatio false 60 100), .float coinTotal].getLast? =
      some (.float coinTotal) from rfl, Option.some.injEq] at ended
    exact ended.symm
  rw [lastTotal, plusZero, unchanged, Except.ok.injEq, Value.float.injEq] at sum
  rw [← sum] at cutoffs
  exact ⟨totals, sum.symm, cutoffs⟩

theorem coinWheel_ok : ∃ w, coinWheel = .ok w :=
  exists_ok_of_toBool (by decide +kernel)

theorem coinProduct_near {v : Nat} (below : v < 2 ^ 53) :
    ∃ c p g, ((ofUnits v).mul coinTotal).shape = .finite c p g ∧
      |finiteValue c p g - v * 7205759403792794 / 2 ^ 105| ≤ 1 / 2 ^ 53 := by
  obtain ⟨m, e, shape, value, short, high, low⟩ := ofUnits_shape below
  have exact : finiteValue false m e * finiteValue false 7205759403792794 (-52) =
      (v : ℚ) * 7205759403792794 / 2 ^ 105 := by
    rw [value, finiteValue_eq]
    norm_num [zpow_neg]
    ring
  have vBelow : (v : ℚ) < 2 ^ 53 := by exact_mod_cast below
  have small :
      |finiteValue false m e * finiteValue false 7205759403792794 (-52)| < 2 ^ (1 : ℤ) := by
    rw [exact, abs_of_nonneg (by positivity)]
    norm_num
    linarith
  have length := bitLength_le (show m * 7205759403792794 < 2 ^ 106 by omega)
  have normal : 0 < m * 7205759403792794 →
      -1074 ≤ e + -52 + bitLength (m * 7205759403792794) - 53 := fun pos => by
    have := one_le_bitLength pos
    have := low (Nat.pos_of_mul_pos_right pos)
    omega
  obtain ⟨c, p, g, product, near⟩ := mul_near 1 shape coinTotal_shape small normal (by omega)
  refine ⟨c, p, g, product, ?_⟩
  rw [exact] at near
  calc _ ≤ (2 : ℚ) ^ ((1 : ℤ) - 54) := near
    _ = 1 / 2 ^ 53 := by norm_num

theorem scaledBelow_coin {v : Nat} (below : v < 2 ^ 53) :
    scaledBelow coinTotal (.float (ofRatio false 60 100)) v = true ↔ v < 3 * 2 ^ 50 := by
  by_cases tie : v = 3 * 2 ^ 50
  · -- at 3/8 the exact product is the midpoint above 0.6, and the tie goes to the even neighbour
    subst tie
    exact iff_of_false (by decide +kernel) (lt_irrefl _)
  obtain ⟨c, p, g, product, near⟩ := coinProduct_near below
  have target : finiteValue false 5404319552844595 (-53) = 5404319552844595 / 2 ^ 53 := by
    rw [finiteValue_eq]
    norm_num [zpow_neg]
  rw [scaledBelow, binaryBelow, beq_iff_eq, compare?_eq_lt_iff product sixTenths_shape, target]
  rw [abs_le] at near
  rcases Nat.lt_or_gt_of_ne tie with less | more
  · have vAtMost : (v : ℚ) ≤ 3 * 2 ^ 50 - 1 := by
      have : v + 1 ≤ 3 * 2 ^ 50 := less
      have : (v : ℚ) + 1 ≤ 3 * 2 ^ 50 := by exact_mod_cast this
      linarith
    exact iff_of_true (by linarith [near.2]) less
  · have vAtLeast : (3 * 2 ^ 50 + 1 : ℚ) ≤ v := by exact_mod_cast more
    exact iff_of_false (by linarith [near.1]) (by omega)

theorem cutoff_coin : cutoff coinTotal (.float (ofRatio false 60 100)) = 3 * 2 ^ 50 :=
  bisect_eq_of_threshold _ (Nat.zero_le _) (by norm_num) fun v _ inside => by
    rw [Bool.not_eq_true', ← Bool.not_eq_true, scaledBelow_coin inside, not_lt]

theorem pickUnits_coin {w : Wheel} (built : coinWheel = .ok w) (v : Nat) :
    w.pickUnits v = if v < 3 * 2 ^ 50 then 0 else 1 := by
  obtain ⟨-, -, cutoffs⟩ := coinWheel_fields built
  rw [Wheel.pickUnits, cutoffs, bisect_pair]
  simp [cutoff_coin]

theorem pick_coin {w : Wheel} (built : coinWheel = .ok w) {v : Nat} (below : v < 2 ^ 53) :
    w.pick (ofUnits v) = if v < 3 * 2 ^ 50 then 0 else 1 := by
  obtain ⟨totals, total, -⟩ := coinWheel_fields built
  rw [Wheel.pick, totals, total, bisect_pair]
  have scaled : binaryBelow ((ofUnits v).mul coinTotal) (.float (ofRatio false 60 100)) =
      decide (v < 3 * 2 ^ 50) := by
    show scaledBelow coinTotal (.float (ofRatio false 60 100)) v = _
    rw [Bool.eq_iff_iff, scaledBelow_coin below, decide_eq_true_iff]
  simp [scaled]

theorem heads_eq_countP (wheel : Wheel) (count n : Nat) (t : Twister) :
    heads wheel count n t =
      (count + (t.unitsRun n).1.countP (fun v => wheel.pickUnits v = 0), (t.unitsRun n).2) := by
  induction n generalizing count t with
  | zero => simp [heads, Twister.unitsRun]
  | succ n ih =>
    rw [heads]
    rcases drawn : t.units with ⟨v, next⟩
    simp only [Twister.unitsRun, drawn, ih, List.countP_cons]
    by_cases first : wheel.pickUnits v = 0
    · simp [first]
      omega
    · simp [first]

/-- The coin's weights 0.60 and 1.00 are read one per side: the wheel's running totals are 0.6
and 0.6 + 1.0, and that sum is its total. From every generator state the wheel's cutoffs pick what
bisecting the totals at the uniform number times the total picks, and that is heads exactly when
the uniform number is below 0.375. So a toss is heads exactly when its number is below 0.6 only if
the number is below 0.375 or not below 0.6; and the heads of a trial are its draws below 0.375. -/
theorem coinWheel_heads_below_three_eighths (t : Twister) :
    ∃ w, coinWheel = .ok w ∧
      w.totals = #[.float (ofRatio false 60 100), .float coinTotal] ∧ w.total = coinTotal ∧
      w.pickUnits t.units.1 = w.pick t.uniform.1 ∧
      (w.pick t.uniform.1 = 0 ↔ t.uniform.1.compare? (ofRatio false 3 8) = some .lt) ∧
      ((w.pick t.uniform.1 = 0 ↔ t.uniform.1.compare? (ofRatio false 60 100) = some .lt) ↔
        (t.uniform.1.compare? (ofRatio false 3 8) = some .lt ∨
          t.uniform.1.compare? (ofRatio false 60 100) ≠ some .lt)) ∧
      heads w 0 7 t = ((t.unitsRun 7).1.countP
        (fun v => (ofUnits v).compare? (ofRatio false 3 8) = some .lt), (t.unitsRun 7).2) := by
  obtain ⟨w, built⟩ := coinWheel_ok
  obtain ⟨totals, total, -⟩ := coinWheel_fields built
  have below := t.units_lt
  have uniform : t.uniform.1 = ofUnits t.units.1 := rfl
  refine ⟨w, built, totals, total, ?_, ?_, ?_, ?_⟩
  · rw [uniform, pickUnits_coin built, pick_coin built below]
  · rw [uniform, pick_coin built below, ofUnits_lt_threeEighths_iff below]
    by_cases heads : t.units.1 < 3 * 2 ^ 50 <;> simp [heads]
  · rw [uniform, ne_eq, pick_coin built below, ofUnits_lt_threeEighths_iff below,
      ofUnits_lt_sixTenths_iff below]
    by_cases heads : t.units.1 < 3 * 2 ^ 50
    · simp [heads]
      omega
    · simp [heads]
  · rw [heads_eq_countP, Nat.zero_add]
    congr 1
    refine List.countP_congr fun v drawn => ?_
    have below := Twister.lt_of_mem_unitsRun drawn
    simp [pickUnits_coin built, ofUnits_lt_threeEighths_iff below]

theorem coinWheel_tails_at_one_half :
    (⟨#[0x80102204, 0], 0⟩ : Twister).uniform.1 = ofRatio false 1 2 ∧
      ∃ w, coinWheel = .ok w ∧
        (ofRatio false 1 2).compare? (ofRatio false 60 100) = some .lt ∧
        w.pick (ofRatio false 1 2) ≠ 0 := by
  have half : (⟨#[0x80102204, 0], 0⟩ : Twister).uniform.1 = ofRatio false 1 2 := by
    decide +kernel
  obtain ⟨w, built, -, -, -, heads, -⟩ :=
    coinWheel_heads_below_three_eighths ⟨#[0x80102204, 0], 0⟩
  rw [half] at heads
  refine ⟨half, w, built, by decide +kernel, fun first => ?_⟩
  exact absurd (heads.mp first) (by decide +kernel)

end Kata.Play
