import Kata.Calendar.Reading
import Kata.Proofs.MailDate
import Kata.Proofs.Binary64Rounding

/-! Reading a moment back from the text of its date and time. -/

namespace Kata.Calendar

open Binary64

def DateTime.valid (t : DateTime) : Bool :=
  t.date.valid && t.hour < 24 && t.minute < 60 && t.second < 60 && t.micro < 1000000

theorem shape_millionBinary : millionBinary.shape = .finite false 8589934592000000 (-33) := by
  decide +kernel

theorem ofRatio_micros_near (neg : Bool) {num : Nat} (pos : 0 < num)
    (near : num < 2 ^ 33 * 1000000) :
    ∃ (q : Nat) (e : Int), (ofRatio neg num 1000000).shape = .finite neg q e ∧ q < 2 ^ 53 ∧
      -82 ≤ e ∧ e ≤ 0 ∧ |(q : ℚ) * 2 ^ e - num / 1000000| ≤ 2 ^ (-21 : ℤ) := by
  have numLow : (1 : ℚ) ≤ num := by exact_mod_cast pos
  have numHigh : (num : ℚ) < 2 ^ 33 * 1000000 := by exact_mod_cast near
  have ratioBelow : (num : ℚ) / 1000000 < 2 ^ (33 : ℤ) := by
    rw [div_lt_iff₀ (by norm_num)]
    norm_num at numHigh ⊢
    linarith
  have million : ((1000000 : Nat) : ℚ) = 1000000 := by norm_num
  have normal : (2 : ℚ) ^ (-1022 : ℤ) ≤ num / ((1000000 : Nat) : ℚ) := by
    have smaller : (2 : ℚ) ^ (-1022 : ℤ) ≤ 2 ^ (-20 : ℤ) :=
      zpow_le_zpow_right₀ one_le_two (by norm_num)
    have tiny : (2 : ℚ) ^ (-20 : ℤ) * 1000000 ≤ 1 := by norm_num
    rw [million, le_div_iff₀ (by norm_num)]
    nlinarith
  have finite : (num : ℚ) / ((1000000 : Nat) : ℚ) < 2 ^ (1023 : ℤ) := by
    have : (2 : ℚ) ^ (33 : ℤ) ≤ 2 ^ (1023 : ℤ) :=
      zpow_le_zpow_right₀ one_le_two (by norm_num)
    rw [million]
    exact lt_of_lt_of_le ratioBelow this
  obtain ⟨q, e, shape, qLow, qHigh, magnitude, error⟩ :=
    ofRatio_near neg pos (by norm_num : 0 < 1000000) normal finite
  rw [million] at magnitude error
  -- the exponent is named before the bounds meet, or unifying them computes the powers
  have halfUnit := half_unit_le magnitude ratioBelow
  rw [show (33 : ℤ) - 54 = -21 by norm_num] at halfUnit
  have close : |(q : ℚ) * 2 ^ e - num / 1000000| ≤ 2 ^ (-21 : ℤ) := le_trans error halfUnit
  obtain ⟨closeLow, closeHigh⟩ := abs_le.mp close
  have qLow' : (2 : ℚ) ^ 52 ≤ q := by exact_mod_cast qLow
  have qHigh' : (q : ℚ) < 2 ^ 53 := by exact_mod_cast qHigh
  have eHigh : e ≤ 0 := by
    have below : (q : ℚ) * 2 ^ e < 2 ^ (34 : ℤ) := by
      have : (2 : ℚ) ^ (-21 : ℤ) ≤ 1 := by norm_num
      norm_num at ratioBelow ⊢
      linarith
    have := exponent_lt_of_lt (by gcongr) below
    omega
  have eLow : -82 ≤ e := by
    have above : (2 : ℚ) ^ (-30 : ℤ) < q * 2 ^ e := by
      calc (2 : ℚ) ^ (-30 : ℤ) < num / 1000000 - 2 ^ (-21 : ℤ) := by
            have : (1 : ℚ) / 1000000 ≤ num / 1000000 := by gcongr
            have : (1 : ℚ) / 1000000 - 2 ^ (-21 : ℤ) > 2 ^ (-30 : ℤ) := by norm_num
            linarith
        _ ≤ q * 2 ^ e := by linarith
    have := lt_exponent_of_lt above (by gcongr)
    omega
  exact ⟨q, e, shape, qHigh, eLow, eHigh, close⟩

theorem microsecondPart_near {x : Binary64} {neg : Bool} {q : Nat} {e : Int}
    (shape : x.shape = .finite neg q e) (small : q < 2 ^ 53) (eLow : -82 ≤ e) (eHigh : e ≤ 0) :
    ∃ whole part : Int, x.truncInt? = some whole ∧
      (x.fract.mul millionBinary).roundHalfEvenInt? = some part ∧
      |(part : ℚ) - (finiteValue neg q e - whole) * 1000000| ≤ 1 / 2 + 2 ^ (-34 : ℤ) ∧
      |finiteValue neg q e - whole| < 1 := by
  obtain ⟨whole, truncated, a, p, g, fractShape, pSmall, gHigh, gLow, fractValue, fractBelow⟩ :=
    truncInt?_add_fract shape small eHigh (by omega)
  have millionValue : finiteValue false 8589934592000000 (-33) = 1000000 := by
    rw [finiteValue_eq]
    norm_num
  have productBelow : |finiteValue a p g * finiteValue false 8589934592000000 (-33)| <
      2 ^ (20 : ℤ) := by
    rw [millionValue, abs_mul]
    norm_num
    linarith
  have productLength : bitLength (p * 8589934592000000) ≤ 106 :=
    bitLength_le (by
      calc p * 8589934592000000 < 2 ^ 53 * 2 ^ 53 :=
            Nat.mul_lt_mul_of_lt_of_le pSmall (by norm_num) (by norm_num)
        _ = 2 ^ 106 := by norm_num)
  obtain ⟨c, r, h, productShape, productError⟩ := mul_near 20 fractShape shape_millionBinary
    productBelow (fun productPos => by have := gLow (Nat.pos_of_mul_pos_right productPos); omega)
    (by omega)
  obtain ⟨part, rounded, roundError⟩ := roundHalfEvenInt?_near productShape
  refine ⟨whole, part, truncated, rounded, ?_, fractValue ▸ fractBelow⟩
  rw [millionValue, fractValue] at productError
  calc |(part : ℚ) - (finiteValue neg q e - whole) * 1000000|
      ≤ |(part : ℚ) - finiteValue c r h| +
          |finiteValue c r h - (finiteValue neg q e - whole) * 1000000| := abs_sub_le _ _ _
    _ ≤ 1 / 2 + 2 ^ (-34 : ℤ) := add_le_add roundError productError

theorem abs_finiteValue_sub_ratio (N : Int) (q : Nat) (e : Int) :
    |finiteValue (decide (N < 0)) q e - (N : ℚ) / 1000000| =
      |(q : ℚ) * 2 ^ e - N.natAbs / 1000000| := by
  have castAbs : (N.natAbs : ℚ) = |(N : ℚ)| := by rw [Nat.cast_natAbs, Int.cast_abs]
  rw [finiteValue_eq, castAbs]
  by_cases negative : N < 0
  · rw [abs_of_neg (show (N : ℚ) < 0 by exact_mod_cast negative), ← abs_neg]
    simp [negative, neg_div, sub_eq_add_neg, add_comm]
  · rw [abs_of_nonneg (show (0 : ℚ) ≤ N by exact_mod_cast Int.not_lt.mp negative)]
    simp [negative]

theorem Instant.ofBinary_ofRatio_micros {N : Int} (near : N.natAbs < 2 ^ 33 * 1000000) :
    Instant.ofBinary (ofRatio (N < 0) N.natAbs 1000000) =
      .ok ⟨N / 1000000, (N % 1000000).toNat⟩ := by
  rcases Nat.eq_zero_or_pos N.natAbs with zero | pos
  · have : N = 0 := Int.natAbs_eq_zero.mp zero
    subst this
    have zeroStamp : ofRatio (decide ((0 : Int) < 0)) (Int.natAbs 0) 1000000 = ofInt 0 := by
      rw [ofRatio, if_pos zero, ofInt, ofDyadic, if_pos zero]
    rw [zeroStamp, Instant.ofBinary_ofInt (by decide)]
    rfl
  · obtain ⟨q, e, shape, small, eLow, eHigh, close⟩ := ofRatio_micros_near (N < 0) pos near
    obtain ⟨whole, part, truncated, rounded, partError, fractBelow⟩ :=
      microsecondPart_near shape small eLow eHigh
    rw [← abs_finiteValue_sub_ratio] at close
    obtain ⟨closeLow, closeHigh⟩ := abs_le.mp close
    obtain ⟨partLow, partHigh⟩ := abs_le.mp partError
    obtain ⟨fractLow, fractHigh⟩ := abs_lt.mp fractBelow
    have stampUnit : (2 : ℚ) ^ (-21 : ℤ) = 1 / 2097152 := by norm_num
    have productUnit : (2 : ℚ) ^ (-34 : ℤ) = 1 / 17179869184 := by norm_num
    rw [stampUnit] at closeLow closeHigh
    rw [productUnit] at partLow partHigh
    have exactCount : part = N - whole * 1000000 := by
      have within : |((part - N + whole * 1000000 : ℤ) : ℚ)| < 1 := by
        push_cast
        rw [abs_lt]
        constructor <;> linarith
      have := Int.abs_lt_one_iff.mp (by exact_mod_cast within)
      omega
    have partBounds : -1000001 < part ∧ part < 1000001 := by
      have : (-1000001 : ℚ) < part ∧ (part : ℚ) < 1000001 := by
        constructor <;> linarith
      exact_mod_cast this
    have notNaN : (ofRatio (decide (N < 0)) N.natAbs 1000000).isNaN = false := by
      simp [Binary64.isNaN, shape]
    simp only [Instant.ofBinary, notNaN, truncated, rounded, Bool.false_eq_true, if_false]
    have carried : (if part ≥ 1000000 then (whole + 1, part - 1000000)
        else if part < 0 then (whole - 1, part + 1000000) else (whole, part)) =
        (N / 1000000, N % 1000000) := by
      split_ifs <;> simp only [Prod.mk.injEq] <;> omega
    have fits : fitsSeconds (N / 1000000) = true := by
      simp only [fitsSeconds, Bool.and_eq_true, decide_eq_true_eq]
      omega
    rw [carried, if_pos fits]

namespace Moment

theorem ofReading_str_eq_ok_iff (read : String → Option DateReading) (s : String) (m : Moment) :
    Moment.ofReading read (.str s) = .ok m ↔
      ∃ t : DateTime, read s = some (.civil t) ∧ m = ⟨.float t.epochSeconds⟩ := by
  cases reading : read s with
  | none => simp [ofReading, reading]
  | some found =>
    cases found with
    | zoned => simp [ofReading, reading]
    | civil t => simp [ofReading, reading, eq_comm]

/-- Within 2^33 seconds of 1970 a binary64 stamp is finer than a microsecond, so a reader's
naive date and time there makes a moment with that date and time, to the microsecond. -/
theorem ofReading_dateTime (read : String → Option DateReading) {s : String} {t : DateTime}
    (reads : read s = some (.civil t)) (valid : t.valid)
    (near : (t.toSeconds * 1000000 + t.micro).natAbs < 2 ^ 33 * 1000000) :
    ∃ m : Moment, Moment.ofReading read (.str s) = .ok m ∧ m.dateTime = .ok t := by
  obtain ⟨dateValid, hourBound, minuteBound, secondBound, microBound⟩ :
      t.date.valid ∧ t.hour < 24 ∧ t.minute < 60 ∧ t.second < 60 ∧ t.micro < 1000000 := by
    simpa [DateTime.valid, Bool.and_eq_true, and_assoc] using valid
  have instant : Instant.ofBinary t.epochSeconds = .ok ⟨t.toSeconds, t.micro⟩ := by
    have exact := Instant.ofBinary_ofRatio_micros near
    rwa [show (t.toSeconds * 1000000 + t.micro) / 1000000 = t.toSeconds by omega,
      show ((t.toSeconds * 1000000 + t.micro) % 1000000).toNat = t.micro by omega] at exact
  refine ⟨⟨.float t.epochSeconds⟩,
    (ofReading_str_eq_ok_iff read s _).mpr ⟨t, reads, rfl⟩, ?_⟩
  have accepted : checkedYear t.toSeconds = .ok () := checkedYear_of_natAbs_lt (by omega)
  have dayBefore : checkedYear (t.toSeconds - 86400) = .ok () :=
    checkedYear_of_natAbs_lt (by omega)
  rw [dateTime_eq_ok_iff]
  exact ⟨⟨t.toSeconds, t.micro⟩, instant, accepted, dayBefore,
    DateTime.ofSeconds_toSeconds t dateValid ⟨hourBound, minuteBound, secondBound⟩⟩

theorem ofReading_dateTime_lastMicrosecondOf1969 :
    (fun _ => some (.civil ⟨⟨1969, 12, 31⟩, 23, 59, 59, 999999⟩) : String → Option DateReading)
        "1969-12-31 23:59:59.999999" = some (.civil ⟨⟨1969, 12, 31⟩, 23, 59, 59, 999999⟩) ∧
      DateTime.valid ⟨⟨1969, 12, 31⟩, 23, 59, 59, 999999⟩ ∧
      ((DateTime.toSeconds ⟨⟨1969, 12, 31⟩, 23, 59, 59, 999999⟩) * 1000000 + 999999).natAbs <
        2 ^ 33 * 1000000 ∧
      ∃ m : Moment, Moment.ofReading
          (fun _ => some (.civil ⟨⟨1969, 12, 31⟩, 23, 59, 59, 999999⟩))
          (.str "1969-12-31 23:59:59.999999") = .ok m ∧
        m.dateTime = .ok ⟨⟨1969, 12, 31⟩, 23, 59, 59, 999999⟩ :=
  ⟨rfl, by decide, by decide, ofReading_dateTime _ rfl (by decide) (by decide)⟩

/-- The last microsecond of the year 9999 is read as a stamp that rounds up to the first second of
the year 10000, which the calendar refuses. -/
theorem ofReading_lastMicrosecondOf9999_not_read_back :
    DateTime.valid ⟨⟨9999, 12, 31⟩, 23, 59, 59, 999999⟩ ∧
      (⟨.float (DateTime.epochSeconds ⟨⟨9999, 12, 31⟩, 23, 59, 59, 999999⟩)⟩ : Moment).dateTime =
        .error (.yearOutOfRange 10000) ∧
      ¬ ∃ m : Moment, Moment.ofReading
          (fun _ => some (.civil ⟨⟨9999, 12, 31⟩, 23, 59, 59, 999999⟩))
          (.str "9999-12-31 23:59:59.999999") = .ok m ∧
        m.dateTime = .ok ⟨⟨9999, 12, 31⟩, 23, 59, 59, 999999⟩ := by
  have refused :
      (⟨.float (DateTime.epochSeconds ⟨⟨9999, 12, 31⟩, 23, 59, 59, 999999⟩)⟩ :
        Moment).dateTime = .error (.yearOutOfRange 10000) := by
    decide +kernel
  refine ⟨by decide, refused, ?_⟩
  rintro ⟨m, made, back⟩
  obtain ⟨t, found, rfl⟩ := (ofReading_str_eq_ok_iff _ _ _).mp made
  cases found
  rw [refused] at back
  cases back

/-- The ISO 8601 form of a moment carries the zone mark `Z`. A reader that takes the mark for a
zone gives a zoned date, and no moment is made from it: the text is refused as a zoned date set
against the naive start of 1970. -/
theorem ofReading_iso8601 (read : String → Option DateReading) {m : Moment} {s : String}
    (iso : m.iso8601 = .ok s)
    (readsZone : ∀ t : DateTime, m.dateTime = .ok t → read (t.isoText ++ "Z") = some .zoned) :
    Moment.ofReading read (.str s) = .error .mixedOffsets ∧ Fault.mixedOffsets.kind = .type := by
  obtain ⟨t, found, rfl⟩ := (iso8601_eq_ok_iff m s).mp iso
  refine ⟨?_, rfl⟩
  simp only [ofReading, readsZone t found]

theorem ofReading_iso8601_epochStart :
    (⟨.int 0⟩ : Moment).iso8601 = .ok "1970-01-01T00:00:00Z" ∧
      (∀ t : DateTime, (⟨.int 0⟩ : Moment).dateTime = .ok t →
        (fun _ => some .zoned : String → Option DateReading) (t.isoText ++ "Z") = some .zoned) ∧
      Moment.ofReading (fun _ => some .zoned) (.str "1970-01-01T00:00:00Z") = .error .mixedOffsets ∧
        Fault.mixedOffsets.kind = .type :=
  have iso : (⟨.int 0⟩ : Moment).iso8601 = .ok "1970-01-01T00:00:00Z" := by rfl
  have readsZone : ∀ t : DateTime, (⟨.int 0⟩ : Moment).dateTime = .ok t →
      (fun _ => some .zoned : String → Option DateReading) (t.isoText ++ "Z") = some .zoned :=
    fun _ _ => rfl
  ⟨iso, readsZone, ofReading_iso8601 _ iso readsZone⟩

/-- The start of 1970 is not read back from its ISO 8601 form. -/
theorem iso8601_epochStart_not_read_back :
    (⟨.int 0⟩ : Moment).iso8601 = .ok "1970-01-01T00:00:00Z" ∧
      ¬ ∃ back : Moment,
        Moment.ofReading (fun _ => some .zoned) (.str "1970-01-01T00:00:00Z") = .ok back ∧
          back.dateTime = (⟨.int 0⟩ : Moment).dateTime := by
  refine ⟨by rfl, ?_⟩
  rintro ⟨back, made, -⟩
  simp [ofReading] at made

end Moment

end Kata.Calendar
