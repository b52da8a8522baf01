import FuturesBot.DecimalRounding
import FuturesBot.FixedPointText

/-! Normalized decimals: rounded to the context and without trailing zeros, so that the fixed-point
text tells the rounded number and nothing else. -/
namespace DecimalNumbers.Decimal

open JsonText DateTimes

/-- `Decimal.normalize()`: rounded to the context, then without trailing zeros. -/
def normalize (d : Decimal) : Except DecimalError Decimal :=
  (fix d).map fun r =>
    if r.coeff = 0 then ⟨r.neg, 0, 0⟩
    else
      let (coeff, exp) := stripZeros (maxExp - r.exp).toNat r.coeff r.exp
      ⟨r.neg, coeff, exp⟩

/-! Numbers without trailing zeros behind the point. -/

def Reduced (d : Decimal) : Prop := d.places = 0 ∨ d.coeff % 10 ≠ 0

/-- A number that has one fixed-point text for each value. -/
structure Plain (d : Decimal) : Prop where
  reduced : d.Reduced
  zero_unsigned : d.coeff = 0 → d.neg = false

theorem units_of_places {d : Decimal} (h : 0 < d.places) : d.units = d.coeff := by
  have hexp : d.exp.toNat = 0 := by
    rw [places] at h
    omega
  rw [units, hexp, pow_zero, Nat.mul_one]

/-- With fewer places, the units of the other number end in a zero. -/
theorem Reduced.places_le {a b : Decimal} (hb : b.Reduced) (hneg : a.neg = b.neg)
    (hvalue : a.value = b.value) : b.places ≤ a.places := by
  by_contra hlt
  have hpos : 0 < b.places := by omega
  have hsign : (if b.neg then (-1 : ℚ) else 1) ≠ 0 := by split <;> norm_num
  have hten : (10 : ℚ) ≠ 0 := by norm_num
  have hsplit : (10 : ℚ) ^ (-(a.places : ℤ)) =
      ((10 ^ (b.places - a.places) : ℕ) : ℚ) * (10 : ℚ) ^ (-(b.places : ℤ)) := by
    push_cast
    rw [← zpow_natCast, ← zpow_add₀ hten]
    congr 1
    omega
  have hunits : b.units = a.units * 10 ^ (b.places - a.places) := by
    have hpow : (10 : ℚ) ^ (-(b.places : ℤ)) ≠ 0 := zpow_ne_zero _ hten
    rw [value_eq_units, value_eq_units, hneg, hsplit, ← mul_assoc] at hvalue
    have hcancel := mul_right_cancel₀ hpow hvalue
    rw [mul_assoc] at hcancel
    exact_mod_cast (mul_left_cancel₀ hsign hcancel).symm
  have hzero : b.coeff % 10 = 0 := by
    obtain ⟨k, hk⟩ : ∃ k, b.places - a.places = k + 1 := ⟨b.places - a.places - 1, by omega⟩
    rw [← units_of_places hpos, hunits, hk, pow_succ, ← Nat.mul_assoc]
    exact Nat.mul_mod_left _ _
  rcases hb with hb | hb
  · omega
  · exact hb hzero

theorem Plain.neg_iff {d : Decimal} (h : d.Plain) : d.neg = true ↔ d.value < 0 := by
  rw [← negative_iff, negative, Bool.and_eq_true, decide_eq_true_eq]
  constructor
  · intro hneg
    refine ⟨hneg, fun hzero => ?_⟩
    rw [h.zero_unsigned hzero] at hneg
    cases hneg
  · exact fun h => h.1

/-- The text of a number starts with a minus sign or with a digit. -/
theorem fixedText_head (d : Decimal) : ∃ c t, d.fixedText = c :: t ∧ (d.neg = true ↔ c = '-') := by
  rw [fixedText]
  cases hneg : d.neg with
  | true => exact ⟨'-', _, rfl, iff_of_true rfl rfl⟩
  | false =>
    have hdigit : ∀ n rest, ∃ c t, natText n ++ rest = c :: t ∧ (false = true ↔ c = '-') := by
      intro n rest
      obtain ⟨c, t, ht, hc⟩ := natText_head_digit n rest
      refine ⟨c, t, ht, iff_of_false (by decide) ?_⟩
      rintro rfl
      exact absurd hc (by decide)
    rw [signText, if_neg (by decide), List.nil_append]
    split
    · obtain ⟨c, t, ht, hc⟩ := hdigit d.units []
      exact ⟨c, t, by rwa [List.append_nil] at ht, hc⟩
    · exact hdigit _ _

/-- The fixed-point text tells the sign, the value and the places. -/
theorem fixedText_eq_iff_parts {a b : Decimal} : a.fixedText = b.fixedText ↔
    a.value = b.value ∧ a.neg = b.neg ∧ a.places = b.places := by
  constructor
  · intro h
    have hneg : a.neg = b.neg := by
      obtain ⟨c, t, hc, hca⟩ := a.fixedText_head
      obtain ⟨c', t', hc', hcb⟩ := b.fixedText_head
      rw [hc, hc'] at h
      obtain rfl := (List.cons.inj h).1
      exact Bool.eq_iff_iff.mpr (hca.trans hcb.symm)
    obtain ⟨hplaces, hunits⟩ := fixedText_unsigned hneg h
    refine ⟨?_, hneg, hplaces⟩
    rw [value_eq_units, value_eq_units, hneg, hplaces, hunits]
  · rintro ⟨hvalue, hneg, hplaces⟩
    rw [fixedText, fixedText, hneg, hplaces, units_eq_of_value hneg hplaces hvalue]

/-- The fixed-point text of a plain number tells its value. -/
theorem Plain.fixedText_eq_iff {a b : Decimal} (ha : a.Plain) (hb : b.Plain) :
    a.fixedText = b.fixedText ↔ a.value = b.value := by
  rw [fixedText_eq_iff_parts]
  refine ⟨fun h => h.1, fun hvalue => ?_⟩
  have hneg : a.neg = b.neg := by
    rw [Bool.eq_iff_iff, ha.neg_iff, hb.neg_iff, hvalue]
  exact ⟨hvalue, hneg, le_antisymm (ha.reduced.places_le hneg.symm hvalue.symm)
    (hb.reduced.places_le hneg hvalue)⟩

/-! Normalizing. -/

theorem stripZeros_spec (k coeff : ℕ) (exp : ℤ) :
    ∃ j ≤ k, coeff = (stripZeros k coeff exp).1 * 10 ^ j ∧ (stripZeros k coeff exp).2 = exp + j ∧
      (j = k ∨ (stripZeros k coeff exp).1 % 10 ≠ 0) := by
  induction k generalizing coeff exp with
  | zero => exact ⟨0, le_rfl, (Nat.mul_one _).symm, (add_zero exp).symm, .inl rfl⟩
  | succ k ih =>
    rw [stripZeros]
    split
    · rename_i hzero
      obtain ⟨j, hj, hcoeff, hexp, hlast⟩ := ih (coeff / 10) (exp + 1)
      refine ⟨j + 1, by omega, ?_, ?_, ?_⟩
      · rw [pow_succ, ← Nat.mul_assoc, ← hcoeff]
        omega
      · rw [hexp]
        push_cast
        ring
      · exact hlast.imp (congrArg (· + 1)) id
    · rename_i hlast
      exact ⟨0, Nat.zero_le _, (Nat.mul_one _).symm, (add_zero exp).symm, .inr hlast⟩

/-- The normalized number is the rounded one, and has no zeros at its end. -/
theorem normalize_spec {d r : Decimal} (h : fix d = .ok r) :
    ∃ n, normalize d = .ok n ∧ n.value = r.value ∧ n.Reduced := by
  rw [normalize, h]
  by_cases hzero : r.coeff = 0
  · refine ⟨⟨r.neg, 0, 0⟩, ?_, ?_, .inl rfl⟩
    · rw [Except.map, if_pos hzero]
    · rw [value_zero, (value_zero_iff r).mpr hzero]
  · obtain ⟨j, hj, hcoeff, hexp, hlast⟩ :=
      stripZeros_spec (maxExp - r.exp).toNat r.coeff r.exp
    refine ⟨⟨r.neg, (stripZeros (maxExp - r.exp).toNat r.coeff r.exp).1,
      (stripZeros (maxExp - r.exp).toNat r.coeff r.exp).2⟩, ?_, ?_, ?_⟩
    · rw [Except.map, if_neg hzero]
    · have hpow : (10 : ℚ) ^ (r.exp + j) = (10 : ℚ) ^ j * (10 : ℚ) ^ r.exp := by
        rw [zpow_add₀ (by norm_num), zpow_natCast, mul_comm]
      have hcast : (r.coeff : ℚ) =
          (stripZeros (maxExp - r.exp).toNat r.coeff r.exp).1 * (10 : ℚ) ^ j := by
        exact_mod_cast hcoeff
      rw [value, value, hexp, hpow, hcast]
      ring
    · rcases hlast with rfl | hlast
      · -- all the zeros that the exponent has room for were taken off
        left
        have hmax : maxExp = 999999 := rfl
        rw [places]
        dsimp only
        omega
      · exact .inr hlast

end DecimalNumbers.Decimal
