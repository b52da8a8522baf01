import FuturesBot.DecimalNumbers
import FuturesBot.DateTimes

/-! The fixed-point text of a decimal number: it shows the number and how many places it has after
the point, and nothing else. -/
namespace DecimalNumbers.Decimal

open JsonText DateTimes

/-- The digits after the point. -/
def places (d : Decimal) : ℕ := (-d.exp).toNat

/-- The number without its sign, counted in units of its last place. -/
def units (d : Decimal) : ℕ := d.coeff * 10 ^ d.exp.toNat

/-- `format(d, "f")`. -/
def fixedText (d : Decimal) : Text :=
  signText d.neg ++
    if d.places = 0 then natText d.units
    else natText (d.units / 10 ^ d.places) ++
      '.' :: fixedDigits d.places (d.units % 10 ^ d.places)

theorem value_eq_units (d : Decimal) :
    d.value = (if d.neg then -1 else 1) * d.units * (10 : ℚ) ^ (-(d.places : ℤ)) := by
  have hten : (10 : ℚ) ≠ 0 := by norm_num
  have hexp : (d.exp.toNat : ℤ) + -(d.places : ℤ) = d.exp := by
    rw [places]
    omega
  have hpow : (10 : ℚ) ^ d.exp = (10 : ℚ) ^ d.exp.toNat * (10 : ℚ) ^ (-(d.places : ℤ)) := by
    rw [← zpow_natCast, ← zpow_add₀ hten, hexp]
  rw [value, units, hpow]
  push_cast
  ring

/-- The number and the places say the units. -/
theorem units_eq_of_value {a b : Decimal} (hneg : a.neg = b.neg) (hplaces : a.places = b.places)
    (h : a.value = b.value) : a.units = b.units := by
  have hpow : (10 : ℚ) ^ (-(b.places : ℤ)) ≠ 0 := zpow_ne_zero _ (by norm_num)
  have hsign : (if b.neg then (-1 : ℚ) else 1) ≠ 0 := by split <;> norm_num
  rw [value_eq_units, value_eq_units, hneg, hplaces] at h
  exact_mod_cast mul_left_cancel₀ hsign (mul_right_cancel₀ hpow h)

/-! The text is read back. -/

theorem fraction_noDigitHead (w n : ℕ) : NoDigitHead ('.' :: fixedDigits w n) := by
  intro c hc
  obtain rfl := Option.some.inj hc
  decide

/-- A text with a point says the digits on both sides of it. -/
theorem point_inj {m n v w x y : ℕ} (hx : x < 10 ^ v) (hy : y < 10 ^ w)
    (h : natText m ++ '.' :: fixedDigits v x = natText n ++ '.' :: fixedDigits w y) :
    m = n ∧ v = w ∧ x = y := by
  have hm := takeDigits_natText m _ (fraction_noDigitHead v x)
  rw [h, takeDigits_natText n _ (fraction_noDigitHead w y)] at hm
  obtain ⟨hhead, htail⟩ := Prod.mk.inj hm
  have hwhole : m = n := by
    rw [← digitsValue_natText m, ← hhead, digitsValue_natText]
  have hdigits := (List.cons.inj htail).2
  have hlength := congrArg List.length hdigits
  rw [fixedDigits_length, fixedDigits_length] at hlength
  refine ⟨hwhole, hlength.symm, ?_⟩
  rw [← digitsValue_fixedDigits v x hx, ← hdigits, digitsValue_fixedDigits w y hy]

/-- A text with a point is not one of digits only. -/
theorem natText_ne_point (m n w x : ℕ) : natText m ≠ natText n ++ '.' :: fixedDigits w x := by
  intro h
  have hm := takeDigits_natText m [] (by nofun)
  rw [List.append_nil, h, takeDigits_natText n _ (fraction_noDigitHead w x)] at hm
  exact absurd (Prod.mk.inj hm).2 (by simp)

theorem natText_inj {m n : ℕ} (h : natText m = natText n) : m = n := by
  rw [← digitsValue_natText m, h, digitsValue_natText]

theorem fixedText_unsigned {a b : Decimal} (hneg : a.neg = b.neg) (h : a.fixedText = b.fixedText) :
    a.places = b.places ∧ a.units = b.units := by
  rw [fixedText, fixedText, hneg] at h
  have hbody := List.append_cancel_left h
  by_cases ha : a.places = 0
  · by_cases hb : b.places = 0
    · rw [if_pos ha, if_pos hb] at hbody
      exact ⟨ha.trans hb.symm, natText_inj hbody⟩
    · rw [if_pos ha, if_neg hb] at hbody
      exact absurd hbody (natText_ne_point _ _ _ _)
  · by_cases hb : b.places = 0
    · rw [if_neg ha, if_pos hb] at hbody
      exact absurd hbody.symm (natText_ne_point _ _ _ _)
    · rw [if_neg ha, if_neg hb] at hbody
      obtain ⟨hwhole, hplaces, hfraction⟩ := point_inj
        (Nat.mod_lt _ (Nat.pow_pos (by decide))) (Nat.mod_lt _ (Nat.pow_pos (by decide))) hbody
      refine ⟨hplaces, ?_⟩
      rw [← Nat.div_add_mod a.units (10 ^ a.places), ← Nat.div_add_mod b.units (10 ^ b.places),
        hwhole, hfraction, hplaces]

/-- Positive numbers have one text exactly when they are equal and have as many places. -/
theorem fixedText_eq_iff {a b : Decimal} (ha : a.positive = true) (hb : b.positive = true) :
    a.fixedText = b.fixedText ↔ a.value = b.value ∧ a.places = b.places := by
  have hneg : a.neg = b.neg := by
    simp only [positive, Bool.and_eq_true, Bool.not_eq_true_eq_eq_false] at ha hb
    rw [ha.1, hb.1]
  constructor
  · intro h
    obtain ⟨hplaces, hunits⟩ := fixedText_unsigned hneg h
    refine ⟨?_, hplaces⟩
    rw [value_eq_units, value_eq_units, hneg, hplaces, hunits]
  · rintro ⟨hvalue, hplaces⟩
    rw [fixedText, fixedText, hneg, hplaces, units_eq_of_value hneg hplaces hvalue]

/-- One number may have two texts. -/
example : (⟨false, 10, -1⟩ : Decimal).fixedText = "1.0".toList ∧
    (⟨false, 100, -2⟩ : Decimal).fixedText = "1.00".toList ∧
    (⟨false, 1, 2⟩ : Decimal).fixedText = "100".toList := by decide +kernel

end DecimalNumbers.Decimal
