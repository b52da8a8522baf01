import FuturesBot.DecimalRange

/-! Arithmetic in the context does not see how a number is written: a number with more trailing
zeros rounds to the same number, and leaves a remainder under the same condition. -/
namespace DecimalNumbers

theorem numDigits_mul_pow {n : ℕ} (hn : n ≠ 0) (k : ℕ) :
    numDigits (n * 10 ^ k) = numDigits n + k := by
  have hdigits := numDigits_pos n
  have hupper : n < 10 ^ numDigits n := (numDigits_le_iff hdigits).mp le_rfl
  have hlower : 10 ^ (numDigits n - 1) ≤ n := pow_le_of_numDigits hn (by omega)
  apply le_antisymm
  · rw [numDigits_le_iff (by omega), pow_add]
    exact Nat.mul_lt_mul_of_pos_right hupper (by positivity)
  · rcases Nat.eq_zero_or_pos (numDigits n - 1 + k) with hzero | hpos
    · have := numDigits_pos (n * 10 ^ k)
      omega
    · have hlt : numDigits n - 1 + k < numDigits (n * 10 ^ k) := by
        rw [numDigits_lt_iff hpos, pow_add]
        exact Nat.mul_le_mul_right _ hlower
      omega

theorem roundHalfEven_mul_mul (n d : ℕ) {k : ℕ} (hk : 0 < k) :
    roundHalfEven (n * k) (d * k) = roundHalfEven n d := by
  have hlt : ∀ a b : ℕ, a * k < b * k ↔ a < b := fun a b => Nat.mul_lt_mul_right hk
  have hmod : 2 * (n * k % (d * k)) = 2 * (n % d) * k := by
    rw [Nat.mul_mod_mul_right, Nat.mul_assoc]
  rw [roundHalfEven, roundHalfEven, hmod, Nat.mul_div_mul_right _ _ hk]
  simp only [hlt]

namespace Decimal

/-- A number with trailing zeros added. -/
def padded (d : Decimal) (k : ℕ) : Decimal := ⟨d.neg, d.coeff * 10 ^ k, d.exp - k⟩

theorem padded_value (d : Decimal) (k : ℕ) : (d.padded k).value = d.value := by
  have hpow : (10 : ℚ) ^ d.exp = 10 ^ k * (10 : ℚ) ^ (d.exp - k) := by
    rw [← zpow_natCast, ← zpow_add₀ (by norm_num), add_sub_cancel]
  rw [padded, value, value, hpow]
  push_cast
  ring

/-- Rounding does not see trailing zeros. -/
theorem fix_padded {d : Decimal} (hd : d.coeff ≠ 0) (k : ℕ) :
    (fix (d.padded k)).map value = (fix d).map value := by
  have hpad : d.coeff * 10 ^ k ≠ 0 := Nat.mul_ne_zero hd (by positivity)
  have hdigits := numDigits_mul_pow hd k
  have hprec : prec = 28 := rfl
  have hleast : ((numDigits (d.coeff * 10 ^ k) : ℕ) : ℤ) + (d.exp - k) - prec =
      numDigits d.coeff + d.exp - prec := by
    rw [hdigits]
    push_cast
    ring
  simp only [fix, padded, if_neg hd, if_neg hpad, hleast]
  split
  · rfl
  generalize hl : max ((numDigits d.coeff : ℤ) + d.exp - prec) tinyExp = least
  by_cases hround : d.exp < least
  · -- Both are rounded, to the same coefficient.
    have hexp : (least - (d.exp - k)).toNat = (least - d.exp).toNat + k := by omega
    rw [if_pos hround, if_pos (by omega : d.exp - (k : ℤ) < least), hexp, pow_add,
      roundHalfEven_mul_mul _ _ (by positivity)]
  · rw [if_neg hround]
    by_cases hpadded : d.exp - (k : ℤ) < least
    · -- Only zeros are taken off the padded number.
      rw [if_pos hpadded]
      generalize hm : (least - (d.exp - (k : ℤ))).toNat = m
      obtain ⟨j, rfl⟩ : ∃ j, k = j + m := ⟨(d.exp - least).toNat, by omega⟩
      have hlast : least = d.exp - (j : ℤ) := by
        push_cast at hm
        omega
      have hcoeff : d.coeff * 10 ^ (j + m) = d.coeff * 10 ^ j * 10 ^ m := by
        rw [pow_add, Nat.mul_assoc]
      have hfits : ¬ prec < numDigits (d.coeff * 10 ^ j) := by
        rw [numDigits_mul_pow hd]
        omega
      rw [hcoeff, roundHalfEven_mul _ (by positivity), if_neg hfits, hlast]
      exact congrArg Except.ok (padded_value d j)
    · rw [if_neg hpadded]
      exact congrArg Except.ok (padded_value d k)

/-- Of two spellings of one positive number, one has trailing zeros added. -/
theorem eq_padded {a b : Decimal} (ha : a.positive = true) (hb : b.positive = true)
    (hvalue : a.value = b.value) (hexp : b.exp ≤ a.exp) : b = a.padded (a.exp - b.exp).toNat := by
  have hneg : ∀ {d : Decimal}, d.positive = true → d.neg = false := by
    intro d hd
    rw [positive, Bool.and_eq_true, Bool.not_eq_true'] at hd
    exact hd.1
  have hpos : (0 : ℚ) < (10 : ℚ) ^ b.exp := zpow_pos (by norm_num) _
  have hcoeff : b.coeff = a.coeff * 10 ^ (a.exp - b.exp).toNat := by
    rw [value, value, hneg ha, hneg hb, zpow_split hexp] at hvalue
    have hq : (b.coeff : ℚ) * (10 : ℚ) ^ b.exp =
        (a.coeff * (10 ^ (a.exp - b.exp).toNat : ℕ) : ℚ) * (10 : ℚ) ^ b.exp := by
      simpa [mul_assoc] using hvalue.symm
    exact_mod_cast mul_right_cancel₀ hpos.ne' hq
  have hshift : a.exp - ((a.exp - b.exp).toNat : ℤ) = b.exp := by omega
  have hb' : b = ⟨b.neg, b.coeff, b.exp⟩ := rfl
  rw [hb', padded, hcoeff, hshift, hneg ha, hneg hb]

theorem coeff_ne_zero {d : Decimal} (hd : d.positive = true) : d.coeff ≠ 0 := by
  intro h
  have hpos := (positive_iff d).mp hd
  rw [value, h] at hpos
  simp at hpos

/-- Two spellings of one positive number are rounded to one number, or both have no room. -/
theorem fix_value_congr {a b : Decimal} (ha : a.positive = true) (hb : b.positive = true)
    (hvalue : a.value = b.value) : (fix a).map value = (fix b).map value := by
  rcases le_total b.exp a.exp with hexp | hexp
  · rw [eq_padded ha hb hvalue hexp, fix_padded (coeff_ne_zero ha)]
  · rw [eq_padded hb ha hvalue.symm hexp, fix_padded (coeff_ne_zero hb)]

/-- The product of two numbers does not see how they are written. -/
theorem mul_value_congr {a b a' b' : Decimal} (ha : a.positive = true) (hb : b.positive = true)
    (ha' : a'.positive = true) (hb' : b'.positive = true) (haa : a.value = a'.value)
    (hbb : b.value = b'.value) : (mul a b).map value = (mul a' b').map value := by
  have hpos : ∀ {x y : Decimal}, x.positive = true → y.positive = true →
      (product x y).positive = true := by
    intro x y hx hy
    rw [positive_iff, product_value]
    exact mul_pos ((positive_iff x).mp hx) ((positive_iff y).mp hy)
  rw [mul_eq_fix, mul_eq_fix]
  apply fix_value_congr (hpos ha hb) (hpos ha' hb')
  rw [product_value, product_value, haa, hbb]

/-- Whether a number is rounded to zero does not depend on how it is written. -/
theorem fix_zero_congr {a b : Decimal} (h : |a.value| = |b.value|) :
    (fix a).map (fun r => decide (r.coeff = 0)) = (fix b).map fun r => decide (r.coeff = 0) := by
  have ha := fix_cases a
  have hb := fix_cases b
  simp only [Overflows, Vanishes, h] at ha hb
  rcases ha with ⟨hover, ha⟩ | ⟨hfits, r, ha, hr⟩
  · rcases hb with ⟨-, hb⟩ | ⟨hfits, -⟩
    · rw [ha, hb]
    · exact absurd hover hfits
  · rcases hb with ⟨hover, -⟩ | ⟨-, s, hb, hs⟩
    · exact absurd hover hfits
    · rw [ha, hb]
      exact congrArg Except.ok (decide_eq_decide.mpr (hr.trans hs.symm))

/-- Whether a remainder is zero does not depend on how the numbers are written. -/
theorem rem_zero_congr {a b a' b' : Decimal} (ha : a.positive = true) (hb : b.positive = true)
    (ha' : a'.positive = true) (hb' : b'.positive = true) (haa : a.value = a'.value)
    (hbb : b.value = b'.value) : (rem a b).map (fun r => decide (r.coeff = 0)) =
      (rem a' b').map fun r => decide (r.coeff = 0) := by
  obtain ⟨d, hd, hrem⟩ := rem_spec ha hb
  obtain ⟨d', hd', hrem'⟩ := rem_spec ha' hb'
  rw [hrem, hrem', haa, hbb]
  split
  · rfl
  · apply fix_zero_congr
    rw [hd, hd', exactRem, exactRem, haa, hbb]

end Decimal

end DecimalNumbers
