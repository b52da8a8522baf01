import FuturesBot.DecimalArithmetic

/-! What rounding to the context keeps of a number: a number that fits is left as it is, and one
between zero and one stays there. -/
namespace DecimalNumbers

open JsonText

theorem numDigits_le_iff {n k : ℕ} (hk : 0 < k) : numDigits n ≤ k ↔ n < 10 ^ k :=
  Nat.length_toDigits_le_iff (by decide) hk

theorem roundHalfEven_mul (n : ℕ) {d : ℕ} (hd : 0 < d) : roundHalfEven (n * d) d = n := by
  have hmod : n * d % d = 0 := Nat.mul_mod_left n d
  rw [roundHalfEven, hmod, if_pos (by omega), Nat.mul_div_cancel n hd]

/-- Rounding does not pass a whole number. -/
theorem roundHalfEven_le_of_le {n d m : ℕ} (hd : 0 < d) (h : n ≤ m * d) :
    roundHalfEven n d ≤ m := by
  have hdiv : n / d ≤ m := Nat.div_le_of_le_mul (by rwa [Nat.mul_comm] at h)
  rcases Nat.lt_or_eq_of_le hdiv with hlt | heq
  · rw [roundHalfEven]
    split
    · omega
    · split <;> omega
  · -- nothing is left over at the bound itself
    have hzero : n % d = 0 := by
      have hsplit := Nat.div_add_mod n d
      rw [heq, Nat.mul_comm] at hsplit
      omega
    rw [roundHalfEven, hzero, if_pos (by omega), heq]

namespace Decimal

theorem value_zero (neg : Bool) (exp : ℤ) : (⟨neg, 0, exp⟩ : Decimal).value = 0 :=
  (value_zero_iff _).mpr rfl

/-- A number with no more digits than the context has, in the range of its exponents, is not
rounded. -/
theorem fix_eq_self {d : Decimal} (hne : d.coeff ≠ 0) (hcoeff : d.coeff < 10 ^ prec)
    (htiny : tinyExp ≤ d.exp) (htop : d.exp ≤ topExp) : fix d = .ok d := by
  have hdigits : numDigits d.coeff ≤ prec := (numDigits_le_iff (by decide)).mpr hcoeff
  have hleast : (numDigits d.coeff : ℤ) + d.exp - prec ≤ d.exp := by omega
  have hfits : ¬ topExp < (numDigits d.coeff : ℤ) + d.exp - prec := by omega
  have hmax : ¬ d.exp < max ((numDigits d.coeff : ℤ) + d.exp - prec) tinyExp := by omega
  simp only [fix, if_neg hne, if_neg hfits, if_neg hmax]

/-- The number is at most one: its coefficient is at most the power that its exponent asks
for. -/
def UpToOne (d : Decimal) : Prop :=
  d.neg = false ∧ d.exp ≤ 0 ∧ d.coeff ≤ 10 ^ (-d.exp).toNat

theorem UpToOne.value_le {d : Decimal} (h : d.UpToOne) : 0 ≤ d.value ∧ d.value ≤ 1 := by
  obtain ⟨hneg, hexp, hcoeff⟩ := h
  have hpos : (0 : ℚ) < (10 : ℚ) ^ d.exp := zpow_pos (by norm_num) _
  have hvalue : d.value = d.coeff * (10 : ℚ) ^ d.exp := by
    rw [value, hneg]
    norm_num
  have hone : ((10 ^ (-d.exp).toNat : ℕ) : ℚ) * (10 : ℚ) ^ d.exp = 1 := by
    push_cast
    rw [← zpow_natCast, Int.toNat_of_nonneg (by omega), ← zpow_add₀ (by norm_num),
      neg_add_cancel, zpow_zero]
  constructor
  · rw [hvalue]
    exact mul_nonneg (Nat.cast_nonneg _) hpos.le
  · rw [hvalue, ← hone]
    exact mul_le_mul_of_nonneg_right (Nat.cast_le.mpr hcoeff) hpos.le

/-- Rounding a number between zero and one succeeds, and gives such a number. -/
theorem fix_upToOne {d : Decimal} (h : d.UpToOne) : ∃ r, fix d = .ok r ∧ r.UpToOne := by
  obtain ⟨hneg, hexp, hcoeff⟩ := h
  by_cases hzero : d.coeff = 0
  · refine ⟨⟨d.neg, 0, max tinyExp (min d.exp maxExp)⟩, ?_, hneg, ?_, Nat.zero_le _⟩
    · rw [fix, if_pos hzero]
    · have htiny : tinyExp = -1000026 := rfl
      dsimp only
      omega
  · have hdigits : (numDigits d.coeff : ℤ) + d.exp ≤ 1 := by
      have hle : numDigits d.coeff ≤ (-d.exp).toNat + 1 := by
        rw [numDigits_le_iff (by omega), pow_succ]
        have hpos : 0 < 10 ^ (-d.exp).toNat := by positivity
        omega
      omega
    have hprec : (prec : ℤ) = 28 := rfl
    have htiny : tinyExp = -1000026 := rfl
    have htop : topExp = 999972 := rfl
    have hfits : ¬ topExp < (numDigits d.coeff : ℤ) + d.exp - prec := by omega
    simp only [fix, if_neg hzero, if_neg hfits]
    generalize hleast : max ((numDigits d.coeff : ℤ) + d.exp - prec) tinyExp = least
    have hleast0 : least ≤ -27 := by omega
    split
    · rename_i hround
      -- the digits dropped leave a number of units of ten to the least exponent
      have hsplit : (-d.exp).toNat = (-least).toNat + (least - d.exp).toNat := by omega
      have hbound : roundHalfEven d.coeff (10 ^ (least - d.exp).toNat) ≤
          10 ^ (-least).toNat := by
        apply roundHalfEven_le_of_le (by positivity)
        rw [← pow_add, ← hsplit]
        exact hcoeff
      split
      · rename_i hcarry
        have hroom : ¬ topExp < least + 1 := by omega
        rw [if_neg hroom]
        refine ⟨_, rfl, hneg, by dsimp only; omega, ?_⟩
        have hpow : (-least).toNat = (-(least + 1)).toNat + 1 := by omega
        rw [hpow, pow_succ] at hbound
        exact Nat.div_le_of_le_mul (by rwa [Nat.mul_comm] at hbound)
      · exact ⟨_, rfl, hneg, by dsimp only; omega, hbound⟩
    · exact ⟨d, rfl, hneg, hexp, hcoeff⟩

def one : Decimal := ⟨false, 1, 0⟩

/-- The difference in the context. -/
def sub (a b : Decimal) : Except DecimalError Decimal := add a ⟨!b.neg, b.coeff, b.exp⟩

/-- A number between zero and one, both included. -/
def inUnitInterval (d : Decimal) : Bool := !d.negative && !lt one d

theorem value_one : one.value = 1 := by
  norm_num [value, one]

theorem inUnitInterval_iff {d : Decimal} : d.inUnitInterval = true ↔ 0 ≤ d.value ∧ d.value ≤ 1 := by
  have hneg := d.negative_iff
  have hlt := lt_iff one d
  rw [value_one] at hlt
  rw [inUnitInterval, Bool.and_eq_true, Bool.not_eq_true', Bool.not_eq_true',
    Bool.eq_false_iff, Bool.eq_false_iff, Ne, Ne, hneg, hlt, not_lt, not_lt]

theorem UpToOne.inUnitInterval {d : Decimal} (h : d.UpToOne) : d.inUnitInterval = true :=
  inUnitInterval_iff.mpr h.value_le

/-- The part of one that is left, before it is rounded. -/
def oneMinus (d : Decimal) : Decimal :=
  ⟨false, (one.scaled (min 0 d.exp) - d.scaled (min 0 d.exp)).natAbs, min 0 d.exp⟩

theorem scaled_one_minus {d : Decimal} (h : d.inUnitInterval = true) :
    0 ≤ d.scaled (min 0 d.exp) ∧ d.scaled (min 0 d.exp) ≤ one.scaled (min 0 d.exp) := by
  obtain ⟨hnonneg, hle⟩ := inUnitInterval_iff.mp h
  have hpos : (0 : ℚ) < (10 : ℚ) ^ min 0 d.exp := zpow_pos (by norm_num) _
  have hd := d.scaled_value (min_le_right 0 d.exp)
  have hone := one.scaled_value (e := min 0 d.exp) (min_le_left 0 d.exp)
  rw [value_one] at hone
  constructor
  · have hq : (0 : ℚ) ≤ d.scaled (min 0 d.exp) := by
      by_contra hlt
      have := mul_neg_of_neg_of_pos (not_le.mp hlt) hpos
      linarith
    exact_mod_cast hq
  · have hq : (d.scaled (min 0 d.exp) : ℚ) ≤ one.scaled (min 0 d.exp) := by
      by_contra hlt
      have := mul_lt_mul_of_pos_right (not_le.mp hlt) hpos
      linarith
    exact_mod_cast hq

theorem sub_one_eq {d : Decimal} (h : d.inUnitInterval = true) :
    sub one d = fix (oneMinus d) := by
  obtain ⟨-, hle⟩ := scaled_one_minus h
  have hscaled : (⟨!d.neg, d.coeff, d.exp⟩ : Decimal).scaled (min 0 d.exp) =
      -d.scaled (min 0 d.exp) := by
    rw [scaled, scaled]
    cases d.neg <;> simp
  have hn : ¬ one.scaled (min 0 d.exp) - d.scaled (min 0 d.exp) < 0 := by omega
  have hmin : min one.exp d.exp = min 0 d.exp := rfl
  simp only [sub, add, hmin, hscaled, ← sub_eq_add_neg, decide_eq_false hn]
  rfl

theorem oneMinus_upToOne {d : Decimal} (h : d.inUnitInterval = true) : (oneMinus d).UpToOne := by
  obtain ⟨hnonneg, hle⟩ := scaled_one_minus h
  have hone : one.scaled (min 0 d.exp) = ((10 ^ (-min 0 d.exp).toNat : ℕ) : ℤ) := by
    simp [scaled, one]
  refine ⟨rfl, min_le_left 0 d.exp, ?_⟩
  change (one.scaled (min 0 d.exp) - d.scaled (min 0 d.exp)).natAbs ≤ _
  rw [hone] at hle ⊢
  simp only [oneMinus]
  omega

theorem oneMinus_value {d : Decimal} (h : d.inUnitInterval = true) :
    (oneMinus d).value = 1 - d.value := by
  obtain ⟨-, hle⟩ := scaled_one_minus h
  have hd := d.scaled_value (min_le_right 0 d.exp)
  have hone := one.scaled_value (e := min 0 d.exp) (min_le_left 0 d.exp)
  rw [value_one] at hone
  have hcast : (((one.scaled (min 0 d.exp) - d.scaled (min 0 d.exp)).natAbs : ℕ) : ℚ) =
      one.scaled (min 0 d.exp) - d.scaled (min 0 d.exp) := by
    rw [← Int.cast_natCast, Int.natAbs_of_nonneg (by omega), Int.cast_sub]
  rw [oneMinus, value]
  simp only [Bool.false_eq_true, ↓reduceIte, one_mul, hcast]
  rw [sub_mul, hone, hd]

/-- One minus a number of the unit interval is again such a number. -/
theorem sub_one_ok {d : Decimal} (h : d.inUnitInterval = true) :
    ∃ r, sub one d = .ok r ∧ r.inUnitInterval = true := by
  obtain ⟨r, hr, hone⟩ := fix_upToOne (oneMinus_upToOne h)
  exact ⟨r, (sub_one_eq h).trans hr, hone.inUnitInterval⟩

/-- One minus a number of at most as many places as the context has digits is exact. -/
theorem sub_one_exact {d r : Decimal} (h : d.inUnitInterval = true) (hplaces : -28 ≤ d.exp)
    (hr : sub one d = .ok r) : r.value = 1 - d.value := by
  have hupTo := oneMinus_upToOne h
  have hvalue := oneMinus_value h
  rw [sub_one_eq h] at hr
  have hexp : -28 ≤ (oneMinus d).exp := by
    simp only [oneMinus]
    omega
  obtain ⟨hneg, hexp0, hcoeff⟩ := hupTo
  generalize oneMinus d = m at hr hvalue hexp hneg hexp0 hcoeff
  have hpow : 10 ^ (-m.exp).toNat ≤ 10 ^ prec :=
    Nat.pow_le_pow_right (by decide) (by simp only [prec]; omega)
  rcases Nat.lt_or_eq_of_le (hcoeff.trans hpow) with hlt | heq
  · by_cases hzero : m.coeff = 0
    · rw [fix, if_pos hzero] at hr
      obtain rfl := Except.ok.inj hr
      rw [value_zero, ← hvalue, (value_zero_iff m).mpr hzero]
    · rw [fix_eq_self hzero hlt (by simp only [tinyExp, minExp, prec]; omega)
        (by simp only [topExp, maxExp, prec]; omega)] at hr
      rw [← Except.ok.inj hr, hvalue]
  · -- one itself, with all the places
    have hexp28 : m.exp = -28 := by
      have hge : 10 ^ prec ≤ 10 ^ (-m.exp).toNat := heq ▸ hcoeff
      have hprec : prec ≤ (-m.exp).toNat := (Nat.pow_le_pow_iff_right (by decide)).mp hge
      simp only [prec] at hprec
      omega
    obtain ⟨neg, coeff, exp⟩ := m
    dsimp only at hneg heq hexp28 hvalue hr
    subst hneg heq hexp28
    have hfix : fix ⟨false, 10 ^ prec, -28⟩ = .ok ⟨false, 10 ^ 27, -27⟩ := by decide
    rw [hfix] at hr
    rw [← Except.ok.inj hr, ← hvalue]
    norm_num [value, prec]

end Decimal

end DecimalNumbers
