import FuturesBot.DecimalSpellings

/-! Exact arithmetic in the context: rounding sees the value of a number only, and keeps it exactly
when the value has a coefficient and an exponent that the context has room for. -/
namespace DecimalNumbers.Decimal

/-- The same number with another sign. -/
def withSign (d : Decimal) (neg : Bool) : Decimal := ⟨neg, d.coeff, d.exp⟩

/-- Rounding does not see the sign. -/
theorem fix_of_parts {a b : Decimal} (hcoeff : a.coeff = b.coeff) (hexp : a.exp = b.exp) :
    fix a = (fix b).map fun r => r.withSign a.neg := by
  by_cases hzero : b.coeff = 0
  · rw [fix, fix, if_pos hzero, if_pos (hcoeff.trans hzero), hexp]
    rfl
  simp only [fix, hcoeff, hexp, if_neg hzero]
  generalize (numDigits b.coeff : ℤ) + b.exp - prec = least
  by_cases hover : topExp < least
  · rw [if_pos hover, if_pos hover]
    rfl
  rw [if_neg hover, if_neg hover]
  by_cases hround : b.exp < max least tinyExp
  · rw [if_pos hround, if_pos hround]
    generalize roundHalfEven b.coeff (10 ^ (max least tinyExp - b.exp).toNat) = coeff
    by_cases hcarry : prec < numDigits coeff
    · rw [if_pos hcarry, if_pos hcarry]
      by_cases hfull : topExp < max least tinyExp + 1
      · rw [if_pos hfull, if_pos hfull]
        rfl
      · rw [if_neg hfull, if_neg hfull]
        rfl
    · rw [if_neg hcarry, if_neg hcarry]
      rfl
  · rw [if_neg hround, if_neg hround]
    have ha : a = b.withSign a.neg := by
      rw [withSign, ← hcoeff, ← hexp]
    exact congrArg Except.ok ha

theorem fix_withSign (d : Decimal) (neg : Bool) :
    fix (d.withSign neg) = (fix d).map fun r => r.withSign neg := fix_of_parts rfl rfl

theorem withSign_value (d : Decimal) (neg : Bool) :
    (d.withSign neg).value = (if neg then -1 else 1) * (d.withSign false).value := by
  cases neg <;> simp [withSign, value]

/-- Two spellings of one number are rounded to one number, or both have no room. -/
theorem fix_value_eq {a b : Decimal} (hvalue : a.value = b.value) :
    (fix a).map value = (fix b).map value := by
  by_cases hzero : a.coeff = 0
  · have hb : b.coeff = 0 := by
      rw [← value_zero_iff, ← hvalue, value_zero_iff]
      exact hzero
    rw [fix, fix, if_pos hzero, if_pos hb, Except.map, Except.map, value_zero, value_zero]
  · have hzero' : b.coeff ≠ 0 := fun hb => hzero (by
      rw [← value_zero_iff, hvalue, value_zero_iff]
      exact hb)
    have hpos : ∀ d : Decimal, d.coeff ≠ 0 → (d.withSign false).positive = true := by
      intro d hd
      simp [positive, withSign, hd]
    have hneg : a.neg = b.neg := by
      have hsign : ∀ d : Decimal, d.coeff ≠ 0 → (d.neg = true ↔ d.value < 0) := by
        intro d hd
        rw [← negative_iff, negative, Bool.and_eq_true, decide_eq_true_eq, and_iff_left hd]
      rw [Bool.eq_iff_iff, hsign a hzero, hsign b hzero', hvalue]
    have habs : (a.withSign false).value = (b.withSign false).value := by
      have ha := a.withSign_value a.neg
      have hb := b.withSign_value b.neg
      have hne : (if b.neg then (-1 : ℚ) else 1) ≠ 0 := by split <;> norm_num
      have ha' : (a.withSign a.neg).value = a.value := rfl
      have hb' : (b.withSign b.neg).value = b.value := rfl
      rw [ha'] at ha
      rw [hb', ← hvalue, ha, hneg] at hb
      exact mul_left_cancel₀ hne hb
    have hfix := fix_value_congr (hpos a hzero) (hpos b hzero') habs
    have hmap : ∀ d : Decimal, (fix d).map value = ((fix (d.withSign false)).map value).map
        fun v => (if d.neg then -1 else 1) * v := by
      intro d
      have hd : fix d = fix ((d.withSign false).withSign d.neg) := rfl
      have hunsigned := (d.withSign false).fix_withSign false
      have hsame : (d.withSign false).withSign false = d.withSign false := rfl
      rw [hsame] at hunsigned
      rw [hd, fix_withSign]
      cases hr : fix (d.withSign false) with
      | error e => rfl
      | ok r =>
        rw [hr] at hunsigned
        have hr : r.withSign false = r := (Except.ok.inj hunsigned).symm
        have hvalue := r.withSign_value d.neg
        rw [hr] at hvalue
        exact congrArg Except.ok hvalue
    rw [hmap a, hmap b, hfix, hneg]

/-! Values that the context has room for. -/

/-- The value has a coefficient of at most so many digits at an exponent in range. -/
def Fits (q : ℚ) : Prop :=
  ∃ c e : ℤ, c.natAbs < 10 ^ prec ∧ tinyExp ≤ e ∧ e ≤ topExp ∧ q = c * (10 : ℚ) ^ e

theorem fits_zero : Fits 0 := ⟨0, 0, by decide, by decide, by decide, by simp⟩

theorem fits_of_parts {d : Decimal} (hcoeff : d.coeff < 10 ^ prec) (htiny : tinyExp ≤ d.exp)
    (htop : d.exp ≤ topExp) : Fits d.value := by
  refine ⟨(if d.neg then -1 else 1) * d.coeff, d.exp, ?_, htiny, htop, ?_⟩
  · cases d.neg <;> simpa using hcoeff
  · rw [value]
    cases d.neg <;> simp

/-- What rounding gives fits. -/
theorem fits_of_fix {d r : Decimal} (h : fix d = .ok r) : Fits r.value := by
  by_cases hzero : d.coeff = 0
  · rw [fix, if_pos hzero] at h
    rw [← Except.ok.inj h, value_zero]
    exact fits_zero
  have hdigits := numDigits_pos d.coeff
  have htiny : tinyExp = -1000026 := rfl
  have htop : topExp = 999972 := rfl
  have hprec : prec = 28 := rfl
  simp only [fix, if_neg hzero] at h
  split at h
  · cases h
  rename_i hroom
  generalize hleast : max ((numDigits d.coeff : ℤ) + d.exp - prec) tinyExp = least at h
  split at h
  · rename_i hround
    -- at least so many digits are dropped that those of the context are left
    have hbound : roundHalfEven d.coeff (10 ^ (least - d.exp).toNat) ≤ 10 ^ prec := by
      apply roundHalfEven_le_of_le (by positivity)
      calc d.coeff ≤ 10 ^ numDigits d.coeff := ((numDigits_le_iff hdigits).mp le_rfl).le
        _ ≤ 10 ^ (prec + (least - d.exp).toNat) := Nat.pow_le_pow_right (by decide) (by omega)
        _ = 10 ^ prec * 10 ^ (least - d.exp).toNat := pow_add _ _ _
    generalize roundHalfEven d.coeff (10 ^ (least - d.exp).toNat) = coeff at h hbound
    split at h
    · split at h
      · cases h
      · rename_i hfits
        obtain rfl := Except.ok.inj h
        apply fits_of_parts
        · have hpow : 0 < 10 ^ prec := by positivity
          dsimp only
          omega
        · dsimp only
          omega
        · dsimp only
          omega
    · rename_i hcarry
      obtain rfl := Except.ok.inj h
      apply fits_of_parts
      · exact (numDigits_le_iff (by decide)).mp (not_lt.mp hcarry)
      · dsimp only
        omega
      · dsimp only
        omega
  · rename_i hexact
    obtain rfl := Except.ok.inj h
    rcases le_or_gt d.exp topExp with hle | hgt
    · exact fits_of_parts ((numDigits_le_iff (by decide)).mp (by omega)) (by omega) hle
    · -- a larger exponent is brought down by zeros at the end of the coefficient
      have hpadded := numDigits_mul_pow hzero (d.exp - topExp).toNat
      rw [← padded_value d (d.exp - topExp).toNat]
      apply fits_of_parts
      · exact (numDigits_le_iff (by decide)).mp (by rw [padded, hpadded]; omega)
      · rw [padded]
        dsimp only
        omega
      · rw [padded]
        dsimp only
        omega

theorem signed_natAbs (c : ℤ) :
    (if decide (c < 0) = true then (-1 : ℚ) else 1) * (c.natAbs : ℚ) = c := by
  rcases lt_or_ge c 0 with hneg | hpos
  · have habs : (c.natAbs : ℤ) = -c := by omega
    have hcast : (c.natAbs : ℚ) = -c := by rw [← Int.cast_natCast, habs, Int.cast_neg]
    rw [if_pos (decide_eq_true hneg), hcast]
    ring
  · have habs : (c.natAbs : ℤ) = c := by omega
    have hcast : (c.natAbs : ℚ) = c := by rw [← Int.cast_natCast, habs]
    rw [if_neg (by simpa using hpos), hcast, one_mul]

/-- Rounding keeps a value exactly when it fits. -/
theorem fix_exact_iff (d : Decimal) :
    (∃ r, fix d = .ok r ∧ r.value = d.value) ↔ Fits d.value := by
  constructor
  · rintro ⟨r, hfix, hvalue⟩
    rw [← hvalue]
    exact fits_of_fix hfix
  · rintro ⟨c, e, hc, htiny, htop, hvalue⟩
    let m : Decimal := ⟨decide (c < 0), c.natAbs, e⟩
    have hm : m.value = d.value := by
      rw [hvalue, value, signed_natAbs]
    have hfix : ∃ r, fix m = .ok r ∧ r.value = m.value := by
      by_cases hzero : m.coeff = 0
      · refine ⟨_, by rw [fix, if_pos hzero], ?_⟩
        rw [value_zero, (value_zero_iff m).mpr hzero]
      · exact ⟨m, fix_eq_self hzero hc htiny htop, rfl⟩
    obtain ⟨r, hr, hrm⟩ := hfix
    have hsame := fix_value_eq hm.symm
    rw [hr] at hsame
    obtain ⟨s, hs, hsr⟩ : ∃ s, fix d = .ok s ∧ s.value = r.value := by
      cases hd : fix d with
      | error e => rw [hd] at hsame; cases hsame
      | ok s =>
        rw [hd] at hsame
        exact ⟨s, rfl, Except.ok.inj hsame⟩
    exact ⟨s, hs, hsr.trans (hrm.trans hm)⟩

/-! Sums and differences. -/

/-- The sum before it is rounded. -/
def exactSum (a b : Decimal) : Decimal :=
  let e := min a.exp b.exp
  let n := a.scaled e + b.scaled e
  ⟨decide (n < 0), n.natAbs, e⟩

theorem add_eq_fix (a b : Decimal) : add a b = fix (exactSum a b) := rfl

theorem exactSum_value (a b : Decimal) : (exactSum a b).value = a.value + b.value := by
  rw [exactSum, value, signed_natAbs, Int.cast_add, add_mul,
    a.scaled_value (min_le_left a.exp b.exp), b.scaled_value (min_le_right a.exp b.exp)]

theorem add_comm (a b : Decimal) : add a b = add b a := by
  rw [add_eq_fix, add_eq_fix, exactSum, exactSum, min_comm, Int.add_comm]

/-- The same number with the other sign. -/
def negated (d : Decimal) : Decimal := ⟨!d.neg, d.coeff, d.exp⟩

theorem sub_eq_add (a b : Decimal) : sub a b = add a b.negated := rfl

theorem negated_value (d : Decimal) : d.negated.value = -d.value := by
  rw [negated, value, value]
  cases d.neg <;> simp

theorem add_exact_iff (a b : Decimal) :
    (∃ r, add a b = .ok r ∧ r.value = a.value + b.value) ↔ Fits (a.value + b.value) := by
  rw [← exactSum_value]
  exact fix_exact_iff _

theorem sub_exact_iff (a b : Decimal) :
    (∃ r, sub a b = .ok r ∧ r.value = a.value - b.value) ↔ Fits (a.value - b.value) := by
  rw [sub_eq_add, sub_eq_add_neg, ← negated_value]
  exact add_exact_iff a b.negated

/-- The value is rounded to zero. -/
def Negligible (q : ℚ) : Prop := |q| ≤ (10 : ℚ) ^ tinyExp / 2

/-- The value has no room in the context. -/
def TooLarge (q : ℚ) : Prop := (10 ^ prec - 1 / 2) * (10 : ℚ) ^ topExp ≤ |q|

theorem TooLarge.not_negligible {q : ℚ} (h : TooLarge q) : ¬ Negligible q := by
  have htop : (10 : ℚ) ^ tinyExp ≤ (10 : ℚ) ^ topExp := zpow_le (by decide)
  have hpos : (0 : ℚ) < (10 : ℚ) ^ tinyExp := zpow_pos (by norm_num) _
  have hone : (1 : ℚ) ≤ 10 ^ prec - 1 / 2 := by norm_num [prec]
  rw [TooLarge] at h
  rw [Negligible, not_le]
  calc (10 : ℚ) ^ tinyExp / 2 < (10 : ℚ) ^ topExp := by linarith
    _ ≤ (10 ^ prec - 1 / 2) * (10 : ℚ) ^ topExp := le_mul_of_one_le_left (hpos.le.trans htop) hone
    _ ≤ |q| := h

/-- A value that fits is a whole number of the smallest units, and not too large. -/
theorem Fits.units {q : ℚ} (h : Fits q) : ∃ k : ℤ, q = k * (10 : ℚ) ^ tinyExp := by
  obtain ⟨c, e, -, htiny, -, rfl⟩ := h
  refine ⟨c * (10 ^ (e - tinyExp).toNat : ℕ), ?_⟩
  rw [zpow_split htiny]
  push_cast
  ring

theorem Fits.not_tooLarge {p q : ℚ} (h : Fits q) (hle : |p| ≤ |q|) : ¬ TooLarge p := by
  obtain ⟨c, e, hc, -, htop, rfl⟩ := h
  have hpos : (0 : ℚ) < (10 : ℚ) ^ topExp := zpow_pos (by norm_num) _
  have hcoeff : |(c : ℚ)| ≤ 10 ^ prec - 1 := by
    have hnat : (c.natAbs : ℤ) < ((10 ^ prec : ℕ) : ℤ) := Int.ofNat_lt.mpr hc
    have habs : |c| + 1 ≤ 10 ^ prec := by
      rw [Int.abs_eq_natAbs]
      exact_mod_cast hnat
    have hcast : |(c : ℚ)| + 1 ≤ 10 ^ prec := by exact_mod_cast habs
    linarith
  have hbound : |(c : ℚ) * (10 : ℚ) ^ e| ≤ (10 ^ prec - 1) * (10 : ℚ) ^ topExp := by
    rw [abs_mul, abs_of_pos (zpow_pos (by norm_num : (0 : ℚ) < 10) e)]
    exact mul_le_mul hcoeff (zpow_le htop) (by positivity) (by norm_num [prec])
  rw [TooLarge, not_le]
  calc |p| ≤ (10 ^ prec - 1) * (10 : ℚ) ^ topExp := hle.trans hbound
    _ < (10 ^ prec - 1 / 2) * (10 : ℚ) ^ topExp := mul_lt_mul_of_pos_right (by linarith) hpos

/-- Rounding fails for values that are too large, and gives zero for those that are negligible. -/
theorem fix_value_cases (d : Decimal) :
    (TooLarge d.value ∧ ∃ e, fix d = .error e) ∨
      (¬ TooLarge d.value ∧ ∃ r, fix d = .ok r ∧ (r.value = 0 ↔ Negligible d.value)) := by
  rcases fix_cases d with ⟨hover, hfix⟩ | ⟨hroom, r, hfix, hzero⟩
  · exact .inl ⟨hover, _, hfix⟩
  · exact .inr ⟨hroom, r, hfix, by rw [value_zero_iff, hzero]; exact Iff.rfl⟩

/-- A rounded number is on the same side of zero as the number, or zero. -/
theorem fix_sign {d r : Decimal} (h : fix d = .ok r) :
    (0 ≤ d.value → 0 ≤ r.value) ∧ (d.value ≤ 0 → r.value ≤ 0) := by
  have hneg : r.neg = d.neg := by
    have hself := fix_withSign d d.neg
    have hd : d.withSign d.neg = d := rfl
    rw [hd, h] at hself
    rw [Except.ok.inj hself]
    rfl
  have habs : ∀ x : Decimal, 0 ≤ x.coeff * (10 : ℚ) ^ x.exp := fun x => by positivity
  have hr := habs r
  have hd := habs d
  rw [value, value, hneg]
  cases hn : d.neg with
  | true =>
    simp only [↓reduceIte]
    constructor
    · intro hle
      have hzero : d.value = 0 := by
        rw [value, hn, if_pos rfl]
        linarith
      have hcoeff := (value_zero_iff d).mp hzero
      rw [fix, if_pos hcoeff] at h
      rw [← Except.ok.inj h]
      simp
    · intro _
      linarith
  | false =>
    simp only [Bool.false_eq_true, ↓reduceIte]
    constructor
    · intro _
      linarith
    · intro hle
      have hzero : d.value = 0 := by
        rw [value, hn, if_neg (by decide)]
        linarith
      have hcoeff := (value_zero_iff d).mp hzero
      rw [fix, if_pos hcoeff] at h
      rw [← Except.ok.inj h]
      simp

end DecimalNumbers.Decimal
