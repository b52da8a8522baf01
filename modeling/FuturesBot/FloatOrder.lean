import FuturesBot.FloatAges

/-! Rounding keeps the order: a longer time is never counted as fewer milliseconds, and never as
two too few. -/
namespace BinaryFloats

open DecimalNumbers DateTimes

theorem roundHalfEven_ge (n : ℕ) {d : ℕ} (hd : 0 < d) :
    (n : ℚ) / d - 1 / 2 ≤ roundHalfEven n d := by
  have hn : d * (n / d) + n % d = n := Nat.div_add_mod n d
  have hmod : n % d < d := Nat.mod_lt n hd
  have hnat : 2 * n ≤ 2 * d * roundHalfEven n d + d := by
    -- a quotient is rounded down only up to half of the divisor
    have hcases : n / d + 1 ≤ roundHalfEven n d ∨
        n / d ≤ roundHalfEven n d ∧ 2 * (n % d) ≤ d := by
      rw [roundHalfEven]
      split_ifs with h1 h2
      · exact .inr ⟨le_refl _, h1.le⟩
      · exact .inl (le_refl _)
      · exact .inr ⟨Nat.le_add_right _ _, by omega⟩
    rcases hcases with h | ⟨h, hhalf⟩
    · have hmul : d * (n / d + 1) ≤ d * roundHalfEven n d := Nat.mul_le_mul_left d h
      rw [Nat.mul_add_one] at hmul
      rw [Nat.mul_assoc]
      omega
    · have hmul : d * (n / d) ≤ d * roundHalfEven n d := Nat.mul_le_mul_left d h
      rw [Nat.mul_assoc]
      omega
  have hdq : (0 : ℚ) < d := by exact_mod_cast hd
  have hrat : (2 * n : ℚ) ≤ 2 * d * roundHalfEven n d + d := by exact_mod_cast hnat
  rw [sub_le_iff_le_add, div_le_iff₀ hdq]
  linarith

/-- Equal quotients are rounded alike. -/
theorem roundHalfEven_congr {n d n' d' : ℕ} (hd : 0 < d) (hd' : 0 < d') (h : n * d' = n' * d) :
    roundHalfEven n d = roundHalfEven n' d' := by
  have hcommon : ∀ a b c : ℕ, 0 < b → 0 < c → roundHalfEven (a * c) (b * c) = roundHalfEven a b := by
    intro a b c hb hc
    have hmod : a * c % (b * c) = a % b * c := Nat.mul_mod_mul_right c a b
    have hdiv : a * c / (b * c) = a / b := Nat.mul_div_mul_right a b hc
    have hlt : 2 * (a % b * c) < b * c ↔ 2 * (a % b) < b := by
      rw [← Nat.mul_assoc]
      exact Nat.mul_lt_mul_right hc
    have hgt : b * c < 2 * (a % b * c) ↔ b < 2 * (a % b) := by
      rw [← Nat.mul_assoc]
      exact Nat.mul_lt_mul_right hc
    simp only [roundHalfEven, hmod, hdiv, hlt, hgt]
  rw [← hcommon n d d' hd hd', ← hcommon n' d' d hd' hd, h, Nat.mul_comm d d']

theorem roundHalfEven_mono {n d n' d' : ℕ} (hd : 0 < d) (hd' : 0 < d')
    (h : (n : ℚ) / d ≤ n' / d') : roundHalfEven n d ≤ roundHalfEven n' d' := by
  by_contra hlt
  have hstep : roundHalfEven n' d' + 1 ≤ roundHalfEven n d := not_le.mp hlt
  have hstepq : (roundHalfEven n' d' : ℚ) + 1 ≤ roundHalfEven n d := by exact_mod_cast hstep
  have hle := roundHalfEven_le n hd
  have hge := roundHalfEven_ge n' hd'
  -- only equal quotients lie half way from both results
  have heq : (n : ℚ) / d = n' / d' := le_antisymm h (by linarith)
  have hdq : (d : ℚ) ≠ 0 := by exact_mod_cast hd.ne'
  have hdq' : (d' : ℚ) ≠ 0 := by exact_mod_cast hd'.ne'
  rw [div_eq_div_iff hdq hdq'] at heq
  have hnat : n * d' = n' * d := by exact_mod_cast heq
  rw [roundHalfEven_congr hd hd' hnat] at hlt
  exact hlt (le_refl _)

theorem roundHalfEven_one (n : ℕ) : roundHalfEven n 1 = n := by
  simp [roundHalfEven, Nat.mod_one]

theorem value_nonneg (x : Float64) : 0 ≤ x.value :=
  mul_nonneg (Nat.cast_nonneg _) (zpow_pos (by norm_num) _).le

/-- Rounding to the nearest number keeps the order. -/
theorem nearest_mono {n d n' d' : ℕ} (hd : 0 < d) (hd' : 0 < d') (h : (n : ℚ) / d ≤ n' / d') :
    (nearest n d).value ≤ (nearest n' d').value := by
  rcases Nat.eq_zero_or_pos n with rfl | hn
  · have hzero : (nearest 0 d).value = 0 := by simp [nearest, Float64.value]
    rw [hzero]
    exact value_nonneg _
  have hn' : 0 < n' := by
    rw [Nat.pos_iff_ne_zero]
    rintro rfl
    have hpos : (0 : ℚ) < n / d := by positivity
    simp only [Nat.cast_zero, zero_div] at h
    linarith
  obtain ⟨e, hnearest, hlarge, hsmall⟩ := nearest_scaled hn hd
  obtain ⟨e', hnearest', hlarge', hsmall'⟩ := nearest_scaled hn' hd'
  have hscale : (0 : ℚ) < (2 : ℚ) ^ (-e) := zpow_pos (by norm_num) _
  have hpow : (0 : ℚ) < (2 : ℚ) ^ e := zpow_pos (by norm_num) _
  have hpow' : (0 : ℚ) < (2 : ℚ) ^ e' := zpow_pos (by norm_num) _
  have hden : 0 < d * 2 ^ e.toNat := by positivity
  have hden' : 0 < d' * 2 ^ e'.toNat := by positivity
  rw [hnearest, hnearest']
  simp only [Float64.value]
  rcases lt_trichotomy e e' with hlt | rfl | hgt
  · -- the smaller exponent: both results lie on their sides of a power of two
    have hle : roundHalfEven (n * 2 ^ (-e).toNat) (d * 2 ^ e.toNat) ≤ 2 ^ 53 := by
      rw [← roundHalfEven_one (2 ^ 53)]
      refine roundHalfEven_mono hden (by decide) ?_
      rw [scaled_div]
      push_cast
      rw [div_one]
      exact hsmall.le
    have hge : 2 ^ 52 ≤ roundHalfEven (n' * 2 ^ (-e').toNat) (d' * 2 ^ e'.toNat) := by
      rw [← roundHalfEven_one (2 ^ 52)]
      refine roundHalfEven_mono (by decide) hden' ?_
      rw [scaled_div]
      push_cast
      rw [div_one]
      exact hlarge'
    calc (roundHalfEven (n * 2 ^ (-e).toNat) (d * 2 ^ e.toNat) : ℚ) * 2 ^ e
        ≤ 2 ^ 53 * (2 : ℚ) ^ e :=
          mul_le_mul_of_nonneg_right (by exact_mod_cast hle) hpow.le
      _ = 2 ^ 52 * (2 : ℚ) ^ (e + 1) := by
          rw [zpow_add_one₀ two_ne_zero]
          ring
      _ ≤ 2 ^ 52 * (2 : ℚ) ^ e' :=
          mul_le_mul_of_nonneg_left (zpow_le_zpow_right₀ (by norm_num) (by omega)) (by positivity)
      _ ≤ roundHalfEven (n' * 2 ^ (-e').toNat) (d' * 2 ^ e'.toNat) * 2 ^ e' :=
          mul_le_mul_of_nonneg_right (by exact_mod_cast hge) hpow'.le
  · have hround : roundHalfEven (n * 2 ^ (-e).toNat) (d * 2 ^ e.toNat) ≤
        roundHalfEven (n' * 2 ^ (-e).toNat) (d' * 2 ^ e.toNat) := by
      refine roundHalfEven_mono hden hden' ?_
      rw [scaled_div, scaled_div]
      exact mul_le_mul_of_nonneg_right h hscale.le
    exact mul_le_mul_of_nonneg_right (by exact_mod_cast hround) hpow.le
  · -- the larger exponent is only needed for a larger quotient
    exfalso
    have hq : (2 ^ 53 : ℚ) * (2 : ℚ) ^ e' ≤ n / d := by
      calc (2 ^ 53 : ℚ) * (2 : ℚ) ^ e' = 2 ^ 52 * (2 : ℚ) ^ (e' + 1) := by
            rw [zpow_add_one₀ two_ne_zero]
            ring
        _ ≤ 2 ^ 52 * (2 : ℚ) ^ e :=
            mul_le_mul_of_nonneg_left (zpow_le_zpow_right₀ (by norm_num) (by omega)) (by positivity)
        _ ≤ n / d * (2 : ℚ) ^ (-e) * (2 : ℚ) ^ e := mul_le_mul_of_nonneg_right hlarge hpow.le
        _ = n / d := by
            rw [mul_assoc, ← zpow_add₀ two_ne_zero, neg_add_cancel, zpow_zero, mul_one]
    have hq' : (n' / d' : ℚ) < 2 ^ 53 * (2 : ℚ) ^ e' := by
      calc (n' / d' : ℚ) = n' / d' * (2 : ℚ) ^ (-e') * (2 : ℚ) ^ e' := by
            rw [mul_assoc, ← zpow_add₀ two_ne_zero, neg_add_cancel, zpow_zero, mul_one]
        _ < 2 ^ 53 * (2 : ℚ) ^ e' := mul_lt_mul_of_pos_right hsmall' hpow'
    linarith

/-- The nearest number lies below a quotient by at most half a unit in the last of 53 places. -/
theorem nearest_value_ge (n : ℕ) {d : ℕ} (hd : 0 < d) :
    (n : ℚ) / d * (1 - 1 / 2 ^ 53) ≤ (nearest n d).value := by
  rcases Nat.eq_zero_or_pos n with rfl | hn
  · simp [nearest, Float64.value]
  obtain ⟨e, hnearest, hlarge, _⟩ := nearest_scaled hn hd
  rw [hnearest]
  have hge := roundHalfEven_ge (n * 2 ^ (-e).toNat) (d := d * 2 ^ e.toNat) (by positivity)
  rw [scaled_div] at hge
  have hpow : (0 : ℚ) < 2 ^ e := zpow_pos (by norm_num) e
  calc (n : ℚ) / d * (1 - 1 / 2 ^ 53)
      = n / d * (1 - 1 / 2 ^ 53) * ((2 : ℚ) ^ (-e) * 2 ^ e) := by
        rw [← zpow_add₀ two_ne_zero, neg_add_cancel, zpow_zero, mul_one]
    _ = (n / d * (2 : ℚ) ^ (-e) * (1 - 1 / 2 ^ 53)) * (2 : ℚ) ^ e := by ring
    _ ≤ (roundHalfEven (n * 2 ^ (-e).toNat) (d * 2 ^ e.toNat) : ℚ) * (2 : ℚ) ^ e := by
        refine mul_le_mul_of_nonneg_right ?_ hpow.le
        have hhalf : (1 / 2 : ℚ) ≤ n / d * (2 : ℚ) ^ (-e) * (1 / 2 ^ 53) := by
          calc (1 / 2 : ℚ) = 2 ^ 52 * (1 / 2 ^ 53) := by norm_num
            _ ≤ _ := mul_le_mul_of_nonneg_right hlarge (by positivity)
        linarith

/-- The quotient whose nearest number a product is. -/
theorem scale_quotient (x : Float64) (k : ℕ) :
    ((x.mant * k * 2 ^ x.exp.toNat : ℕ) : ℚ) / ((2 ^ (-x.exp).toNat : ℕ) : ℚ) = x.value * k := by
  rw [Float64.value, two_zpow]
  push_cast
  ring

theorem scale_mono {x y : Float64} (h : x.value ≤ y.value) (k : ℕ) :
    (x.scale k).value ≤ (y.scale k).value := by
  refine nearest_mono (by positivity) (by positivity) ?_
  rw [scale_quotient, scale_quotient]
  exact mul_le_mul_of_nonneg_right h (Nat.cast_nonneg k)

theorem scale_value_ge (x : Float64) (k : ℕ) :
    x.value * k * (1 - 1 / 2 ^ 53) ≤ (x.scale k).value := by
  have hge := nearest_value_ge (x.mant * k * 2 ^ x.exp.toNat) (d := 2 ^ (-x.exp).toNat)
    (by positivity)
  rw [scale_quotient] at hge
  exact hge

theorem value_lt_floor (x : Float64) : x.value < x.floor + 1 := by
  have hpos : 0 < 2 ^ (-x.exp).toNat := by positivity
  have hlt := Nat.lt_div_mul_add hpos (a := x.mant * 2 ^ x.exp.toNat)
  have hvalue : x.value = (x.mant * 2 ^ x.exp.toNat : ℕ) / (2 ^ (-x.exp).toNat : ℕ) := by
    rw [Float64.value, two_zpow]
    push_cast
    ring
  rw [hvalue, div_lt_iff₀ (by exact_mod_cast hpos), Float64.floor]
  have hnat : x.mant * 2 ^ x.exp.toNat <
      (x.mant * 2 ^ x.exp.toNat / 2 ^ (-x.exp).toNat + 1) * 2 ^ (-x.exp).toNat := by
    rw [Nat.add_mul, one_mul]
    exact hlt
  exact_mod_cast hnat

theorem floor_mono {x y : Float64} (h : x.value ≤ y.value) : x.floor ≤ y.floor := by
  have hlt : (x.floor : ℚ) < y.floor + 1 :=
    calc (x.floor : ℚ) ≤ x.value := floor_le_value x
      _ ≤ y.value := h
      _ < y.floor + 1 := value_lt_floor y
  exact Nat.lt_succ_iff.mp (by exact_mod_cast hlt)

/-! Milliseconds. -/

theorem millisOfMicros_natCast (micros : ℕ) :
    millisOfMicros micros = (((nearest micros 1000000).scale 1000).floor : ℤ) := by
  rw [millisOfMicros, Int.natAbs_natCast]
  rcases Nat.eq_zero_or_pos micros with rfl | hpos
  · rfl
  · rw [Int.sign_eq_one_of_pos (by exact_mod_cast hpos), one_mul]

/-- A longer time is not counted as fewer milliseconds. -/
theorem millisOfMicros_mono {a b : ℕ} (h : a ≤ b) : millisOfMicros a ≤ millisOfMicros b := by
  rw [millisOfMicros_natCast, millisOfMicros_natCast]
  have hquotient : (a : ℚ) / (1000000 : ℕ) ≤ b / (1000000 : ℕ) := by
    have hq : (a : ℚ) ≤ b := by exact_mod_cast h
    gcongr
  exact_mod_cast floor_mono (scale_mono (nearest_mono (by decide) (by decide) hquotient) 1000)

/-- A time that is counted as at most `m` milliseconds is less than `m + 2` long. -/
theorem lt_of_millisOfMicros_le {micros m : ℕ} (h : millisOfMicros micros ≤ m)
    (hsmall : micros < 2 ^ 59) : micros < 1000 * (m + 2) := by
  rw [millisOfMicros_natCast] at h
  have hfloor : (((nearest micros 1000000).scale 1000).floor : ℚ) ≤ m := by exact_mod_cast h
  have hsmallq : (micros : ℚ) < 2 ^ 59 := by exact_mod_cast hsmall
  have hmicros : (0 : ℚ) ≤ micros := Nat.cast_nonneg _
  have hlt : (micros : ℚ) / 1000 * (1 - 1 / 2 ^ 52) < m + 1 := by
    calc (micros : ℚ) / 1000 * (1 - 1 / 2 ^ 52)
        ≤ (micros / (1000000 : ℕ) * (1 - 1 / 2 ^ 53)) * (1000 : ℕ) * (1 - 1 / 2 ^ 53) := by
          push_cast
          nlinarith
      _ ≤ (nearest micros 1000000).value * (1000 : ℕ) * (1 - 1 / 2 ^ 53) := by
          have hnear := nearest_value_ge micros (d := 1000000) (by norm_num)
          have hfactor : (0 : ℚ) ≤ 1 - 1 / 2 ^ 53 := by norm_num
          gcongr
      _ ≤ ((nearest micros 1000000).scale 1000).value := scale_value_ge _ _
      _ < ((nearest micros 1000000).scale 1000).floor + 1 := value_lt_floor _
      _ ≤ m + 1 := by linarith
  have hfinal : (micros : ℚ) < 1000 * (m + 2) := by
    nlinarith
  exact_mod_cast hfinal

end BinaryFloats

/-! Time differences in seconds, as binary floating-point numbers, against a whole number of
seconds: rounding never lifts one above a bound that it does not exceed, and up to 2 ^ 33 seconds
it never drops one to a bound that it exceeds. -/
namespace BinaryFloats

open DecimalNumbers

/-- The comparison with a natural. -/
def Float64.exceeds (x : Float64) (k : ℕ) : Bool :=
  decide (k * 2 ^ (-x.exp).toNat < x.mant * 2 ^ x.exp.toNat)

/-- `delta.total_seconds() > k`, for a difference in microseconds. -/
def secondsExceed (micros : ℤ) (k : ℕ) : Bool :=
  decide (0 < micros) && (nearest micros.toNat 1000000).exceeds k

theorem exceeds_iff {x : Float64} {k : ℕ} : x.exceeds k = true ↔ (k : ℚ) < x.value := by
  have hpos : (0 : ℚ) < (2 ^ (-x.exp).toNat : ℕ) := by positivity
  have hvalue : x.value = ((x.mant * 2 ^ x.exp.toNat : ℕ) : ℚ) / (2 ^ (-x.exp).toNat : ℕ) := by
    rw [Float64.value, two_zpow]
    push_cast
    ring
  rw [Float64.exceeds, decide_eq_true_eq, hvalue, lt_div_iff₀ hpos]
  exact_mod_cast Iff.rfl

/-- A natural below `2 ^ 53` is its own nearest number. -/
theorem nearest_natCast {k : ℕ} (hk : k < 2 ^ 53) : (nearest k 1).value = k := by
  rcases Nat.eq_zero_or_pos k with rfl | hpos
  · simp [nearest, Float64.value]
  obtain ⟨e, hnearest, hlarge, -⟩ := nearest_scaled hpos one_pos
  have he : e ≤ 0 := by
    -- with a positive exponent the natural would have more than 53 places
    by_contra hlt
    have hpow : (2 : ℚ) ^ (-e) ≤ 1 / 2 := by
      calc (2 : ℚ) ^ (-e) ≤ (2 : ℚ) ^ (-1 : ℤ) :=
            zpow_le_zpow_right₀ (by norm_num) (by omega)
        _ = 1 / 2 := by norm_num
    have hkq : (k : ℚ) < 2 ^ 53 := by exact_mod_cast hk
    have hk0 : (0 : ℚ) < k := by exact_mod_cast hpos
    simp only [Nat.cast_one, div_one] at hlarge
    have hsmall : (k : ℚ) * 2 ^ (-e) ≤ k * (1 / 2) := mul_le_mul_of_nonneg_left hpow hk0.le
    linarith
  have hexp : e.toNat = 0 := Int.toNat_eq_zero.mpr he
  rw [hnearest, hexp, pow_zero, Nat.mul_one, roundHalfEven_one, Float64.value]
  have hround : (2 : ℚ) ^ e = 1 / 2 ^ (-e).toNat := by
    rw [two_zpow, hexp, pow_zero]
  rw [hround]
  push_cast
  field_simp

/-- A difference that is counted as more than `k` seconds is longer. -/
theorem lt_of_secondsExceed {micros : ℤ} {k : ℕ} (h : secondsExceed micros k = true)
    (hsmall : micros < 2 ^ 59) : (k : ℤ) * 1000000 < micros := by
  rw [secondsExceed, Bool.and_eq_true, decide_eq_true_eq, exceeds_iff] at h
  obtain ⟨hpos, hlt⟩ := h
  obtain ⟨n, rfl⟩ := Int.eq_ofNat_of_zero_le hpos.le
  rw [Int.toNat_natCast] at hlt
  by_contra hle
  have hn : n ≤ k * 1000000 := by exact_mod_cast not_lt.mp hle
  have hnq : (n : ℚ) ≤ k * 1000000 := by exact_mod_cast hn
  rcases Nat.lt_or_ge k (2 ^ 53) with hk | hk
  · have hquotient : (n : ℚ) / (1000000 : ℕ) ≤ k / (1 : ℕ) := by
      push_cast
      rw [div_one, div_le_iff₀ (by norm_num)]
      exact hnq
    have hmono := nearest_mono (by norm_num) one_pos hquotient
    rw [nearest_natCast hk] at hmono
    exact absurd hmono (not_le.mpr hlt)
  · have hvalue := nearest_value_le n (d := 1000000) (by norm_num)
    have hn59 : (n : ℚ) < 2 ^ 59 := by exact_mod_cast hsmall
    have hkq : (2 ^ 53 : ℚ) ≤ k := by exact_mod_cast hk
    push_cast at hvalue
    nlinarith

/-- Up to 2 ^ 33 seconds, a longer difference is counted as longer. -/
theorem secondsExceed_of_lt {micros : ℤ} {k : ℕ} (h : (k : ℤ) * 1000000 < micros)
    (hsmall : micros ≤ 2 ^ 33 * 1000000) : secondsExceed micros k = true := by
  have hk0 : (0 : ℤ) ≤ k := Int.natCast_nonneg k
  have hpos : 0 < micros := by omega
  rw [secondsExceed, Bool.and_eq_true, decide_eq_true_eq, exceeds_iff]
  refine ⟨hpos, ?_⟩
  obtain ⟨n, rfl⟩ := Int.eq_ofNat_of_zero_le hpos.le
  rw [Int.toNat_natCast]
  have hn : k * 1000000 + 1 ≤ n := by exact_mod_cast h
  have hnq : (k : ℚ) * 1000000 + 1 ≤ n := by exact_mod_cast hn
  have hnsmall : (n : ℚ) ≤ 2 ^ 33 * 1000000 := by exact_mod_cast hsmall
  have hvalue := nearest_value_ge n (d := 1000000) (by norm_num)
  push_cast at hvalue
  nlinarith

end BinaryFloats
