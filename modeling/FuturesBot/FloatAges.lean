import FuturesBot.BinaryFloats
import FuturesBot.DateTimes
import Mathlib.Data.Nat.Cast.Order.Field
import Mathlib.Tactic.FieldSimp
import Mathlib.Tactic.Positivity

/-! How far rounding lifts a time difference in milliseconds that is computed in binary
floating-point numbers: never to the next whole millisecond. -/
namespace BinaryFloats

open DecimalNumbers DateTimes

/-- The number denoted. -/
def Float64.value (x : Float64) : ℚ := x.mant * (2 : ℚ) ^ x.exp

/-- A power of two as a quotient of powers with natural exponents. -/
theorem two_zpow (e : ℤ) : (2 : ℚ) ^ e = 2 ^ e.toNat / 2 ^ (-e).toNat := by
  rcases Int.le_total 0 e with he | he
  · obtain ⟨n, rfl⟩ := Int.eq_ofNat_of_zero_le he
    simp
  · obtain ⟨n, hn⟩ := Int.eq_ofNat_of_zero_le (Int.neg_nonneg_of_nonpos he)
    obtain rfl : e = -n := by omega
    simp

theorem roundHalfEven_le (n : ℕ) {d : ℕ} (hd : 0 < d) :
    (roundHalfEven n d : ℚ) ≤ n / d + 1 / 2 := by
  have hn : d * (n / d) + n % d = n := Nat.div_add_mod n d
  have hnat : 2 * d * roundHalfEven n d ≤ 2 * n + d := by
    -- a quotient is rounded up only from half of the divisor on
    have hcases : roundHalfEven n d = n / d ∨ roundHalfEven n d = n / d + 1 ∧ d ≤ 2 * (n % d) := by
      rw [roundHalfEven]
      split_ifs with h1 h2
      · exact .inl rfl
      · exact .inr ⟨rfl, h2.le⟩
      · rcases Nat.mod_two_eq_zero_or_one (n / d) with heven | hodd
        · exact .inl (by omega)
        · exact .inr ⟨by omega, by omega⟩
    have htwice : 2 * d * (n / d) = 2 * (d * (n / d)) := Nat.mul_assoc 2 d (n / d)
    rcases hcases with h | ⟨h, hhalf⟩
    · rw [h]
      omega
    · rw [h, Nat.mul_add_one]
      omega
  have hpos : (0 : ℚ) < d := by exact_mod_cast hd
  have hrat : (2 * d * roundHalfEven n d : ℚ) ≤ 2 * n + d := by exact_mod_cast hnat
  rw [div_add_div _ _ hpos.ne' two_ne_zero, le_div_iff₀ (by positivity)]
  linarith

/-- The quotient of the scaled numbers. -/
theorem scaled_div (n d : ℕ) (e : ℤ) :
    ((n * 2 ^ (-e).toNat : ℕ) : ℚ) / ((d * 2 ^ e.toNat : ℕ) : ℚ) = n / d * (2 : ℚ) ^ (-e) := by
  rw [two_zpow (-e), neg_neg]
  push_cast
  rw [mul_div_mul_comm]

/-- The nearest number is the quotient rounded at an exponent where it has 53 places. -/
theorem nearest_scaled {n d : ℕ} (hn : 0 < n) (hd : 0 < d) :
    ∃ e : ℤ, nearest n d = ⟨roundHalfEven (n * 2 ^ (-e).toNat) (d * 2 ^ e.toNat), e⟩ ∧
      2 ^ 52 ≤ (n / d * (2 : ℚ) ^ (-e) : ℚ) ∧ (n / d * (2 : ℚ) ^ (-e) : ℚ) < 2 ^ 53 := by
  have hdq : (0 : ℚ) < d := by exact_mod_cast hd
  have hnlog : (2 : ℚ) ^ (n.log2 : ℤ) ≤ n := by
    rw [zpow_natCast]
    exact_mod_cast Nat.log2_self_le hn.ne'
  have hnlog' : (n : ℚ) < (2 : ℚ) ^ ((n.log2 : ℤ) + 1) := by
    rw [show ((n.log2 : ℤ) + 1) = ((n.log2 + 1 : ℕ) : ℤ) by push_cast; ring, zpow_natCast]
    exact_mod_cast Nat.lt_log2_self
  have hdlog : (d : ℚ) ≤ (2 : ℚ) ^ ((d.log2 : ℤ) + 1) := by
    rw [show ((d.log2 : ℤ) + 1) = ((d.log2 + 1 : ℕ) : ℤ) by push_cast; ring, zpow_natCast]
    exact_mod_cast Nat.lt_log2_self.le
  have hdlog' : (2 : ℚ) ^ (d.log2 : ℤ) ≤ d := by
    rw [zpow_natCast]
    exact_mod_cast Nat.log2_self_le hd.ne'
  rw [nearest, if_neg hn.ne']
  dsimp only
  split_ifs with hlarge
  · -- the quotient has 54 places, and one less after the exponent is raised
    have hhalf : (2 : ℚ) ^ (-((n.log2 : ℤ) - d.log2 - 53 + 1)) =
        (2 : ℚ) ^ (-((n.log2 : ℤ) - d.log2 - 53)) / 2 := by
      rw [neg_add, zpow_add₀ two_ne_zero, zpow_neg_one]
      rfl
    have hfloor : (2 ^ 53 : ℚ) ≤ n / d * (2 : ℚ) ^ (-((n.log2 : ℤ) - d.log2 - 53)) := by
      rw [← scaled_div]
      refine le_trans ?_ Nat.cast_div_le
      exact_mod_cast hlarge
    refine ⟨_, rfl, ?_, ?_⟩
    · rw [hhalf]
      linarith
    · calc (n / d * (2 : ℚ) ^ (-((n.log2 : ℤ) - d.log2 - 53 + 1)) : ℚ)
          < (2 : ℚ) ^ ((n.log2 : ℤ) + 1) / (2 : ℚ) ^ (d.log2 : ℤ) *
              (2 : ℚ) ^ (-((n.log2 : ℤ) - d.log2 - 53 + 1)) := by
            have hpow : (0 : ℚ) < (2 : ℚ) ^ (d.log2 : ℤ) := zpow_pos (by norm_num) _
            have hscale : (0 : ℚ) < (2 : ℚ) ^ (-((n.log2 : ℤ) - d.log2 - 53 + 1)) :=
              zpow_pos (by norm_num) _
            refine mul_lt_mul_of_pos_right ?_ hscale
            exact div_lt_div₀ hnlog' hdlog' (zpow_pos (by norm_num) _).le hpow
        _ = 2 ^ 53 := by
            rw [← zpow_sub₀ two_ne_zero, ← zpow_add₀ two_ne_zero]
            rw [show (n.log2 : ℤ) + 1 - d.log2 + -((n.log2 : ℤ) - d.log2 - 53 + 1) = 53 by ring]
            norm_num
  · refine ⟨_, rfl, ?_, ?_⟩
    · calc (2 ^ 52 : ℚ)
          = (2 : ℚ) ^ (n.log2 : ℤ) / (2 : ℚ) ^ ((d.log2 : ℤ) + 1) *
              (2 : ℚ) ^ (-((n.log2 : ℤ) - d.log2 - 53)) := by
            rw [← zpow_sub₀ two_ne_zero, ← zpow_add₀ two_ne_zero]
            rw [show (n.log2 : ℤ) - (d.log2 + 1) + -((n.log2 : ℤ) - d.log2 - 53) = 52 by ring]
            norm_num
        _ ≤ n / d * (2 : ℚ) ^ (-((n.log2 : ℤ) - d.log2 - 53)) := by
            have hpow : (0 : ℚ) < (2 : ℚ) ^ (n.log2 : ℤ) := zpow_pos (by norm_num) _
            gcongr
    · have hpos : 0 < d * 2 ^ ((n.log2 : ℤ) - d.log2 - 53).toNat := by positivity
      have hsmall := (Nat.div_lt_iff_lt_mul hpos).mp (not_le.mp hlarge)
      rw [← scaled_div, div_lt_iff₀ (by exact_mod_cast hpos)]
      exact_mod_cast hsmall

/-- The nearest number lies above a quotient by at most half a unit in the last of 53 places. -/
theorem nearest_value_le (n : ℕ) {d : ℕ} (hd : 0 < d) :
    (nearest n d).value ≤ n / d * (1 + 1 / 2 ^ 53) := by
  rcases Nat.eq_zero_or_pos n with rfl | hn
  · simp [nearest, Float64.value]
  obtain ⟨e, hnearest, hlarge, _⟩ := nearest_scaled hn hd
  rw [hnearest]
  have hle := roundHalfEven_le (n * 2 ^ (-e).toNat) (d := d * 2 ^ e.toNat) (by positivity)
  rw [scaled_div] at hle
  have hpow : (0 : ℚ) < 2 ^ e := zpow_pos (by norm_num) e
  calc (roundHalfEven (n * 2 ^ (-e).toNat) (d * 2 ^ e.toNat) : ℚ) * (2 : ℚ) ^ e
      ≤ (n / d * (2 : ℚ) ^ (-e) * (1 + 1 / 2 ^ 53)) * (2 : ℚ) ^ e := by
        refine mul_le_mul_of_nonneg_right ?_ hpow.le
        have hhalf : (1 / 2 : ℚ) ≤ n / d * (2 : ℚ) ^ (-e) * (1 / 2 ^ 53) := by
          calc (1 / 2 : ℚ) = 2 ^ 52 * (1 / 2 ^ 53) := by norm_num
            _ ≤ _ := mul_le_mul_of_nonneg_right hlarge (by positivity)
        linarith
    _ = n / d * (1 + 1 / 2 ^ 53) * ((2 : ℚ) ^ (-e) * 2 ^ e) := by ring
    _ = n / d * (1 + 1 / 2 ^ 53) := by
        rw [← zpow_add₀ two_ne_zero, neg_add_cancel, zpow_zero, mul_one]

theorem floor_le_value (x : Float64) : (x.floor : ℚ) ≤ x.value := by
  rw [Float64.floor, Float64.value, two_zpow, ← mul_div_assoc]
  refine le_trans Nat.cast_div_le ?_
  push_cast
  rfl

theorem scale_value_le (x : Float64) (k : ℕ) :
    (x.scale k).value ≤ x.value * k * (1 + 1 / 2 ^ 53) := by
  have hle := nearest_value_le (x.mant * k * 2 ^ x.exp.toNat) (d := 2 ^ (-x.exp).toNat)
    (by positivity)
  rw [← Float64.scale] at hle
  refine hle.trans_eq ?_
  rw [Float64.value, two_zpow]
  push_cast
  ring

/-- A difference of at most `m` milliseconds is counted as at most `m`. -/
theorem millisOfMicros_le {micros m : ℕ} (h : micros ≤ 1000 * m) (hsmall : micros < 2 ^ 59) :
    millisOfMicros micros ≤ m := by
  have hfloor : ((nearest micros 1000000).scale 1000).floor ≤ m := by
    have hq : (micros : ℚ) ≤ 1000 * m := by exact_mod_cast h
    have hsmallq : (micros : ℚ) < 2 ^ 59 := by exact_mod_cast hsmall
    have hle : (((nearest micros 1000000).scale 1000).floor : ℚ) < m + 1 := by
      calc (((nearest micros 1000000).scale 1000).floor : ℚ)
          ≤ ((nearest micros 1000000).scale 1000).value := floor_le_value _
        _ ≤ (nearest micros 1000000).value * (1000 : ℕ) * (1 + 1 / 2 ^ 53) := scale_value_le _ _
        _ ≤ (micros / (1000000 : ℕ) * (1 + 1 / 2 ^ 53)) * (1000 : ℕ) * (1 + 1 / 2 ^ 53) := by
          have hnear := nearest_value_le micros (d := 1000000) (by norm_num)
          gcongr
        _ = micros / 1000 * (1 + 1 / 2 ^ 52 + 1 / 2 ^ 106) := by
          push_cast
          ring
        _ < m + 1 := by
          nlinarith
    exact Nat.lt_succ_iff.mp (by exact_mod_cast hle)
  rw [millisOfMicros, Int.natAbs_natCast]
  rcases Nat.eq_zero_or_pos micros with rfl | hpos
  · simp
  · rw [Int.sign_eq_one_of_pos (by exact_mod_cast hpos), one_mul]
    exact_mod_cast hfloor

end BinaryFloats

namespace DateTimes.DateTime

theorem daysBeforeMonth_le (year month : ℕ) : daysBeforeMonth year month ≤ 31 * month := by
  induction month with
  | zero => exact Nat.zero_le _
  | succ month ih =>
    cases month with
    | zero => exact Nat.zero_le _
    | succ month =>
      have hdays := daysInMonth_le year (month + 1)
      change daysBeforeMonth year (month + 1) + daysInMonth year (month + 1) ≤ _
      omega

/-- Every time lies less than 2 ^ 59 microseconds after the first. -/
theorem micros_lt (t : DateTime) : t.micros < 2 ^ 59 := by
  obtain ⟨hyear, hyear', hmonth, hmonth', hday, hday'⟩ := t.date_ok
  obtain ⟨hhour, hminute, hsecond, hmicro⟩ := t.time_ok
  have hbefore := daysBeforeMonth_le t.year t.month
  have hdays := daysInMonth_le t.year t.month
  have hyears : daysBeforeYear t.year ≤ 4000000 := by
    rw [daysBeforeYear]
    omega
  rw [micros]
  omega

end DateTimes.DateTime
