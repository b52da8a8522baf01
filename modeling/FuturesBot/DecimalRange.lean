import FuturesBot.DecimalRounding
import Mathlib.Algebra.Order.Floor.Ring
import Mathlib.Data.Rat.Floor

/-! Where rounding to the context fails and where it gives zero: bounds on the number itself. -/
namespace DecimalNumbers

theorem numDigits_lt_iff {n k : ℕ} (hk : 0 < k) : k < numDigits n ↔ 10 ^ k ≤ n := by
  rw [← not_le, numDigits_le_iff hk, not_lt]

theorem pow_le_of_numDigits {n k : ℕ} (hn : n ≠ 0) (h : numDigits n = k + 1) : 10 ^ k ≤ n := by
  rcases Nat.eq_zero_or_pos k with rfl | hk
  · exact Nat.one_le_iff_ne_zero.mpr hn
  · exact (numDigits_lt_iff hk).mp (by omega)

theorem numDigits_pos (n : ℕ) : 0 < numDigits n :=
  List.length_pos_iff.mpr Nat.toDigits_ne_nil

/-- A tie goes to zero. -/
theorem roundHalfEven_eq_zero {n d : ℕ} (hd : 0 < d) : roundHalfEven n d = 0 ↔ 2 * n ≤ d := by
  have hsplit := Nat.div_add_mod n d
  have hmod := Nat.mod_lt n hd
  by_cases hlt : n < d
  · rw [roundHalfEven, Nat.div_eq_of_lt hlt, Nat.mod_eq_of_lt hlt]
    split
    · omega
    · split <;> omega
  · have hdiv : 1 ≤ n / d := (Nat.one_le_div_iff hd).mpr (not_lt.mp hlt)
    constructor
    · intro h
      rw [roundHalfEven] at h
      split at h
      · omega
      · split at h <;> omega
    · intro h
      omega

/-- A number rounds to an even bound from half a unit below it on. -/
theorem le_roundHalfEven_even {n d m : ℕ} (hd : 0 < d) :
    2 * m ≤ roundHalfEven n d ↔ (4 * m) * d ≤ 2 * n + d := by
  have hsplit := Nat.div_add_mod n d
  have hmod := Nat.mod_lt n hd
  generalize hq : n / d = q at *
  generalize hr : n % d = r at *
  have hround : roundHalfEven n d = if 2 * r < d then q else if d < 2 * r then q + 1 else q + q % 2 := by
    rw [roundHalfEven, hq, hr]
  rw [hround]
  have hn : 2 * n + d = (2 * q + 1) * d + 2 * r := by
    rw [← hsplit]
    ring
  rw [hn]
  split
  · -- below the half: only the whole quotient counts
    constructor
    · intro h
      calc 4 * m * d ≤ 2 * q * d := Nat.mul_le_mul_right d (by omega)
        _ ≤ (2 * q + 1) * d + 2 * r := by nlinarith
    · intro h
      by_contra hlt
      have : (2 * q + 2) * d ≤ 4 * m * d := Nat.mul_le_mul_right d (by omega)
      nlinarith
  · split
    · constructor
      · intro h
        calc 4 * m * d ≤ (2 * q + 2) * d := Nat.mul_le_mul_right d (by omega)
          _ ≤ (2 * q + 1) * d + 2 * r := by nlinarith
      · intro h
        by_contra hlt
        have : (2 * q + 4) * d ≤ 4 * m * d := Nat.mul_le_mul_right d (by omega)
        nlinarith
    · have htie : 2 * r = d := by omega
      constructor
      · intro h
        calc 4 * m * d ≤ (2 * q + 2) * d := Nat.mul_le_mul_right d (by omega)
          _ ≤ (2 * q + 1) * d + 2 * r := by nlinarith
      · intro h
        by_contra hlt
        have : (2 * q + 4) * d ≤ 4 * m * d := Nat.mul_le_mul_right d (by omega)
        nlinarith

namespace Decimal

theorem zpow_split {a b : ℤ} (h : b ≤ a) :
    (10 : ℚ) ^ a = ((10 ^ (a - b).toNat : ℕ) : ℚ) * (10 : ℚ) ^ b := by
  push_cast
  rw [← zpow_natCast, ← zpow_add₀ (by norm_num), Int.toNat_of_nonneg (by omega), sub_add_cancel]

theorem zpow_le {a b : ℤ} (h : a ≤ b) : (10 : ℚ) ^ a ≤ (10 : ℚ) ^ b :=
  zpow_le_zpow_right₀ (by norm_num) h

theorem abs_value (d : Decimal) : |d.value| = d.coeff * (10 : ℚ) ^ d.exp := by
  have hpos : (0 : ℚ) < (10 : ℚ) ^ d.exp := zpow_pos (by norm_num) _
  rw [value, abs_mul, abs_mul, abs_of_pos hpos, Nat.abs_cast]
  cases d.neg <;> simp

/-- The number is so large that its rounding has no room in the context. -/
def Overflows (d : Decimal) : Prop := (10 ^ prec - 1 / 2) * (10 : ℚ) ^ topExp ≤ |d.value|

/-- The number is so small that its rounding is zero. -/
def Vanishes (d : Decimal) : Prop := |d.value| ≤ (10 : ℚ) ^ tinyExp / 2

theorem not_overflows_of_le {d : Decimal} {n : ℕ} (h : n + 1 ≤ 10 ^ prec)
    (hvalue : |d.value| ≤ n * (10 : ℚ) ^ topExp) : ¬ Overflows d := by
  have hpos : (0 : ℚ) < (10 : ℚ) ^ topExp := zpow_pos (by norm_num) _
  have hn : (n : ℚ) + 1 ≤ 10 ^ prec := by exact_mod_cast h
  rw [Overflows, not_le]
  apply hvalue.trans_lt
  apply mul_lt_mul_of_pos_right _ hpos
  linarith

theorem not_vanishes_of_le {d : Decimal} (h : (10 : ℚ) ^ tinyExp ≤ |d.value|) : ¬ Vanishes d := by
  have hpos : (0 : ℚ) < (10 : ℚ) ^ tinyExp := zpow_pos (by norm_num) _
  rw [Vanishes, not_le]
  linarith

/-- The coefficient rounded to a larger exponent: whether it is zero, and whether it carries
through all digits of the context. -/
theorem rounded_coeff (d : Decimal) {least : ℤ} (h : d.exp ≤ least) :
    (roundHalfEven d.coeff (10 ^ (least - d.exp).toNat) = 0 ↔
      |d.value| ≤ (10 : ℚ) ^ least / 2) ∧
    (prec < numDigits (roundHalfEven d.coeff (10 ^ (least - d.exp).toNat)) ↔
      (10 ^ prec - 1 / 2) * (10 : ℚ) ^ least ≤ |d.value|) := by
  have hpos : (0 : ℚ) < (10 : ℚ) ^ d.exp := zpow_pos (by norm_num) _
  have hunit : 0 < 10 ^ (least - d.exp).toNat := by positivity
  rw [abs_value, zpow_split h]
  generalize 10 ^ (least - d.exp).toNat = unit at hunit
  constructor
  · rw [roundHalfEven_eq_zero hunit, mul_div_right_comm, mul_le_mul_iff_left₀ hpos,
      le_div_iff₀ (by norm_num)]
    constructor
    · intro hle
      have hq : (2 * d.coeff : ℚ) ≤ unit := by exact_mod_cast hle
      linarith
    · intro hle
      have hq : (2 * d.coeff : ℚ) ≤ unit := by linarith
      exact_mod_cast hq
  · have heven : 10 ^ prec = 2 * (5 * 10 ^ 27) := by norm_num [prec]
    have hcast : (10 : ℚ) ^ prec = 2 * (5 * 10 ^ 27) := by norm_num [prec]
    rw [numDigits_lt_iff (by decide), heven, le_roundHalfEven_even hunit,
      ← mul_assoc ((10 : ℚ) ^ prec - 1 / 2), mul_le_mul_iff_left₀ hpos, hcast]
    constructor
    · intro hle
      have hq : (4 * (5 * 10 ^ 27) * unit : ℚ) ≤ 2 * d.coeff + unit := by exact_mod_cast hle
      linarith
    · intro hle
      have hq : (4 * (5 * 10 ^ 27) * unit : ℚ) ≤ 2 * d.coeff + unit := by linarith
      exact_mod_cast hq

/-- Rounding fails for the numbers that have no room, and gives zero for those that vanish. -/
theorem fix_cases (d : Decimal) :
    (Overflows d ∧ fix d = .error .overflow) ∨
      (¬ Overflows d ∧ ∃ r, fix d = .ok r ∧ (r.coeff = 0 ↔ Vanishes d)) := by
  have htop : topExp = 999972 := rfl
  have htiny : tinyExp = -1000026 := rfl
  have hprec : prec = 28 := rfl
  by_cases hzero : d.coeff = 0
  · have hvalue : |d.value| = 0 := by rw [abs_value, hzero, Nat.cast_zero, zero_mul]
    refine .inr ⟨not_overflows_of_le (n := 0) (by norm_num [prec]) (by simp [hvalue]),
      ⟨d.neg, 0, max tinyExp (min d.exp maxExp)⟩, ?_, ?_⟩
    · rw [fix, if_pos hzero]
    · refine iff_of_true rfl ?_
      rw [Vanishes, hvalue]
      positivity
  have hdigits := numDigits_pos d.coeff
  -- the coefficient between the powers of ten that its number of digits tells
  have hlower : (10 : ℚ) ^ ((numDigits d.coeff : ℤ) - 1 + d.exp) ≤ |d.value| := by
    have hle := pow_le_of_numDigits hzero (k := numDigits d.coeff - 1) (by omega)
    have hle : ((10 ^ (numDigits d.coeff - 1) : ℕ) : ℚ) ≤ d.coeff := by exact_mod_cast hle
    rw [abs_value, zpow_split (b := d.exp) (by omega)]
    apply mul_le_mul_of_nonneg_right _ (by positivity)
    have hexp : ((numDigits d.coeff : ℤ) - 1 + d.exp - d.exp).toNat = numDigits d.coeff - 1 := by
      omega
    rw [hexp]
    exact hle
  have hcoeff : d.coeff < 10 ^ numDigits d.coeff := (numDigits_le_iff hdigits).mp le_rfl
  simp only [fix, if_neg hzero]
  generalize hD : numDigits d.coeff = D at *
  split
  · rename_i hover
    refine .inl ⟨?_, rfl⟩
    have hpow : (10 : ℚ) ^ prec * (10 : ℚ) ^ topExp = (10 : ℚ) ^ ((prec : ℤ) + topExp) := by
      rw [zpow_add₀ (by norm_num), zpow_natCast]
    have hpos : (0 : ℚ) < (10 : ℚ) ^ topExp := zpow_pos (by norm_num) _
    calc (10 ^ prec - 1 / 2) * (10 : ℚ) ^ topExp ≤ (10 : ℚ) ^ prec * (10 : ℚ) ^ topExp := by
          apply mul_le_mul_of_nonneg_right _ hpos.le
          linarith
      _ = (10 : ℚ) ^ ((prec : ℤ) + topExp) := hpow
      _ ≤ (10 : ℚ) ^ ((D : ℤ) - 1 + d.exp) := zpow_le (by omega)
      _ ≤ |d.value| := hlower
  rename_i hroom
  have hupper : |d.value| ≤ (10 : ℚ) ^ ((D : ℤ) + d.exp) := by
    rw [abs_value, zpow_add₀ (by norm_num), zpow_natCast]
    apply mul_le_mul_of_nonneg_right _ (by positivity)
    exact_mod_cast hcoeff.le
  generalize hleast : max ((D : ℤ) + d.exp - prec) tinyExp = least
  have hsmall : least < topExp → ¬ Overflows d := by
    intro hlt
    apply not_overflows_of_le (n := 10 ^ 27) (by norm_num [prec])
    have hpow : ((10 ^ 27 : ℕ) : ℚ) * (10 : ℚ) ^ topExp = (10 : ℚ) ^ ((27 : ℤ) + topExp) := by
      rw [zpow_add₀ (by norm_num)]
      norm_num
    rw [hpow]
    exact hupper.trans (zpow_le (by omega))
  split
  · rename_i hround
    obtain ⟨hzero_iff, hcarry_iff⟩ := rounded_coeff d hround.le
    have hvanish : roundHalfEven d.coeff (10 ^ (least - d.exp).toNat) = 0 ↔ Vanishes d := by
      rcases eq_or_ne least tinyExp with hat | habove
      · rw [hzero_iff, hat]
        exact Iff.rfl
      · -- the first digit stands far above the last place
        have hfirst : (10 : ℚ) ^ least ≤ |d.value| := (zpow_le (by omega)).trans hlower
        have hpos : (0 : ℚ) < (10 : ℚ) ^ least := zpow_pos (by norm_num) _
        rw [hzero_iff]
        refine iff_of_false (by linarith) (not_vanishes_of_le ?_)
        exact (zpow_le (by omega)).trans hfirst
    split
    · rename_i hcarry
      split
      · rename_i hfull
        obtain rfl : least = topExp := by omega
        exact .inl ⟨hcarry_iff.mp hcarry, rfl⟩
      · rename_i hfits
        have hlarge := (numDigits_lt_iff (by decide)).mp hcarry
        refine .inr ⟨hsmall (by omega), _, rfl, ?_⟩
        rw [← hvanish]
        have hten : 10 ^ prec = 10 * 10 ^ 27 := by norm_num [prec]
        dsimp only
        omega
    · rename_i hcarry
      refine .inr ⟨?_, _, rfl, hvanish⟩
      rcases eq_or_ne least topExp with rfl | hbelow
      · rwa [hcarry_iff] at hcarry
      · exact hsmall (by omega)
  · rename_i hexact
    refine .inr ⟨?_, d, rfl, iff_of_false hzero (not_vanishes_of_le ?_)⟩
    · rcases lt_or_ge d.exp topExp with hlt | hge
      · exact hsmall (by omega)
      · -- in units of the top exponent there are at most as many digits as the context has
        have hdigits : d.coeff * 10 ^ (d.exp - topExp).toNat < 10 ^ prec := by
          calc d.coeff * 10 ^ (d.exp - topExp).toNat < 10 ^ D * 10 ^ (d.exp - topExp).toNat := by
                apply Nat.mul_lt_mul_of_pos_right _ (by positivity)
                exact hcoeff
            _ = 10 ^ (D + (d.exp - topExp).toNat) := (pow_add _ _ _).symm
            _ ≤ 10 ^ prec := Nat.pow_le_pow_right (by norm_num) (by omega)
        apply not_overflows_of_le hdigits
        rw [abs_value, zpow_split hge]
        push_cast
        rw [mul_assoc]
    · have hone : (1 : ℚ) ≤ d.coeff := by exact_mod_cast Nat.one_le_iff_ne_zero.mpr hzero
      have hpos : (0 : ℚ) < (10 : ℚ) ^ d.exp := zpow_pos (by norm_num) _
      rw [abs_value]
      calc (10 : ℚ) ^ tinyExp ≤ 1 * (10 : ℚ) ^ d.exp := by
            rw [one_mul]
            exact zpow_le (by omega)
        _ ≤ d.coeff * (10 : ℚ) ^ d.exp := mul_le_mul_of_nonneg_right hone hpos.le

/-! Remainders and products. -/

/-- What is left of a number after the whole multiples of another. -/
def exactRem (a b : Decimal) : ℚ := a.value - ⌊a.value / b.value⌋ * b.value

/-- The remainder is refused: its quotient is too long, or it has no room itself. -/
def RemFails (a b : Decimal) : Prop :=
  10 ^ prec * b.value ≤ a.value ∨ (10 ^ prec - 1 / 2) * (10 : ℚ) ^ topExp ≤ exactRem a b

/-- The coefficient of a positive number in units of a smaller exponent. -/
theorem scaled_natAbs {d : Decimal} (hd : d.positive = true) {e : ℤ} (h : e ≤ d.exp) :
    ((d.scaled e).natAbs : ℚ) * (10 : ℚ) ^ e = d.value := by
  have hpos : (0 : ℚ) < (10 : ℚ) ^ e := zpow_pos (by norm_num) _
  have hvalue := (positive_iff d).mp hd
  have hscaled := d.scaled_value h
  have hnonneg : (0 : ℚ) ≤ d.scaled e := by
    by_contra hneg
    have := mul_neg_of_neg_of_pos (not_le.mp hneg) hpos
    linarith
  have hcast : ((d.scaled e).natAbs : ℚ) = d.scaled e := by
    rw [← Int.cast_natCast, Int.natAbs_of_nonneg (by exact_mod_cast hnonneg)]
  rw [hcast, hscaled]

/-- The remainder of two positive numbers, before it is rounded. -/
theorem rem_spec {a b : Decimal} (ha : a.positive = true) (hb : b.positive = true) :
    ∃ d : Decimal, |d.value| = exactRem a b ∧ rem a b =
      if 10 ^ prec * b.value ≤ a.value then .error .invalidOperation else fix d := by
  have hpos : (0 : ℚ) < (10 : ℚ) ^ min a.exp b.exp := zpow_pos (by norm_num) _
  have hn := scaled_natAbs ha (min_le_left a.exp b.exp)
  have hd := scaled_natAbs hb (min_le_right a.exp b.exp)
  have hbvalue := (positive_iff b).mp hb
  rw [rem]
  generalize min a.exp b.exp = e at *
  generalize (a.scaled e).natAbs = n at *
  generalize (b.scaled e).natAbs = d at *
  have hd0 : d ≠ 0 := by
    rintro rfl
    rw [Nat.cast_zero, zero_mul] at hd
    exact hbvalue.ne hd
  have hlong : 10 ^ prec * b.value ≤ a.value ↔ 10 ^ prec ≤ n / d := by
    rw [← hn, ← hd, ← mul_assoc, mul_le_mul_iff_left₀ hpos,
      Nat.le_div_iff_mul_le (Nat.pos_of_ne_zero hd0)]
    exact_mod_cast Iff.rfl
  have hrem : exactRem a b = (n % d : ℕ) * (10 : ℚ) ^ e := by
    have hfloor : ⌊a.value / b.value⌋ = ((n / d : ℕ) : ℤ) := by
      rw [← hn, ← hd, mul_div_mul_right _ _ hpos.ne', Rat.floor_natCast_div_natCast,
        Int.natCast_ediv]
    have hsplit : (n : ℚ) = d * (n / d : ℕ) + (n % d : ℕ) := by
      exact_mod_cast (Nat.div_add_mod n d).symm
    rw [exactRem, hfloor, ← hn, ← hd, Int.cast_natCast]
    nth_rewrite 1 [hsplit]
    ring
  refine ⟨⟨a.neg, n % d, e⟩, by rw [abs_value, hrem], ?_⟩
  simp only [if_neg hd0, hlong]

theorem rem_cases {a b : Decimal} (ha : a.positive = true) (hb : b.positive = true) :
    (RemFails a b ∧ ∃ e, rem a b = .error e) ∨
      (¬ RemFails a b ∧ ∃ r, rem a b = .ok r ∧
        (r.coeff = 0 ↔ exactRem a b ≤ (10 : ℚ) ^ tinyExp / 2)) := by
  obtain ⟨d, hvalue, hrem⟩ := rem_spec ha hb
  rw [RemFails, hrem]
  split
  · rename_i hlarge
    exact .inl ⟨.inl hlarge, _, rfl⟩
  · rename_i hshort
    have hfix := fix_cases d
    rw [Overflows, Vanishes, hvalue] at hfix
    rcases hfix with ⟨hover, hfix⟩ | ⟨hfits, r, hfix, hr⟩
    · exact .inl ⟨.inr hover, _, hfix⟩
    · exact .inr ⟨not_or.mpr ⟨hshort, hfits⟩, r, hfix, hr⟩

/-- The product before it is rounded. -/
def product (a b : Decimal) : Decimal := ⟨a.neg != b.neg, a.coeff * b.coeff, a.exp + b.exp⟩

theorem product_value (a b : Decimal) : (product a b).value = a.value * b.value := by
  rw [product, value, value, value, zpow_add₀ (by norm_num)]
  cases a.neg <;> cases b.neg <;> push_cast <;> simp <;> ring

theorem mul_eq_fix (a b : Decimal) : mul a b = fix (product a b) := rfl

end Decimal

end DecimalNumbers
