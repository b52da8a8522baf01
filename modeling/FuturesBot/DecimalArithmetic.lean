import FuturesBot.DecimalNumbers

/-! Arithmetic of decimals in the default context: 28 digits, exponents up to 999999 either way,
ties rounded to the even digit. A number too large for the context is an error, one too small is
rounded to zero. -/
namespace DecimalNumbers

open JsonText

inductive DecimalError where
  | overflow
  | invalidOperation
  deriving DecidableEq, Repr

/-- The quotient of two naturals rounded to the nearest, a tie to the even one. -/
def roundHalfEven (n d : ℕ) : ℕ :=
  if 2 * (n % d) < d then n / d
  else if d < 2 * (n % d) then n / d + 1
  else n / d + n / d % 2

def numDigits (n : ℕ) : ℕ := (natText n).length

namespace Decimal

/-- The number in units of `10 ^ e`, for `e` at most its exponent. -/
def scaled (d : Decimal) (e : ℤ) : ℤ :=
  (if d.neg then -1 else 1) * (d.coeff * 10 ^ (d.exp - e).toNat : ℕ)

/-- The order of the numbers denoted, whatever their exponents. -/
def lt (a b : Decimal) : Bool := a.scaled (min a.exp b.exp) < b.scaled (min a.exp b.exp)

/-- Whether two decimals denote the same number. -/
def same (a b : Decimal) : Bool := a.scaled (min a.exp b.exp) = b.scaled (min a.exp b.exp)

def prec : ℕ := 28

def maxExp : ℤ := 999999

def minExp : ℤ := -999999

/-- The exponent below which a nonzero number has no room for its digits. -/
def topExp : ℤ := maxExp - prec + 1

def tinyExp : ℤ := minExp - prec + 1

/-- `_fix`: a number rounded to the context. -/
def fix (d : Decimal) : Except DecimalError Decimal :=
  if d.coeff = 0 then .ok ⟨d.neg, 0, max tinyExp (min d.exp maxExp)⟩
  else
    let leastExp : ℤ := numDigits d.coeff + d.exp - prec
    if topExp < leastExp then .error .overflow
    else
      let leastExp := max leastExp tinyExp
      if d.exp < leastExp then
        let coeff := roundHalfEven d.coeff (10 ^ (leastExp - d.exp).toNat)
        -- a carry through all digits leaves one digit too many
        if prec < numDigits coeff then
          if topExp < leastExp + 1 then .error .overflow
          else .ok ⟨d.neg, coeff / 10, leastExp + 1⟩
        else .ok ⟨d.neg, coeff, leastExp⟩
      else .ok d

def add (a b : Decimal) : Except DecimalError Decimal :=
  let e := min a.exp b.exp
  let n := a.scaled e + b.scaled e
  fix ⟨decide (n < 0), n.natAbs, e⟩

def mul (a b : Decimal) : Except DecimalError Decimal :=
  fix ⟨a.neg != b.neg, a.coeff * b.coeff, a.exp + b.exp⟩

/-- The remainder of the division towards zero. A quotient of more digits than the context has
is refused. -/
def rem (a b : Decimal) : Except DecimalError Decimal :=
  let e := min a.exp b.exp
  let n := (a.scaled e).natAbs
  let d := (b.scaled e).natAbs
  if d = 0 then .error .invalidOperation
  else if 10 ^ prec ≤ n / d then .error .invalidOperation
  else fix ⟨a.neg, n % d, e⟩

/-- Trailing zeros taken off a coefficient, at most so many. -/
def stripZeros : ℕ → ℕ → ℤ → ℕ × ℤ
  | 0, coeff, exp => (coeff, exp)
  | k + 1, coeff, exp => if coeff % 10 = 0 then stripZeros k (coeff / 10) (exp + 1) else (coeff, exp)

/-- The quotient: two digits more than the context has, then rounded. A remainder is kept in the
last digit; an exact quotient has an exponent as close to that of the operands as can be. -/
def div (a b : Decimal) : Except DecimalError Decimal :=
  if b.coeff = 0 then .error .invalidOperation
  else if a.coeff = 0 then fix ⟨a.neg != b.neg, 0, a.exp - b.exp⟩
  else
    let shift : ℤ := (numDigits b.coeff : ℤ) - numDigits a.coeff + prec + 1
    let n := a.coeff * 10 ^ shift.toNat
    let d := b.coeff * 10 ^ (-shift).toNat
    let exp := a.exp - b.exp - shift
    if n % d ≠ 0 then
      let coeff := n / d
      fix ⟨a.neg != b.neg, if coeff % 5 = 0 then coeff + 1 else coeff, exp⟩
    else
      let (coeff, exp) := stripZeros shift.toNat (n / d) exp
      fix ⟨a.neg != b.neg, coeff, exp⟩

example : div ⟨false, 1, 0⟩ ⟨false, 4, 0⟩ = .ok ⟨false, 25, -2⟩ := by decide

theorem same_refl (a : Decimal) : same a a = true := decide_eq_true rfl

theorem scaled_value (d : Decimal) {e : ℤ} (h : e ≤ d.exp) :
    (d.scaled e : ℚ) * (10 : ℚ) ^ e = d.value := by
  have hpow : (10 : ℚ) ^ d.exp = 10 ^ (d.exp - e).toNat * (10 : ℚ) ^ e := by
    rw [← zpow_natCast, ← zpow_add₀ (by norm_num), Int.toNat_of_nonneg (by omega),
      sub_add_cancel]
  rw [scaled, value, hpow]
  push_cast
  split <;> ring

/-- The comparison is that of the numbers. -/
theorem lt_iff (a b : Decimal) : lt a b = true ↔ a.value < b.value := by
  have hpos : (0 : ℚ) < (10 : ℚ) ^ min a.exp b.exp := zpow_pos (by norm_num) _
  rw [← a.scaled_value (min_le_left a.exp b.exp), ← b.scaled_value (min_le_right a.exp b.exp),
    mul_lt_mul_iff_left₀ hpos, lt, decide_eq_true_eq]
  exact_mod_cast Iff.rfl

theorem same_iff (a b : Decimal) : same a b = true ↔ a.value = b.value := by
  have hpos : (10 : ℚ) ^ min a.exp b.exp ≠ 0 := zpow_ne_zero _ (by norm_num)
  rw [← a.scaled_value (min_le_left a.exp b.exp), ← b.scaled_value (min_le_right a.exp b.exp),
    mul_left_inj' hpos, same, decide_eq_true_eq]
  exact_mod_cast Iff.rfl

end Decimal

/-- Whether two optional decimals denote the same number, or are both absent. -/
def sameOption (a b : Option Decimal) : Bool :=
  match a, b with
  | some a, some b => a.same b
  | none, none => true
  | _, _ => false

theorem sameOption_refl (a : Option Decimal) : sameOption a a = true := by
  cases a with
  | none => rfl
  | some a => exact a.same_refl

end DecimalNumbers
