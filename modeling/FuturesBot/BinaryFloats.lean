import FuturesBot.DecimalArithmetic

/-! Binary floating-point numbers with 53 bits, in the range where no exponent is too large or
too small: a nonnegative number is `m * 2 ^ e`. -/
namespace BinaryFloats

open DecimalNumbers

structure Float64 where
  mant : ℕ
  exp : ℤ
  deriving DecidableEq, Repr

/-- The number nearest to a quotient. -/
def nearest (n d : ℕ) : Float64 :=
  if n = 0 then ⟨0, 0⟩
  else
    let scaledBy (e : ℤ) : ℕ × ℕ := (n * 2 ^ (-e).toNat, d * 2 ^ e.toNat)
    let e : ℤ := n.log2 - d.log2 - 53
    let e := if 2 ^ 53 ≤ (scaledBy e).1 / (scaledBy e).2 then e + 1 else e
    ⟨roundHalfEven (scaledBy e).1 (scaledBy e).2, e⟩

/-- The product with a natural, rounded. -/
def Float64.scale (x : Float64) (k : ℕ) : Float64 :=
  nearest (x.mant * k * 2 ^ x.exp.toNat) (2 ^ (-x.exp).toNat)

/-- The whole part. -/
def Float64.floor (x : Float64) : ℕ := x.mant * 2 ^ x.exp.toNat / 2 ^ (-x.exp).toNat

/-- `int(delta.total_seconds() * 1000)` of a time difference in microseconds. -/
def millisOfMicros (micros : ℤ) : ℤ :=
  micros.sign * (((nearest micros.natAbs 1000000).scale 1000).floor : ℤ)

example : millisOfMicros 1001000 = 1000 := by decide

end BinaryFloats
