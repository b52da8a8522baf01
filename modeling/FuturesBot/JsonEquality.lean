import FuturesBot.BinaryFloats

/-! Equality of JSON values as the language compares them: the order of members does not matter,
and numbers and truth values are compared by value. -/
namespace JsonText

open BinaryFloats

/-- The integer that a float is, if it is one. -/
def FloatText.integer? (f : FloatText) : Option ℤ :=
  let exponent : ℤ := f.exp.getD 0 - f.frac.length
  let x := nearest ((f.whole * 10 ^ f.frac.length + digitsValue f.frac) * 10 ^ exponent.toNat)
    (10 ^ (-exponent).toNat)
  if x.mant * 2 ^ x.exp.toNat % 2 ^ (-x.exp).toNat = 0 then
    some (if f.neg then -x.floor else x.floor)
  else none

mutual

/-- The value that stands for all that equal it. -/
def Json.plain : Json → Json
  | .bool b => .int (if b then 1 else 0)
  | .float f =>
    match f.integer? with
    | some n => .int n
    | none => .float f
  | .arr items => .arr (plainItems items)
  | .obj members => .obj ((plainMembers members).insertionSort fun a b => a.1 ≤ b.1)
  | v => v

def plainItems : List Json → List Json
  | [] => []
  | v :: items => v.plain :: plainItems items

def plainMembers : List (String × Json) → List (String × Json)
  | [] => []
  | (k, v) :: members => (k, v.plain) :: plainMembers members

end

end JsonText
