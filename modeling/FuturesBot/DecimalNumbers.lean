import FuturesBot.JsonParse
import Mathlib.Algebra.Order.Field.Rat
import Mathlib.Algebra.Order.Field.Power
import Mathlib.Tactic.Linarith
import Mathlib.Tactic.NormNum

/-! Decimal floating-point numbers: a sign, a coefficient and an exponent, the text that
shows all three, and that the text is read back exactly. -/
namespace DecimalNumbers

open JsonText

-- decides by the list, not by every character
attribute [local instance (2000)] List.decidableBAll

structure Decimal where
  neg : Bool
  coeff : ℕ
  exp : ℤ
  deriving DecidableEq, Repr

namespace Decimal

/-- The number denoted; different exponents may denote the same number. -/
def value (d : Decimal) : ℚ := (if d.neg then -1 else 1) * d.coeff * (10 : ℚ) ^ d.exp

def positive (d : Decimal) : Bool := !d.neg && d.coeff ≠ 0

def negative (d : Decimal) : Bool := d.neg && d.coeff ≠ 0

theorem value_zero_iff (d : Decimal) : d.value = 0 ↔ d.coeff = 0 := by
  have hpow : (10 : ℚ) ^ d.exp ≠ 0 := zpow_ne_zero _ (by norm_num)
  cases hneg : d.neg <;> simp [value, hneg, hpow]

theorem positive_iff (d : Decimal) : d.positive = true ↔ 0 < d.value := by
  have hpow : (0 : ℚ) < (10 : ℚ) ^ d.exp := zpow_pos (by norm_num) _
  by_cases hz : d.coeff = 0
  · simp [positive, value, hz]
  · have hc : (0 : ℚ) < d.coeff := by exact_mod_cast Nat.pos_of_ne_zero hz
    have hprod := mul_pos hc hpow
    cases hneg : d.neg
    · simpa [positive, value, hneg, hz] using hprod
    · simp only [positive, value, hneg, Bool.not_true, Bool.false_and, Bool.false_eq_true,
        ↓reduceIte, false_iff, not_lt]
      linarith

theorem negative_iff (d : Decimal) : d.negative = true ↔ d.value < 0 := by
  have hpow : (0 : ℚ) < (10 : ℚ) ^ d.exp := zpow_pos (by norm_num) _
  by_cases hz : d.coeff = 0
  · simp [negative, value, hz]
  · have hc : (0 : ℚ) < d.coeff := by exact_mod_cast Nat.pos_of_ne_zero hz
    have hprod := mul_pos hc hpow
    cases hneg : d.neg
    · simp only [negative, value, hneg, Bool.false_and, Bool.false_eq_true, ↓reduceIte, false_iff,
        not_lt]
      linarith
    · simp only [negative, value, hneg, hz, ne_eq, not_false_eq_true, decide_true, Bool.and_self,
        ↓reduceIte, true_iff]
      linarith

/-- Digits before the point, digits after it, and the exponent that is shown. -/
def parts (d : Decimal) : Text × Text × ℤ :=
  let digits := natText d.coeff
  let left : ℤ := d.exp + digits.length
  if d.exp ≤ 0 ∧ -6 < left then
    if left ≤ 0 then (['0'], List.replicate (-left).toNat '0' ++ digits, 0)
    else (digits.take left.toNat, digits.drop left.toNat, 0)
  else (digits.take 1, digits.drop 1, left - 1)

def signText (neg : Bool) : Text := if neg then ['-'] else []

def fracText (frac : Text) : Text := if frac = [] then [] else '.' :: frac

def signedText : ℤ → Text
  | .ofNat n => '+' :: natText n
  | .negSucc n => '-' :: natText (n + 1)

def expText (e : ℤ) : Text := if e = 0 then [] else 'E' :: signedText e

def text (d : Decimal) : Text :=
  signText d.neg ++ (d.parts.1 ++ (fracText d.parts.2.1 ++ expText d.parts.2.2))

def parseExpDigits (sign : ℤ) (t : Text) : Option ℤ :=
  if t ≠ [] ∧ ∀ c ∈ t, c.isDigit = true then some (sign * (digitsValue t : ℤ)) else none

def parseExp : Text → Option ℤ
  | [] => some 0
  | c :: t =>
    if c = 'e' ∨ c = 'E' then
      match t with
      | '-' :: t' => parseExpDigits (-1) t'
      | '+' :: t' => parseExpDigits 1 t'
      | _ => parseExpDigits 1 t
    else none

def parseFrac : Text → Text × Text
  | '.' :: t => takeDigits t
  | t => ([], t)

def parseUnsigned (neg : Bool) (t : Text) : Option Decimal :=
  let whole := (takeDigits t).1
  let frac := (parseFrac (takeDigits t).2).1
  if whole ++ frac = [] then none
  else (parseExp (parseFrac (takeDigits t).2).2).map fun e =>
    ⟨neg, digitsValue (whole ++ frac), e - frac.length⟩

def parse : Text → Option Decimal
  | '-' :: t => parseUnsigned true t
  | '+' :: t => parseUnsigned false t
  | t => parseUnsigned false t

theorem digitsValue_zeros (k : ℕ) (ds : Text) :
    digitsValue (List.replicate k '0' ++ ds) = digitsValue ds := by
  induction k with
  | zero => rfl
  | succ k ih =>
    rw [List.replicate_succ, List.cons_append]
    exact ih

/-- The shown parts hold the digits of the coefficient, and the point and the shown
exponent together give the exponent. -/
theorem parts_spec (d : Decimal) :
    (∀ c ∈ d.parts.1, c.isDigit = true) ∧ (∀ c ∈ d.parts.2.1, c.isDigit = true) ∧
      d.parts.1 ≠ [] ∧ digitsValue (d.parts.1 ++ d.parts.2.1) = d.coeff ∧
      d.parts.2.2 - d.parts.2.1.length = d.exp := by
  have hdig : ∀ c ∈ natText d.coeff, c.isDigit = true := natText_isDigit d.coeff
  have hval : digitsValue (natText d.coeff) = d.coeff := digitsValue_natText d.coeff
  have hpos : 0 < (natText d.coeff).length := List.length_pos_of_ne_nil (natText_ne_nil _)
  unfold parts
  dsimp only
  split
  · rename_i hsmall
    split
    · rename_i hleft
      refine ⟨?_, ?_, List.cons_ne_nil _ _, ?_, ?_⟩
      · intro c hc
        obtain rfl := List.mem_singleton.mp hc
        decide
      · intro c hc
        rcases List.mem_append.mp hc with hc | hc
        · obtain rfl := List.eq_of_mem_replicate hc
          decide
        · exact hdig c hc
      · have hz := digitsValue_zeros ((-(d.exp + (natText d.coeff).length)).toNat + 1)
          (natText d.coeff)
        rw [List.replicate_succ] at hz
        exact hz.trans hval
      · simp only [List.length_append, List.length_replicate]
        omega
    · rename_i hleft
      have hle : (d.exp + (natText d.coeff).length).toNat ≤ (natText d.coeff).length := by omega
      refine ⟨fun c hc => hdig c (List.mem_of_mem_take hc),
        fun c hc => hdig c (List.mem_of_mem_drop hc), ?_, ?_, ?_⟩
      · rw [← List.length_pos_iff, List.length_take]
        omega
      · rw [List.take_append_drop, hval]
      · simp only [List.length_drop]
        omega
  · refine ⟨fun c hc => hdig c (List.mem_of_mem_take hc),
      fun c hc => hdig c (List.mem_of_mem_drop hc), ?_, ?_, ?_⟩
    · rw [← List.length_pos_iff, List.length_take]
      omega
    · rw [List.take_append_drop, hval]
    · simp only [List.length_drop]
      omega

theorem parseExpDigits_natText (sign : ℤ) (n : ℕ) :
    parseExpDigits sign (natText n) = some (sign * n) := by
  have h : natText n ≠ [] ∧ ∀ c ∈ natText n, c.isDigit = true :=
    ⟨natText_ne_nil n, natText_isDigit n⟩
  rw [parseExpDigits, if_pos h, digitsValue_natText]

theorem parseExp_expText (e : ℤ) : parseExp (expText e) = some e := by
  unfold expText
  split
  · rename_i he
    rw [he]
    rfl
  · cases e with
    | ofNat n =>
      simp only [signedText, parseExp, or_true, ↓reduceIte, parseExpDigits_natText, one_mul]
      rfl
    | negSucc n =>
      simp only [signedText, parseExp, or_true, ↓reduceIte, parseExpDigits_natText,
        Option.some.injEq]
      omega

theorem expText_noDigitHead (e : ℤ) : NoDigitHead (expText e) := by
  intro c hc
  unfold expText at hc
  split at hc
  · exact absurd hc (by simp)
  · obtain rfl : 'E' = c := by simpa using hc
    decide

theorem fracText_noDigitHead (frac : Text) (e : ℤ) : NoDigitHead (fracText frac ++ expText e) := by
  unfold fracText
  split
  · exact expText_noDigitHead e
  · intro c hc
    obtain rfl : '.' = c := by simpa using hc
    decide

theorem parseFrac_fracText (frac : Text) (e : ℤ) (h : ∀ c ∈ frac, c.isDigit = true) :
    parseFrac (fracText frac ++ expText e) = (frac, expText e) := by
  unfold fracText
  split
  · rename_i hnil
    rw [hnil, List.nil_append]
    unfold expText
    split <;> rfl
  · rw [List.cons_append, parseFrac, takeDigits_append _ _ h (expText_noDigitHead e)]

theorem parseUnsigned_text (d : Decimal) :
    parseUnsigned d.neg (d.parts.1 ++ (fracText d.parts.2.1 ++ expText d.parts.2.2)) = some d := by
  obtain ⟨hwhole, hfrac, hne, hval, hexp⟩ := d.parts_spec
  have hdig := takeDigits_append d.parts.1 _ hwhole (fracText_noDigitHead d.parts.2.1 d.parts.2.2)
  have hcons : d.parts.1 ++ d.parts.2.1 ≠ [] := fun h => hne (List.append_eq_nil_iff.mp h).1
  simp only [parseUnsigned, hdig, parseFrac_fracText _ d.parts.2.2 hfrac, hcons, ↓reduceIte,
    parseExp_expText, Option.map_some, hval, hexp]

theorem parse_text (d : Decimal) : parse d.text = some d := by
  have huns := parseUnsigned_text d
  unfold text
  cases hneg : d.neg with
  | true =>
    rw [hneg] at huns
    exact huns
  | false =>
    rw [hneg] at huns
    obtain ⟨hwhole, -, hne, -, -⟩ := d.parts_spec
    rcases hp : d.parts.1 with _ | ⟨c, cs⟩
    · exact absurd hp hne
    · rw [hp] at huns hwhole
      have hc : c.isDigit = true := hwhole c List.mem_cons_self
      change parse (c :: (cs ++ (fracText d.parts.2.1 ++ expText d.parts.2.2))) = some d
      unfold parse
      split
      · rename_i heq
        obtain rfl := (List.cons.inj heq).1
        exact absurd hc (by decide)
      · rename_i heq
        obtain rfl := (List.cons.inj heq).1
        exact absurd hc (by decide)
      · exact huns

end Decimal

end DecimalNumbers
