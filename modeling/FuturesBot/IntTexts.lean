import FuturesBot.DateTimes
import FuturesBot.TextLines

/-! Integers as texts, read the way `int(text)` reads them: surrounding space, a sign,
single underscores between digits, and the decimal digits of every script. -/
namespace IntTexts

open JsonText (Text)
open TextLines

/-- The zero of every run of ten decimal digits that Unicode 15 has. -/
def zeroDigits : List ℕ :=
  [0x30, 0x660, 0x6f0, 0x7c0, 0x966, 0x9e6, 0xa66, 0xae6, 0xb66, 0xbe6, 0xc66, 0xce6, 0xd66,
    0xde6, 0xe50, 0xed0, 0xf20, 0x1040, 0x1090, 0x17e0, 0x1810, 0x1946, 0x19d0, 0x1a80, 0x1a90,
    0x1b50, 0x1bb0, 0x1c40, 0x1c50, 0xa620, 0xa8d0, 0xa900, 0xa9d0, 0xa9f0, 0xaa50, 0xabf0,
    0xff10, 0x104a0, 0x10d30, 0x11066, 0x110f0, 0x11136, 0x111d0, 0x112f0, 0x11450, 0x114d0,
    0x11650, 0x116c0, 0x11730, 0x118e0, 0x11950, 0x11c50, 0x11d50, 0x11da0, 0x11f50, 0x16a60,
    0x16ac0, 0x16b50, 0x1d7ce, 0x1d7d8, 0x1d7e2, 0x1d7ec, 0x1d7f6, 0x1e140, 0x1e2f0, 0x1e4f0,
    0x1e950, 0x1fbf0]

def decimalValue (c : Char) : Option ℕ :=
  (zeroDigits.find? fun z => z ≤ c.toNat ∧ c.toNat < z + 10).map (c.toNat - ·)

/-- Beyond ASCII, space becomes a blank and a decimal digit its ASCII form; nothing else can
stand in a number. -/
def toAscii (c : Char) : Char :=
  if c.toNat < 128 then c
  else if isSpace c then ' '
  else
    match decimalValue c with
    | some d => Nat.digitChar d
    | none => '?'

/-- The space that is skipped around a number once it is in ASCII. -/
def isAsciiSpace (c : Char) : Bool := c = ' ' || (9 ≤ c.toNat && c.toNat ≤ 13)

/-- Digits that go on behind a digit, single underscores between them. -/
def moreDigits (acc : ℕ) : Text → Option ℕ
  | [] => some acc
  | [c] => if c.isDigit then some (10 * acc + (c.toNat - 48)) else none
  | c :: d :: t =>
    if c.isDigit then moreDigits (10 * acc + (c.toNat - 48)) (d :: t)
    else if c = '_' ∧ d.isDigit = true then moreDigits (10 * acc + (d.toNat - 48)) t
    else none

def digits : Text → Option ℕ
  | [] => none
  | c :: t => if c.isDigit then moreDigits (c.toNat - 48) t else none

def signed : Text → Option ℤ
  | [] => none
  | c :: t =>
    if c = '-' then (digits t).map fun n => -(n : ℤ)
    else if c = '+' then (digits t).map (↑)
    else (digits (c :: t)).map (↑)

/-- `int(text)`; none where it raises. -/
def readInt (t : Text) : Option ℤ :=
  signed (((t.map toAscii).dropWhile isAsciiSpace).rdropWhile isAsciiSpace)

theorem isDigit_bounds {c : Char} (h : c.isDigit = true) : 48 ≤ c.toNat ∧ c.toNat ≤ 57 := by
  simp only [Char.isDigit, Bool.and_eq_true, decide_eq_true_eq, UInt32.le_iff_toNat_le] at h
  exact h

theorem toAscii_digit {c : Char} (h : c.isDigit = true) : toAscii c = c := by
  have hbounds := isDigit_bounds h
  exact if_pos (by omega)

theorem digit_not_asciiSpace {c : Char} (h : c.isDigit = true) : isAsciiSpace c = false := by
  have hbounds := isDigit_bounds h
  have hne : c ≠ ' ' := by
    rintro rfl
    exact absurd h (by decide)
  simp only [isAsciiSpace, hne, decide_false, Bool.false_or, Bool.and_eq_false_imp,
    decide_eq_true_eq, decide_eq_false_iff_not]
  omega

theorem moreDigits_digits {t : Text} (h : ∀ c ∈ t, c.isDigit = true) (acc : ℕ) :
    moreDigits acc t = some (Nat.ofDigitChars 10 t acc) := by
  induction t generalizing acc with
  | nil => rfl
  | cons c t ih =>
    have hc := h c List.mem_cons_self
    have hrest := ih (fun d hd => h d (List.mem_cons_of_mem _ hd)) (10 * acc + (c.toNat - 48))
    cases t with
    | nil => rw [moreDigits, if_pos hc, Nat.ofDigitChars_cons, Nat.ofDigitChars_nil]; rfl
    | cons d t =>
      have hcons : Nat.ofDigitChars 10 (c :: d :: t) acc =
          Nat.ofDigitChars 10 (d :: t) (10 * acc + (c.toNat - '0'.toNat)) := Nat.ofDigitChars_cons
      rw [moreDigits, if_pos hc, hrest, hcons]
      rfl

/-- ASCII digits are read as they are written. -/
theorem readInt_digits {t : Text} (hne : t ≠ []) (h : ∀ c ∈ t, c.isDigit = true) :
    readInt t = some (JsonText.digitsValue t : ℤ) := by
  have hascii : t.map toAscii = t := by
    rw [List.map_congr_left fun c hc => toAscii_digit (h c hc), List.map_id']
  obtain ⟨c, s, rfl⟩ := List.exists_cons_of_ne_nil hne
  have hc := h c List.mem_cons_self
  have hfront : (c :: s).dropWhile isAsciiSpace = c :: s :=
    List.dropWhile_cons_of_neg (by simp [digit_not_asciiSpace hc])
  have hback : (c :: s).rdropWhile isAsciiSpace = c :: s := by
    rw [List.rdropWhile_eq_self_iff]
    intro hl
    simp [digit_not_asciiSpace (h _ (List.getLast_mem hl))]
  have hminus : c ≠ '-' := by
    rintro rfl
    exact absurd hc (by decide)
  have hplus : c ≠ '+' := by
    rintro rfl
    exact absurd hc (by decide)
  rw [readInt, hascii, hfront, hback, signed, if_neg hminus, if_neg hplus, digits, if_pos hc,
    moreDigits_digits fun d hd => h d (List.mem_cons_of_mem _ hd)]
  rw [Option.map_some, JsonText.digitsValue, Nat.ofDigitChars_cons, Nat.mul_zero, Nat.zero_add]
  rfl

example : readInt " +1_0".toList = some 10 ∧ readInt "٣".toList = some 3 := by decide +kernel

end IntTexts
