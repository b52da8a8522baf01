import FuturesBot.JsonParse
import Mathlib.Tactic.Linarith

/-! Calendar times in UTC with microseconds: the order, and the text of fixed width that
is read back exactly. -/
namespace DateTimes

open JsonText

def isLeap (year : ℕ) : Bool := year % 4 = 0 && (year % 100 ≠ 0 || year % 400 = 0)

def daysInMonth (year : ℕ) : ℕ → ℕ
  | 2 => if isLeap year then 29 else 28
  | 4 | 6 | 9 | 11 => 30
  | _ => 31

structure DateTime where
  year : ℕ
  month : ℕ
  day : ℕ
  hour : ℕ
  minute : ℕ
  second : ℕ
  microsecond : ℕ
  date_ok : 1 ≤ year ∧ year ≤ 9999 ∧ 1 ≤ month ∧ month ≤ 12 ∧ 1 ≤ day ∧
    day ≤ daysInMonth year month
  time_ok : hour < 24 ∧ minute < 60 ∧ second < 60 ∧ microsecond < 1000000
  deriving DecidableEq

namespace DateTime

def daysBeforeYear (year : ℕ) : ℕ :=
  let y := year - 1
  y * 365 + y / 4 - y / 100 + y / 400

def daysBeforeMonth (year : ℕ) : ℕ → ℕ
  | 0 => 0
  | 1 => 0
  | month + 1 => daysBeforeMonth year month + daysInMonth year month

/-- Microseconds since the first instant of year 1. -/
def micros (t : DateTime) : ℕ :=
  let days := daysBeforeYear t.year + daysBeforeMonth t.year t.month + (t.day - 1)
  ((((days * 24 + t.hour) * 60 + t.minute) * 60) + t.second) * 1000000 + t.microsecond

instance : LT DateTime := ⟨fun a b => a.micros < b.micros⟩

instance : LE DateTime := ⟨fun a b => a.micros ≤ b.micros⟩

instance (a b : DateTime) : Decidable (a < b) := inferInstanceAs (Decidable (a.micros < b.micros))

instance (a b : DateTime) : Decidable (a ≤ b) := inferInstanceAs (Decidable (a.micros ≤ b.micros))

theorem lt_iff (a b : DateTime) : a < b ↔ a.micros < b.micros := Iff.rfl

theorem le_iff (a b : DateTime) : a ≤ b ↔ a.micros ≤ b.micros := Iff.rfl

instance : Preorder DateTime where
  le_refl a := Nat.le_refl a.micros
  le_trans _ _ _ := Nat.le_trans
  lt_iff_le_not_ge _ _ := Nat.lt_iff_le_and_not_ge

/-- The later of two times, the first when they are equal. -/
def latest (a b : DateTime) : DateTime := if a < b then b else a

theorem le_latest_right (a b : DateTime) : b ≤ latest a b := by
  unfold latest
  split
  · exact le_refl b.micros
  · rename_i h
    exact Nat.not_lt.mp h

end DateTime

/-! Numbers of a fixed width. -/

def fixedDigits : ℕ → ℕ → Text
  | 0, _ => []
  | w + 1, n => fixedDigits w (n / 10) ++ [Nat.digitChar (n % 10)]

theorem fixedDigits_length (w n : ℕ) : (fixedDigits w n).length = w := by
  induction w generalizing n with
  | zero => rfl
  | succ w ih => simp only [fixedDigits, List.length_append, ih, List.length_singleton]

theorem digitChar_isDigit (n : ℕ) : (Nat.digitChar (n % 10)).isDigit = true := by
  have hall : ∀ k : Fin 10, (Nat.digitChar k.val).isDigit = true := by decide
  exact hall ⟨n % 10, Nat.mod_lt _ (by decide)⟩

theorem fixedDigits_isDigit (w n : ℕ) (c : Char) (hc : c ∈ fixedDigits w n) :
    c.isDigit = true := by
  induction w generalizing n with
  | zero => exact absurd hc List.not_mem_nil
  | succ w ih =>
    rcases List.mem_append.mp hc with hc | hc
    · exact ih _ hc
    · obtain rfl := List.mem_singleton.mp hc
      exact digitChar_isDigit n

theorem digitsValue_append_digit (t : Text) (n : ℕ) :
    digitsValue (t ++ [Nat.digitChar (n % 10)]) = digitsValue t * 10 + n % 10 := by
  have hall : ∀ k : Fin 10, (Nat.digitChar k.val).toNat - '0'.toNat = k.val := by decide
  have hn := hall ⟨n % 10, Nat.mod_lt _ (by decide)⟩
  simp only at hn
  rw [digitsValue, Nat.ofDigitChars_append, Nat.ofDigitChars_cons, Nat.ofDigitChars_nil, hn,
    mul_comm]
  rfl

theorem digitsValue_fixedDigits (w n : ℕ) (h : n < 10 ^ w) :
    digitsValue (fixedDigits w n) = n := by
  induction w generalizing n with
  | zero =>
    have hz : n = 0 := by simpa using h
    subst hz
    rfl
  | succ w ih =>
    rw [fixedDigits, digitsValue_append_digit, ih (n / 10)]
    · omega
    · rw [Nat.div_lt_iff_lt_mul (by decide)]
      rwa [pow_succ] at h

/-- At least `w` digits, with zeros in front of a shorter numeral. -/
def zeroPadded (w n : ℕ) : Text := if n < 10 ^ w then fixedDigits w n else natText n

theorem zeroPadded_isDigit (w n : ℕ) (c : Char) (hc : c ∈ zeroPadded w n) : c.isDigit = true := by
  unfold zeroPadded at hc
  split at hc
  · exact fixedDigits_isDigit w n c hc
  · exact natText_isDigit n c hc

theorem digitsValue_zeroPadded (w n : ℕ) : digitsValue (zeroPadded w n) = n := by
  unfold zeroPadded
  split
  · rename_i h
    exact digitsValue_fixedDigits w n h
  · exact digitsValue_natText n

theorem zeroPadded_ne_nil {w : ℕ} (hw : 0 < w) (n : ℕ) : zeroPadded w n ≠ [] := by
  unfold zeroPadded
  split
  · intro h
    have hlen := fixedDigits_length w n
    rw [h, List.length_nil] at hlen
    omega
  · exact natText_ne_nil n

/-- A number of `w` digits at the head of a text. -/
def takeNumber (w : ℕ) (t : Text) : Option (ℕ × Text) :=
  if (t.take w).length = w ∧ (t.take w).all Char.isDigit = true then
    some (digitsValue (t.take w), t.drop w)
  else none

theorem takeNumber_fixedDigits {w n : ℕ} (h : n < 10 ^ w) (rest : Text) :
    takeNumber w (fixedDigits w n ++ rest) = some (n, rest) := by
  have hlen := fixedDigits_length w n
  have htake : (fixedDigits w n ++ rest).take w = fixedDigits w n := by
    rw [List.take_append_of_le_length hlen.ge, List.take_of_length_le hlen.le]
  have hdrop : (fixedDigits w n ++ rest).drop w = rest := by
    rw [List.drop_append_of_le_length hlen.ge, List.drop_of_length_le hlen.le, List.nil_append]
  have hall : (fixedDigits w n).all Char.isDigit = true :=
    List.all_eq_true.mpr (fixedDigits_isDigit w n)
  simp only [takeNumber, htake, hdrop, hlen, hall, and_self, ↓reduceIte,
    digitsValue_fixedDigits w n h]

def takeChar (c : Char) : Text → Option Text
  | [] => none
  | d :: t => if d = c then some t else none

theorem takeChar_cons (c : Char) (t : Text) : takeChar c (c :: t) = some t := by
  simp only [takeChar, ↓reduceIte]

namespace DateTime

def fraction (t : DateTime) : Text :=
  if t.microsecond = 0 then [] else '.' :: fixedDigits 6 t.microsecond

def dateText (t : DateTime) : Text :=
  fixedDigits 4 t.year ++ '-' :: (fixedDigits 2 t.month ++ '-' :: fixedDigits 2 t.day)

def clockText (t : DateTime) : Text :=
  fixedDigits 2 t.hour ++ ':' :: (fixedDigits 2 t.minute ++ ':' :: (fixedDigits 2 t.second ++
    t.fraction))

def text (t : DateTime) : Text := t.dateText ++ 'T' :: (t.clockText ++ ['Z'])

def takeDate (t : Text) : Option ((ℕ × ℕ × ℕ) × Text) :=
  (takeNumber 4 t).bind fun (year, t) =>
    (takeChar '-' t).bind fun t =>
      (takeNumber 2 t).bind fun (month, t) =>
        (takeChar '-' t).bind fun t =>
          (takeNumber 2 t).map fun (day, t) => ((year, month, day), t)

def takeFraction : Text → Option (ℕ × Text)
  | '.' :: t => takeNumber 6 t
  | t => some (0, t)

def takeClock (t : Text) : Option ((ℕ × ℕ × ℕ × ℕ) × Text) :=
  (takeNumber 2 t).bind fun (hour, t) =>
    (takeChar ':' t).bind fun t =>
      (takeNumber 2 t).bind fun (minute, t) =>
        (takeChar ':' t).bind fun t =>
          (takeNumber 2 t).bind fun (second, t) =>
            (takeFraction t).map fun (microsecond, t) => ((hour, minute, second, microsecond), t)

def ofFields (date : ℕ × ℕ × ℕ) (clock : ℕ × ℕ × ℕ × ℕ) : Option DateTime :=
  if h : (1 ≤ date.1 ∧ date.1 ≤ 9999 ∧ 1 ≤ date.2.1 ∧ date.2.1 ≤ 12 ∧ 1 ≤ date.2.2 ∧
      date.2.2 ≤ daysInMonth date.1 date.2.1) ∧
      (clock.1 < 24 ∧ clock.2.1 < 60 ∧ clock.2.2.1 < 60 ∧ clock.2.2.2 < 1000000) then
    some ⟨date.1, date.2.1, date.2.2, clock.1, clock.2.1, clock.2.2.1, clock.2.2.2, h.1, h.2⟩
  else none

def parse (t : Text) : Option DateTime :=
  (takeDate t).bind fun (date, t) =>
    (takeChar 'T' t).bind fun t =>
      (takeClock t).bind fun (clock, t) =>
        if t = ['Z'] then ofFields date clock else none

theorem takeFraction_fraction (t : DateTime) :
    takeFraction (t.fraction ++ ['Z']) = some (t.microsecond, ['Z']) := by
  unfold fraction
  split
  · rename_i h
    rw [h]
    rfl
  · have hlt : t.microsecond < 10 ^ 6 := by
      have := t.time_ok
      omega
    rw [List.cons_append, takeFraction, takeNumber_fixedDigits hlt]

theorem daysInMonth_le (year month : ℕ) : daysInMonth year month ≤ 31 := by
  unfold daysInMonth
  split <;> (try split) <;> omega

theorem takeDate_dateText (t : DateTime) (rest : Text) :
    takeDate (t.dateText ++ rest) = some ((t.year, t.month, t.day), rest) := by
  obtain ⟨hy, hy', hm, hm', hd, hd'⟩ := t.date_ok
  have hd31 := daysInMonth_le t.year t.month
  unfold takeDate dateText
  simp only [List.append_assoc, List.cons_append]
  rw [takeNumber_fixedDigits (by omega : t.year < 10 ^ 4), Option.bind_some, takeChar_cons,
    Option.bind_some, takeNumber_fixedDigits (by omega : t.month < 10 ^ 2), Option.bind_some,
    takeChar_cons, Option.bind_some, takeNumber_fixedDigits (by omega : t.day < 10 ^ 2),
    Option.map_some]

theorem takeClock_clockText (t : DateTime) :
    takeClock (t.clockText ++ ['Z']) =
      some ((t.hour, t.minute, t.second, t.microsecond), ['Z']) := by
  obtain ⟨hh, hmin, hs, hmic⟩ := t.time_ok
  unfold takeClock clockText
  simp only [List.append_assoc, List.cons_append]
  rw [takeNumber_fixedDigits (by omega : t.hour < 10 ^ 2), Option.bind_some, takeChar_cons,
    Option.bind_some, takeNumber_fixedDigits (by omega : t.minute < 10 ^ 2), Option.bind_some,
    takeChar_cons, Option.bind_some, takeNumber_fixedDigits (by omega : t.second < 10 ^ 2),
    Option.bind_some, takeFraction_fraction, Option.map_some]

theorem parse_text (t : DateTime) : parse t.text = some t := by
  have hfields : ofFields (t.year, t.month, t.day) (t.hour, t.minute, t.second, t.microsecond) =
      some t := dif_pos ⟨t.date_ok, t.time_ok⟩
  unfold parse text
  simp only [takeDate_dateText, takeChar_cons, takeClock_clockText, Option.bind_some, ↓reduceIte,
    hfields]

end DateTime

end DateTimes
