import FuturesBot.DateTimes
import Mathlib.Data.Nat.Find
import Mathlib.Order.Monotone.Basic

/-! The calendar time of a number of microseconds: it undoes the count, so a time is known by its
instant. -/
namespace DateTimes.DateTime

/-! Days. -/

def daysInYear (year : ℕ) : ℕ := if isLeap year then 366 else 365

theorem daysBeforeYear_succ {year : ℕ} (h : 1 ≤ year) :
    daysBeforeYear (year + 1) = daysBeforeYear year + daysInYear year := by
  obtain ⟨n, rfl⟩ := Nat.exists_eq_add_of_le' h
  have hcenturies : n / 100 ≤ n / 4 := Nat.div_le_div_left (by omega) (by omega)
  simp only [daysBeforeYear, daysInYear, isLeap, Nat.add_sub_cancel, Nat.succ_div,
    Nat.dvd_iff_mod_eq_zero, Bool.and_eq_true, Bool.or_eq_true, decide_eq_true_eq]
  by_cases h4 : (n + 1) % 4 = 0
  · by_cases h100 : (n + 1) % 100 = 0
    · by_cases h400 : (n + 1) % 400 = 0
      · simp only [h4, h100, h400, ↓reduceIte, ne_eq, not_true_eq_false, or_true, and_self]
        omega
      · simp only [h4, h100, h400, ↓reduceIte, ne_eq, not_true_eq_false, or_self, and_false]
        omega
    · have h400 : (n + 1) % 400 ≠ 0 := by omega
      simp only [h4, h100, h400, ↓reduceIte, ne_eq, not_false_eq_true, or_false, and_self]
      omega
  · have h100 : (n + 1) % 100 ≠ 0 := by omega
    have h400 : (n + 1) % 400 ≠ 0 := by omega
    simp only [h4, h100, h400, ↓reduceIte, false_and]
    omega

theorem daysBeforeYear_mono : Monotone daysBeforeYear := by
  apply monotone_nat_of_le_succ
  intro year
  rcases Nat.eq_zero_or_pos year with rfl | hpos
  · decide
  · have hnext := daysBeforeYear_succ hpos
    omega

theorem le_daysBeforeYear (year : ℕ) : (year - 1) * 365 ≤ daysBeforeYear year := by
  have hcenturies : (year - 1) / 100 ≤ (year - 1) / 4 := Nat.div_le_div_left (by omega) (by omega)
  rw [daysBeforeYear]
  omega

theorem daysBeforeMonth_mono (year : ℕ) : Monotone (daysBeforeMonth year) := by
  apply monotone_nat_of_le_succ
  intro month
  cases month with
  | zero => exact le_refl 0
  | succ month => exact Nat.le_add_right _ _

theorem daysBeforeMonth_succ (year : ℕ) {month : ℕ} (h : 1 ≤ month) :
    daysBeforeMonth year (month + 1) = daysBeforeMonth year month + daysInMonth year month := by
  obtain ⟨month, rfl⟩ := Nat.exists_eq_add_of_le' h
  rfl

/-- Twelve months make a year. -/
theorem daysBeforeMonth_end (year : ℕ) : daysBeforeMonth year 13 = daysInYear year := by
  simp only [daysBeforeMonth, daysInMonth, daysInYear]
  split <;> rfl

/-- The days of the year of a time before its day. -/
def dayOfYear (t : DateTime) : ℕ := daysBeforeMonth t.year t.month + (t.day - 1)

theorem dayOfYear_lt_month (t : DateTime) :
    t.dayOfYear < daysBeforeMonth t.year (t.month + 1) := by
  obtain ⟨-, -, hmonth, -, hday, hday'⟩ := t.date_ok
  rw [daysBeforeMonth_succ t.year hmonth, dayOfYear]
  omega

theorem dayOfYear_lt (t : DateTime) : t.dayOfYear < daysInYear t.year := by
  have hmonth := t.date_ok.2.2.2.1
  calc t.dayOfYear < daysBeforeMonth t.year (t.month + 1) := t.dayOfYear_lt_month
    _ ≤ daysBeforeMonth t.year 13 := daysBeforeMonth_mono t.year (by omega)
    _ = daysInYear t.year := daysBeforeMonth_end t.year

/-! The calendar time of an instant. -/

/-- The last year that starts within the days. -/
def yearOf (days : ℕ) : ℕ :=
  Nat.findGreatest (fun year => daysBeforeYear year ≤ days) (days / 365 + 1)

/-- The last month that starts within the days of a year. -/
def monthOf (year days : ℕ) : ℕ :=
  Nat.findGreatest (fun month => daysBeforeMonth year month ≤ days) 12

def ofMicros (n : ℕ) : Option DateTime :=
  let seconds := n / 1000000
  let days := seconds / 86400
  let year := yearOf days
  let day := days - daysBeforeYear year
  let month := monthOf year day
  ofFields (year, month, day - daysBeforeMonth year month + 1)
    (seconds / 3600 % 24, seconds / 60 % 60, seconds % 60, n % 1000000)

theorem yearOf_le (days : ℕ) : daysBeforeYear (yearOf days) ≤ days :=
  Nat.findGreatest_spec (P := fun year => daysBeforeYear year ≤ days) (Nat.zero_le _)
    (Nat.zero_le days)

theorem monthOf_le (year days : ℕ) : daysBeforeMonth year (monthOf year days) ≤ days :=
  Nat.findGreatest_spec (P := fun month => daysBeforeMonth year month ≤ days) (Nat.zero_le _)
    (Nat.zero_le days)

theorem yearOf_days (t : DateTime) : yearOf (daysBeforeYear t.year + t.dayOfYear) = t.year := by
  have hyear := t.date_ok.1
  have hlt := t.dayOfYear_lt
  have hnext := daysBeforeYear_succ hyear
  have hbound := le_daysBeforeYear t.year
  apply Nat.findGreatest_eq_iff.mpr
  refine ⟨by omega, fun _ => Nat.le_add_right _ _, fun year hlater _ => ?_⟩
  have hstart : daysBeforeYear (t.year + 1) ≤ daysBeforeYear year := daysBeforeYear_mono hlater
  omega

theorem monthOf_dayOfYear (t : DateTime) : monthOf t.year t.dayOfYear = t.month := by
  have hlt := t.dayOfYear_lt_month
  apply Nat.findGreatest_eq_iff.mpr
  refine ⟨t.date_ok.2.2.2.1, fun _ => Nat.le_add_right _ _, fun month hlater _ => ?_⟩
  have hstart : daysBeforeMonth t.year (t.month + 1) ≤ daysBeforeMonth t.year month :=
    daysBeforeMonth_mono t.year hlater
  omega

theorem micros_eq (t : DateTime) : t.micros =
    ((((daysBeforeYear t.year + t.dayOfYear) * 24 + t.hour) * 60 + t.minute) * 60 + t.second) *
      1000000 + t.microsecond := by
  rw [micros, dayOfYear, Nat.add_assoc]

/-- The clock is read off the microseconds. -/
theorem clock_of_count {days hour minute second micro : ℕ} (hhour : hour < 24)
    (hminute : minute < 60) (hsecond : second < 60) (hmicro : micro < 1000000) :
    let seconds := ((days * 24 + hour) * 60 + minute) * 60 + second
    (seconds * 1000000 + micro) / 1000000 = seconds ∧ seconds / 86400 = days ∧
      seconds / 3600 % 24 = hour ∧ seconds / 60 % 60 = minute ∧ seconds % 60 = second ∧
      (seconds * 1000000 + micro) % 1000000 = micro := by
  dsimp only
  refine ⟨?_, ?_, ?_, ?_, ?_, ?_⟩ <;> omega

/-- Seconds are counted by days, hours and minutes. -/
theorem seconds_eq (seconds : ℕ) : seconds =
    ((seconds / 86400 * 24 + seconds / 3600 % 24) * 60 + seconds / 60 % 60) * 60 +
      seconds % 60 := by
  have hhours : seconds / 3600 = seconds / 60 / 60 := by rw [Nat.div_div_eq_div_mul]
  have hdays : seconds / 86400 = seconds / 60 / 60 / 24 := by
    rw [Nat.div_div_eq_div_mul, Nat.div_div_eq_div_mul]
  have hsecond := Nat.div_add_mod' seconds 60
  have hminute := Nat.div_add_mod' (seconds / 60) 60
  have hhour := Nat.div_add_mod' (seconds / 60 / 60) 24
  rw [hdays, hhours, hhour, hminute, hsecond]

/-- The clock and the days count the instant they are read off. -/
theorem count_of_clock {n days : ℕ} (h : days = n / 1000000 / 86400) :
    (((days * 24 + n / 1000000 / 3600 % 24) * 60 + n / 1000000 / 60 % 60) * 60 +
      n / 1000000 % 60) * 1000000 + n % 1000000 = n := by
  have hseconds := seconds_eq (n / 1000000)
  rw [← h] at hseconds
  calc _ = n / 1000000 * 1000000 + n % 1000000 :=
        congrArg (fun seconds => seconds * 1000000 + n % 1000000) hseconds.symm
    _ = n := Nat.div_add_mod' n 1000000

theorem ofMicros_micros (t : DateTime) : ofMicros t.micros = some t := by
  obtain ⟨hhour, hminute, hsecond, hmicro⟩ := t.time_ok
  have hday := t.date_ok.2.2.2.2.1
  obtain ⟨hseconds, hdays, hclock⟩ :=
    @clock_of_count (daysBeforeYear t.year + t.dayOfYear) _ _ _ _ hhour hminute hsecond hmicro
  have hdayOf : t.dayOfYear - daysBeforeMonth t.year t.month + 1 = t.day := by
    rw [dayOfYear]
    omega
  rw [ofMicros, micros_eq]
  simp only [hseconds, hdays, hclock, yearOf_days, Nat.add_sub_cancel_left, monthOf_dayOfYear,
    hdayOf]
  exact dif_pos ⟨t.date_ok, t.time_ok⟩

theorem ofFields_eq_some {date : ℕ × ℕ × ℕ} {clock : ℕ × ℕ × ℕ × ℕ} {t : DateTime}
    (h : ofFields date clock = some t) :
    date = (t.year, t.month, t.day) ∧ clock = (t.hour, t.minute, t.second, t.microsecond) := by
  rw [ofFields] at h
  split at h
  · obtain rfl := Option.some.inj h
    exact ⟨rfl, rfl⟩
  · exact absurd h (by simp)

theorem micros_of_ofMicros {n : ℕ} {t : DateTime} (h : ofMicros n = some t) : t.micros = n := by
  obtain ⟨hdate, hclock⟩ := ofFields_eq_some h
  obtain ⟨hyear, hmonth, hday⟩ : yearOf (n / 1000000 / 86400) = t.year ∧ _ = t.month ∧ _ = t.day :=
    by simpa only [Prod.mk.injEq] using hdate
  obtain ⟨hhour, hminute, hsecond, hmicro⟩ := by simpa only [Prod.mk.injEq] using hclock
  have hyears := yearOf_le (n / 1000000 / 86400)
  have hmonths := monthOf_le t.year (n / 1000000 / 86400 - daysBeforeYear t.year)
  rw [hyear] at hyears hmonth hday
  rw [hmonth] at hmonths hday
  rw [micros_eq, dayOfYear, ← hhour, ← hminute, ← hsecond, ← hmicro, ← hday]
  apply count_of_clock
  omega

/-- The calendar time of an instant is the one that counts it. -/
theorem ofMicros_eq_some {n : ℕ} {t : DateTime} : ofMicros n = some t ↔ t.micros = n := by
  constructor
  · exact micros_of_ofMicros
  · rintro rfl
    exact t.ofMicros_micros

theorem micros_injective : Function.Injective micros := by
  intro t u h
  have ht := t.ofMicros_micros
  rw [h, u.ofMicros_micros] at ht
  exact (Option.some.inj ht).symm

end DateTimes.DateTime

namespace DateTimes

/-! Times with an offset from UTC. -/

/-- A calendar time with its offset from UTC in microseconds, if it has one. -/
structure AwareDateTime where
  clock : DateTime
  utcoffset : Option ℤ
  offset_ok : ∀ offset ∈ utcoffset, -86400000000 < offset ∧ offset < 86400000000
  deriving DecidableEq

namespace AwareDateTime

theorem utc_ok : ∀ offset ∈ some (0 : ℤ), -86400000000 < offset ∧ offset < 86400000000 := by decide

/-- The instant in microseconds. -/
def instant (t : AwareDateTime) : Option ℤ := t.utcoffset.map fun offset => t.clock.micros - offset

/-- The time of the instant in UTC, which the calendar may not have. -/
def ensureAwareUtc (t : AwareDateTime) : Except String DateTime :=
  match t.instant with
  | none => .error "timestamp must be timezone-aware"
  | some instant =>
    if instant < 0 then .error "date value out of range"
    else
      match DateTime.ofMicros instant.toNat with
      | none => .error "date value out of range"
      | some utc => .ok utc

theorem ensureAwareUtc_eq_ok {t : AwareDateTime} {utc : DateTime} :
    t.ensureAwareUtc = .ok utc ↔ t.instant = some (utc.micros : ℤ) := by
  rw [ensureAwareUtc]
  cases hinstant : t.instant with
  | none => simp
  | some instant =>
    by_cases hneg : instant < 0
    · simp only [hneg, ↓reduceIte, reduceCtorEq, Option.some.injEq, false_iff]
      omega
    · simp only [hneg, ↓reduceIte, Option.some.injEq]
      have hcount : instant = (utc.micros : ℤ) ↔ utc.micros = instant.toNat := by omega
      rw [hcount, ← DateTime.ofMicros_eq_some]
      cases hmade : DateTime.ofMicros instant.toNat <;> simp

/-- Two times that are accepted are one time in UTC exactly when they are one instant. -/
theorem ensureAwareUtc_eq_iff {t u : AwareDateTime} {t' u' : DateTime}
    (ht : t.ensureAwareUtc = .ok t') (hu : u.ensureAwareUtc = .ok u') :
    t' = u' ↔ t.instant = u.instant := by
  rw [ensureAwareUtc_eq_ok.mp ht, ensureAwareUtc_eq_ok.mp hu, Option.some.injEq, Nat.cast_inj]
  exact DateTime.micros_injective.eq_iff.symm

end AwareDateTime

end DateTimes
