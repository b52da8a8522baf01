import FuturesBot.FloatOrder
import FuturesBot.ResolutionSoundness

/-! The freshness of two snapshots against their exact ages: what the ages in whole milliseconds,
as they are computed, decide about it. -/
namespace FuturesBot.Venues

open JsonText (Json)
open DateTimes

theorem firstRejection_eq_none {checks : List Rejection} :
    firstRejection checks = none ↔ ∀ c ∈ checks, c.1 = false := by
  rw [firstRejection]
  induction checks with
  | nil => simp [Assets.firstReason]
  | cons c checks ih =>
    rw [List.map_cons, Assets.firstReason, List.forall_mem_cons, ← ih]
    cases hc : c.1 <;> simp

/-- A check of two snapshots from a healthy source, by a policy that is on and refuses snapshots
from the future. -/
structure Enabled (check : VenueCapabilityFreshnessCheck) (v : VenueCapabilitySnapshot)
    (r : VenueInstrumentRuleSnapshot) : Prop where
  venue : check.venue_snapshot = some v
  rules : check.instrument_rules = some r
  healthy : check.source_health = .HEALTHY
  mode : check.policy.mode ≠ .DISABLED
  future : check.policy.reject_future_snapshots = true

/-- The exact age, in milliseconds. -/
def exactAge (check : VenueCapabilityFreshnessCheck) (captured_at : DateTime) : ℚ :=
  ((check.checked_at.micros : ℚ) - captured_at.micros) / 1000

/-- The snapshot is not captured after the latest time that the clocks allow. -/
def InTime (check : VenueCapabilityFreshnessCheck) (captured_at : DateTime) : Prop :=
  captured_at.micros ≤ check.checked_at.micros + 1000 * check.policy.max_clock_skew_ms

/-- The latest time that the clocks allow is a datetime. -/
def HasDeadline (check : VenueCapabilityFreshnessCheck) : Prop :=
  check.checked_at.micros + 1000 * check.policy.max_clock_skew_ms ≤ lastMicros

def IsFresh (check : VenueCapabilityFreshnessCheck) : Prop :=
  ∃ d, validateVenueCapabilityFreshness check = .ok d ∧ d.reason = .FRESH

def IsStale (check : VenueCapabilityFreshnessCheck) : Prop :=
  ∃ d, validateVenueCapabilityFreshness check = .ok d ∧
    (d.reason = .VENUE_SNAPSHOT_STALE ∨ d.reason = .INSTRUMENT_RULES_STALE)

/-- Both ages in whole milliseconds lie within their maxima. -/
def AgesWithin (check : VenueCapabilityFreshnessCheck) (v : VenueCapabilitySnapshot)
    (r : VenueInstrumentRuleSnapshot) : Prop :=
  ageMs check v.captured_at ≤ check.policy.max_venue_snapshot_age_ms ∧
    ageMs check r.captured_at ≤ check.policy.max_instrument_rules_age_ms

variable {check : VenueCapabilityFreshnessCheck} {v : VenueCapabilitySnapshot}
  {r : VenueInstrumentRuleSnapshot}

theorem Enabled.identity (h : Enabled check v r) :
    firstRejection (identityRejections check) = none := by
  have hvenue := check.venue_matches v h.venue
  obtain ⟨hrulesVenue, hrulesInstrument⟩ := check.rules_match r h.rules
  rw [firstRejection_eq_none]
  simp [identityRejections, h.venue, h.rules, h.healthy, hvenue, hrulesVenue, hrulesInstrument]

theorem Enabled.future_none (h : Enabled check v r) :
    firstRejection (futureRejections check) = none ↔
      InTime check v.captured_at ∧ InTime check r.captured_at := by
  rw [firstRejection_eq_none]
  simp [futureRejections, captureTime, rulesTime, h.venue, h.rules, futureRejection, h.future,
    InTime]

theorem Enabled.stale_none (h : Enabled check v r) :
    firstRejection (staleRejections check) = none ↔ AgesWithin check v r := by
  rw [firstRejection_eq_none]
  simp [staleRejections, captureTime, rulesTime, h.venue, h.rules, staleRejection, AgesWithin]

theorem Enabled.validate_eq (h : Enabled check v r) (hdeadline : HasDeadline check) :
    validateVenueCapabilityFreshness check =
      match firstRejection (futureRejections check) with
      | some (reason, details) => .ok (freshnessDecision reason details none none)
      | none =>
        match firstRejection (staleRejections check) with
        | some (reason, details) =>
          .ok (freshnessDecision reason details ((captureTime check).map (ageMs check))
            ((rulesTime check).map (ageMs check)))
        | none => .ok (freshnessDecision .FRESH (freshDetails check)
            ((captureTime check).map (ageMs check)) ((rulesTime check).map (ageMs check))) := by
  rw [validateVenueCapabilityFreshness, if_neg h.mode, h.identity]
  dsimp only
  exact if_neg (Nat.not_lt.mpr hdeadline)

/-- Two snapshots are fresh exactly when the latest allowed time exists, neither comes from after
it, and both ages in whole milliseconds are within their maxima; they are stale exactly when only
the last fails. -/
theorem Enabled.outcome (h : Enabled check v r) :
    (IsFresh check ↔ HasDeadline check ∧
      (InTime check v.captured_at ∧ InTime check r.captured_at) ∧ AgesWithin check v r) ∧
    (IsStale check ↔ HasDeadline check ∧
      (InTime check v.captured_at ∧ InTime check r.captured_at) ∧ ¬ AgesWithin check v r) := by
  unfold IsFresh IsStale
  by_cases hdeadline : HasDeadline check
  · rw [h.validate_eq hdeadline, ← h.future_none, ← h.stale_none]
    cases hfuture : firstRejection (futureRejections check) with
    | some found =>
      obtain ⟨c, hc, hfound⟩ := List.mem_map.mp (firstRejection_mem hfuture)
      have hreason : found.1 = .VENUE_SNAPSHOT_FROM_FUTURE ∨
          found.1 = .INSTRUMENT_RULES_FROM_FUTURE := by
        simp only [futureRejections, List.mem_append, List.mem_map] at hc
        rcases hc with ⟨t, _, rfl⟩ | ⟨t, _, rfl⟩
        · exact .inl (congrArg Prod.fst hfound.symm)
        · exact .inr (congrArg Prod.fst hfound.symm)
      rcases hreason with hreason | hreason <;> simp [freshnessDecision, hreason]
    | none =>
      cases hstale : firstRejection (staleRejections check) with
      | some found =>
        obtain ⟨c, hc, hfound⟩ := List.mem_map.mp (firstRejection_mem hstale)
        have hreason : found.1 = .VENUE_SNAPSHOT_STALE ∨ found.1 = .INSTRUMENT_RULES_STALE := by
          simp only [staleRejections, List.mem_append, List.mem_map] at hc
          rcases hc with ⟨t, _, rfl⟩ | ⟨t, _, rfl⟩
          · exact .inl (congrArg Prod.fst hfound.symm)
          · exact .inr (congrArg Prod.fst hfound.symm)
        rcases hreason with hreason | hreason <;>
          simp [freshnessDecision, hreason, hdeadline]
      | none => simp [freshnessDecision, hdeadline]
  · -- the sum of the check time and the skew is no datetime, and the addition raises
    have herror : validateVenueCapabilityFreshness check = .error .datetime := by
      rw [validateVenueCapabilityFreshness, if_neg h.mode, h.identity]
      dsimp only
      rw [if_pos (Nat.lt_of_not_le hdeadline)]
    simp [herror, hdeadline]

/-! Ages. -/

theorem ageMs_eq_zero {captured_at : DateTime}
    (h : check.checked_at.micros ≤ captured_at.micros) : ageMs check captured_at = 0 := by
  have hsign : ((check.checked_at.micros : ℤ) - captured_at.micros).sign ≤ 0 := by
    rw [Int.sign_nonpos_iff]
    omega
  rw [ageMs, millisBetween, BinaryFloats.millisOfMicros, Int.toNat_eq_zero]
  exact mul_nonpos_of_nonpos_of_nonneg hsign (Int.natCast_nonneg _)

theorem ageMs_eq {captured_at : DateTime} (h : captured_at.micros ≤ check.checked_at.micros) :
    (ageMs check captured_at : ℤ) =
      BinaryFloats.millisOfMicros ((check.checked_at.micros - captured_at.micros : ℕ) : ℤ) := by
  rw [ageMs, millisBetween, Nat.cast_sub h]
  have hcast := BinaryFloats.millisOfMicros_natCast (check.checked_at.micros - captured_at.micros)
  rw [Nat.cast_sub h] at hcast
  rw [hcast, Int.toNat_natCast]

/-- An exact age within a maximum is within it in whole milliseconds. -/
theorem ageMs_le_of_exact {captured_at : DateTime} {m : ℕ} (h : exactAge check captured_at ≤ m) :
    ageMs check captured_at ≤ m := by
  rcases Nat.le_total check.checked_at.micros captured_at.micros with hlate | hearly
  · rw [ageMs_eq_zero hlate]
    exact Nat.zero_le m
  · have hmicros : check.checked_at.micros - captured_at.micros ≤ 1000 * m := by
      rw [exactAge, div_le_iff₀ (by norm_num)] at h
      have hq : (check.checked_at.micros : ℚ) ≤ 1000 * m + captured_at.micros := by linarith
      have hnat : check.checked_at.micros ≤ 1000 * m + captured_at.micros := by exact_mod_cast hq
      omega
    have hlt := check.checked_at.micros_lt
    have hle := BinaryFloats.millisOfMicros_le hmicros (by omega)
    rw [← ageMs_eq hearly] at hle
    exact_mod_cast hle

/-- An age within a maximum in whole milliseconds is exactly less than two more. -/
theorem exact_lt_of_ageMs {captured_at : DateTime} {m : ℕ} (h : ageMs check captured_at ≤ m) :
    exactAge check captured_at < m + 2 := by
  rw [exactAge, div_lt_iff₀ (by norm_num)]
  rcases Nat.le_total check.checked_at.micros captured_at.micros with hlate | hearly
  · have hq : (check.checked_at.micros : ℚ) ≤ captured_at.micros := by exact_mod_cast hlate
    have hm : (0 : ℚ) ≤ m := Nat.cast_nonneg m
    linarith
  · have hlt := check.checked_at.micros_lt
    have hmillis : BinaryFloats.millisOfMicros
        ((check.checked_at.micros - captured_at.micros : ℕ) : ℤ) ≤ m := by
      rw [← ageMs_eq hearly]
      exact_mod_cast h
    have hmicros := BinaryFloats.lt_of_millisOfMicros_le hmillis (by omega)
    have hnat : check.checked_at.micros < 1000 * (m + 2) + captured_at.micros := by omega
    have hq : (check.checked_at.micros : ℚ) < 1000 * (m + 2) + captured_at.micros := by
      exact_mod_cast hnat
    linarith

/-- At a later check a snapshot is not younger. -/
theorem ageMs_mono {later : VenueCapabilityFreshnessCheck} {captured_at : DateTime}
    (h : check.checked_at ≤ later.checked_at) :
    ageMs check captured_at ≤ ageMs later captured_at := by
  rw [DateTime.le_iff] at h
  rcases Nat.le_total check.checked_at.micros captured_at.micros with hlate | hearly
  · rw [ageMs_eq_zero hlate]
    exact Nat.zero_le _
  · have hmono := BinaryFloats.millisOfMicros_mono (a := check.checked_at.micros - captured_at.micros)
      (b := later.checked_at.micros - captured_at.micros) (by omega)
    rw [← ageMs_eq hearly, ← ageMs_eq (hearly.trans h)] at hmono
    exact_mod_cast hmono

/-- Two snapshots are fresh exactly when the latest allowed time is a datetime, neither comes from
after it, and their ages as they are counted in milliseconds are within the maxima; exact ages
within the maxima are counted so, and ages counted so are exactly less than two milliseconds above
them. What is stale at one check is not fresh at any later one. -/
theorem freshness_bounds (h : Enabled check v r) :
    (IsFresh check ↔ HasDeadline check ∧
      (InTime check v.captured_at ∧ InTime check r.captured_at) ∧ AgesWithin check v r) ∧
    (exactAge check v.captured_at ≤ check.policy.max_venue_snapshot_age_ms →
      exactAge check r.captured_at ≤ check.policy.max_instrument_rules_age_ms →
        AgesWithin check v r) ∧
    (AgesWithin check v r →
      exactAge check v.captured_at < check.policy.max_venue_snapshot_age_ms + 2 ∧
        exactAge check r.captured_at < check.policy.max_instrument_rules_age_ms + 2) ∧
    ∀ later, Enabled later v r → later.policy = check.policy →
      check.checked_at ≤ later.checked_at → IsStale check → ¬ IsFresh later := by
  refine ⟨h.outcome.1, fun hv hr => ⟨ageMs_le_of_exact hv, ageMs_le_of_exact hr⟩,
    fun hages => ⟨exact_lt_of_ageMs hages.1, exact_lt_of_ageMs hages.2⟩,
    fun later hlater hpolicy htime hstale hfresh => ?_⟩
  obtain ⟨_, _, hold⟩ := h.outcome.2.mp hstale
  obtain ⟨_, _, hvage, hrage⟩ := hlater.outcome.1.mp hfresh
  rw [hpolicy] at hvage hrage
  exact hold ⟨(ageMs_mono htime).trans hvage, (ageMs_mono htime).trans hrage⟩

/-! Snapshots half a millisecond older than the maximum of a second. -/

/-- One second and half a millisecond after the snapshots. -/
def lateTime : DateTime :=
  { sampleTime with second := 6, microsecond := 500, time_ok := by decide }

def lateCheck : VenueCapabilityFreshnessCheck where
  venue_id := ⟨"BINANCE", .checked evaluates⟩
  instrument_id := ⟨"BTCUSDT-PERP", .checked evaluates⟩
  venue_snapshot := some sampleVenue
  instrument_rules := some (sampleRule ⟨"BTCUSDT", .checked evaluates⟩)
  policy := strictPolicy 0
  source_health := .HEALTHY
  checked_at := lateTime
  correlation_id := none
  venue_matches v hv := by
    obtain rfl := Option.some.inj hv
    rfl
  rules_match r hr := by
    obtain rfl := Option.some.inj hr
    exact ⟨rfl, rfl⟩

theorem lateCheck_enabled : Enabled lateCheck sampleVenue (sampleRule ⟨"BTCUSDT", by decide⟩) :=
  ⟨rfl, rfl, rfl, by decide, rfl⟩

theorem late_check_bounds :
    IsFresh lateCheck ↔ HasDeadline lateCheck ∧
      (InTime lateCheck sampleTime ∧ InTime lateCheck sampleTime) ∧
        AgesWithin lateCheck sampleVenue (sampleRule ⟨"BTCUSDT", by decide⟩) :=
  (freshness_bounds lateCheck_enabled).1

/-- The snapshots are older than the maximum, and fresh. -/
theorem half_millisecond_fresh :
    ¬ (IsFresh lateCheck ↔ (InTime lateCheck sampleTime ∧ InTime lateCheck sampleTime) ∧
      exactAge lateCheck sampleTime ≤ lateCheck.policy.max_venue_snapshot_age_ms ∧
      exactAge lateCheck sampleTime ≤ lateCheck.policy.max_instrument_rules_age_ms) := by
  have hfresh : IsFresh lateCheck := by
    refine lateCheck_enabled.outcome.1.mpr ⟨?_, ⟨?_, ?_⟩, ?_, ?_⟩
    · unfold HasDeadline
      decide +kernel
    · unfold InTime
      decide +kernel
    · unfold InTime
      decide +kernel
    · decide +kernel
    · decide +kernel
  have hage : ¬ exactAge lateCheck sampleTime ≤ lateCheck.policy.max_venue_snapshot_age_ms := by
    have hlate : lateCheck.checked_at.micros = sampleTime.micros + 1000500 := by decide +kernel
    have hmax : lateCheck.policy.max_venue_snapshot_age_ms = 1000 := rfl
    rw [exactAge, hlate, hmax]
    push_cast
    rw [add_sub_cancel_left]
    norm_num
  intro hiff
  exact hage (hiff.mp hfresh).2.1

end FuturesBot.Venues
