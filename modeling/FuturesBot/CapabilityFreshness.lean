import FuturesBot.BinaryFloats
import FuturesBot.VenueValidation

/-! The freshness of capability snapshots: how old they may be, and the check of two snapshots
against a policy at a given time. -/
namespace FuturesBot

open JsonText (Json Text)
open DateTimes

/-- The last instant a datetime can hold. -/
def lastMicros : ℕ := DateTime.daysBeforeYear 10000 * 86400000000 - 1

namespace Venues

inductive CapabilitySourceHealth where
  | HEALTHY
  | DEGRADED
  | UNAVAILABLE
  | UNKNOWN
  deriving DecidableEq, Repr

def CapabilitySourceHealth.value : CapabilitySourceHealth → String
  | .HEALTHY => "HEALTHY"
  | .DEGRADED => "DEGRADED"
  | .UNAVAILABLE => "UNAVAILABLE"
  | .UNKNOWN => "UNKNOWN"

inductive CapabilityFreshnessDecisionReason where
  | FRESH
  | VENUE_SNAPSHOT_MISSING
  | INSTRUMENT_RULES_MISSING
  | VENUE_SNAPSHOT_STALE
  | INSTRUMENT_RULES_STALE
  | VENUE_SNAPSHOT_FROM_FUTURE
  | INSTRUMENT_RULES_FROM_FUTURE
  | SOURCE_HEALTH_DEGRADED
  | SOURCE_HEALTH_UNAVAILABLE
  | SOURCE_HEALTH_UNKNOWN
  | VENUE_ID_MISMATCH
  | INSTRUMENT_ID_MISMATCH
  | POLICY_DISABLED
  deriving DecidableEq, Repr

def CapabilityFreshnessDecisionReason.value : CapabilityFreshnessDecisionReason → String
  | .FRESH => "FRESH"
  | .VENUE_SNAPSHOT_MISSING => "VENUE_SNAPSHOT_MISSING"
  | .INSTRUMENT_RULES_MISSING => "INSTRUMENT_RULES_MISSING"
  | .VENUE_SNAPSHOT_STALE => "VENUE_SNAPSHOT_STALE"
  | .INSTRUMENT_RULES_STALE => "INSTRUMENT_RULES_STALE"
  | .VENUE_SNAPSHOT_FROM_FUTURE => "VENUE_SNAPSHOT_FROM_FUTURE"
  | .INSTRUMENT_RULES_FROM_FUTURE => "INSTRUMENT_RULES_FROM_FUTURE"
  | .SOURCE_HEALTH_DEGRADED => "SOURCE_HEALTH_DEGRADED"
  | .SOURCE_HEALTH_UNAVAILABLE => "SOURCE_HEALTH_UNAVAILABLE"
  | .SOURCE_HEALTH_UNKNOWN => "SOURCE_HEALTH_UNKNOWN"
  | .VENUE_ID_MISMATCH => "VENUE_ID_MISMATCH"
  | .INSTRUMENT_ID_MISMATCH => "INSTRUMENT_ID_MISMATCH"
  | .POLICY_DISABLED => "POLICY_DISABLED"

inductive CapabilityFreshnessMode where
  | STRICT
  | ALLOW_DEGRADED_READ_ONLY
  | DISABLED
  deriving DecidableEq, Repr

structure VenueCapabilityFreshnessPolicy where
  policy_id : DomainId
  mode : CapabilityFreshnessMode
  max_venue_snapshot_age_ms : ℕ
  max_instrument_rules_age_ms : ℕ
  max_clock_skew_ms : ℕ
  reject_future_snapshots : Bool
  reject_degraded_source : Bool
  reject_unknown_source : Bool
  require_venue_snapshot : Bool
  require_instrument_rules : Bool
  positive : 0 < max_venue_snapshot_age_ms ∧ 0 < max_instrument_rules_age_ms
  strict : mode = .STRICT → reject_future_snapshots = true ∧ reject_degraded_source = true ∧
    reject_unknown_source = true ∧ require_venue_snapshot = true ∧
    require_instrument_rules = true
  deriving DecidableEq

structure VenueCapabilityFreshnessCheck where
  venue_id : TrimmedText
  instrument_id : TrimmedText
  venue_snapshot : Option VenueCapabilitySnapshot
  instrument_rules : Option VenueInstrumentRuleSnapshot
  policy : VenueCapabilityFreshnessPolicy
  source_health : CapabilitySourceHealth
  checked_at : DateTime
  correlation_id : Option TrimmedText
  venue_matches : ∀ v ∈ venue_snapshot, v.venue_id = venue_id
  rules_match : ∀ r ∈ instrument_rules, r.venue_id = venue_id ∧ r.instrument_id = instrument_id
  deriving DecidableEq

structure VenueCapabilityFreshnessDecision where
  fresh : Bool
  reason : CapabilityFreshnessDecisionReason
  venue_snapshot_age_ms : Option ℕ
  instrument_rules_age_ms : Option ℕ
  details : Json
  fresh_iff : fresh = true ↔ reason = .FRESH ∨ reason = .POLICY_DISABLED

/-- `_decision`, where `fresh` is given by the reason. -/
def freshnessDecision (reason : CapabilityFreshnessDecisionReason) (details : Json)
    (venue_snapshot_age_ms instrument_rules_age_ms : Option ℕ) :
    VenueCapabilityFreshnessDecision where
  fresh := reason = .FRESH ∨ reason = .POLICY_DISABLED
  reason
  venue_snapshot_age_ms
  instrument_rules_age_ms
  details
  fresh_iff := decide_eq_true_iff

/-- Milliseconds from one time to another. -/
def millisBetween (start stop : DateTime) : ℤ :=
  BinaryFloats.millisOfMicros (stop.micros - start.micros)

def ageMs (check : VenueCapabilityFreshnessCheck) (captured_at : DateTime) : ℕ :=
  (millisBetween captured_at check.checked_at).toNat

section Rejections

variable (check : VenueCapabilityFreshnessCheck)

abbrev Rejection := Bool × (CapabilityFreshnessDecisionReason × Json)

/-- What is checked before any time is compared. -/
def identityRejections : List Rejection :=
  let mismatch (reason : CapabilityFreshnessDecisionReason) (expected actual : TrimmedText) :
      Rejection :=
    (expected ≠ actual, reason,
      .obj [("expected", .str expected.value), ("actual", .str actual.value)])
  let health (found : CapabilitySourceHealth) (rejects : Bool)
      (reason : CapabilityFreshnessDecisionReason) : Rejection :=
    (decide (check.source_health = found) && rejects, reason,
      .obj [("source_health", .str check.source_health.value)])
  [(check.policy.require_venue_snapshot && check.venue_snapshot.isNone, .VENUE_SNAPSHOT_MISSING,
      .obj [("venue_id", .str check.venue_id.value)]),
    (check.policy.require_instrument_rules && check.instrument_rules.isNone,
      .INSTRUMENT_RULES_MISSING, .obj [("venue_id", .str check.venue_id.value),
        ("instrument_id", .str check.instrument_id.value)])] ++
    check.venue_snapshot.toList.map (fun v =>
      mismatch .VENUE_ID_MISMATCH check.venue_id v.venue_id) ++
    check.instrument_rules.toList.flatMap (fun r =>
      [mismatch .VENUE_ID_MISMATCH check.venue_id r.venue_id,
        mismatch .INSTRUMENT_ID_MISMATCH check.instrument_id r.instrument_id]) ++
    [health .UNAVAILABLE true .SOURCE_HEALTH_UNAVAILABLE,
      health .UNKNOWN check.policy.reject_unknown_source .SOURCE_HEALTH_UNKNOWN,
      health .DEGRADED check.policy.reject_degraded_source .SOURCE_HEALTH_DEGRADED]

/-- A snapshot captured after the latest time the clocks allow. -/
def futureRejection (captured_at : DateTime) (reason : CapabilityFreshnessDecisionReason) :
    Rejection :=
  (check.policy.reject_future_snapshots &&
      decide (check.checked_at.micros + 1000 * check.policy.max_clock_skew_ms <
        captured_at.micros), reason,
    .obj [("captured_at", .str (isoformat captured_at)),
      ("checked_at", .str (isoformat check.checked_at)),
      ("max_clock_skew_ms", .int check.policy.max_clock_skew_ms)])

def staleRejection (captured_at : DateTime) (max_age_ms : ℕ) (age_name : String)
    (reason : CapabilityFreshnessDecisionReason) : Rejection :=
  (max_age_ms < ageMs check captured_at, reason,
    .obj [("max_" ++ age_name, .int max_age_ms), (age_name, .int (ageMs check captured_at))])

def captureTime : Option DateTime := check.venue_snapshot.map (·.captured_at)

def rulesTime : Option DateTime := check.instrument_rules.map (·.captured_at)

def futureRejections : List Rejection :=
  (captureTime check).toList.map (futureRejection check · .VENUE_SNAPSHOT_FROM_FUTURE) ++
    (rulesTime check).toList.map (futureRejection check · .INSTRUMENT_RULES_FROM_FUTURE)

def staleRejections : List Rejection :=
  (captureTime check).toList.map (staleRejection check ·
      check.policy.max_venue_snapshot_age_ms "venue_snapshot_age_ms" .VENUE_SNAPSHOT_STALE) ++
    (rulesTime check).toList.map (staleRejection check ·
      check.policy.max_instrument_rules_age_ms "instrument_rules_age_ms" .INSTRUMENT_RULES_STALE)

def freshDetails : Json :=
  .obj (("source_health", .str check.source_health.value) ::
    match captureTime check, rulesTime check with
    | some venue, some rules =>
      [("snapshot_capture_delta_ms", .int (millisBetween venue rules))]
    | _, _ => [])

/-- The first rejection that applies. -/
def firstRejection : List Rejection → Option (CapabilityFreshnessDecisionReason × Json) :=
  fun checks => Assets.firstReason none (checks.map fun c => (c.1, some c.2))

end Rejections

def validateVenueCapabilityFreshness (check : VenueCapabilityFreshnessCheck) :
    Except ArithmeticFailure VenueCapabilityFreshnessDecision :=
  if check.policy.mode = .DISABLED then
    .ok (freshnessDecision .POLICY_DISABLED
      (.obj [("message", .str "venue capability freshness policy disabled")]) none none)
  else
    match firstRejection (identityRejections check) with
    | some (reason, details) => .ok (freshnessDecision reason details none none)
    | none =>
      -- the latest time the clocks allow may lie past the last datetime
      if lastMicros < check.checked_at.micros + 1000 * check.policy.max_clock_skew_ms then
        .error .datetime
      else
        match firstRejection (futureRejections check) with
        | some (reason, details) => .ok (freshnessDecision reason details none none)
        | none =>
          let venue_age_ms := (captureTime check).map (ageMs check)
          let rules_age_ms := (rulesTime check).map (ageMs check)
          match firstRejection (staleRejections check) with
          | some (reason, details) =>
            .ok (freshnessDecision reason details venue_age_ms rules_age_ms)
          | none => .ok (freshnessDecision .FRESH (freshDetails check) venue_age_ms rules_age_ms)

end Venues

end FuturesBot
