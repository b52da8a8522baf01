import FuturesBot.CapabilityFreshness
import FuturesBot.ManualImports
import FuturesBot.IdStores
import Mathlib.Data.Prod.Lex
import Mathlib.Data.String.Basic

/-! The gateway that resolves the latest capability snapshots for an order: fresh, and from an
official source when the request asks for one. -/
namespace FuturesBot.Venues

open JsonText (Json)
open Checks DateTimes Dicts Orders

/-! The stores. -/

/-- What snapshots of one scope are ordered by: when they were captured, then their ids. -/
def captureKey (captured_at : DateTime) (snapshot_id : DomainId) : ℕ ×ₗ String :=
  toLex (captured_at.micros, snapshot_id.value)

abbrev InMemoryVenueCapabilitySnapshotStore :=
  ScopedStore (fun s : VenueCapabilitySnapshot => s.snapshot_id) fun s => s.venue_id

abbrev InMemoryVenueInstrumentRuleSnapshotStore :=
  ScopedStore (fun r : VenueInstrumentRuleSnapshot => r.snapshot_id)
    fun r => (r.venue_id, r.instrument_id)

def VenueCapabilitySnapshot.capture (s : VenueCapabilitySnapshot) : ℕ ×ₗ String :=
  captureKey s.captured_at s.snapshot_id

def VenueInstrumentRuleSnapshot.capture (r : VenueInstrumentRuleSnapshot) : ℕ ×ₗ String :=
  captureKey r.captured_at r.snapshot_id

/-- The gateway's stores; that of the source records need not be configured. -/
structure ResolutionStores (digests : SourceDigests) where
  venue_snapshots : InMemoryVenueCapabilitySnapshotStore
  instrument_rules : InMemoryVenueInstrumentRuleSnapshotStore
  source_records : Option (KeyedDict digests.recordId)

/-! The canonical JSON that ids are digests of: an integer of more than 4300 digits is not
written. -/

def hasShortText (n : ℤ) : Bool := (JsonText.natText n.natAbs).length ≤ 4300

def VenueCapabilitySnapshot.integers (s : VenueCapabilitySnapshot) : List ℤ :=
  [s.min_gtd_duration_ms, s.dead_man_switch.min_countdown_ms, s.dead_man_switch.max_countdown_ms,
    s.dead_man_switch.recommended_heartbeat_ms].filterMap id ++
  s.rate_limit_profile.toList.flatMap fun p => p.rules.flatMap fun r =>
    (r.window_ms : ℤ) :: [r.max_weight, r.max_orders].filterMap id

def VenueInstrumentRuleSnapshot.integers (r : VenueInstrumentRuleSnapshot) : List ℤ :=
  r.min_gtd_duration_ms.toList ++
    [r.price_filter.price_precision, r.quantity_filter.quantity_precision].filterMap
      (·.map fun n => (n : ℤ))

def VenueCapabilityFreshnessPolicy.integers (p : VenueCapabilityFreshnessPolicy) : List ℤ :=
  [p.max_venue_snapshot_age_ms, p.max_instrument_rules_age_ms, p.max_clock_skew_ms]

/-- A check that all integers of a model can be written. -/
def requireWritten (integers : List ℤ) : Check String :=
  require (∀ n ∈ integers, hasShortText n = true)
    "Exceeds the limit (4300 digits) for integer string conversion"

/-! Requests and decisions. -/

inductive VenueCapabilityResolutionReason where
  | READY
  | VENUE_SNAPSHOT_MISSING
  | INSTRUMENT_RULES_MISSING
  | FRESHNESS_REJECTED
  | SOURCE_PROVENANCE_REQUIRED
  | SOURCE_RECORD_MISSING
  | SOURCE_RECORD_NOT_ACCEPTED
  | SOURCE_RECORD_NOT_OFFICIAL
  | SOURCE_RECORD_NOT_HEALTHY
  | SOURCE_PAYLOAD_HASH_MISMATCH
  | SOURCE_VENUE_MISMATCH
  | SOURCE_PROVENANCE_INVALID
  | VENUE_VALIDATION_CONTEXT_INVALID
  | STORE_CONFLICT
  | REQUEST_VENUE_INSTRUMENT_MISMATCH
  deriving DecidableEq, Repr

def VenueCapabilityResolutionReason.value : VenueCapabilityResolutionReason → String
  | .READY => "READY"
  | .VENUE_SNAPSHOT_MISSING => "VENUE_SNAPSHOT_MISSING"
  | .INSTRUMENT_RULES_MISSING => "INSTRUMENT_RULES_MISSING"
  | .FRESHNESS_REJECTED => "FRESHNESS_REJECTED"
  | .SOURCE_PROVENANCE_REQUIRED => "SOURCE_PROVENANCE_REQUIRED"
  | .SOURCE_RECORD_MISSING => "SOURCE_RECORD_MISSING"
  | .SOURCE_RECORD_NOT_ACCEPTED => "SOURCE_RECORD_NOT_ACCEPTED"
  | .SOURCE_RECORD_NOT_OFFICIAL => "SOURCE_RECORD_NOT_OFFICIAL"
  | .SOURCE_RECORD_NOT_HEALTHY => "SOURCE_RECORD_NOT_HEALTHY"
  | .SOURCE_PAYLOAD_HASH_MISMATCH => "SOURCE_PAYLOAD_HASH_MISMATCH"
  | .SOURCE_VENUE_MISMATCH => "SOURCE_VENUE_MISMATCH"
  | .SOURCE_PROVENANCE_INVALID => "SOURCE_PROVENANCE_INVALID"
  | .VENUE_VALIDATION_CONTEXT_INVALID => "VENUE_VALIDATION_CONTEXT_INVALID"
  | .STORE_CONFLICT => "STORE_CONFLICT"
  | .REQUEST_VENUE_INSTRUMENT_MISMATCH => "REQUEST_VENUE_INSTRUMENT_MISMATCH"

/-- A request, whose id is a digest of its other members. -/
structure VenueCapabilityResolutionRequest where
  request_id : DomainId
  order_intent : OrderIntent
  checked_at : DateTime
  freshness_policy : VenueCapabilityFreshnessPolicy
  source_health : CapabilitySourceHealth
  correlation_id : Option TrimmedText
  require_official_source_provenance : Bool
  written : ∀ n ∈ freshness_policy.integers, hasShortText n = true

structure ResolutionDecisionFields where
  request_id : DomainId
  ready : Bool
  reason : VenueCapabilityResolutionReason
  venue_snapshot : Option VenueCapabilitySnapshot
  instrument_rules : Option VenueInstrumentRuleSnapshot
  freshness_check : Option VenueCapabilityFreshnessCheck
  freshness_decision : Option VenueCapabilityFreshnessDecision
  venue_validation_context : Option VenueOrderValidationContext
  venue_source_record_id : Option DomainId
  instrument_source_record_ids : List DomainId
  provenance_checked : Bool
  provenance_reason : Option String
  provenance_details : Option Json
  checked_at : DateTime
  details : Json

/-- The integers of a decision; its other models hold these again. -/
def ResolutionDecisionFields.integers (d : ResolutionDecisionFields) : List ℤ :=
  d.venue_snapshot.toList.flatMap (·.integers) ++
    d.instrument_rules.toList.flatMap (·.integers) ++
    d.freshness_check.toList.flatMap (·.policy.integers)

def ResolutionDecisionFields.validate (d : ResolutionDecisionFields) : List (Check String) :=
  [require (d.ready = true → d.reason = .READY) "ready=True requires reason READY",
    require (d.ready = true → d.venue_snapshot.isSome = true)
      "ready=True requires venue_snapshot",
    require (d.ready = true → d.instrument_rules.isSome = true)
      "ready=True requires instrument_rules",
    require (d.ready = true → d.freshness_check.isSome = true)
      "ready=True requires freshness_check",
    require (d.ready = true → d.freshness_decision.isSome = true)
      "ready=True requires freshness_decision",
    require (d.ready = true → d.venue_validation_context.isSome = true)
      "ready=True requires venue_validation_context",
    require (d.ready = false → d.reason ≠ .READY) "ready=False requires reason != READY",
    requireWritten d.integers]

structure VenueCapabilityResolutionDecision extends ResolutionDecisionFields where
  valid : checkAll toResolutionDecisionFields.validate = .ok ()

/-- An exception that leaves the gateway. -/
inductive ResolutionError where
  | arithmetic (e : ArithmeticFailure)
  | invalid (message : String)
  deriving DecidableEq

def VenueCapabilityResolutionDecision.of (d : ResolutionDecisionFields) :
    Except ResolutionError VenueCapabilityResolutionDecision :=
  match h : checkAll d.validate with
  | .ok () => .ok ⟨d, h⟩
  | .error message => .error (.invalid message)

/-! The freshness check and the context that the gateway makes. -/

section Models

variable (q : VenueCapabilityResolutionRequest) (venue_snapshot : VenueCapabilitySnapshot)
  (instrument_rules : VenueInstrumentRuleSnapshot)

/-- `VenueCapabilityFreshnessCheck._validate_invariants`. -/
def checkInvariants : List (Check String) :=
  [require (venue_snapshot.venue_id = q.order_intent.venue_id)
      "venue_snapshot.venue_id must match venue_id",
    require (instrument_rules.venue_id = q.order_intent.venue_id)
      "instrument_rules.venue_id must match venue_id",
    require (instrument_rules.instrument_id = q.order_intent.instrument_id)
      "instrument_rules.instrument_id must match instrument_id",
    requireWritten (venue_snapshot.integers ++ instrument_rules.integers)]

theorem checkInvariants_ok :
    checkAll (checkInvariants q venue_snapshot instrument_rules) = .ok () ↔
      venue_snapshot.venue_id = q.order_intent.venue_id ∧
      instrument_rules.venue_id = q.order_intent.venue_id ∧
      instrument_rules.instrument_id = q.order_intent.instrument_id ∧
      ∀ n ∈ venue_snapshot.integers ++ instrument_rules.integers, hasShortText n = true := by
  simp only [checkInvariants, requireWritten, checkAll_require, checkAll_nil, and_true]

def freshnessCheck : Except String VenueCapabilityFreshnessCheck :=
  validated (checkAll (checkInvariants q venue_snapshot instrument_rules)) fun h =>
    have hmatch := (checkInvariants_ok q venue_snapshot instrument_rules).mp h
    { venue_id := q.order_intent.venue_id
      instrument_id := q.order_intent.instrument_id
      venue_snapshot := some venue_snapshot
      instrument_rules := some instrument_rules
      policy := q.freshness_policy
      source_health := q.source_health
      checked_at := q.checked_at
      correlation_id := q.correlation_id
      venue_matches := fun _ hv => Option.some.inj hv ▸ hmatch.1
      rules_match := fun _ hr => Option.some.inj hr ▸ ⟨hmatch.2.1, hmatch.2.2.1⟩ }

/-- `VenueOrderValidationContext._validate_invariants`; there is no reference price. -/
def contextInvariants : List (Check String) :=
  [require (q.order_intent.venue_id = venue_snapshot.venue_id)
      "order_intent venue_id must match venue snapshot",
    require (q.order_intent.venue_id = instrument_rules.venue_id)
      "order_intent venue_id must match instrument rules",
    require (q.order_intent.instrument_id = instrument_rules.instrument_id)
      "order_intent instrument_id must match instrument rules",
    requireWritten (venue_snapshot.integers ++ instrument_rules.integers)]

theorem contextInvariants_ok :
    checkAll (contextInvariants q venue_snapshot instrument_rules) = .ok () ↔
      q.order_intent.venue_id = venue_snapshot.venue_id ∧
      q.order_intent.venue_id = instrument_rules.venue_id ∧
      q.order_intent.instrument_id = instrument_rules.instrument_id ∧
      ∀ n ∈ venue_snapshot.integers ++ instrument_rules.integers, hasShortText n = true := by
  simp only [contextInvariants, requireWritten, checkAll_require, checkAll_nil, and_true]

def validationContext : Except String VenueOrderValidationContext :=
  validated (checkAll (contextInvariants q venue_snapshot instrument_rules)) fun h =>
    have hmatch := (contextInvariants_ok q venue_snapshot instrument_rules).mp h
    { order_intent := q.order_intent
      venue_snapshot
      instrument_rules
      reference_price := none
      requested_at := q.checked_at
      venue_matches := hmatch.1
      rules_match := ⟨hmatch.2.1, hmatch.2.2.1⟩ }

end Models

/-! The provenance of the snapshots. -/

def VenueCapabilitySourceTrust.value : VenueCapabilitySourceTrust → String
  | .OFFICIAL => "OFFICIAL"
  | .MANUAL_REVIEW_REQUIRED => "MANUAL_REVIEW_REQUIRED"
  | .TEST_ONLY => "TEST_ONLY"
  | .UNTRUSTED => "UNTRUSTED"
  | .UNKNOWN => "UNKNOWN"

def VenueCapabilitySourceHealthStatus.value : VenueCapabilitySourceHealthStatus → String
  | .HEALTHY => "HEALTHY"
  | .DEGRADED => "DEGRADED"
  | .UNAVAILABLE => "UNAVAILABLE"
  | .UNKNOWN => "UNKNOWN"

def VenueCapabilitySourceRecordReason.value : VenueCapabilitySourceRecordReason → String
  | .ACCEPTED => "ACCEPTED"
  | .REJECTED_UNTRUSTED => "REJECTED_UNTRUSTED"
  | .REJECTED_UNKNOWN_SOURCE => "REJECTED_UNKNOWN_SOURCE"
  | .REJECTED_PAYLOAD_HASH_MISMATCH => "REJECTED_PAYLOAD_HASH_MISMATCH"
  | .REJECTED_NON_CANONICAL_PAYLOAD => "REJECTED_NON_CANONICAL_PAYLOAD"
  | .REJECTED_SOURCE_TIME_INVALID => "REJECTED_SOURCE_TIME_INVALID"

/-- A failure, whose reason is never READY. -/
structure ProvenanceFailure where
  reason : VenueCapabilityResolutionReason
  details : Json
  refuses : reason ≠ .READY

variable {digests : SourceDigests}

/-- `_provenance_failure`. -/
def provenanceFailure (reason : VenueCapabilityResolutionReason) (label : String)
    (source_record_id : Option DomainId) (details : List (String × Json))
    (h : reason ≠ .READY := by decide) : ProvenanceFailure where
  reason
  details := .obj ([("snapshot_kind", .str label)] ++
    source_record_id.toList.map (fun i => ("source_record_id", .str i.value)) ++ details)
  refuses := h

def missingProvenanceFields (actual : SnapshotProvenanceRef) : List Json :=
  (if actual.source_record_id = none then [.str "source_record_id"] else []) ++
    if actual.source_payload_hash = none then [.str "source_payload_hash"] else []

def validateSourceRecordAuthority (label : String) (venue_id : TrimmedText)
    (source_payload_hash : HexDigest) (r : VenueCapabilitySourceRecord) :
    Option ProvenanceFailure :=
  let failed (reason : VenueCapabilityResolutionReason) (details : List (String × Json))
      (h : reason ≠ .READY) :=
    some (provenanceFailure reason label (digests.recordId r) details h)
  if r.descriptor.venue_id ≠ venue_id then
    failed .SOURCE_VENUE_MISMATCH [("snapshot_venue_id", .str venue_id.value),
      ("source_venue_id", .str r.descriptor.venue_id.value)] (by decide)
  else if r.descriptor.trust ≠ .OFFICIAL then
    failed .SOURCE_RECORD_NOT_OFFICIAL [("source_trust", .str r.descriptor.trust.value)]
      (by decide)
  else if r.health_status ≠ .HEALTHY then
    failed .SOURCE_RECORD_NOT_HEALTHY [("source_health_status", .str r.health_status.value)]
      (by decide)
  else if !r.accepted_for_execution then
    failed .SOURCE_RECORD_NOT_ACCEPTED [("source_record_reason", .str r.reason.value)] (by decide)
  else if source_payload_hash ≠ digests.payloadHash r.payload then
    failed .SOURCE_PAYLOAD_HASH_MISMATCH
      [("snapshot_source_payload_hash", .str source_payload_hash.value),
        ("source_payload_hash", .str (digests.payloadHash r.payload).value)] (by decide)
  else none

def validateSnapshotSourceRecord (label : String) (actual : SnapshotProvenanceRef)
    (source_record_store : Option (KeyedDict digests.recordId)) : Option ProvenanceFailure :=
  match actual.source_record_id, actual.source_payload_hash with
  | some source_record_id, some source_payload_hash =>
    match source_record_store with
    | none => some (provenanceFailure .SOURCE_RECORD_MISSING label source_record_id
        [("message", .str "source record store is not configured")])
    | some records =>
      match records.get? source_record_id with
      | none => some (provenanceFailure .SOURCE_RECORD_MISSING label source_record_id [])
      | some source_record => @validateSourceRecordAuthority digests label actual.venue_id
          source_payload_hash source_record
  | _, _ => some (provenanceFailure .SOURCE_PROVENANCE_REQUIRED label none
      [("missing", .arr (missingProvenanceFields actual))])

def validateRequiredProvenance (q : VenueCapabilityResolutionRequest)
    (venue_snapshot : VenueCapabilitySnapshot) (instrument_rules : VenueInstrumentRuleSnapshot)
    (source_record_store : Option (KeyedDict digests.recordId)) : Option ProvenanceFailure :=
  if !q.require_official_source_provenance then none
  else
    (validateSnapshotSourceRecord "venue_snapshot" venue_snapshot.provenance
      source_record_store).or
    (validateSnapshotSourceRecord "instrument_rules" instrument_rules.provenance
      source_record_store)

/-! The resolution. -/

section Resolve

variable (q : VenueCapabilityResolutionRequest)

/-- `_decision` with its defaults. -/
def resolutionDecision (ready : Bool) (reason : VenueCapabilityResolutionReason) (details : Json) :
    ResolutionDecisionFields where
  request_id := q.request_id
  ready
  reason
  venue_snapshot := none
  instrument_rules := none
  freshness_check := none
  freshness_decision := none
  venue_validation_context := none
  venue_source_record_id := none
  instrument_source_record_ids := []
  provenance_checked := false
  provenance_reason := none
  provenance_details := none
  checked_at := q.checked_at
  details

variable (stores : ResolutionStores digests) (venue_snapshot : VenueCapabilitySnapshot)
  (instrument_rules : VenueInstrumentRuleSnapshot)

/-- The members of a decision on both snapshots. -/
def onSnapshots (d : ResolutionDecisionFields) : ResolutionDecisionFields :=
  { d with venue_snapshot := some venue_snapshot, instrument_rules := some instrument_rules }

/-- The members of a decision after the freshness of the snapshots. -/
def afterFreshness (check : VenueCapabilityFreshnessCheck)
    (freshness : VenueCapabilityFreshnessDecision) (d : ResolutionDecisionFields) :
    ResolutionDecisionFields :=
  { onSnapshots venue_snapshot instrument_rules d with
    freshness_check := some check, freshness_decision := some freshness }

/-- What a model's own error is reported as. -/
def invalidModelDetails (message error : String) : Json :=
  .obj [("message", .str message), ("errors", jsonableErrors error)]

/-- The decision of two snapshots that are fresh and have the provenance that is required. -/
def resolveContext (check : VenueCapabilityFreshnessCheck)
    (freshness : VenueCapabilityFreshnessDecision) :
    Except ResolutionError VenueCapabilityResolutionDecision :=
  match validationContext q venue_snapshot instrument_rules with
  | .error message =>
    VenueCapabilityResolutionDecision.of
      (afterFreshness venue_snapshot instrument_rules check freshness
        (resolutionDecision q false .VENUE_VALIDATION_CONTEXT_INVALID
          (invalidModelDetails "venue validation context invalid" message)))
  | .ok context => VenueCapabilityResolutionDecision.of
      { afterFreshness venue_snapshot instrument_rules check freshness
          (resolutionDecision q true .READY
            (.obj [("venue_snapshot_id", .str venue_snapshot.snapshot_id.value),
              ("instrument_rule_snapshot_id", .str instrument_rules.snapshot_id.value),
              ("freshness_reason", .str freshness.reason.value)])) with
        venue_validation_context := some context
        venue_source_record_id := venue_snapshot.source_record_id
        instrument_source_record_ids := instrument_rules.source_record_id.toList
        provenance_checked := q.require_official_source_provenance
        provenance_reason :=
          if q.require_official_source_provenance then some "PROVENANCE_OK" else none
        provenance_details :=
          if q.require_official_source_provenance then
            some (.obj [
              ("venue_source_record_id",
                .str ((venue_snapshot.source_record_id.map (·.value)).getD "None")),
              ("instrument_source_record_ids", .arr
                [.str ((instrument_rules.source_record_id.map (·.value)).getD "None")])])
          else none }

/-- The decision of two snapshots that are fresh. -/
def resolveProvenance (check : VenueCapabilityFreshnessCheck)
    (freshness : VenueCapabilityFreshnessDecision) :
    Except ResolutionError VenueCapabilityResolutionDecision :=
  match validateRequiredProvenance q venue_snapshot instrument_rules stores.source_records with
  | some failure => VenueCapabilityResolutionDecision.of
      { afterFreshness venue_snapshot instrument_rules check freshness
          (resolutionDecision q false failure.reason
            (.obj [("freshness_reason", .str freshness.reason.value),
              ("provenance_reason", .str failure.reason.value),
              ("provenance_details", failure.details)])) with
        venue_source_record_id := venue_snapshot.source_record_id
        instrument_source_record_ids := instrument_rules.source_record_id.toList
        provenance_checked := true
        provenance_reason := some failure.reason.value
        provenance_details := some failure.details }
  | none => resolveContext q venue_snapshot instrument_rules check freshness

/-- The decision of the two latest snapshots. -/
def resolveSnapshots : Except ResolutionError VenueCapabilityResolutionDecision :=
  match freshnessCheck q venue_snapshot instrument_rules with
  | .error message =>
    VenueCapabilityResolutionDecision.of (onSnapshots venue_snapshot instrument_rules
      (resolutionDecision q false .REQUEST_VENUE_INSTRUMENT_MISMATCH
        (invalidModelDetails "freshness check context invalid" message)))
  | .ok check =>
    match validateVenueCapabilityFreshness check with
    | .error e => .error (.arithmetic e)
    | .ok freshness =>
      if !freshness.fresh then
        VenueCapabilityResolutionDecision.of
          (afterFreshness venue_snapshot instrument_rules check freshness
            (resolutionDecision q false .FRESHNESS_REJECTED
              (.obj [("freshness_reason", .str freshness.reason.value),
                ("freshness_details", freshness.details)])))
      else resolveProvenance q stores venue_snapshot instrument_rules check freshness

/-- `DeterministicVenueCapabilityResolutionGateway.resolve`. -/
def resolve : Except ResolutionError VenueCapabilityResolutionDecision :=
  let order := q.order_intent
  match stores.venue_snapshots.latest VenueCapabilitySnapshot.capture order.venue_id with
  | none => VenueCapabilityResolutionDecision.of (resolutionDecision q false .VENUE_SNAPSHOT_MISSING
      (.obj [("venue_id", .str order.venue_id.value)]))
  | some venue_snapshot =>
    match stores.instrument_rules.latest VenueInstrumentRuleSnapshot.capture
        (order.venue_id, order.instrument_id) with
    | none => VenueCapabilityResolutionDecision.of
        { resolutionDecision q false .INSTRUMENT_RULES_MISSING
            (.obj [("venue_id", .str order.venue_id.value),
              ("instrument_id", .str order.instrument_id.value)]) with
          venue_snapshot := some venue_snapshot }
    | some instrument_rules => resolveSnapshots q stores venue_snapshot instrument_rules

end Resolve

end FuturesBot.Venues
