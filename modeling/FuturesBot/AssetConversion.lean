import FuturesBot.Checks
import FuturesBot.FloatAges
import FuturesBot.Journal

/-! Whether amounts in one asset may be valued in another: rate snapshots, the policy they are held
against, and the decision made from a rate, an inverse rate or a chain of earlier decisions. -/
namespace FuturesBot.Conversion

open JsonText (Json)
open DateTimes DecimalNumbers Checks

inductive AssetConversionEvidenceKind where
  | DIRECT_PAIR_RATE
  | INVERSE_PAIR_RATE
  | TRIANGULATED_RATE
  | REFERENCE_INDEX_VALUE
  | MANUAL_OFFICIAL_RATE
  | UNKNOWN
  deriving DecidableEq, Repr

inductive AssetConversionDecisionReason where
  | READY
  | POLICY_DISABLED
  | FROM_ASSET_MISSING
  | TO_ASSET_MISSING
  | SAME_ASSET_DIRECT_MATCH
  | CONVERSION_RATE_MISSING
  | CONVERSION_RATE_STALE
  | CONVERSION_RATE_FUTURE_DATED
  | CONVERSION_SOURCE_UNTRUSTED
  | CONVERSION_SOURCE_UNHEALTHY
  | CONVERSION_PAIR_MISMATCH
  | CONVERSION_DIRECTION_NOT_ALLOWED
  | CONVERSION_SPREAD_TOO_WIDE
  | TRIANGULATION_NOT_ALLOWED
  | TRIANGULATION_LEG_MISSING
  | TRIANGULATION_LEG_NOT_READY
  | NOT_READY
  | UNKNOWN
  deriving DecidableEq, Repr

inductive AssetConversionCompatibility where
  | DIRECT_SAME_ASSET
  | DIRECT_RATE
  | INVERSE_RATE
  | TRIANGULATED_RATE
  | NOT_COMPATIBLE
  | UNKNOWN
  deriving DecidableEq, Repr

inductive AssetConversionSourceKind where
  | MARK_PRICE
  | INDEX_PRICE
  | ORACLE_PRICE
  | VENUE_ACCOUNT_PRICE
  | MANUAL_REVIEWED_RATE
  | TEST_FIXTURE
  | UNKNOWN
  deriving DecidableEq, Repr

inductive AssetConversionSourceTrust where
  | OFFICIAL
  | MANUAL_REVIEW_REQUIRED
  | TEST_ONLY
  | UNTRUSTED
  | UNKNOWN
  deriving DecidableEq, Repr

inductive AssetConversionSourceHealth where
  | HEALTHY
  | DEGRADED
  | UNAVAILABLE
  | UNKNOWN
  deriving DecidableEq, Repr

structure AssetConversionRateSnapshot where
  from_asset : AssetSymbol
  to_asset : AssetSymbol
  rate : PositiveDecimal
  observed_at : DateTime
  captured_at : DateTime
  source_kind : AssetConversionSourceKind
  source_trust : AssetConversionSourceTrust
  source_health : AssetConversionSourceHealth
  evidence_kind : AssetConversionEvidenceKind
  bid : Option PositiveDecimal
  ask : Option PositiveDecimal
  mid : Option PositiveDecimal
  spread_bps : Option Decimal
  source_record_id : Option TrimmedText
  metadata : List (String × Json)
  assets_differ : from_asset ≠ to_asset
  captured : observed_at ≤ captured_at
  spread_bounded : ∀ d ∈ spread_bps, d.negative = false
  deriving DecidableEq

structure AssetConversionPolicy where
  from_asset : Option AssetSymbol
  to_asset : Option AssetSymbol
  max_rate_age : ℕ
  require_source_record : Bool
  allowed_source_trust : List AssetConversionSourceTrust
  allowed_source_health : List AssetConversionSourceHealth
  allow_same_asset_direct_match : Bool
  allow_inverse_rate : Bool
  allow_triangulation : Bool
  require_bid_ask : Bool
  max_spread_bps : Option Decimal
  metadata : List (String × Json)
  max_rate_age_positive : 0 < max_rate_age
  has_trust : allowed_source_trust ≠ []
  has_health : allowed_source_health ≠ []
  spread_bounded : ∀ d ∈ max_spread_bps, d.negative = false

structure DecisionFields where
  policy_id : DomainId
  from_asset : Option AssetSymbol
  to_asset : Option AssetSymbol
  ready : Bool
  reason : AssetConversionDecisionReason
  compatibility : AssetConversionCompatibility
  snapshot_id : Option DomainId
  inverse_snapshot_id : Option DomainId
  leg_decision_ids : List DomainId
  checked_at : DateTime
  effective_rate : Option Decimal
  details : Json
  deriving DecidableEq

/-- An error of the arithmetic, or of a check of the decision. -/
inductive ConversionError where
  | decimal (e : DecimalError)
  | check (message : String)
  deriving DecidableEq

def DecisionFields.validate (d : DecisionFields) : List (Check ConversionError) :=
  [require (∀ rate ∈ d.effective_rate, rate.positive = true)
      (.check "effective_rate must be positive"),
    require (d.ready = true → d.reason = .READY)
      (.check "ready conversion decision requires READY reason"),
    require (d.ready = false → d.reason ≠ .READY)
      (.check "not-ready conversion decision requires non-READY reason"),
    require (d.ready = true → d.compatibility ≠ .UNKNOWN ∧ d.compatibility ≠ .NOT_COMPATIBLE)
      (.check "ready conversion decision requires compatible assets")]

structure AssetConversionReadinessDecision extends DecisionFields where
  valid : checkAll toDecisionFields.validate = .ok ()
  deriving DecidableEq

def AssetConversionReadinessDecision.of (d : DecisionFields) :
    Except ConversionError AssetConversionReadinessDecision :=
  match h : checkAll d.validate with
  | .ok () => .ok ⟨d, h⟩
  | .error e => .error e

theorem AssetConversionReadinessDecision.of_eq_ok {fields : DecisionFields}
    {d : AssetConversionReadinessDecision}
    (h : AssetConversionReadinessDecision.of fields = .ok d) : d.toDecisionFields = fields := by
  unfold AssetConversionReadinessDecision.of at h
  split at h
  · cases h
    rfl
  · cases h

/-- The digests that ids are made of: each is the SHA-256 of the canonical JSON of the other
members of a model. -/
structure ConversionDigests where
  snapshot : AssetConversionRateSnapshot → HexDigest
  policy : AssetConversionPolicy → HexDigest
  decision : DecisionFields → HexDigest

namespace ConversionDigests

variable (digests : ConversionDigests)

def snapshotId (s : AssetConversionRateSnapshot) : DomainId :=
  .ofDigest ⟨"asset-conversion-rate:", by decide⟩ (digests.snapshot s)

def policyId (p : AssetConversionPolicy) : DomainId :=
  .ofDigest ⟨"asset-conversion-policy:", by decide⟩ (digests.policy p)

def decisionId (d : AssetConversionReadinessDecision) : DomainId :=
  .ofDigest ⟨"asset-conversion-readiness:", by decide⟩ (digests.decision d.toDecisionFields)

end ConversionDigests

/-! The evaluation. -/

/-- What is handed over as a rate snapshot: one, or a value of another type. -/
inductive RateEvidence where
  | snapshot (s : AssetConversionRateSnapshot)
  | other (type_name : String)

/-- `int((checked_at - snapshot.observed_at).total_seconds() * 1000)`. -/
def ageMs (checked_at : DateTime) (s : AssetConversionRateSnapshot) : ℤ :=
  BinaryFloats.millisOfMicros ((checked_at.micros : ℤ) - s.observed_at.micros)

/-- `_snapshot_rejection_reason`. -/
def snapshotRejectionReason (policy : AssetConversionPolicy) (checked_at : DateTime)
    (s : AssetConversionRateSnapshot) : Option AssetConversionDecisionReason :=
  if checked_at < s.observed_at ∨ checked_at < s.captured_at then
    some .CONVERSION_RATE_FUTURE_DATED
  else if policy.max_rate_age < ageMs checked_at s then some .CONVERSION_RATE_STALE
  else if s.source_trust ∉ policy.allowed_source_trust then some .CONVERSION_SOURCE_UNTRUSTED
  else if s.source_health ∉ policy.allowed_source_health then some .CONVERSION_SOURCE_UNHEALTHY
  else if policy.require_source_record && s.source_record_id.isNone then
    some .CONVERSION_RATE_MISSING
  else if policy.require_bid_ask && (s.bid.isNone || s.ask.isNone) then
    some .CONVERSION_RATE_MISSING
  else
    match policy.max_spread_bps, s.spread_bps with
    | some max_spread, some spread =>
      if max_spread.lt spread then some .CONVERSION_SPREAD_TOO_WIDE else none
    | _, _ => none

def directEvidenceKindAllowed (k : AssetConversionEvidenceKind) : Bool :=
  decide (k ∈ [.DIRECT_PAIR_RATE, .MANUAL_OFFICIAL_RATE, .REFERENCE_INDEX_VALUE])

def inverseEvidenceKindAllowed (k : AssetConversionEvidenceKind) : Bool :=
  decide (k ∈ [.DIRECT_PAIR_RATE, .INVERSE_PAIR_RATE, .MANUAL_OFFICIAL_RATE,
    .REFERENCE_INDEX_VALUE])

/-- `_policy_pair_reason`. -/
def policyPairReason (policy : AssetConversionPolicy) (from_asset to_asset : AssetSymbol) :
    Option AssetConversionDecisionReason :=
  if ∃ a ∈ policy.from_asset, a ≠ from_asset then some .CONVERSION_PAIR_MISMATCH
  else if ∃ a ∈ policy.to_asset, a ≠ to_asset then some .CONVERSION_PAIR_MISMATCH
  else none

/-- `_policy_disabled`. -/
def policyDisabled (policy : AssetConversionPolicy) : Bool :=
  decide (Dicts.find "policy_disabled" policy.metadata = some (.bool true))

section Evaluation

variable (digests : ConversionDigests) (policy : AssetConversionPolicy) (checked_at : DateTime)

/-- `_decision`, with the members that not every call sets. -/
def decision (from_asset to_asset : Option AssetSymbol) (reason : AssetConversionDecisionReason)
    (compatibility : AssetConversionCompatibility) (details : List (String × Json))
    (ready : Bool := false) (snapshot_id inverse_snapshot_id : Option DomainId := none)
    (leg_decision_ids : List DomainId := []) (effective_rate : Option Decimal := none) :
    Except ConversionError AssetConversionReadinessDecision :=
  AssetConversionReadinessDecision.of
    { policy_id := digests.policyId policy
      from_asset
      to_asset
      ready
      reason
      compatibility
      snapshot_id
      inverse_snapshot_id
      leg_decision_ids
      checked_at
      effective_rate
      details := .obj details }

/-- `_unsupported_evidence_decision`. -/
def unsupportedEvidenceDecision (from_asset to_asset : AssetSymbol) (evidence_name : String) :
    Except ConversionError AssetConversionReadinessDecision :=
  decision digests policy checked_at from_asset to_asset .CONVERSION_RATE_MISSING .UNKNOWN
    [("unsupported_evidence_type", .str evidence_name)]

/-- `_same_asset_decision`. -/
def sameAssetDecision (asset : AssetSymbol) :
    Except ConversionError AssetConversionReadinessDecision :=
  if policy.allow_same_asset_direct_match then
    decision digests policy checked_at asset asset .READY .DIRECT_SAME_ASSET
      [("same_asset_direct_match", .str asset.value)] true none none [] (some ⟨false, 1, 0⟩)
  else
    decision digests policy checked_at asset asset .SAME_ASSET_DIRECT_MATCH .NOT_COMPATIBLE
      [("same_asset_direct_match_allowed", .bool false)]

variable (from_asset to_asset : AssetSymbol)

/-- `_snapshot_rejected`. -/
def snapshotRejected (s : AssetConversionRateSnapshot) (reason : AssetConversionDecisionReason)
    (inverse : Bool) : Except ConversionError AssetConversionReadinessDecision :=
  decision digests policy checked_at from_asset to_asset reason .NOT_COMPATIBLE
    [("snapshot_from_asset", .str s.from_asset.value),
      ("snapshot_to_asset", .str s.to_asset.value)] false
    (if inverse then none else some (digests.snapshotId s))
    (if inverse then some (digests.snapshotId s) else none)

/-- `_direct_snapshot_decision`. -/
def directSnapshotDecision (s : AssetConversionRateSnapshot) :
    Except ConversionError AssetConversionReadinessDecision :=
  if s.from_asset ≠ from_asset ∨ s.to_asset ≠ to_asset then
    snapshotRejected digests policy checked_at from_asset to_asset s .CONVERSION_PAIR_MISMATCH false
  else if directEvidenceKindAllowed s.evidence_kind = false then
    snapshotRejected digests policy checked_at from_asset to_asset s .CONVERSION_RATE_MISSING false
  else
    match snapshotRejectionReason policy checked_at s with
    | some reason => snapshotRejected digests policy checked_at from_asset to_asset s reason false
    | none =>
      decision digests policy checked_at from_asset to_asset .READY .DIRECT_RATE
        [("direction", .str "FROM_TO")] true (some (digests.snapshotId s)) none []
        (some s.rate.1)

/-- `_inverse_snapshot_decision`. -/
def inverseSnapshotDecision (s : AssetConversionRateSnapshot) :
    Except ConversionError AssetConversionReadinessDecision :=
  if policy.allow_inverse_rate = false then
    snapshotRejected digests policy checked_at from_asset to_asset s
      .CONVERSION_DIRECTION_NOT_ALLOWED true
  else if s.from_asset ≠ to_asset ∨ s.to_asset ≠ from_asset then
    snapshotRejected digests policy checked_at from_asset to_asset s .CONVERSION_PAIR_MISMATCH true
  else if inverseEvidenceKindAllowed s.evidence_kind = false then
    snapshotRejected digests policy checked_at from_asset to_asset s .CONVERSION_RATE_MISSING true
  else
    match snapshotRejectionReason policy checked_at s with
    | some reason => snapshotRejected digests policy checked_at from_asset to_asset s reason true
    | none =>
      match Decimal.div ⟨false, 1, 0⟩ s.rate.1 with
      | .error e => .error (.decimal e)
      | .ok rate =>
        decision digests policy checked_at from_asset to_asset .READY .INVERSE_RATE
          [("direction", .str "TO_FROM_INVERTED")] true none (some (digests.snapshotId s)) []
          (some rate)

/-- `_triangulation_rejected`. -/
def triangulationRejected (legs : List AssetConversionReadinessDecision)
    (reason : AssetConversionDecisionReason) (details : List (String × Json)) :
    Except ConversionError AssetConversionReadinessDecision :=
  decision digests policy checked_at from_asset to_asset reason .NOT_COMPATIBLE details false none
    none (legs.map digests.decisionId)

end Evaluation

/-- What the loop over the legs comes to. -/
inductive LegsOutcome where
  | rejected (reason : AssetConversionDecisionReason) (details : List (String × Json))
  | through (current : AssetSymbol) (effective_rate : Decimal)

/-- The loop of `_triangulated_decision` over the legs. -/
def followLegs (index : ℕ) (current : AssetSymbol) (effective_rate : Decimal) :
    List AssetConversionReadinessDecision → Except ConversionError LegsOutcome
  | [] => .ok (.through current effective_rate)
  | leg :: legs =>
    if leg.ready = false then
      .ok (.rejected .TRIANGULATION_LEG_NOT_READY [("leg_index", .int index)])
    else
      match leg.from_asset, leg.to_asset with
      | some leg_from, some leg_to =>
        if leg_from ≠ current then
          .ok (.rejected .CONVERSION_PAIR_MISMATCH [("leg_index", .int index),
            ("expected_from_asset", .str current.value),
            ("actual_from_asset", .str leg_from.value)])
        else
          match leg.effective_rate with
          | none => .ok (.rejected .TRIANGULATION_LEG_MISSING [("leg_index", .int index),
              ("missing", .str "effective_rate")])
          | some rate =>
            match effective_rate.mul rate with
            | .error e => .error (.decimal e)
            | .ok effective_rate => followLegs (index + 1) leg_to effective_rate legs
      | _, _ => .ok (.rejected .TRIANGULATION_LEG_MISSING [("leg_index", .int index)])

/-- `_triangulated_decision`. -/
def triangulatedDecision (digests : ConversionDigests) (policy : AssetConversionPolicy)
    (checked_at : DateTime) (from_asset to_asset : AssetSymbol)
    (legs : List AssetConversionReadinessDecision) :
    Except ConversionError AssetConversionReadinessDecision :=
  if policy.allow_triangulation = false then
    decision digests policy checked_at from_asset to_asset .TRIANGULATION_NOT_ALLOWED
      .NOT_COMPATIBLE [("allow_triangulation", .bool false)] false none none
      (legs.map digests.decisionId)
  else
    match followLegs 0 from_asset ⟨false, 1, 0⟩ legs with
    | .error e => .error e
    | .ok (.rejected reason details) =>
      triangulationRejected digests policy checked_at from_asset to_asset legs reason details
    | .ok (.through current effective_rate) =>
      if current ≠ to_asset then
        triangulationRejected digests policy checked_at from_asset to_asset legs
          .CONVERSION_PAIR_MISMATCH [("terminal_asset", .str current.value),
            ("required_asset", .str to_asset.value)]
      else
        decision digests policy checked_at from_asset to_asset .READY .TRIANGULATED_RATE
          [("leg_count", .int legs.length)] true none none (legs.map digests.decisionId)
          (some effective_rate)

/-- `evaluate_asset_conversion_readiness`. -/
def evaluateAssetConversionReadiness (digests : ConversionDigests) (policy : AssetConversionPolicy)
    (checked_at : DateTime) (from_asset to_asset : Option AssetSymbol)
    (rate_snapshot inverse_rate_snapshot : Option RateEvidence)
    (leg_decisions : List AssetConversionReadinessDecision) :
    Except ConversionError AssetConversionReadinessDecision :=
  if policyDisabled policy then
    decision digests policy checked_at from_asset to_asset .POLICY_DISABLED .UNKNOWN
      [("policy_disabled", .bool true)]
  else
    match from_asset, to_asset with
    | none, _ =>
      decision digests policy checked_at none to_asset .FROM_ASSET_MISSING .UNKNOWN
        [("missing", .str "from_asset")]
    | some source_asset, none =>
      decision digests policy checked_at source_asset none .TO_ASSET_MISSING .UNKNOWN
        [("missing", .str "to_asset")]
    | some source_asset, some target_asset =>
      match policyPairReason policy source_asset target_asset with
      | some reason =>
        decision digests policy checked_at source_asset target_asset reason .NOT_COMPATIBLE
          [("from_asset", .str source_asset.value), ("to_asset", .str target_asset.value)]
      | none =>
        if source_asset = target_asset then
          sameAssetDecision digests policy checked_at source_asset
        else
          match rate_snapshot, inverse_rate_snapshot with
          | some (.other evidence_name), _ | none, some (.other evidence_name) =>
            unsupportedEvidenceDecision digests policy checked_at source_asset target_asset
              evidence_name
          | some (.snapshot s), _ =>
            directSnapshotDecision digests policy checked_at source_asset target_asset s
          | none, some (.snapshot s) =>
            inverseSnapshotDecision digests policy checked_at source_asset target_asset s
          | none, none =>
            if leg_decisions ≠ [] then
              triangulatedDecision digests policy checked_at source_asset target_asset
                leg_decisions
            else
              decision digests policy checked_at source_asset target_asset
                .CONVERSION_RATE_MISSING .UNKNOWN
                [("from_asset", .str source_asset.value), ("to_asset", .str target_asset.value)]

end FuturesBot.Conversion
