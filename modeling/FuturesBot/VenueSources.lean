import FuturesBot.Checks
import FuturesBot.JsonEquality
import FuturesBot.VenueCapabilities

/-! Where the capabilities of a venue come from: descriptors of sources, captured payloads, the
records of both, and manual imports of snapshots that name their record. -/
namespace FuturesBot.Venues

open JsonText (Json)
open DateTimes DecimalNumbers TextLines Checks Assets

inductive VenueCapabilitySourceKind where
  | OFFICIAL_EXCHANGE_API
  | OFFICIAL_EXCHANGE_DOCS
  | OFFICIAL_EXCHANGE_EXPORT
  | MANUAL_OFFICIAL_SNAPSHOT
  | INTERNAL_TEST_FIXTURE
  | UNKNOWN
  deriving DecidableEq, Repr

inductive VenueCapabilitySourceTrust where
  | OFFICIAL
  | MANUAL_REVIEW_REQUIRED
  | TEST_ONLY
  | UNTRUSTED
  | UNKNOWN
  deriving DecidableEq, Repr

inductive VenueCapabilitySourceFetchMode where
  | MANUAL
  | API_DEFERRED
  | STATIC_REFERENCE
  | TEST_FIXTURE
  deriving DecidableEq, Repr

inductive VenueCapabilitySourceHealthStatus where
  | HEALTHY
  | DEGRADED
  | UNAVAILABLE
  | UNKNOWN
  deriving DecidableEq, Repr

inductive VenueCapabilitySourceRecordReason where
  | ACCEPTED
  | REJECTED_UNTRUSTED
  | REJECTED_UNKNOWN_SOURCE
  | REJECTED_PAYLOAD_HASH_MISMATCH
  | REJECTED_NON_CANONICAL_PAYLOAD
  | REJECTED_SOURCE_TIME_INVALID
  deriving DecidableEq, Repr

inductive VenueCapabilityManualImportDecisionReason where
  | ACCEPTED
  | SOURCE_RECORD_NOT_ACCEPTED
  | SOURCE_RECORD_NOT_OFFICIAL
  | SOURCE_RECORD_NOT_HEALTHY
  | VENUE_SNAPSHOT_PROVENANCE_MISMATCH
  | INSTRUMENT_RULE_PROVENANCE_MISMATCH
  | VENUE_ID_MISMATCH
  | SOURCE_RECORD_STORE_CONFLICT
  | VENUE_SNAPSHOT_STORE_CONFLICT
  | INSTRUMENT_RULE_STORE_CONFLICT
  | MANUAL_IMPORT_STORE_CONFLICT
  | NO_SNAPSHOTS_PROVIDED
  | VALIDATION_FAILED
  deriving DecidableEq, Repr

structure VenueCapabilitySourceDescriptor where
  venue_id : TrimmedText
  source_kind : VenueCapabilitySourceKind
  trust : VenueCapabilitySourceTrust
  fetch_mode : VenueCapabilitySourceFetchMode
  reference_uri : Option TrimmedText
  reference_name : TrimmedText
  official_owner : Option TrimmedText
  version : Option TrimmedText
  created_at : DateTime
  metadata : Json
  known : ¬ (source_kind = .UNKNOWN ∧ trust = .OFFICIAL)
  fixture : ¬ (source_kind = .INTERNAL_TEST_FIXTURE ∧ trust ≠ .TEST_ONLY)
  deriving DecidableEq

structure VenueCapabilitySourcePayload where
  canonical_payload : Json
  content_type : TrimmedText
  captured_at : DateTime
  observed_at : DateTime
  allow_observed_before_captured : Bool
  observed : ¬ (observed_at < captured_at ∧ allow_observed_before_captured = false)
  deriving DecidableEq

structure VenueCapabilitySourceRecord where
  descriptor : VenueCapabilitySourceDescriptor
  payload : VenueCapabilitySourcePayload
  health_status : VenueCapabilitySourceHealthStatus
  reason : VenueCapabilitySourceRecordReason
  accepted_for_execution : Bool
  recorded_at : DateTime
  details : Json
  accepted : accepted_for_execution = true → reason = .ACCEPTED ∧
    descriptor.trust = .OFFICIAL ∧ descriptor.source_kind ≠ .UNKNOWN ∧ health_status = .HEALTHY
  rejected : accepted_for_execution = false → reason ≠ .ACCEPTED
  deriving DecidableEq

structure ManualImportFields where
  source_record : VenueCapabilitySourceRecord
  venue_snapshot : Option VenueCapabilitySnapshot
  instrument_rules : List VenueInstrumentRuleSnapshot
  imported_at : DateTime
  imported_by : TrimmedText
  details : Json
  deriving DecidableEq

structure VenueCapabilityManualImportRequest extends ManualImportFields where
  correlation_id : Option TrimmedText
  has_snapshot : ¬ (venue_snapshot = none ∧ instrument_rules = [])
  deriving DecidableEq

structure ManualImportDecisionFields where
  request_id : DomainId
  accepted : Bool
  reason : VenueCapabilityManualImportDecisionReason
  source_record_id : Option DomainId
  venue_snapshot_id : Option DomainId
  instrument_rule_snapshot_ids : List DomainId
  manual_import_id : Option DomainId
  imported_at : DateTime
  details : Json
  deriving DecidableEq

/-- The digests that ids are made of: SHA-256, and for each model the SHA-256 of the canonical JSON
of its other members. Two models may have the same digest. -/
structure SourceDigests where
  sha256 : Bytes → HexDigest
  asset : AssetDescriptor → HexDigest
  asset_semantics : ContractAssetSemantics → HexDigest
  descriptor : VenueCapabilitySourceDescriptor → HexDigest
  record : VenueCapabilitySourceRecord → HexDigest
  manual_import : ManualImportFields → HexDigest
  request : VenueCapabilityManualImportRequest → HexDigest

namespace SourceDigests

variable (digests : SourceDigests)

def sourceId (d : VenueCapabilitySourceDescriptor) : DomainId :=
  .ofDigest ⟨"venue-cap-source:", by decide⟩ (digests.descriptor d)

/-- `source_payload_hash`. -/
def payloadHash (p : VenueCapabilitySourcePayload) : HexDigest :=
  digests.sha256 (encodeUtf8 (JsonText.encode (JsonText.sortKeys p.canonical_payload)))

def recordId (r : VenueCapabilitySourceRecord) : DomainId :=
  .ofDigest ⟨"venue-cap-source-record:", by decide⟩ (digests.record r)

def importId (m : ManualImportFields) : DomainId :=
  .ofDigest ⟨"venue-cap-source-import:", by decide⟩ (digests.manual_import m)

def requestId (q : VenueCapabilityManualImportRequest) : DomainId :=
  .ofDigest ⟨"venue-cap-manual-import-req:", by decide⟩ (digests.request q)

end SourceDigests

/-! The source that a snapshot names. -/

@[ext] structure SnapshotProvenanceRef where
  venue_id : TrimmedText
  source_record_id : Option DomainId
  source_payload_hash : Option HexDigest
  deriving DecidableEq

def VenueCapabilitySnapshot.provenance (s : VenueCapabilitySnapshot) : SnapshotProvenanceRef :=
  ⟨s.venue_id, s.source_record_id, s.source_payload_hash⟩

def VenueInstrumentRuleSnapshot.provenance (r : VenueInstrumentRuleSnapshot) :
    SnapshotProvenanceRef :=
  ⟨r.venue_id, r.source_record_id, r.source_payload_hash⟩

/-! Equality of models: two are equal when their shapes are. Numbers are compared by value, and
derived ids with the members that they are derived from. -/

section Shapes

variable (digests : SourceDigests)

def decimalShape (d : Option PositiveDecimal) : Option ℚ := d.map (·.1.value)

def PriceFilter.shape (f : PriceFilter) : Option ℚ × Option ℚ × Option ℚ × Option ℕ :=
  (decimalShape f.tick_size, decimalShape f.min_price, decimalShape f.max_price, f.price_precision)

def QuantityFilter.shape (f : QuantityFilter) : Option ℚ × Option ℚ × Option ℚ × Option ℕ :=
  (decimalShape f.step_size, decimalShape f.min_quantity, decimalShape f.max_quantity,
    f.quantity_precision)

def NotionalFilter.shape (f : NotionalFilter) : Option ℚ × Option ℚ × Bool :=
  (decimalShape f.min_notional, decimalShape f.max_notional,
    f.requires_reference_price_for_market_orders)

def assetShape (a : AssetDescriptor) : AssetDescriptor × HexDigest :=
  ({ a with metadata := a.metadata.plain }, digests.asset a)

/-- The assets of a semantics, in the order of its members. -/
def semanticAssets (s : ContractAssetSemantics) : List (Option AssetDescriptor) :=
  [some s.base_asset, some s.quote_asset, some s.margin_asset, some s.settlement_asset,
    some s.pnl_asset, s.fee_asset, s.funding_asset, s.depth_reference_asset,
    some s.valuation_reference_asset, s.objective_asset, s.contract_value_asset] ++
    s.collateral_assets.map some

structure SemanticsShape where
  semantics_id : HexDigest
  assets : List (Option (AssetDescriptor × HexDigest))
  venue_id : TrimmedText
  instrument_id : TrimmedText
  payoff_kind : ContractPayoffKind
  collateral_mode : CollateralMode
  settlement_mode : SettlementMode
  contract_size : Option ℚ
  requirements : List Bool
  policies : List (Option DomainId)
  market_data_observation_kind : Option MarketDataObservationKind
  metadata : Json
  deriving DecidableEq

def semanticsShape (s : ContractAssetSemantics) : SemanticsShape where
  semantics_id := digests.asset_semantics s
  assets := (semanticAssets s).map (·.map (assetShape digests))
  venue_id := s.venue_id
  instrument_id := s.instrument_id
  payoff_kind := s.payoff_kind
  collateral_mode := s.collateral_mode
  settlement_mode := s.settlement_mode
  contract_size := decimalShape s.contract_size
  requirements := [s.requires_collateral_valuation, s.requires_haircut_rules,
    s.requires_conversion_rules, s.requires_objective_valuation, s.requires_margin_rules,
    s.requires_liquidation_rules, s.requires_fee_rules, s.requires_funding_rules,
    s.requires_depth_rules, s.requires_market_data_rules, s.requires_order_book_depth]
  policies := [s.collateral_valuation_policy_id, s.objective_asset_policy_id,
    s.margin_liquidation_policy_id, s.execution_cost_policy_id, s.market_data_policy_id]
  market_data_observation_kind := s.market_data_observation_kind
  metadata := s.metadata.plain

structure RuleShape where
  snapshot_id : DomainId
  names : List (Option TrimmedText)
  trading_status : InstrumentTradingStatus
  contract_kind : FuturesContractKind
  captured_at : DateTime
  price_filter : Option ℚ × Option ℚ × Option ℚ × Option ℕ
  quantity_filter : Option ℚ × Option ℚ × Option ℚ × Option ℕ
  notional_filter : Option ℚ × Option ℚ × Bool
  max_leverage : Option ℚ
  supported_order_types : List String
  supported_time_in_force : List String
  supports : List Bool
  min_gtd_duration_ms : Option ℤ
  supported_self_trade_prevention_modes : List VenueSelfTradePreventionMode
  asset_semantics : Option SemanticsShape
  source_hash : Option HexDigest
  source : SnapshotProvenanceRef
  deriving DecidableEq

def ruleShape (r : VenueInstrumentRuleSnapshot) : RuleShape where
  snapshot_id := r.snapshot_id
  names := [r.instrument_id, r.symbol, r.margin_asset, r.settlement_asset, r.base_asset,
    r.quote_asset]
  trading_status := r.trading_status
  contract_kind := r.contract_kind
  captured_at := r.captured_at
  price_filter := r.price_filter.shape
  quantity_filter := r.quantity_filter.shape
  notional_filter := r.notional_filter.shape
  max_leverage := decimalShape r.max_leverage
  supported_order_types := r.supported_order_types
  supported_time_in_force := r.supported_time_in_force
  supports := [r.supports_reduce_only, r.supports_post_only, r.supports_close_position,
    r.supports_gtd, r.supports_price_protection]
  min_gtd_duration_ms := r.min_gtd_duration_ms
  supported_self_trade_prevention_modes := r.supported_self_trade_prevention_modes
  asset_semantics := r.asset_semantics.map (semanticsShape digests)
  source_hash := r.source_hash
  source := r.provenance

structure RecordShape where
  record_id : DomainId
  source_id : DomainId
  descriptor : VenueCapabilitySourceDescriptor
  payload_hash : HexDigest
  payload : VenueCapabilitySourcePayload
  health_status : VenueCapabilitySourceHealthStatus
  reason : VenueCapabilitySourceRecordReason
  accepted_for_execution : Bool
  recorded_at : DateTime
  details : Json
  deriving DecidableEq

def recordShape (r : VenueCapabilitySourceRecord) : RecordShape where
  record_id := digests.recordId r
  source_id := digests.sourceId r.descriptor
  descriptor := { r.descriptor with metadata := r.descriptor.metadata.plain }
  payload_hash := digests.payloadHash r.payload
  payload := { r.payload with canonical_payload := r.payload.canonical_payload.plain }
  health_status := r.health_status
  reason := r.reason
  accepted_for_execution := r.accepted_for_execution
  recorded_at := r.recorded_at
  details := r.details.plain

structure ImportShape where
  import_id : DomainId
  source_record : RecordShape
  venue_snapshot : Option VenueCapabilitySnapshot
  instrument_rules : List RuleShape
  imported_at : DateTime
  imported_by : TrimmedText
  details : Json
  deriving DecidableEq

def importShape (m : ManualImportFields) : ImportShape where
  import_id := digests.importId m
  source_record := recordShape digests m.source_record
  venue_snapshot := m.venue_snapshot
  instrument_rules := m.instrument_rules.map (ruleShape digests)
  imported_at := m.imported_at
  imported_by := m.imported_by
  details := m.details.plain

end Shapes

/-! Manual imports. -/

/-- The provenance of a snapshot that comes from the record. -/
def recordProvenance (digests : SourceDigests) (r : VenueCapabilitySourceRecord) :
    SnapshotProvenanceRef :=
  ⟨r.descriptor.venue_id, some (digests.recordId r), some (digests.payloadHash r.payload)⟩

/-- `_validate_snapshot_provenance` of the import. -/
def validateSnapshotProvenance (actual expected : SnapshotProvenanceRef) (label : String) :
    List (Check String) :=
  [require (actual.venue_id = expected.venue_id)
      (label ++ " venue_id must match source record venue_id"),
    require (actual.source_record_id = expected.source_record_id)
      (label ++ " source_record_id must match source record"),
    require (actual.source_payload_hash = expected.source_payload_hash)
      (label ++ " source_payload_hash must match source payload")]

def ManualImportFields.validate (digests : SourceDigests) (m : ManualImportFields) :
    List (Check String) :=
  [require (m.source_record.accepted_for_execution = true)
      "manual import requires accepted source record"] ++
    m.venue_snapshot.toList.flatMap (fun s => validateSnapshotProvenance s.provenance
      (recordProvenance digests m.source_record) "venue_snapshot") ++
    m.instrument_rules.flatMap (fun r => validateSnapshotProvenance r.provenance
      (recordProvenance digests m.source_record) "instrument rule")

structure VenueCapabilityManualImport (digests : SourceDigests) extends ManualImportFields where
  valid : checkAll (toManualImportFields.validate digests) = .ok ()
  deriving DecidableEq

def VenueCapabilityManualImport.of (digests : SourceDigests) (m : ManualImportFields) :
    Except String (VenueCapabilityManualImport digests) :=
  match h : checkAll (m.validate digests) with
  | .ok () => .ok ⟨m, h⟩
  | .error message => .error message

/-- What the decision model asks. -/
def ManualImportDecisionFields.validate (d : ManualImportDecisionFields) : List (Check String) :=
  [require (d.accepted = true → d.reason = .ACCEPTED) "accepted=True requires reason ACCEPTED",
    require (d.accepted = true → d.manual_import_id ≠ none)
      "accepted=True requires manual_import_id",
    require (d.accepted = false → d.reason ≠ .ACCEPTED) "accepted=False requires reason != ACCEPTED"]

structure VenueCapabilityManualImportDecision extends ManualImportDecisionFields where
  valid : checkAll toManualImportDecisionFields.validate = .ok ()
  deriving DecidableEq

def VenueCapabilityManualImportDecision.of (d : ManualImportDecisionFields) :
    Except String VenueCapabilityManualImportDecision :=
  match h : checkAll d.validate with
  | .ok () => .ok ⟨d, h⟩
  | .error message => .error message

end FuturesBot.Venues
