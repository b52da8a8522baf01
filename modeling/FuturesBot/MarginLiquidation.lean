import FuturesBot.EvidenceGates
import FuturesBot.Journal

/-! Whether the margin and liquidation rules of a venue are known well enough to size a position:
rule snapshots, the policy they are held against, and the decision. -/
namespace FuturesBot.MarginLiquidation

open JsonText (Json)
open DateTimes DecimalNumbers Checks EvidenceGates

inductive MarginMode where
  | ISOLATED
  | CROSS
  | PORTFOLIO
  | MULTI_ASSET
  | UNKNOWN
  deriving DecidableEq, Repr

def MarginMode.value : MarginMode → String
  | ISOLATED => "ISOLATED"
  | CROSS => "CROSS"
  | PORTFOLIO => "PORTFOLIO"
  | MULTI_ASSET => "MULTI_ASSET"
  | UNKNOWN => "UNKNOWN"

inductive MarginLiquidationSourceKind where
  | VENUE_RULES
  | VENUE_RISK_BRACKET
  | VENUE_ACCOUNT_CONFIG
  | MANUAL_REVIEWED_RULE
  | TEST_FIXTURE
  | UNKNOWN
  deriving DecidableEq, Repr

def MarginLiquidationSourceKind.value : MarginLiquidationSourceKind → String
  | .VENUE_RULES => "VENUE_RULES"
  | .VENUE_RISK_BRACKET => "VENUE_RISK_BRACKET"
  | .VENUE_ACCOUNT_CONFIG => "VENUE_ACCOUNT_CONFIG"
  | .MANUAL_REVIEWED_RULE => "MANUAL_REVIEWED_RULE"
  | .TEST_FIXTURE => "TEST_FIXTURE"
  | .UNKNOWN => "UNKNOWN"

inductive MarginLiquidationSourceTrust where
  | OFFICIAL
  | MANUAL_REVIEWED_OFFICIAL
  | TEST_ONLY
  | UNTRUSTED
  | UNKNOWN
  deriving DecidableEq, Repr

inductive MarginLiquidationSourceHealth where
  | HEALTHY
  | DEGRADED
  | STALE
  | UNHEALTHY
  | UNKNOWN
  deriving DecidableEq, Repr

inductive LiquidationModelKind where
  | VENUE_FORMULA
  | MAINTENANCE_MARGIN_MODEL
  | RISK_BRACKET_MODEL
  | ACCOUNT_MODE_MODEL
  | NOT_PROVIDED
  | UNKNOWN
  deriving DecidableEq, Repr

inductive MarginLiquidationCompatibility where
  | DIRECT_MATCH
  | ASSET_MISMATCH
  | MODE_UNSUPPORTED
  | NOT_COMPATIBLE
  | UNKNOWN
  deriving DecidableEq, Repr

inductive MarginLiquidationDecisionReason where
  | READY
  | POLICY_DISABLED
  | SNAPSHOT_MISSING
  | SNAPSHOT_STALE
  | SNAPSHOT_FUTURE_DATED
  | SOURCE_RECORD_REQUIRED
  | SOURCE_KIND_UNKNOWN
  | SOURCE_KIND_UNSUPPORTED
  | SOURCE_UNTRUSTED
  | SOURCE_UNHEALTHY
  | VENUE_MISMATCH
  | INSTRUMENT_MISMATCH
  | MARGIN_MODE_UNKNOWN
  | MARGIN_MODE_UNSUPPORTED
  | INITIAL_MARGIN_MISSING
  | MAINTENANCE_MARGIN_MISSING
  | LIQUIDATION_FEE_MISSING
  | MAX_LEVERAGE_MISSING
  | LIQUIDATION_MODEL_MISSING
  | RISK_TIER_MISSING
  | COLLATERAL_ASSET_MISSING
  | MARGIN_ASSET_MISSING
  | SETTLEMENT_ASSET_MISSING
  | COLLATERAL_ASSET_MISMATCH
  | MARGIN_ASSET_MISMATCH
  | SETTLEMENT_ASSET_MISMATCH
  | NOT_READY
  | UNKNOWN
  deriving DecidableEq, Repr

structure MarginLiquidationRuleSnapshot where
  venue_id : TrimmedText
  instrument_id : Option TrimmedText
  margin_mode : MarginMode
  collateral_asset : Option AssetSymbol
  margin_asset : Option AssetSymbol
  settlement_asset : Option AssetSymbol
  initial_margin_rate : Option PositiveDecimal
  maintenance_margin_rate : Option PositiveDecimal
  liquidation_fee_rate : Option Decimal
  max_leverage : Option PositiveDecimal
  liquidation_model_kind : LiquidationModelKind
  risk_tier_id : Option TrimmedText
  notional_floor : Option Decimal
  notional_ceiling : Option Decimal
  observed_at : DateTime
  captured_at : DateTime
  source_kind : MarginLiquidationSourceKind
  source_trust : MarginLiquidationSourceTrust
  source_health : MarginLiquidationSourceHealth
  source_record_id : Option TrimmedText
  metadata : List (String × Json)
  amounts_nonneg : ∀ amount ∈ [liquidation_fee_rate, notional_floor, notional_ceiling],
    ∀ d ∈ amount, d.lt ⟨false, 0, 0⟩ = false
  captured : observed_at ≤ captured_at
  notional_ordered : ∀ floor ∈ notional_floor, ∀ ceiling ∈ notional_ceiling,
    ceiling.lt floor = false

structure MarginLiquidationPolicy where
  max_snapshot_age : ℕ
  require_source_record : Bool
  allowed_source_kinds : List MarginLiquidationSourceKind
  allowed_source_trust : List MarginLiquidationSourceTrust
  allowed_source_health : List MarginLiquidationSourceHealth
  allowed_margin_modes : List MarginMode
  require_initial_margin : Bool
  require_maintenance_margin : Bool
  require_liquidation_fee : Bool
  require_max_leverage : Bool
  require_liquidation_model : Bool
  require_risk_tier : Bool
  require_collateral_asset_match : Bool
  require_margin_asset_match : Bool
  require_settlement_asset_match : Bool
  metadata : List (String × Json)
  max_age_positive : 0 < max_snapshot_age
  has_kinds : allowed_source_kinds ≠ []
  has_trust : allowed_source_trust ≠ []
  has_health : allowed_source_health ≠ []
  has_modes : allowed_margin_modes ≠ []
  known_kinds : .UNKNOWN ∉ allowed_source_kinds
  known_modes : .UNKNOWN ∉ allowed_margin_modes

structure MarginLiquidationReadinessDecision where
  policy_id : DomainId
  venue_id : Option TrimmedText
  instrument_id : Option TrimmedText
  margin_mode : Option MarginMode
  collateral_asset : Option AssetSymbol
  margin_asset : Option AssetSymbol
  settlement_asset : Option AssetSymbol
  ready : Bool
  reason : MarginLiquidationDecisionReason
  compatibility : MarginLiquidationCompatibility
  snapshot_id : Option DomainId
  checked_at : DateTime
  details : List (String × Json)
  ready_reason : ready = true ↔ reason = .READY
  compatible : ready = true → compatibility ≠ .UNKNOWN ∧ compatibility ≠ .NOT_COMPATIBLE
  deriving DecidableEq

/-- The digests that ids are made of. -/
structure MarginLiquidationDigests where
  snapshot : MarginLiquidationRuleSnapshot → HexDigest
  policy : MarginLiquidationPolicy → HexDigest

namespace MarginLiquidationDigests

variable (digests : MarginLiquidationDigests)

def snapshotId (s : MarginLiquidationRuleSnapshot) : DomainId :=
  .ofDigest ⟨"margin-liquidation-rule:", by decide⟩ (digests.snapshot s)

def policyId (p : MarginLiquidationPolicy) : DomainId :=
  .ofDigest ⟨"margin-liquidation-policy:", by decide⟩ (digests.policy p)

end MarginLiquidationDigests

/-! The checks, in their order. -/

abbrev MarginLiquidationRefusal :=
  Refusal MarginLiquidationDecisionReason.READY MarginLiquidationCompatibility

def refusal (reason : MarginLiquidationDecisionReason)
    (compatibility : MarginLiquidationCompatibility := .NOT_COMPATIBLE)
    (details : List (String × Json) := []) (refuses : reason ≠ .READY := by decide) :
    MarginLiquidationRefusal :=
  ⟨reason, compatibility, details, refuses⟩

/-- `_policy_disabled`. -/
def policyDisabled (policy : MarginLiquidationPolicy) : Bool :=
  decide (Dicts.find "policy_disabled" policy.metadata = some (.bool true))

/-- What a position asks of the rules. -/
structure MarginLiquidationRequest where
  venue_id : Option String
  instrument_id : Option String
  margin_mode : Option MarginMode
  collateral_asset : Option AssetSymbol
  margin_asset : Option AssetSymbol
  settlement_asset : Option AssetSymbol

section Checks

variable (policy : MarginLiquidationPolicy) (q : MarginLiquidationRequest)
  (s : MarginLiquidationRuleSnapshot)

/-- The checks of the source of a snapshot, and of what it is about. -/
def sourceChecks : List (Check MarginLiquidationRefusal) :=
  [require (policy.require_source_record = true → s.source_record_id ≠ none)
      (refusal .SOURCE_RECORD_REQUIRED),
    require (s.source_kind ≠ .UNKNOWN) (refusal .SOURCE_KIND_UNKNOWN),
    require (s.source_kind ∈ policy.allowed_source_kinds)
      (refusal .SOURCE_KIND_UNSUPPORTED .NOT_COMPATIBLE
        [("allowed_source_kinds", .arr (policy.allowed_source_kinds.map fun k => .str k.value))]),
    require (s.source_trust ∈ policy.allowed_source_trust) (refusal .SOURCE_UNTRUSTED),
    require (s.source_health ∈ policy.allowed_source_health) (refusal .SOURCE_UNHEALTHY),
    require (∀ venue_id ∈ q.venue_id, s.venue_id.value = venue_id)
      (refusal .VENUE_MISMATCH .NOT_COMPATIBLE
        [("required_venue_id", textOrNull q.venue_id)]),
    require (∀ instrument_id ∈ q.instrument_id, ∀ stated ∈ s.instrument_id,
        stated.value = instrument_id)
      (refusal .INSTRUMENT_MISMATCH .NOT_COMPATIBLE
        [("required_instrument_id", textOrNull q.instrument_id)])]

def modeChecks : List (Check MarginLiquidationRefusal) :=
  [require (s.margin_mode ≠ .UNKNOWN) (refusal .MARGIN_MODE_UNKNOWN .MODE_UNSUPPORTED),
    require (∀ mode ∈ q.margin_mode, s.margin_mode = mode)
      (refusal .MARGIN_MODE_UNSUPPORTED .MODE_UNSUPPORTED
        [("required_margin_mode", textOrNull (q.margin_mode.map (·.value)))]),
    require (s.margin_mode ∈ policy.allowed_margin_modes)
      (refusal .MARGIN_MODE_UNSUPPORTED .MODE_UNSUPPORTED)]

/-- `_required_field_reason`. -/
def requiredFieldReason : List (Check MarginLiquidationRefusal) :=
  [require (policy.require_initial_margin = true → s.initial_margin_rate ≠ none)
      (refusal .INITIAL_MARGIN_MISSING),
    require (policy.require_maintenance_margin = true → s.maintenance_margin_rate ≠ none)
      (refusal .MAINTENANCE_MARGIN_MISSING),
    require (policy.require_liquidation_fee = true → s.liquidation_fee_rate ≠ none)
      (refusal .LIQUIDATION_FEE_MISSING),
    require (policy.require_max_leverage = true → s.max_leverage ≠ none)
      (refusal .MAX_LEVERAGE_MISSING),
    require (policy.require_liquidation_model = true →
        s.liquidation_model_kind ∉ [.UNKNOWN, .NOT_PROVIDED])
      (refusal .LIQUIDATION_MODEL_MISSING),
    require (policy.require_risk_tier = true → s.risk_tier_id ≠ none)
      (refusal .RISK_TIER_MISSING)]

/-- `_asset_path_reason`. -/
def assetPathReason : List (Check MarginLiquidationRefusal) :=
  matchChecks policy.require_collateral_asset_match q.collateral_asset s.collateral_asset
      (refusal .COLLATERAL_ASSET_MISSING .ASSET_MISMATCH)
      (refusal .COLLATERAL_ASSET_MISMATCH .ASSET_MISMATCH) ++
    matchChecks policy.require_margin_asset_match q.margin_asset s.margin_asset
      (refusal .MARGIN_ASSET_MISSING .ASSET_MISMATCH)
      (refusal .MARGIN_ASSET_MISMATCH .ASSET_MISMATCH) ++
    matchChecks policy.require_settlement_asset_match q.settlement_asset s.settlement_asset
      (refusal .SETTLEMENT_ASSET_MISSING .ASSET_MISMATCH)
      (refusal .SETTLEMENT_ASSET_MISMATCH .ASSET_MISMATCH)

/-- The checks that do not look at the time. -/
def ruleChecks : List (Check MarginLiquidationRefusal) :=
  sourceChecks policy q s ++ modeChecks policy q s ++ requiredFieldReason policy s ++
    assetPathReason policy q s

def snapshotChecks (checked_at : DateTime) : List (Check MarginLiquidationRefusal) :=
  datedChecks [s.observed_at, s.captured_at] s.observed_at policy.max_snapshot_age checked_at
    (refusal .SNAPSHOT_FUTURE_DATED)
    (fun age_ms => refusal .SNAPSHOT_STALE .NOT_COMPATIBLE [("age_ms", .int age_ms)]) ++
    ruleChecks policy q s

end Checks

/-! The evaluation. -/

/-- `_common_decision_fields`. -/
def commonDecisionFields (s : MarginLiquidationRuleSnapshot) : List (String × Json) :=
  [("venue_id", .str s.venue_id.value),
    ("instrument_id", textOrNull (s.instrument_id.map (·.value))),
    ("margin_mode", .str s.margin_mode.value),
    ("source_kind", .str s.source_kind.value)]

section Evaluation

variable (digests : MarginLiquidationDigests) (policy : MarginLiquidationPolicy)
  (checked_at : DateTime)

/-- `_decision` for a refusal, with what is read of the snapshot when there is one. -/
def notReady (s : Option MarginLiquidationRuleSnapshot) (r : MarginLiquidationRefusal) :
    MarginLiquidationReadinessDecision where
  policy_id := digests.policyId policy
  venue_id := s.map (·.venue_id)
  instrument_id := s.bind (·.instrument_id)
  margin_mode := s.map (·.margin_mode)
  collateral_asset := s.bind (·.collateral_asset)
  margin_asset := s.bind (·.margin_asset)
  settlement_asset := s.bind (·.settlement_asset)
  ready := false
  reason := r.reason
  compatibility := r.compatibility
  snapshot_id := s.map digests.snapshotId
  checked_at
  details := (s.elim [] commonDecisionFields) ++ r.details
  ready_reason := by simp [r.refuses]
  compatible := by simp

/-- `_decision` for a snapshot that passes all checks. -/
def readyDecision (s : MarginLiquidationRuleSnapshot) : MarginLiquidationReadinessDecision where
  policy_id := digests.policyId policy
  venue_id := some s.venue_id
  instrument_id := s.instrument_id
  margin_mode := some s.margin_mode
  collateral_asset := s.collateral_asset
  margin_asset := s.margin_asset
  settlement_asset := s.settlement_asset
  ready := true
  reason := .READY
  compatibility := .DIRECT_MATCH
  snapshot_id := some (digests.snapshotId s)
  checked_at
  details := commonDecisionFields s
  ready_reason := by simp
  compatible := by simp

def evaluateMarginLiquidationReadiness (snapshot : Handed MarginLiquidationRuleSnapshot)
    (q : MarginLiquidationRequest) : MarginLiquidationReadinessDecision :=
  match outcome (policyDisabled policy) snapshot fun s => snapshotChecks policy q s checked_at with
  | .disabled =>
    notReady digests policy checked_at none
      (refusal .POLICY_DISABLED .UNKNOWN [("policy_disabled", .bool true)])
  | .missing type_name =>
    notReady digests policy checked_at none
      (refusal .SNAPSHOT_MISSING .UNKNOWN [("snapshot_type", textOrNull type_name)])
  | .refused s r => notReady digests policy checked_at (some s) r
  | .ready s => readyDecision digests policy checked_at s

end Evaluation

theorem evaluate_ready_iff {digests : MarginLiquidationDigests} {policy : MarginLiquidationPolicy}
    {checked_at : DateTime} {snapshot : Handed MarginLiquidationRuleSnapshot}
    {q : MarginLiquidationRequest} :
    (evaluateMarginLiquidationReadiness digests policy checked_at snapshot q).ready = true ↔
      ∃ s, outcome (policyDisabled policy) snapshot
        (fun s => snapshotChecks policy q s checked_at) = .ready s := by
  rw [evaluateMarginLiquidationReadiness]
  cases outcome (policyDisabled policy) snapshot fun s => snapshotChecks policy q s checked_at with
  | disabled => simp [notReady]
  | missing type_name => simp [notReady]
  | refused s r => simp [notReady]
  | ready s => simp [readyDecision]

end FuturesBot.MarginLiquidation
