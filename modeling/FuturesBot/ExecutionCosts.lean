import FuturesBot.EvidenceGates
import FuturesBot.Journal

/-! Whether the fee, funding and depth rules of a venue are known well enough to cost an
execution: rule snapshots, the policy they are held against, and the decision. -/
namespace FuturesBot.ExecutionCosts

open JsonText (Json)
open DateTimes DecimalNumbers Checks EvidenceGates

inductive ExecutionCostSourceKind where
  | VENUE_FEE_SCHEDULE
  | VENUE_FUNDING_RULES
  | VENUE_DEPTH_RULES
  | VENUE_ACCOUNT_CONFIG
  | MANUAL_REVIEWED_RULE
  | TEST_FIXTURE
  | UNKNOWN
  deriving DecidableEq, Repr

def ExecutionCostSourceKind.value : ExecutionCostSourceKind → String
  | .VENUE_FEE_SCHEDULE => "VENUE_FEE_SCHEDULE"
  | .VENUE_FUNDING_RULES => "VENUE_FUNDING_RULES"
  | .VENUE_DEPTH_RULES => "VENUE_DEPTH_RULES"
  | .VENUE_ACCOUNT_CONFIG => "VENUE_ACCOUNT_CONFIG"
  | .MANUAL_REVIEWED_RULE => "MANUAL_REVIEWED_RULE"
  | .TEST_FIXTURE => "TEST_FIXTURE"
  | .UNKNOWN => "UNKNOWN"

inductive ExecutionCostSourceTrust where
  | OFFICIAL
  | MANUAL_REVIEWED_OFFICIAL
  | TEST_ONLY
  | UNTRUSTED
  | UNKNOWN
  deriving DecidableEq, Repr

inductive ExecutionCostSourceHealth where
  | HEALTHY
  | DEGRADED
  | STALE
  | UNHEALTHY
  | UNKNOWN
  deriving DecidableEq, Repr

inductive FeeModelKind where
  | MAKER_TAKER_BPS
  | FLAT_BPS
  | TIERED_BY_VOLUME
  | INSTRUMENT_SPECIFIC
  | NOT_PROVIDED
  | UNKNOWN
  deriving DecidableEq, Repr

def FeeModelKind.value : FeeModelKind → String
  | .MAKER_TAKER_BPS => "MAKER_TAKER_BPS"
  | .FLAT_BPS => "FLAT_BPS"
  | .TIERED_BY_VOLUME => "TIERED_BY_VOLUME"
  | .INSTRUMENT_SPECIFIC => "INSTRUMENT_SPECIFIC"
  | .NOT_PROVIDED => "NOT_PROVIDED"
  | .UNKNOWN => "UNKNOWN"

inductive FundingModelKind where
  | PERIODIC_RATE
  | VENUE_FUNDING_SCHEDULE
  | NOT_APPLICABLE
  | NOT_PROVIDED
  | UNKNOWN
  deriving DecidableEq, Repr

def FundingModelKind.value : FundingModelKind → String
  | .PERIODIC_RATE => "PERIODIC_RATE"
  | .VENUE_FUNDING_SCHEDULE => "VENUE_FUNDING_SCHEDULE"
  | .NOT_APPLICABLE => "NOT_APPLICABLE"
  | .NOT_PROVIDED => "NOT_PROVIDED"
  | .UNKNOWN => "UNKNOWN"

inductive DepthModelKind where
  | TOP_OF_BOOK_ONLY
  | ORDER_BOOK_DEPTH
  | DEPTH_CURVE
  | CONSERVATIVE_PLACEHOLDER
  | NOT_PROVIDED
  | UNKNOWN
  deriving DecidableEq, Repr

def DepthModelKind.value : DepthModelKind → String
  | .TOP_OF_BOOK_ONLY => "TOP_OF_BOOK_ONLY"
  | .ORDER_BOOK_DEPTH => "ORDER_BOOK_DEPTH"
  | .DEPTH_CURVE => "DEPTH_CURVE"
  | .CONSERVATIVE_PLACEHOLDER => "CONSERVATIVE_PLACEHOLDER"
  | .NOT_PROVIDED => "NOT_PROVIDED"
  | .UNKNOWN => "UNKNOWN"

inductive ExecutionCostCompatibility where
  | DIRECT_MATCH
  | ASSET_MISMATCH
  | MODEL_UNSUPPORTED
  | NOT_COMPATIBLE
  | UNKNOWN
  deriving DecidableEq, Repr

inductive ExecutionCostDecisionReason where
  | READY
  | POLICY_DISABLED
  | SNAPSHOT_MISSING
  | SNAPSHOT_STALE
  | SNAPSHOT_FUTURE_DATED
  | SOURCE_RECORD_REQUIRED
  | SOURCE_KIND_UNKNOWN
  | SOURCE_KIND_UNSUPPORTED
  | SOURCE_UNTRUSTED
  | SOURCE_UNHEALTHY
  | VENUE_MISMATCH
  | INSTRUMENT_MISMATCH
  | FEE_MODEL_UNKNOWN
  | FEE_MODEL_UNSUPPORTED
  | FEE_MODEL_MISSING
  | MAKER_FEE_MISSING
  | TAKER_FEE_MISSING
  | FEE_ASSET_MISSING
  | FEE_ASSET_MISMATCH
  | FUNDING_MODEL_UNKNOWN
  | FUNDING_MODEL_UNSUPPORTED
  | FUNDING_MODEL_MISSING
  | FUNDING_INTERVAL_MISSING
  | FUNDING_ASSET_MISSING
  | FUNDING_ASSET_MISMATCH
  | DEPTH_MODEL_UNKNOWN
  | DEPTH_MODEL_UNSUPPORTED
  | DEPTH_MODEL_MISSING
  | MIN_DEPTH_NOTIONAL_MISSING
  | DEPTH_REFERENCE_ASSET_MISSING
  | DEPTH_REFERENCE_ASSET_MISMATCH
  | MAX_SPREAD_MISSING
  | NOT_READY
  | UNKNOWN
  deriving DecidableEq, Repr

structure ExecutionCostRuleSnapshot where
  venue_id : TrimmedText
  instrument_id : Option TrimmedText
  fee_asset : Option AssetSymbol
  funding_asset : Option AssetSymbol
  depth_reference_asset : Option AssetSymbol
  fee_model_kind : FeeModelKind
  maker_fee_rate : Option Decimal
  taker_fee_rate : Option Decimal
  flat_fee_rate : Option Decimal
  fee_tier_id : Option TrimmedText
  funding_model_kind : FundingModelKind
  funding_interval_ms : Option ℕ
  funding_rate_cap : Option Decimal
  depth_model_kind : DepthModelKind
  min_depth_notional : Option PositiveDecimal
  max_spread_bps : Option Decimal
  observed_at : DateTime
  captured_at : DateTime
  source_kind : ExecutionCostSourceKind
  source_trust : ExecutionCostSourceTrust
  source_health : ExecutionCostSourceHealth
  source_record_id : Option TrimmedText
  metadata : List (String × Json)
  rates_nonneg : ∀ rate ∈ [maker_fee_rate, taker_fee_rate, flat_fee_rate, funding_rate_cap,
    max_spread_bps], ∀ d ∈ rate, d.lt ⟨false, 0, 0⟩ = false
  interval_positive : ∀ n ∈ funding_interval_ms, 0 < n
  captured : observed_at ≤ captured_at

structure ExecutionCostPolicy where
  max_snapshot_age : ℕ
  require_source_record : Bool
  allowed_source_kinds : List ExecutionCostSourceKind
  allowed_source_trust : List ExecutionCostSourceTrust
  allowed_source_health : List ExecutionCostSourceHealth
  allowed_fee_models : List FeeModelKind
  allowed_funding_models : List FundingModelKind
  allowed_depth_models : List DepthModelKind
  require_fee_model : Bool
  require_maker_fee : Bool
  require_taker_fee : Bool
  require_fee_asset_match : Bool
  require_funding_model : Bool
  require_funding_interval : Bool
  require_funding_asset_match : Bool
  require_depth_model : Bool
  require_min_depth_notional : Bool
  require_depth_reference_asset_match : Bool
  require_max_spread_bps : Bool
  metadata : List (String × Json)
  max_age_positive : 0 < max_snapshot_age
  has_kinds : allowed_source_kinds ≠ []
  has_trust : allowed_source_trust ≠ []
  has_health : allowed_source_health ≠ []
  known_kinds : .UNKNOWN ∉ allowed_source_kinds
  known_fee_models : .UNKNOWN ∉ allowed_fee_models
  known_funding_models : .UNKNOWN ∉ allowed_funding_models
  known_depth_models : .UNKNOWN ∉ allowed_depth_models
  has_fee_models : require_fee_model = true → allowed_fee_models ≠ []
  has_funding_models : require_funding_model = true → allowed_funding_models ≠ []
  has_depth_models : require_depth_model = true → allowed_depth_models ≠ []

structure ExecutionCostReadinessDecision where
  policy_id : DomainId
  venue_id : Option TrimmedText
  instrument_id : Option TrimmedText
  fee_asset : Option AssetSymbol
  funding_asset : Option AssetSymbol
  depth_reference_asset : Option AssetSymbol
  ready : Bool
  reason : ExecutionCostDecisionReason
  compatibility : ExecutionCostCompatibility
  snapshot_id : Option DomainId
  checked_at : DateTime
  details : List (String × Json)
  ready_reason : ready = true ↔ reason = .READY
  compatible : ready = true → compatibility ≠ .UNKNOWN ∧ compatibility ≠ .NOT_COMPATIBLE
  deriving DecidableEq

/-- The digests that ids are made of. -/
structure ExecutionCostDigests where
  snapshot : ExecutionCostRuleSnapshot → HexDigest
  policy : ExecutionCostPolicy → HexDigest

namespace ExecutionCostDigests

variable (digests : ExecutionCostDigests)

def snapshotId (s : ExecutionCostRuleSnapshot) : DomainId :=
  .ofDigest ⟨"execution-cost-rule:", by decide⟩ (digests.snapshot s)

def policyId (p : ExecutionCostPolicy) : DomainId :=
  .ofDigest ⟨"execution-cost-policy:", by decide⟩ (digests.policy p)

end ExecutionCostDigests

/-! The checks, in their order. -/

abbrev ExecutionCostRefusal := Refusal ExecutionCostDecisionReason.READY ExecutionCostCompatibility

def refusal (reason : ExecutionCostDecisionReason)
    (compatibility : ExecutionCostCompatibility := .NOT_COMPATIBLE)
    (details : List (String × Json) := []) (refuses : reason ≠ .READY := by decide) :
    ExecutionCostRefusal :=
  ⟨reason, compatibility, details, refuses⟩

/-- `_policy_disabled`. -/
def policyDisabled (policy : ExecutionCostPolicy) : Bool :=
  decide (Dicts.find "policy_disabled" policy.metadata = some (.bool true))

/-- What an execution asks of the rules. -/
structure ExecutionCostRequest where
  venue_id : Option String
  instrument_id : Option String
  fee_asset : Option AssetSymbol
  funding_asset : Option AssetSymbol
  depth_reference_asset : Option AssetSymbol

section Checks

variable (policy : ExecutionCostPolicy) (q : ExecutionCostRequest) (s : ExecutionCostRuleSnapshot)

/-- The checks of the source of a snapshot, and of what it is about. -/
def sourceChecks : List (Check ExecutionCostRefusal) :=
  [require (policy.require_source_record = true → s.source_record_id ≠ none)
      (refusal .SOURCE_RECORD_REQUIRED),
    require (s.source_kind ≠ .UNKNOWN) (refusal .SOURCE_KIND_UNKNOWN),
    require (s.source_kind ∈ policy.allowed_source_kinds)
      (refusal .SOURCE_KIND_UNSUPPORTED .NOT_COMPATIBLE
        [("allowed_source_kinds", .arr (policy.allowed_source_kinds.map fun k => .str k.value))]),
    require (s.source_trust ∈ policy.allowed_source_trust) (refusal .SOURCE_UNTRUSTED),
    require (s.source_health ∈ policy.allowed_source_health) (refusal .SOURCE_UNHEALTHY),
    require (∀ venue_id ∈ q.venue_id, s.venue_id.value = venue_id)
      (refusal .VENUE_MISMATCH .NOT_COMPATIBLE
        [("required_venue_id", textOrNull q.venue_id)]),
    require (∀ instrument_id ∈ q.instrument_id, ∀ stated ∈ s.instrument_id,
        stated.value = instrument_id)
      (refusal .INSTRUMENT_MISMATCH .NOT_COMPATIBLE
        [("required_instrument_id", textOrNull q.instrument_id)])]

/-- `_model_reason`. -/
def modelReason : List (Check ExecutionCostRefusal) :=
  kindChecks policy.require_fee_model s.fee_model_kind .UNKNOWN .NOT_PROVIDED
      policy.allowed_fee_models (refusal .FEE_MODEL_UNKNOWN .MODEL_UNSUPPORTED)
      (refusal .FEE_MODEL_MISSING .MODEL_UNSUPPORTED)
      (refusal .FEE_MODEL_UNSUPPORTED .MODEL_UNSUPPORTED) ++
    kindChecks policy.require_funding_model s.funding_model_kind .UNKNOWN .NOT_PROVIDED
      policy.allowed_funding_models (refusal .FUNDING_MODEL_UNKNOWN .MODEL_UNSUPPORTED)
      (refusal .FUNDING_MODEL_MISSING .MODEL_UNSUPPORTED)
      (refusal .FUNDING_MODEL_UNSUPPORTED .MODEL_UNSUPPORTED) ++
    kindChecks policy.require_depth_model s.depth_model_kind .UNKNOWN .NOT_PROVIDED
      policy.allowed_depth_models (refusal .DEPTH_MODEL_UNKNOWN .MODEL_UNSUPPORTED)
      (refusal .DEPTH_MODEL_MISSING .MODEL_UNSUPPORTED)
      (refusal .DEPTH_MODEL_UNSUPPORTED .MODEL_UNSUPPORTED)

/-- `_required_field_reason`. -/
def requiredFieldReason : List (Check ExecutionCostRefusal) :=
  [require (policy.require_maker_fee = true → s.maker_fee_rate ≠ none)
      (refusal .MAKER_FEE_MISSING),
    require (policy.require_taker_fee = true → s.taker_fee_rate ≠ none)
      (refusal .TAKER_FEE_MISSING),
    require (policy.require_funding_interval = true → s.funding_interval_ms ≠ none)
      (refusal .FUNDING_INTERVAL_MISSING),
    require (policy.require_min_depth_notional = true → s.min_depth_notional ≠ none)
      (refusal .MIN_DEPTH_NOTIONAL_MISSING),
    require (policy.require_max_spread_bps = true → s.max_spread_bps ≠ none)
      (refusal .MAX_SPREAD_MISSING)]

/-- `_asset_path_reason`. -/
def assetPathReason : List (Check ExecutionCostRefusal) :=
  matchChecks policy.require_fee_asset_match q.fee_asset s.fee_asset
      (refusal .FEE_ASSET_MISSING .ASSET_MISMATCH) (refusal .FEE_ASSET_MISMATCH .ASSET_MISMATCH) ++
    matchChecks policy.require_funding_asset_match q.funding_asset s.funding_asset
      (refusal .FUNDING_ASSET_MISSING .ASSET_MISMATCH)
      (refusal .FUNDING_ASSET_MISMATCH .ASSET_MISMATCH) ++
    matchChecks policy.require_depth_reference_asset_match q.depth_reference_asset
      s.depth_reference_asset (refusal .DEPTH_REFERENCE_ASSET_MISSING .ASSET_MISMATCH)
      (refusal .DEPTH_REFERENCE_ASSET_MISMATCH .ASSET_MISMATCH)

/-- The checks that do not look at the time. -/
def ruleChecks : List (Check ExecutionCostRefusal) :=
  sourceChecks policy q s ++ modelReason policy s ++ requiredFieldReason policy s ++
    assetPathReason policy q s

def snapshotChecks (checked_at : DateTime) : List (Check ExecutionCostRefusal) :=
  datedChecks [s.observed_at, s.captured_at] s.observed_at policy.max_snapshot_age checked_at
    (refusal .SNAPSHOT_FUTURE_DATED)
    (fun age_ms => refusal .SNAPSHOT_STALE .NOT_COMPATIBLE [("age_ms", .int age_ms)]) ++
    ruleChecks policy q s

end Checks

/-! The evaluation. -/

/-- `_common_decision_fields`. -/
def commonDecisionFields (s : ExecutionCostRuleSnapshot) : List (String × Json) :=
  [("venue_id", .str s.venue_id.value),
    ("instrument_id", textOrNull (s.instrument_id.map (·.value))),
    ("source_kind", .str s.source_kind.value),
    ("fee_model_kind", .str s.fee_model_kind.value),
    ("funding_model_kind", .str s.funding_model_kind.value),
    ("depth_model_kind", .str s.depth_model_kind.value)]

section Evaluation

variable (digests : ExecutionCostDigests) (policy : ExecutionCostPolicy) (checked_at : DateTime)

/-- `_decision` for a refusal, with what is read of the snapshot when there is one. -/
def notReady (s : Option ExecutionCostRuleSnapshot) (r : ExecutionCostRefusal) :
    ExecutionCostReadinessDecision where
  policy_id := digests.policyId policy
  venue_id := s.map (·.venue_id)
  instrument_id := s.bind (·.instrument_id)
  fee_asset := s.bind (·.fee_asset)
  funding_asset := s.bind (·.funding_asset)
  depth_reference_asset := s.bind (·.depth_reference_asset)
  ready := false
  reason := r.reason
  compatibility := r.compatibility
  snapshot_id := s.map digests.snapshotId
  checked_at
  details := (s.elim [] commonDecisionFields) ++ r.details
  ready_reason := by simp [r.refuses]
  compatible := by simp

/-- `_decision` for a snapshot that passes all checks. -/
def readyDecision (s : ExecutionCostRuleSnapshot) : ExecutionCostReadinessDecision where
  policy_id := digests.policyId policy
  venue_id := some s.venue_id
  instrument_id := s.instrument_id
  fee_asset := s.fee_asset
  funding_asset := s.funding_asset
  depth_reference_asset := s.depth_reference_asset
  ready := true
  reason := .READY
  compatibility := .DIRECT_MATCH
  snapshot_id := some (digests.snapshotId s)
  checked_at
  details := commonDecisionFields s
  ready_reason := by simp
  compatible := by simp

def evaluateExecutionCostReadiness (snapshot : Handed ExecutionCostRuleSnapshot)
    (q : ExecutionCostRequest) : ExecutionCostReadinessDecision :=
  match outcome (policyDisabled policy) snapshot fun s => snapshotChecks policy q s checked_at with
  | .disabled =>
    notReady digests policy checked_at none
      (refusal .POLICY_DISABLED .UNKNOWN [("policy_disabled", .bool true)])
  | .missing type_name =>
    notReady digests policy checked_at none
      (refusal .SNAPSHOT_MISSING .UNKNOWN [("snapshot_type", textOrNull type_name)])
  | .refused s r => notReady digests policy checked_at (some s) r
  | .ready s => readyDecision digests policy checked_at s

end Evaluation

theorem evaluate_ready_iff {digests : ExecutionCostDigests} {policy : ExecutionCostPolicy}
    {checked_at : DateTime} {snapshot : Handed ExecutionCostRuleSnapshot}
    {q : ExecutionCostRequest} :
    (evaluateExecutionCostReadiness digests policy checked_at snapshot q).ready = true ↔
      ∃ s, outcome (policyDisabled policy) snapshot
        (fun s => snapshotChecks policy q s checked_at) = .ready s := by
  rw [evaluateExecutionCostReadiness]
  cases outcome (policyDisabled policy) snapshot fun s => snapshotChecks policy q s checked_at with
  | disabled => simp [notReady]
  | missing type_name => simp [notReady]
  | refused s r => simp [notReady]
  | ready s => simp [readyDecision]

end FuturesBot.ExecutionCosts
