import FuturesBot.AssetConversion
import FuturesBot.CollateralValuation

/-! Whether the result of a contract serves the asset that a policy aims at: directly, through a
conversion, or through the valuation of the collateral. -/
namespace FuturesBot.Objective

open JsonText (Json)
open DateTimes Checks
open Conversion (AssetConversionReadinessDecision ConversionDigests)
open Collateral (CollateralValuationReadinessDecision)

inductive ObjectivePolicyKind where
  | ACCUMULATE_ASSET
  | MAXIMIZE_REFERENCE_VALUE
  | PRESERVE_COLLATERAL_ASSET
  | MATCH_SETTLEMENT_ASSET
  | UNKNOWN
  deriving DecidableEq, Repr

inductive ObjectiveMeasurementMode where
  | NATIVE_ASSET_UNITS
  | REFERENCE_ASSET_VALUE
  | COLLATERAL_ADJUSTED_REFERENCE_VALUE
  | EXPLICIT_CONVERSION_REQUIRED
  | UNKNOWN
  deriving DecidableEq, Repr

inductive ObjectiveAssetCompatibility where
  | DIRECT_MATCH
  | VALUATION_REQUIRED
  | CONVERSION_REQUIRED
  | NOT_COMPATIBLE
  | UNKNOWN
  deriving DecidableEq, Repr

inductive ObjectiveAssetDecisionReason where
  | READY
  | POLICY_DISABLED
  | OBJECTIVE_ASSET_MISSING
  | OBJECTIVE_POLICY_UNKNOWN
  | OBJECTIVE_MEASUREMENT_UNKNOWN
  | PNL_ASSET_MISMATCH
  | SETTLEMENT_ASSET_MISMATCH
  | REFERENCE_ASSET_MISMATCH
  | VALUATION_REQUIRED
  | VALUATION_NOT_READY
  | CONVERSION_REQUIRED
  | CONVERSION_NOT_AVAILABLE
  | COLLATERAL_VALUATION_NOT_READY
  | NOT_READY
  deriving DecidableEq, Repr

def ObjectivePolicyKind.value : ObjectivePolicyKind → String
  | .ACCUMULATE_ASSET => "ACCUMULATE_ASSET"
  | .MAXIMIZE_REFERENCE_VALUE => "MAXIMIZE_REFERENCE_VALUE"
  | .PRESERVE_COLLATERAL_ASSET => "PRESERVE_COLLATERAL_ASSET"
  | .MATCH_SETTLEMENT_ASSET => "MATCH_SETTLEMENT_ASSET"
  | .UNKNOWN => "UNKNOWN"

def ObjectiveMeasurementMode.value : ObjectiveMeasurementMode → String
  | .NATIVE_ASSET_UNITS => "NATIVE_ASSET_UNITS"
  | .REFERENCE_ASSET_VALUE => "REFERENCE_ASSET_VALUE"
  | .COLLATERAL_ADJUSTED_REFERENCE_VALUE => "COLLATERAL_ADJUSTED_REFERENCE_VALUE"
  | .EXPLICIT_CONVERSION_REQUIRED => "EXPLICIT_CONVERSION_REQUIRED"
  | .UNKNOWN => "UNKNOWN"

structure ObjectiveAssetPolicy where
  policy_kind : ObjectivePolicyKind
  objective_asset : Option AssetSymbol
  reference_asset : Option AssetSymbol
  measurement_mode : ObjectiveMeasurementMode
  valuation_required : Bool
  conversion_required : Bool
  collateral_adjustment_required : Bool
  allow_direct_asset_match : Bool
  allow_reference_asset_measurement : Bool
  allow_collateral_adjusted_measurement : Bool
  metadata : List (String × Json)
  has_objective : policy_kind = .ACCUMULATE_ASSET → objective_asset ≠ none
  has_reference : policy_kind = .MAXIMIZE_REFERENCE_VALUE → reference_asset ≠ none
  has_adjustment : measurement_mode = .COLLATERAL_ADJUSTED_REFERENCE_VALUE →
    collateral_adjustment_required = true
  deriving DecidableEq

inductive ObjectiveError where
  | check (message : String)
  deriving DecidableEq

structure DecisionFields where
  policy_id : DomainId
  objective_asset : Option AssetSymbol
  reference_asset : Option AssetSymbol
  pnl_asset : Option AssetSymbol
  settlement_asset : Option AssetSymbol
  collateral_asset : Option AssetSymbol
  ready : Bool
  reason : ObjectiveAssetDecisionReason
  compatibility : ObjectiveAssetCompatibility
  valuation_decision_id : Option DomainId
  conversion_decision_id : Option DomainId
  collateral_valuation_decision_id : Option DomainId
  checked_at : DateTime
  details : List (String × Json)
  deriving DecidableEq

def DecisionFields.validate (d : DecisionFields) : List (Check ObjectiveError) :=
  [require (d.ready = true → d.reason = .READY)
      (.check "ready objective asset decision requires READY reason"),
    require (d.ready = false → d.reason ≠ .READY)
      (.check "not-ready objective asset decision requires non-READY reason"),
    require (d.ready = true → d.compatibility ≠ .UNKNOWN ∧ d.compatibility ≠ .NOT_COMPATIBLE)
      (.check "ready objective asset decision requires compatible assets")]

structure ObjectiveAssetReadinessDecision extends DecisionFields where
  valid : checkAll toDecisionFields.validate = .ok ()
  deriving DecidableEq

/-- The digests that ids are made of. -/
structure ObjectiveDigests where
  policy : ObjectiveAssetPolicy → HexDigest
  conversion : ConversionDigests
  collateral : Collateral.DecisionFields → HexDigest

namespace ObjectiveDigests

variable (digests : ObjectiveDigests)

def policyId (p : ObjectiveAssetPolicy) : DomainId :=
  .ofDigest ⟨"objective-asset-policy:", by decide⟩ (digests.policy p)

def collateralDecisionId (d : CollateralValuationReadinessDecision) : DomainId :=
  .ofDigest ⟨"collateral-valuation-decision:", by decide⟩ (digests.collateral d.toDecisionFields)

end ObjectiveDigests

/-! What the evaluator is given. -/

/-- An asset is handed over as a symbol or as its text. -/
inductive AssetInput where
  | symbol (asset : AssetSymbol)
  | text (value : String)

/-- A valuation is handed over as a conversion decision, as the id of a measurement, or as an
object of another type: of that only the text of the first id that it carries is read. -/
inductive ValuationEvidence where
  | conversion (d : AssetConversionReadinessDecision)
  | measurement (id : DomainId)
  | other (id_text : Option String)

structure ObjectiveRequest where
  policy : ObjectiveAssetPolicy
  checked_at : DateTime
  pnl_asset : Option AssetInput
  settlement_asset : Option AssetInput
  collateral_asset : Option AssetInput
  valuation_decision : Option ValuationEvidence
  conversion_decision : Option AssetConversionReadinessDecision
  collateral_valuation_decision : Option CollateralValuationReadinessDecision

def AssetSymbol.of (value : String) : Except ObjectiveError AssetSymbol :=
  if h : 2 ≤ value.toList.length ∧ value.toList.length ≤ 16 ∧
      value.toList.all isAssetSymbolChar = true then .ok (AssetSymbol.ofText value h)
  else .error (.check "asset symbol must be 2..16 uppercase ASCII letters/digits")

/-- `_asset_or_none`. -/
def assetOrNone : Option AssetInput → Except ObjectiveError (Option AssetSymbol)
  | none => .ok none
  | some (.symbol asset) => .ok (some asset)
  | some (.text value) => (AssetSymbol.of value).map some

/-- `_valuation_decision_id`. -/
def valuationDecisionId (digests : ObjectiveDigests) :
    Option ValuationEvidence → Except ObjectiveError (Option DomainId)
  | none => .ok none
  | some (.conversion d) => .ok (some (digests.conversion.decisionId d))
  | some (.measurement id) => .ok (some id)
  | some (.other none) => .ok none
  | some (.other (some text)) =>
    match DomainId.of text with
    | none => .error (.check "domain id")
    | some id => .ok (some id)

/-! The evaluation: what is decided, over the assets as symbols. -/

/-- The assets of a contract, and the evidence on them. -/
structure AssetPath where
  policy : ObjectiveAssetPolicy
  pnl_asset : Option AssetSymbol
  settlement_asset : Option AssetSymbol
  collateral_asset : Option AssetSymbol
  valuation_decision : Option ValuationEvidence
  conversion_decision : Option AssetConversionReadinessDecision
  collateral_valuation_decision : Option CollateralValuationReadinessDecision

/-- What a decision says besides what it was made from. -/
structure Verdict where
  ready : Bool
  reason : ObjectiveAssetDecisionReason
  compatibility : ObjectiveAssetCompatibility
  conversion_decision : Option AssetConversionReadinessDecision
  details : List (String × Json)

def assetJson : Option AssetSymbol → Json
  | none => .null
  | some asset => .str asset.value

/-- `_policy_disabled`. -/
def policyDisabled (policy : ObjectiveAssetPolicy) : Bool :=
  Dicts.find "policy_disabled" policy.metadata = some (.bool true)

/-- `_collateral_ready`. -/
def collateralReady (collateral_valuation_decision : Option CollateralValuationReadinessDecision) :
    Bool :=
  match collateral_valuation_decision with
  | none => false
  | some d => d.ready

/-- `_conversion_decision_supports_path`. -/
def conversionDecisionSupportsPath (conversion_decision : AssetConversionReadinessDecision)
    (from_assets : List AssetSymbol) (to_asset : AssetSymbol) : Bool :=
  conversion_decision.ready && decide (conversion_decision.to_asset = some to_asset) &&
    from_assets.any fun source_asset => conversion_decision.from_asset = some source_asset

/-- `_asset_tuple`. -/
def assetTuple (assets : List (Option AssetSymbol)) : List AssetSymbol := assets.filterMap id

section Evaluation

variable (r : AssetPath)

def AssetPath.refused (reason : ObjectiveAssetDecisionReason)
    (compatibility : ObjectiveAssetCompatibility) (details : List (String × Json)) : Verdict :=
  ⟨false, reason, compatibility, r.conversion_decision, details⟩

/-- `_ready`. -/
def AssetPath.readyVerdict (compatibility : ObjectiveAssetCompatibility)
    (conversion_decision : Option AssetConversionReadinessDecision)
    (details : List (String × Json)) : Verdict :=
  ⟨true, .READY, compatibility, conversion_decision, details⟩

/-- `_missing_objective`. -/
def AssetPath.missingObjective : Verdict :=
  r.refused .OBJECTIVE_ASSET_MISSING .UNKNOWN [("missing", .str "objective_asset")]

/-- `_typed_conversion_decision`. -/
def AssetPath.typedConversionDecision : Option AssetConversionReadinessDecision :=
  match r.conversion_decision, r.valuation_decision with
  | some d, _ => some d
  | none, some (.conversion d) => some d
  | none, _ => none

/-- `_collateral_valuation_supports_policy`. -/
def AssetPath.collateralValuationSupportsPolicy (d : CollateralValuationReadinessDecision) : Bool :=
  d.ready && decide (r.collateral_asset = some d.collateral_asset) &&
    decide (r.policy.reference_asset = some d.reference_asset) &&
    (decide (r.policy.policy_kind = .MAXIMIZE_REFERENCE_VALUE) &&
      (r.policy.allow_reference_asset_measurement ||
        r.policy.allow_collateral_adjusted_measurement))

/-- `_explicit_evidence_or_required`. -/
def AssetPath.explicitEvidenceOrRequired (conversion_from_assets : List AssetSymbol)
    (conversion_to_asset : AssetSymbol)
    (missing_reason not_ready_reason : ObjectiveAssetDecisionReason)
    (compatibility : ObjectiveAssetCompatibility) (details : List (String × Json)) : Verdict :=
  match r.typedConversionDecision with
  | some typed =>
    if conversionDecisionSupportsPath typed conversion_from_assets conversion_to_asset then
      AssetPath.readyVerdict compatibility (some typed) details
    else ⟨false, not_ready_reason, compatibility, some typed, details⟩
  | none =>
    match r.collateral_valuation_decision with
    | some d =>
      if r.collateralValuationSupportsPolicy d then
        AssetPath.readyVerdict compatibility r.conversion_decision details
      else if d.ready = false then
        r.refused .COLLATERAL_VALUATION_NOT_READY compatibility details
      else r.refused missing_reason compatibility details
    | none =>
      if r.valuation_decision.isSome then r.refused not_ready_reason compatibility details
      else r.refused missing_reason compatibility details

/-- `_evaluate_accumulate`. -/
def AssetPath.evaluateAccumulate : Verdict :=
  match r.policy.objective_asset with
  | none => r.missingObjective
  | some objective =>
    if r.policy.allow_direct_asset_match ∧ some objective ∈ [r.pnl_asset, r.settlement_asset] then
      AssetPath.readyVerdict .DIRECT_MATCH r.conversion_decision
        [("objective_asset", .str objective.value)]
    else
      r.explicitEvidenceOrRequired (assetTuple [r.pnl_asset, r.settlement_asset]) objective
        (if r.policy.conversion_required then .CONVERSION_REQUIRED else .VALUATION_REQUIRED)
        (if r.policy.conversion_required then .CONVERSION_NOT_AVAILABLE else .VALUATION_NOT_READY)
        (if r.policy.conversion_required then .CONVERSION_REQUIRED else .VALUATION_REQUIRED)
        [("objective_asset", .str objective.value), ("pnl_asset", assetJson r.pnl_asset),
          ("settlement_asset", assetJson r.settlement_asset)]

/-- `_evaluate_reference_value`. -/
def AssetPath.evaluateReferenceValue : Verdict :=
  match r.policy.reference_asset with
  | none => r.refused .REFERENCE_ASSET_MISMATCH .UNKNOWN [("missing", .str "reference_asset")]
  | some reference =>
    if r.policy.allow_reference_asset_measurement ∧
        some reference ∈ [r.pnl_asset, r.settlement_asset] then
      AssetPath.readyVerdict .DIRECT_MATCH r.conversion_decision
        [("reference_asset", .str reference.value)]
    else
      r.explicitEvidenceOrRequired
        (assetTuple [r.pnl_asset, r.settlement_asset, r.collateral_asset]) reference
        .VALUATION_REQUIRED .VALUATION_NOT_READY .VALUATION_REQUIRED
        [("reference_asset", .str reference.value), ("pnl_asset", assetJson r.pnl_asset),
          ("settlement_asset", assetJson r.settlement_asset)]

/-- `_evaluate_preserve_collateral`. -/
def AssetPath.evaluatePreserveCollateral : Verdict :=
  match r.policy.objective_asset.or r.collateral_asset with
  | none => r.missingObjective
  | some objective =>
    if r.policy.allow_direct_asset_match ∧
        some objective ∈ [r.pnl_asset, r.settlement_asset, r.collateral_asset] then
      AssetPath.readyVerdict .DIRECT_MATCH r.conversion_decision
        [("objective_asset", .str objective.value)]
    else
      r.explicitEvidenceOrRequired (assetTuple [r.pnl_asset, r.settlement_asset]) objective
        .CONVERSION_REQUIRED .CONVERSION_NOT_AVAILABLE .CONVERSION_REQUIRED
        [("objective_asset", .str objective.value), ("pnl_asset", assetJson r.pnl_asset)]

/-- `_evaluate_match_settlement`. -/
def AssetPath.evaluateMatchSettlement : Verdict :=
  match r.settlement_asset with
  | none => r.refused .SETTLEMENT_ASSET_MISMATCH .UNKNOWN [("missing", .str "settlement_asset")]
  | some settlement_asset =>
    if r.policy.allow_direct_asset_match ∧ r.pnl_asset = some settlement_asset then
      AssetPath.readyVerdict .DIRECT_MATCH r.conversion_decision
        [("settlement_asset", .str settlement_asset.value)]
    else if r.policy.conversion_required = false then
      r.refused .SETTLEMENT_ASSET_MISMATCH .NOT_COMPATIBLE
        [("pnl_asset", assetJson r.pnl_asset), ("settlement_asset", .str settlement_asset.value)]
    else
      r.explicitEvidenceOrRequired (assetTuple [r.pnl_asset]) settlement_asset
        .CONVERSION_REQUIRED .CONVERSION_NOT_AVAILABLE .CONVERSION_REQUIRED
        [("pnl_asset", assetJson r.pnl_asset), ("settlement_asset", .str settlement_asset.value)]

/-- The branches of `evaluate_objective_asset_readiness`, in their order. -/
def AssetPath.verdict : Verdict :=
  if policyDisabled r.policy then
    r.refused .POLICY_DISABLED .UNKNOWN [("policy_disabled", .bool true)]
  else if r.policy.policy_kind = .UNKNOWN then
    r.refused .OBJECTIVE_POLICY_UNKNOWN .UNKNOWN
      [("policy_kind", .str r.policy.policy_kind.value)]
  else if r.policy.measurement_mode = .UNKNOWN then
    r.refused .OBJECTIVE_MEASUREMENT_UNKNOWN .UNKNOWN
      [("measurement_mode", .str r.policy.measurement_mode.value)]
  else if r.policy.collateral_adjustment_required = true ∧
      collateralReady r.collateral_valuation_decision = false then
    -- the decision is looked at here without the asset that it is about
    r.refused .COLLATERAL_VALUATION_NOT_READY .VALUATION_REQUIRED
      [("collateral_adjustment_required", .bool true)]
  else match r.policy.policy_kind with
    | .ACCUMULATE_ASSET => r.evaluateAccumulate
    | .MAXIMIZE_REFERENCE_VALUE => r.evaluateReferenceValue
    | .PRESERVE_COLLATERAL_ASSET => r.evaluatePreserveCollateral
    | .MATCH_SETTLEMENT_ASSET => r.evaluateMatchSettlement
    | .UNKNOWN => r.refused .NOT_READY .UNKNOWN [("policy_kind", .str r.policy.policy_kind.value)]

end Evaluation

/-- `_decision`. -/
def decision (digests : ObjectiveDigests) (r : AssetPath) (checked_at : DateTime) (v : Verdict) :
    Except ObjectiveError ObjectiveAssetReadinessDecision := do
  let valuation_decision_id ← valuationDecisionId digests r.valuation_decision
  let fields : DecisionFields := {
    policy_id := digests.policyId r.policy
    objective_asset := r.policy.objective_asset
    reference_asset := r.policy.reference_asset
    pnl_asset := r.pnl_asset
    settlement_asset := r.settlement_asset
    collateral_asset := r.collateral_asset
    ready := v.ready
    reason := v.reason
    compatibility := v.compatibility
    valuation_decision_id
    conversion_decision_id := v.conversion_decision.map digests.conversion.decisionId
    collateral_valuation_decision_id :=
      r.collateral_valuation_decision.map digests.collateralDecisionId
    checked_at
    details := v.details }
  validated (checkAll fields.validate) fun h => ⟨fields, h⟩

/-- The assets of a request as symbols. -/
def ObjectiveRequest.path (q : ObjectiveRequest) : Except ObjectiveError AssetPath := do
  let pnl_asset ← assetOrNone q.pnl_asset
  let settlement_asset ← assetOrNone q.settlement_asset
  let collateral_asset ← assetOrNone q.collateral_asset
  pure {
    policy := q.policy
    pnl_asset
    settlement_asset
    collateral_asset
    valuation_decision := q.valuation_decision
    conversion_decision := q.conversion_decision
    collateral_valuation_decision := q.collateral_valuation_decision }

def evaluateObjectiveAssetReadiness (digests : ObjectiveDigests) (q : ObjectiveRequest) :
    Except ObjectiveError ObjectiveAssetReadinessDecision := do
  let r ← q.path
  decision digests r q.checked_at r.verdict

end FuturesBot.Objective
