import FuturesBot.DecimalArithmetic
import FuturesBot.Journal

/-! The asset semantics of a contract: its assets, how it pays off, and whether the semantics is
ready for orders on the contract. -/
namespace FuturesBot

open JsonText (Json)
open DecimalNumbers

namespace Assets

inductive AssetClass where
  | STABLECOIN
  | CRYPTO
  | FIAT
  | EXCHANGE_TOKEN
  | SYNTHETIC
  | UNKNOWN
  deriving DecidableEq, Repr

inductive ContractPayoffKind where
  | LINEAR
  | INVERSE
  | QUANTO
  | UNKNOWN
  deriving DecidableEq, Repr

def ContractPayoffKind.value : ContractPayoffKind → String
  | .LINEAR => "LINEAR"
  | .INVERSE => "INVERSE"
  | .QUANTO => "QUANTO"
  | .UNKNOWN => "UNKNOWN"

inductive CollateralMode where
  | SINGLE_ASSET
  | MULTI_ASSET
  | PORTFOLIO_MARGIN
  | CROSS_COLLATERAL
  | UNKNOWN
  deriving DecidableEq, Repr

def CollateralMode.value : CollateralMode → String
  | .SINGLE_ASSET => "SINGLE_ASSET"
  | .MULTI_ASSET => "MULTI_ASSET"
  | .PORTFOLIO_MARGIN => "PORTFOLIO_MARGIN"
  | .CROSS_COLLATERAL => "CROSS_COLLATERAL"
  | .UNKNOWN => "UNKNOWN"

inductive SettlementMode where
  | SINGLE_ASSET
  | MULTI_ASSET
  | EXCHANGE_DEFINED
  | UNKNOWN
  deriving DecidableEq, Repr

def SettlementMode.value : SettlementMode → String
  | .SINGLE_ASSET => "SINGLE_ASSET"
  | .MULTI_ASSET => "MULTI_ASSET"
  | .EXCHANGE_DEFINED => "EXCHANGE_DEFINED"
  | .UNKNOWN => "UNKNOWN"

inductive ValuationRequirement where
  | NOT_REQUIRED
  | REQUIRED_FOR_COLLATERAL
  | REQUIRED_FOR_OBJECTIVE
  | REQUIRED_FOR_MARGIN
  | REQUIRED_UNKNOWN
  deriving DecidableEq, Repr

def ValuationRequirement.value : ValuationRequirement → String
  | .NOT_REQUIRED => "NOT_REQUIRED"
  | .REQUIRED_FOR_COLLATERAL => "REQUIRED_FOR_COLLATERAL"
  | .REQUIRED_FOR_OBJECTIVE => "REQUIRED_FOR_OBJECTIVE"
  | .REQUIRED_FOR_MARGIN => "REQUIRED_FOR_MARGIN"
  | .REQUIRED_UNKNOWN => "REQUIRED_UNKNOWN"

inductive AssetSemanticsReadinessReason where
  | READY
  | ASSET_MISSING
  | PAYOFF_KIND_UNKNOWN
  | COLLATERAL_MODE_UNKNOWN
  | SETTLEMENT_MODE_UNKNOWN
  | VALUATION_REQUIRED
  | HAIRCUT_RULES_REQUIRED
  | CONVERSION_RULES_REQUIRED
  | OBJECTIVE_ASSET_VALUATION_REQUIRED
  deriving DecidableEq, Repr

def AssetSemanticsReadinessReason.value : AssetSemanticsReadinessReason → String
  | .READY => "READY"
  | .ASSET_MISSING => "ASSET_MISSING"
  | .PAYOFF_KIND_UNKNOWN => "PAYOFF_KIND_UNKNOWN"
  | .COLLATERAL_MODE_UNKNOWN => "COLLATERAL_MODE_UNKNOWN"
  | .SETTLEMENT_MODE_UNKNOWN => "SETTLEMENT_MODE_UNKNOWN"
  | .VALUATION_REQUIRED => "VALUATION_REQUIRED"
  | .HAIRCUT_RULES_REQUIRED => "HAIRCUT_RULES_REQUIRED"
  | .CONVERSION_RULES_REQUIRED => "CONVERSION_RULES_REQUIRED"
  | .OBJECTIVE_ASSET_VALUATION_REQUIRED => "OBJECTIVE_ASSET_VALUATION_REQUIRED"

inductive MarketDataObservationKind where
  | BEST_BID_ASK
  | MARK_PRICE
  | INDEX_PRICE
  | LAST_TRADE
  | ORDER_BOOK_DEPTH
  | FUNDING_REFERENCE
  | AGGREGATED_TICKER
  | TEST_FIXTURE
  | UNKNOWN
  deriving DecidableEq, Repr

structure AssetDescriptor where
  symbol : TrimmedText
  asset_class : AssetClass
  venue_id : Option TrimmedText
  canonical_symbol : Option TrimmedText
  metadata : Json
  deriving DecidableEq

def assetKey (asset : AssetDescriptor) : TrimmedText := asset.canonical_symbol.getD asset.symbol

structure ContractAssetSemantics where
  venue_id : TrimmedText
  instrument_id : TrimmedText
  base_asset : AssetDescriptor
  quote_asset : AssetDescriptor
  margin_asset : AssetDescriptor
  settlement_asset : AssetDescriptor
  pnl_asset : AssetDescriptor
  fee_asset : Option AssetDescriptor
  funding_asset : Option AssetDescriptor
  depth_reference_asset : Option AssetDescriptor
  collateral_assets : List AssetDescriptor
  valuation_reference_asset : AssetDescriptor
  objective_asset : Option AssetDescriptor
  payoff_kind : ContractPayoffKind
  collateral_mode : CollateralMode
  settlement_mode : SettlementMode
  contract_size : Option PositiveDecimal
  contract_value_asset : Option AssetDescriptor
  requires_collateral_valuation : Bool
  requires_haircut_rules : Bool
  requires_conversion_rules : Bool
  requires_objective_valuation : Bool
  requires_margin_rules : Bool
  requires_liquidation_rules : Bool
  requires_fee_rules : Bool
  requires_funding_rules : Bool
  requires_depth_rules : Bool
  requires_market_data_rules : Bool
  requires_order_book_depth : Bool
  collateral_valuation_policy_id : Option DomainId
  objective_asset_policy_id : Option DomainId
  margin_liquidation_policy_id : Option DomainId
  execution_cost_policy_id : Option DomainId
  market_data_policy_id : Option DomainId
  market_data_observation_kind : Option MarketDataObservationKind
  metadata : Json
  has_collateral : collateral_assets ≠ []
  has_value_asset : payoff_kind ∈ [.INVERSE, .QUANTO] → contract_value_asset ≠ none
  deriving DecidableEq

/-- Equality of two semantics but for their digests: numbers are compared by value. -/
def ContractAssetSemantics.same (a b : ContractAssetSemantics) : Bool :=
  decide ({ a with contract_size := b.contract_size } = b) &&
    sameOption (a.contract_size.map (·.1)) (b.contract_size.map (·.1))

structure ContractAssetSemanticsReadinessDecision where
  ready : Bool
  reason : AssetSemanticsReadinessReason
  valuation_requirements : List ValuationRequirement
  details : Json
  ready_iff : ready = true ↔ reason = .READY

def valuationRequirements (s : ContractAssetSemantics) : List ValuationRequirement :=
  let requirements :=
    (if s.requires_collateral_valuation then [.REQUIRED_FOR_COLLATERAL] else []) ++
      (if s.requires_objective_valuation then [.REQUIRED_FOR_OBJECTIVE] else []) ++
      (if s.requires_conversion_rules then [.REQUIRED_UNKNOWN] else []) ++
      (if s.requires_margin_rules || s.requires_liquidation_rules then [.REQUIRED_FOR_MARGIN]
        else [])
  if requirements = [] then [.NOT_REQUIRED] else requirements

def allSemanticAssets (s : ContractAssetSemantics) : List AssetDescriptor :=
  [s.base_asset, s.quote_asset, s.margin_asset, s.settlement_asset, s.pnl_asset] ++
    s.collateral_assets ++ [s.valuation_reference_asset] ++
    [s.fee_asset, s.funding_asset, s.depth_reference_asset, s.objective_asset,
      s.contract_value_asset].filterMap id

def objectiveValuationIsMissing (s : ContractAssetSemantics) : Bool :=
  match s.objective_asset with
  | none => false
  | some objective_asset =>
    decide (assetKey objective_asset ≠ assetKey s.pnl_asset) && s.requires_objective_valuation &&
      s.objective_asset_policy_id.isNone

/-- The reason of the first check that fails. -/
def firstReason {α : Type} (otherwise : α) : List (Bool × α) → α
  | [] => otherwise
  | (failed, reason) :: checks => if failed then reason else firstReason otherwise checks

def readinessReason (s : ContractAssetSemantics) : AssetSemanticsReadinessReason :=
  firstReason .READY
    [((allSemanticAssets s).any fun asset => asset.asset_class = .UNKNOWN, .ASSET_MISSING),
      (s.payoff_kind = .UNKNOWN, .PAYOFF_KIND_UNKNOWN),
      (s.collateral_mode = .UNKNOWN, .COLLATERAL_MODE_UNKNOWN),
      (s.settlement_mode = .UNKNOWN, .SETTLEMENT_MODE_UNKNOWN),
      (s.requires_collateral_valuation && s.collateral_valuation_policy_id.isNone,
        .VALUATION_REQUIRED),
      (s.requires_haircut_rules, .HAIRCUT_RULES_REQUIRED),
      (s.requires_conversion_rules, .CONVERSION_RULES_REQUIRED),
      (objectiveValuationIsMissing s, .OBJECTIVE_ASSET_VALUATION_REQUIRED)]

def validateContractAssetSemanticsReadiness (s : ContractAssetSemantics) :
    ContractAssetSemanticsReadinessDecision where
  ready := readinessReason s = .READY
  reason := readinessReason s
  valuation_requirements := valuationRequirements s
  details := .obj [("venue_id", .str s.venue_id.value),
    ("instrument_id", .str s.instrument_id.value),
    ("payoff_kind", .str s.payoff_kind.value),
    ("collateral_mode", .str s.collateral_mode.value),
    ("settlement_mode", .str s.settlement_mode.value)]
  ready_iff := decide_eq_true_iff

end Assets

end FuturesBot
