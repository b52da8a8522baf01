import FuturesBot.AssetSemantics
import FuturesBot.OrderIntents

/-! What a venue and an instrument on it support, as captured in snapshots, and the context in
which an order is checked against both. -/
namespace FuturesBot

open JsonText (Json)
open DateTimes DecimalNumbers

/-- A number that is not zero or negative, as milliseconds and counts are checked. -/
def positiveOption (n : Option ℤ) : Bool := n.all fun n => 0 < n

namespace Venues

open Orders Assets

inductive VenueTradingStatus where
  | ENABLED
  | DISABLED
  | DEGRADED
  | UNKNOWN
  deriving DecidableEq, Repr

inductive InstrumentTradingStatus where
  | TRADING
  | HALTED
  | BREAK_ONLY
  | SETTLING
  | DELISTED
  | UNKNOWN
  deriving DecidableEq, Repr

inductive FuturesContractKind where
  | LINEAR_PERPETUAL
  | LINEAR_DELIVERY
  | INVERSE_PERPETUAL
  | INVERSE_DELIVERY
  | SPOT
  | UNKNOWN
  deriving DecidableEq, Repr

inductive VenuePositionMode where
  | ONE_WAY
  | HEDGE
  deriving DecidableEq, Repr

inductive VenueSelfTradePreventionMode where
  | NONE
  | EXPIRE_TAKER
  | EXPIRE_MAKER
  | EXPIRE_BOTH
  | UNKNOWN
  deriving DecidableEq, Repr

inductive DeadManSwitchScopeKind where
  | VENUE
  | ACCOUNT
  | INSTRUMENT
  deriving DecidableEq, Repr

/-- The check of an upper bound that must not lie below the lower one. -/
def boundsOrdered (lower upper : Option PositiveDecimal) : Bool :=
  match lower, upper with
  | some lower, some upper => !upper.1.lt lower.1
  | _, _ => true

structure PriceFilter where
  tick_size : PositiveDecimal
  min_price : Option PositiveDecimal
  max_price : Option PositiveDecimal
  price_precision : Option ℕ
  ordered : boundsOrdered min_price max_price = true
  deriving DecidableEq

structure QuantityFilter where
  step_size : PositiveDecimal
  min_quantity : PositiveDecimal
  max_quantity : Option PositiveDecimal
  quantity_precision : Option ℕ
  ordered : boundsOrdered (some min_quantity) max_quantity = true
  deriving DecidableEq

structure NotionalFilter where
  min_notional : Option PositiveDecimal
  max_notional : Option PositiveDecimal
  requires_reference_price_for_market_orders : Bool
  ordered : boundsOrdered min_notional max_notional = true
  deriving DecidableEq

structure VenueRateLimitRule where
  name : TrimmedText
  window_ms : ℕ
  max_weight : Option ℤ
  max_orders : Option ℤ
  positive : 0 < window_ms ∧ positiveOption max_weight = true ∧ positiveOption max_orders = true
  deriving DecidableEq

structure VenueRateLimitProfile where
  profile_id : DomainId
  rules : List VenueRateLimitRule
  deriving DecidableEq

structure DeadManSwitchCapability where
  capability_id : DomainId
  supported : Bool
  scope_kind : DeadManSwitchScopeKind
  min_countdown_ms : Option ℤ
  max_countdown_ms : Option ℤ
  recommended_heartbeat_ms : Option ℤ
  positive : positiveOption min_countdown_ms = true ∧ positiveOption max_countdown_ms = true ∧
    positiveOption recommended_heartbeat_ms = true
  heartbeat : supported = true → recommended_heartbeat_ms ≠ none
  ordered : ∀ a ∈ min_countdown_ms, ∀ b ∈ max_countdown_ms, a ≤ b
  deriving DecidableEq

structure VenueCapabilitySnapshot where
  snapshot_id : DomainId
  venue_id : TrimmedText
  trading_status : VenueTradingStatus
  api_trading_enabled : Bool
  captured_at : DateTime
  account_tier : Option TrimmedText
  supported_margin_assets : List TrimmedText
  supported_settlement_assets : List TrimmedText
  supported_position_modes : List VenuePositionMode
  supports_reduce_only : Bool
  supports_post_only : Bool
  supports_close_position : Bool
  supports_gtd : Bool
  min_gtd_duration_ms : Option ℤ
  supports_price_protection : Bool
  supported_self_trade_prevention_modes : List VenueSelfTradePreventionMode
  dead_man_switch : DeadManSwitchCapability
  rate_limit_profile : Option VenueRateLimitProfile
  source_hash : Option HexDigest
  source_record_id : Option DomainId
  source_payload_hash : Option HexDigest
  has_assets : supported_margin_assets ≠ [] ∧ supported_settlement_assets ≠ []
  gtd_positive : supports_gtd = true → positiveOption min_gtd_duration_ms = true
  source_paired : source_record_id.isSome = source_payload_hash.isSome
  deriving DecidableEq

structure RuleFields where
  snapshot_id : DomainId
  venue_id : TrimmedText
  instrument_id : TrimmedText
  symbol : TrimmedText
  trading_status : InstrumentTradingStatus
  contract_kind : FuturesContractKind
  margin_asset : TrimmedText
  settlement_asset : TrimmedText
  base_asset : Option TrimmedText
  quote_asset : Option TrimmedText
  captured_at : DateTime
  price_filter : PriceFilter
  quantity_filter : QuantityFilter
  notional_filter : NotionalFilter
  max_leverage : Option PositiveDecimal
  supported_order_types : List String
  supported_time_in_force : List String
  supports_reduce_only : Bool
  supports_post_only : Bool
  supports_close_position : Bool
  supports_gtd : Bool
  min_gtd_duration_ms : Option ℤ
  supports_price_protection : Bool
  supported_self_trade_prevention_modes : List VenueSelfTradePreventionMode
  asset_semantics : Option ContractAssetSemantics
  source_hash : Option HexDigest
  source_record_id : Option DomainId
  source_payload_hash : Option HexDigest
  deriving DecidableEq

/-- The semantics of an instrument is that of its rules. -/
def RuleFields.MatchesSemantics (r : RuleFields) (s : ContractAssetSemantics) : Prop :=
  s.venue_id = r.venue_id ∧ s.instrument_id = r.instrument_id ∧
    s.margin_asset.symbol = r.margin_asset ∧ s.settlement_asset.symbol = r.settlement_asset

instance (r : RuleFields) (s : ContractAssetSemantics) : Decidable (r.MatchesSemantics s) :=
  inferInstanceAs (Decidable (_ ∧ _))

def RuleFields.Valid (r : RuleFields) : Prop :=
  r.supported_order_types ≠ [] ∧
  (r.supports_gtd = true → positiveOption r.min_gtd_duration_ms = true) ∧
  (r.source_record_id.isSome = r.source_payload_hash.isSome) ∧
  ∀ s ∈ r.asset_semantics, r.MatchesSemantics s

instance (r : RuleFields) : Decidable r.Valid := inferInstanceAs (Decidable (_ ∧ _))

structure VenueInstrumentRuleSnapshot extends RuleFields where
  valid : toRuleFields.Valid
  deriving DecidableEq

structure VenueOrderValidationContext where
  order_intent : OrderIntent
  venue_snapshot : VenueCapabilitySnapshot
  instrument_rules : VenueInstrumentRuleSnapshot
  reference_price : Option PositiveDecimal
  requested_at : DateTime
  venue_matches : order_intent.venue_id = venue_snapshot.venue_id
  rules_match : order_intent.venue_id = instrument_rules.venue_id ∧
    order_intent.instrument_id = instrument_rules.instrument_id
  deriving DecidableEq

end Venues

end FuturesBot
