import FuturesBot.VenueCapabilities

/-! The validation of an order against the capabilities of its venue and the rules of its
instrument. -/
namespace FuturesBot

open JsonText (Json)
open DateTimes DecimalNumbers

namespace Orders

def OrderType.value : Orders.OrderType → String
  | .MARKET => "MARKET"
  | .LIMIT => "LIMIT"
  | .STOP_MARKET => "STOP_MARKET"
  | .STOP_LIMIT => "STOP_LIMIT"
  | .TAKE_PROFIT_MARKET => "TAKE_PROFIT_MARKET"
  | .TAKE_PROFIT_LIMIT => "TAKE_PROFIT_LIMIT"

def TimeInForce.value : TimeInForce → String
  | .GTC => "GTC"
  | .IOC => "IOC"
  | .FOK => "FOK"
  | .GTD => "GTD"

end Orders

namespace Venues

open Orders Assets

inductive VenueOrderValidationReason where
  | OK
  | VENUE_TRADING_DISABLED
  | API_TRADING_DISABLED
  | INSTRUMENT_NOT_TRADING
  | UNSUPPORTED_CONTRACT_KIND
  | UNSUPPORTED_MARGIN_ASSET
  | UNSUPPORTED_SETTLEMENT_ASSET
  | UNSUPPORTED_ORDER_TYPE
  | UNSUPPORTED_TIME_IN_FORCE
  | UNSUPPORTED_REDUCE_ONLY
  | UNSUPPORTED_POST_ONLY
  | UNSUPPORTED_CLOSE_POSITION
  | UNSUPPORTED_GTD
  | GTD_BELOW_MINIMUM
  | PRICE_REQUIRED
  | PRICE_BELOW_MINIMUM
  | PRICE_ABOVE_MAXIMUM
  | STOP_PRICE_BELOW_MINIMUM
  | STOP_PRICE_ABOVE_MAXIMUM
  | PRICE_NOT_ON_TICK
  | STOP_PRICE_NOT_ON_TICK
  | QUANTITY_REQUIRED
  | QUANTITY_BELOW_MINIMUM
  | QUANTITY_ABOVE_MAXIMUM
  | QUANTITY_NOT_ON_STEP
  | NOTIONAL_BELOW_MINIMUM
  | NOTIONAL_ABOVE_MAXIMUM
  | REFERENCE_PRICE_REQUIRED
  | PRICE_PRECISION_EXCEEDED
  | QUANTITY_PRECISION_EXCEEDED
  | ACCOUNT_ASSET_MISMATCH
  | ASSET_SEMANTICS_NOT_READY
  deriving DecidableEq, Repr

def VenueOrderValidationReason.value : VenueOrderValidationReason → String
  | .OK => "OK"
  | .VENUE_TRADING_DISABLED => "VENUE_TRADING_DISABLED"
  | .API_TRADING_DISABLED => "API_TRADING_DISABLED"
  | .INSTRUMENT_NOT_TRADING => "INSTRUMENT_NOT_TRADING"
  | .UNSUPPORTED_CONTRACT_KIND => "UNSUPPORTED_CONTRACT_KIND"
  | .UNSUPPORTED_MARGIN_ASSET => "UNSUPPORTED_MARGIN_ASSET"
  | .UNSUPPORTED_SETTLEMENT_ASSET => "UNSUPPORTED_SETTLEMENT_ASSET"
  | .UNSUPPORTED_ORDER_TYPE => "UNSUPPORTED_ORDER_TYPE"
  | .UNSUPPORTED_TIME_IN_FORCE => "UNSUPPORTED_TIME_IN_FORCE"
  | .UNSUPPORTED_REDUCE_ONLY => "UNSUPPORTED_REDUCE_ONLY"
  | .UNSUPPORTED_POST_ONLY => "UNSUPPORTED_POST_ONLY"
  | .UNSUPPORTED_CLOSE_POSITION => "UNSUPPORTED_CLOSE_POSITION"
  | .UNSUPPORTED_GTD => "UNSUPPORTED_GTD"
  | .GTD_BELOW_MINIMUM => "GTD_BELOW_MINIMUM"
  | .PRICE_REQUIRED => "PRICE_REQUIRED"
  | .PRICE_BELOW_MINIMUM => "PRICE_BELOW_MINIMUM"
  | .PRICE_ABOVE_MAXIMUM => "PRICE_ABOVE_MAXIMUM"
  | .STOP_PRICE_BELOW_MINIMUM => "STOP_PRICE_BELOW_MINIMUM"
  | .STOP_PRICE_ABOVE_MAXIMUM => "STOP_PRICE_ABOVE_MAXIMUM"
  | .PRICE_NOT_ON_TICK => "PRICE_NOT_ON_TICK"
  | .STOP_PRICE_NOT_ON_TICK => "STOP_PRICE_NOT_ON_TICK"
  | .QUANTITY_REQUIRED => "QUANTITY_REQUIRED"
  | .QUANTITY_BELOW_MINIMUM => "QUANTITY_BELOW_MINIMUM"
  | .QUANTITY_ABOVE_MAXIMUM => "QUANTITY_ABOVE_MAXIMUM"
  | .QUANTITY_NOT_ON_STEP => "QUANTITY_NOT_ON_STEP"
  | .NOTIONAL_BELOW_MINIMUM => "NOTIONAL_BELOW_MINIMUM"
  | .NOTIONAL_ABOVE_MAXIMUM => "NOTIONAL_ABOVE_MAXIMUM"
  | .REFERENCE_PRICE_REQUIRED => "REFERENCE_PRICE_REQUIRED"
  | .PRICE_PRECISION_EXCEEDED => "PRICE_PRECISION_EXCEEDED"
  | .QUANTITY_PRECISION_EXCEEDED => "QUANTITY_PRECISION_EXCEEDED"
  | .ACCOUNT_ASSET_MISMATCH => "ACCOUNT_ASSET_MISMATCH"
  | .ASSET_SEMANTICS_NOT_READY => "ASSET_SEMANTICS_NOT_READY"

structure VenueOrderValidationResult where
  valid : Bool
  reason : VenueOrderValidationReason
  normalized_quantity : Option PositiveDecimal
  normalized_limit_price : Option PositiveDecimal
  normalized_stop_price : Option PositiveDecimal
  details : Json
  valid_iff : valid = true ↔ reason = .OK

/-- Arithmetic outside the range of its numbers. -/
inductive ArithmeticFailure where
  | decimal (e : DecimalError)
  | timedelta
  | datetime
  deriving DecidableEq

/-- `timedelta(milliseconds=ms)` in microseconds: at most 999999999 days either way. -/
def timedeltaOfMillis (ms : ℤ) : Except ArithmeticFailure ℤ :=
  if -999999999 ≤ ms / 86400000 ∧ ms / 86400000 ≤ 999999999 then .ok (1000 * ms)
  else .error .timedelta

def decimally {α : Type} (x : Except DecimalError α) : Except ArithmeticFailure α :=
  x.mapError .decimal

/-- The reason a check refuses an order for; arithmetic may fail instead. -/
abbrev ReasonCheck := VenueOrderValidationContext →
  Except ArithmeticFailure (Option VenueOrderValidationReason)

/-- The first reason of a list of checks that are made one after the other. -/
def firstFound (context : VenueOrderValidationContext) :
    List ReasonCheck → Except ArithmeticFailure (Option VenueOrderValidationReason)
  | [] => .ok none
  | check :: checks =>
    match check context with
    | .error e => .error e
    | .ok (some reason) => .ok (some reason)
    | .ok none => firstFound context checks

/-- A reason that holds under a condition. -/
def reasonIf (failed : Bool) (reason : VenueOrderValidationReason) :
    Option VenueOrderValidationReason := if failed then some reason else none

def firstReasonIf (checks : List (Bool × VenueOrderValidationReason)) :
    Option VenueOrderValidationReason :=
  firstReason none (checks.map fun c => (c.1, some c.2))

variable (context : VenueOrderValidationContext)

def tradingStatusReason : Option VenueOrderValidationReason :=
  firstReasonIf
    [(context.venue_snapshot.trading_status ≠ .ENABLED, .VENUE_TRADING_DISABLED),
      (!context.venue_snapshot.api_trading_enabled, .API_TRADING_DISABLED),
      (context.instrument_rules.trading_status ≠ .TRADING, .INSTRUMENT_NOT_TRADING)]

def assetMismatchChecks : List (Bool × VenueOrderValidationReason) :=
  [(context.instrument_rules.margin_asset ∉ context.venue_snapshot.supported_margin_assets,
      .ACCOUNT_ASSET_MISMATCH),
    (context.instrument_rules.settlement_asset ∉
        context.venue_snapshot.supported_settlement_assets, .ACCOUNT_ASSET_MISMATCH)]

def assetSemanticsContractAndAssetReason (semantics : ContractAssetSemantics) :
    Option VenueOrderValidationReason :=
  firstReasonIf
    ((!(validateContractAssetSemanticsReadiness semantics).ready, .ASSET_SEMANTICS_NOT_READY) ::
      assetMismatchChecks context)

def isStableAsset (value : TrimmedText) : Bool := value.value = "USDT" || value.value = "USDC"

def legacyContractAndAssetReason : Option VenueOrderValidationReason :=
  firstReasonIf
    ([(decide (context.instrument_rules.contract_kind ∉ [.LINEAR_PERPETUAL, .LINEAR_DELIVERY]),
        .UNSUPPORTED_CONTRACT_KIND),
      (!isStableAsset context.instrument_rules.margin_asset, .UNSUPPORTED_MARGIN_ASSET),
      (!isStableAsset context.instrument_rules.settlement_asset,
        .UNSUPPORTED_SETTLEMENT_ASSET)] ++ assetMismatchChecks context)

def contractAndAssetReason : Option VenueOrderValidationReason :=
  match context.instrument_rules.asset_semantics with
  | some semantics => assetSemanticsContractAndAssetReason context semantics
  | none => legacyContractAndAssetReason context

def orderSupportReason : Option VenueOrderValidationReason :=
  let order := context.order_intent
  let venue := context.venue_snapshot
  let rules := context.instrument_rules
  firstReasonIf
    [(order.order_type.value ∉ rules.supported_order_types, .UNSUPPORTED_ORDER_TYPE),
      (order.time_in_force.any fun t => t.value ∉ rules.supported_time_in_force,
        .UNSUPPORTED_TIME_IN_FORCE),
      (order.reduce_only && (!venue.supports_reduce_only || !rules.supports_reduce_only),
        .UNSUPPORTED_REDUCE_ONLY),
      (order.post_only && (!venue.supports_post_only || !rules.supports_post_only),
        .UNSUPPORTED_POST_ONLY),
      (order.close_position && (!venue.supports_close_position || !rules.supports_close_position),
        .UNSUPPORTED_CLOSE_POSITION)]

def gtdBelowMinimum : Except ArithmeticFailure Bool :=
  match context.order_intent.expires_at, [context.venue_snapshot.min_gtd_duration_ms,
      context.instrument_rules.min_gtd_duration_ms].filterMap id with
  | some expires_at, m :: ms =>
    let duration : ℤ := expires_at.micros - context.order_intent.created_at.micros
    (timedeltaOfMillis (ms.foldl max m)).map fun minimum => duration < minimum
  | _, _ => .ok false

def gtdReason : Except ArithmeticFailure (Option VenueOrderValidationReason) :=
  if context.order_intent.time_in_force = some .GTD then
    if !context.venue_snapshot.supports_gtd || !context.instrument_rules.supports_gtd then
      .ok (some .UNSUPPORTED_GTD)
    else (gtdBelowMinimum context).map fun below => reasonIf below .GTD_BELOW_MINIMUM
  else .ok none

def requiredPriceReason : Option VenueOrderValidationReason :=
  let order := context.order_intent
  firstReasonIf
    [(decide (order.order_type ∈ [.LIMIT, .STOP_LIMIT, .TAKE_PROFIT_LIMIT]) &&
        order.limit_price.isNone, .PRICE_REQUIRED),
      (decide (order.order_type ∈
          [.STOP_MARKET, .STOP_LIMIT, .TAKE_PROFIT_MARKET, .TAKE_PROFIT_LIMIT]) &&
        order.stop_price.isNone, .PRICE_REQUIRED)]

/-- `value < bound` of two optional numbers that are both there. -/
def belowOption (value bound : Option PositiveDecimal) : Bool :=
  match value, bound with
  | some value, some bound => value.1.lt bound.1
  | _, _ => false

def priceBoundsReason : Option VenueOrderValidationReason :=
  let price_filter := context.instrument_rules.price_filter
  let order := context.order_intent
  firstReasonIf
    [(belowOption order.limit_price price_filter.min_price, .PRICE_BELOW_MINIMUM),
      (belowOption price_filter.max_price order.limit_price, .PRICE_ABOVE_MAXIMUM),
      (belowOption order.stop_price price_filter.min_price, .STOP_PRICE_BELOW_MINIMUM),
      (belowOption price_filter.max_price order.stop_price, .STOP_PRICE_ABOVE_MAXIMUM)]

/-- `_is_on_increment`: the remainder is zero. -/
def isOnIncrement (value increment : PositiveDecimal) : Except ArithmeticFailure Bool :=
  (decimally (value.1.rem increment.1)).map fun r => decide (r.coeff = 0)

def decimalPlaces (d : Decimal) : ℕ := (-d.exp).toNat

def precisionOk (precision : Option ℕ) (value : PositiveDecimal) : Bool :=
  precision.all fun p => decimalPlaces value.1 ≤ p

/-- The check of a price that need not be there against the tick. -/
def onTickReason (price : Option PositiveDecimal) (reason : VenueOrderValidationReason) :
    ReasonCheck := fun context =>
  match price with
  | none => .ok none
  | some price =>
    (isOnIncrement price context.instrument_rules.price_filter.tick_size).map fun onTick =>
      reasonIf (!onTick) reason

def pricePrecisionReason : Option VenueOrderValidationReason :=
  let precision := context.instrument_rules.price_filter.price_precision
  firstReasonIf
    [(context.order_intent.limit_price.any fun p => !precisionOk precision p,
        .PRICE_PRECISION_EXCEEDED),
      (context.order_intent.stop_price.any fun p => !precisionOk precision p,
        .PRICE_PRECISION_EXCEEDED)]

def priceReason : Except ArithmeticFailure (Option VenueOrderValidationReason) :=
  firstFound context
    [fun context => .ok (requiredPriceReason context),
      fun context => .ok (priceBoundsReason context),
      onTickReason context.order_intent.limit_price .PRICE_NOT_ON_TICK,
      onTickReason context.order_intent.stop_price .STOP_PRICE_NOT_ON_TICK,
      fun context => .ok (pricePrecisionReason context)]

def quantityFilterReason (quantity : PositiveDecimal) :
    Except ArithmeticFailure (Option VenueOrderValidationReason) :=
  let quantity_filter := context.instrument_rules.quantity_filter
  firstFound context
    [fun _ => .ok (firstReasonIf
        [(quantity.1.lt quantity_filter.min_quantity.1, .QUANTITY_BELOW_MINIMUM),
          (belowOption quantity_filter.max_quantity (some quantity), .QUANTITY_ABOVE_MAXIMUM)]),
      fun _ => (isOnIncrement quantity quantity_filter.step_size).map fun onStep =>
        reasonIf (!onStep) .QUANTITY_NOT_ON_STEP,
      fun _ => .ok (reasonIf (!precisionOk quantity_filter.quantity_precision quantity)
        .QUANTITY_PRECISION_EXCEEDED)]

/-- The price a notional is computed from. -/
def notionalPrice : Option PositiveDecimal :=
  let order := context.order_intent
  match order.limit_price, context.reference_price with
  | some price, _ => some price
  | none, some price => some price
  | none, none =>
    if order.order_type ∈ [.STOP_MARKET, .TAKE_PROFIT_MARKET] then order.stop_price else none

def notionalReason (quantity : PositiveDecimal) :
    Except ArithmeticFailure (Option VenueOrderValidationReason) :=
  let notional_filter := context.instrument_rules.notional_filter
  match notionalPrice context with
  | none =>
    .ok (reasonIf (decide (context.order_intent.order_type = .MARKET) &&
      notional_filter.requires_reference_price_for_market_orders) .REFERENCE_PRICE_REQUIRED)
  | some price =>
    (decimally (quantity.1.mul price.1)).map fun notional =>
      firstReasonIf
        [(notional_filter.min_notional.any fun m => notional.lt m.1, .NOTIONAL_BELOW_MINIMUM),
          (notional_filter.max_notional.any fun m => m.1.lt notional, .NOTIONAL_ABOVE_MAXIMUM)]

def quantityAndNotionalReason : Except ArithmeticFailure (Option VenueOrderValidationReason) :=
  match context.order_intent.quantity with
  | none => .ok (reasonIf (!context.order_intent.close_position) .QUANTITY_REQUIRED)
  | some quantity =>
    firstFound context
      [fun context => quantityFilterReason context quantity,
        fun context => notionalReason context quantity]

/-- The checks of an order, in the order in which they are made. -/
def validationChecks : List ReasonCheck :=
  [fun context => .ok (tradingStatusReason context),
    fun context => .ok (contractAndAssetReason context),
    fun context => .ok (orderSupportReason context),
    gtdReason,
    priceReason,
    quantityAndNotionalReason]

def invalidDetails (reason : VenueOrderValidationReason) : Json :=
  match reason, context.instrument_rules.asset_semantics with
  | .ASSET_SEMANTICS_NOT_READY, some semantics =>
    let readiness := validateContractAssetSemanticsReadiness semantics
    .obj [("reason", .str reason.value),
      ("asset_semantics_readiness_reason", .str readiness.reason.value),
      ("valuation_requirements",
        .arr (readiness.valuation_requirements.map fun r => .str r.value)),
      ("readiness_details", readiness.details)]
  | _, _ => .obj [("reason", .str reason.value)]

/-- No check gives OK as its reason. -/
def invalidResult (reason : VenueOrderValidationReason) : VenueOrderValidationResult where
  valid := reason = .OK
  reason
  normalized_quantity := none
  normalized_limit_price := none
  normalized_stop_price := none
  details := invalidDetails context reason
  valid_iff := decide_eq_true_iff

def validResult : VenueOrderValidationResult where
  valid := true
  reason := .OK
  normalized_quantity := context.order_intent.quantity
  normalized_limit_price := context.order_intent.limit_price
  normalized_stop_price := context.order_intent.stop_price
  details := .obj
    [("message", .str "order is executable under supplied venue capabilities")]
  valid_iff := ⟨fun _ => rfl, fun _ => rfl⟩

def validateOrderAgainstVenueCapabilities : Except ArithmeticFailure VenueOrderValidationResult :=
  (firstFound context validationChecks).map fun
    | some reason => invalidResult context reason
    | none => validResult context

end Venues

end FuturesBot
