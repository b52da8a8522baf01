import FuturesBot.Journal
import FuturesBot.RuntimeControl

/-! Order, cancel and replace intents, with the checks of their models. Their deterministic
ids are functions of the other fields and are no fields here. -/
namespace FuturesBot

open DateTimes DecimalNumbers

abbrev OrderIntentId := DomainId
abbrev ClientOrderId := DomainId
abbrev VenueOrderId := DomainId

namespace Orders

inductive OrderIntentKind where
  | ENTRY
  | EXIT
  | REDUCE_ONLY
  | PROTECTIVE_STOP
  | PROTECTIVE_TAKE_PROFIT
  | EMERGENCY_CLOSE
  deriving DecidableEq, Repr

inductive PositionSide where
  | LONG
  | SHORT
  | BOTH
  deriving DecidableEq, Repr

inductive OrderType where
  | MARKET
  | LIMIT
  | STOP_MARKET
  | STOP_LIMIT
  | TAKE_PROFIT_MARKET
  | TAKE_PROFIT_LIMIT
  deriving DecidableEq, Repr

inductive TimeInForce where
  | GTC
  | IOC
  | FOK
  | GTD
  deriving DecidableEq, Repr

inductive CancelScope where
  | SINGLE_ORDER
  | ALL_ENTRY_ORDERS_FOR_STACK
  | ALL_ORDERS_FOR_INSTRUMENT
  | ALL_ORDERS_FOR_VENUE
  | ALL_ORDERS_FOR_ACCOUNT
  deriving DecidableEq, Repr

structure OrderIntentFields where
  intent_kind : OrderIntentKind
  stack_runtime_id : Option DecisionStackRuntimeId
  decision_output_id : Option TrimmedText
  venue_id : TrimmedText
  instrument_id : TrimmedText
  account_id : Option TrimmedText
  side : OrderSide
  position_side : PositionSide
  order_type : OrderType
  time_in_force : Option TimeInForce
  quantity : Option PositiveDecimal
  limit_price : Option PositiveDecimal
  stop_price : Option PositiveDecimal
  reduce_only : Bool
  post_only : Bool
  close_position : Bool
  expires_at : Option DateTime
  permission_reason : OrderFlowPermissionReason
  created_at : DateTime
  rationale_hash : Option HexDigest
  deriving DecidableEq

/-- `_validate_quantity_and_prices`, `_validate_safety_class` and `_validate_time_in_force`. -/
def OrderIntentFields.Valid (o : OrderIntentFields) : Prop :=
  (o.quantity = none → o.close_position = true) ∧
  (o.order_type ∈ [.LIMIT, .STOP_LIMIT] → o.limit_price ≠ none) ∧
  (o.order_type ∈ [.STOP_MARKET, .STOP_LIMIT, .TAKE_PROFIT_MARKET, .TAKE_PROFIT_LIMIT] →
    o.stop_price ≠ none) ∧
  (o.order_type = .TAKE_PROFIT_LIMIT → o.limit_price ≠ none) ∧
  (o.intent_kind = .ENTRY → o.reduce_only = false ∧ o.close_position = false) ∧
  (o.intent_kind = .EXIT → o.reduce_only = true ∨ o.close_position = true) ∧
  (o.intent_kind ∈ [.REDUCE_ONLY, .PROTECTIVE_STOP, .PROTECTIVE_TAKE_PROFIT] →
    o.reduce_only = true) ∧
  (o.intent_kind = .EMERGENCY_CLOSE → o.reduce_only = true ∨ o.close_position = true) ∧
  (o.order_type = .MARKET → o.post_only = false) ∧
  (o.post_only = true → o.time_in_force ∉ [some .IOC, some .FOK]) ∧
  (o.time_in_force = some .GTD → o.expires_at ≠ none)

instance (o : OrderIntentFields) : Decidable o.Valid := inferInstanceAs (Decidable (_ ∧ _))

structure OrderIntent extends OrderIntentFields where
  valid : toOrderIntentFields.Valid
  deriving DecidableEq

structure CancelOrderIntent where
  target_order_intent_id : Option OrderIntentId
  target_client_order_id : Option ClientOrderId
  target_venue_order_id : Option VenueOrderId
  venue_id : TrimmedText
  instrument_id : TrimmedText
  account_id : Option TrimmedText
  cancel_scope : CancelScope
  cancel_reason : TrimmedText
  created_at : DateTime
  has_target : cancel_scope = .SINGLE_ORDER → target_order_intent_id.isSome = true ∨
    target_client_order_id.isSome = true ∨ target_venue_order_id.isSome = true
  deriving DecidableEq

structure ReplaceOrderIntent where
  target_order_intent_id : Option OrderIntentId
  target_client_order_id : Option ClientOrderId
  target_venue_order_id : Option VenueOrderId
  target_intent_kind : OrderIntentKind
  replacement_order : OrderIntent
  replace_reason : TrimmedText
  created_at : DateTime
  has_target : target_order_intent_id.isSome = true ∨ target_client_order_id.isSome = true ∨
    target_venue_order_id.isSome = true
  same_class : target_intent_kind = .ENTRY ↔ replacement_order.intent_kind = .ENTRY
  deriving DecidableEq

end Orders

end FuturesBot
