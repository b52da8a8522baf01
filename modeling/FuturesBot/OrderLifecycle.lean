import FuturesBot.OrderPermissions
import FuturesBot.DecimalArithmetic
import FuturesBot.Checks

/-! The lifecycle of an order: its states and the transitions between them, the events that
record them, and the record of an order. -/
namespace FuturesBot

open JsonText (Json)
open DateTimes DecimalNumbers Checks

namespace Orders

def OrderIntentKind.value : OrderIntentKind → String
  | .ENTRY => "ENTRY"
  | .EXIT => "EXIT"
  | .REDUCE_ONLY => "REDUCE_ONLY"
  | .PROTECTIVE_STOP => "PROTECTIVE_STOP"
  | .PROTECTIVE_TAKE_PROFIT => "PROTECTIVE_TAKE_PROFIT"
  | .EMERGENCY_CLOSE => "EMERGENCY_CLOSE"

def OrderIntentPermissionDecisionReason.value : OrderIntentPermissionDecisionReason → String
  | .OK => "OK"
  | .ENTRY_BLOCKED => "ENTRY_BLOCKED"
  | .EXIT_BLOCKED => "EXIT_BLOCKED"
  | .REDUCE_ONLY_BLOCKED => "REDUCE_ONLY_BLOCKED"
  | .CANCEL_BLOCKED => "CANCEL_BLOCKED"
  | .EMERGENCY_CLOSE_BLOCKED => "EMERGENCY_CLOSE_BLOCKED"
  | .REPLACE_BLOCKED => "REPLACE_BLOCKED"
  | .MANUAL_INTERVENTION_REQUIRED => "MANUAL_INTERVENTION_REQUIRED"
  | .RECONCILIATION_REQUIRED => "RECONCILIATION_REQUIRED"

inductive OrderLifecycleState where
  | CREATED
  | ACCEPTED_BY_EXECUTION
  | REJECTED_BY_PERMISSION
  | REJECTED_BY_VALIDATION
  | SUBMISSION_REQUESTED
  | SUBMITTED_TO_VENUE
  | ACKNOWLEDGED_BY_VENUE
  | PARTIALLY_FILLED
  | FILLED
  | CANCEL_REQUESTED
  | CANCEL_ACKNOWLEDGED
  | CANCELED
  | REPLACE_REQUESTED
  | REPLACED
  | EXPIRED
  | VENUE_REJECTED
  | UNKNOWN_ON_VENUE
  | RECONCILIATION_REQUIRED
  | CLOSED
  deriving DecidableEq, Repr

def OrderLifecycleState.value : OrderLifecycleState → String
  | .CREATED => "CREATED"
  | .ACCEPTED_BY_EXECUTION => "ACCEPTED_BY_EXECUTION"
  | .REJECTED_BY_PERMISSION => "REJECTED_BY_PERMISSION"
  | .REJECTED_BY_VALIDATION => "REJECTED_BY_VALIDATION"
  | .SUBMISSION_REQUESTED => "SUBMISSION_REQUESTED"
  | .SUBMITTED_TO_VENUE => "SUBMITTED_TO_VENUE"
  | .ACKNOWLEDGED_BY_VENUE => "ACKNOWLEDGED_BY_VENUE"
  | .PARTIALLY_FILLED => "PARTIALLY_FILLED"
  | .FILLED => "FILLED"
  | .CANCEL_REQUESTED => "CANCEL_REQUESTED"
  | .CANCEL_ACKNOWLEDGED => "CANCEL_ACKNOWLEDGED"
  | .CANCELED => "CANCELED"
  | .REPLACE_REQUESTED => "REPLACE_REQUESTED"
  | .REPLACED => "REPLACED"
  | .EXPIRED => "EXPIRED"
  | .VENUE_REJECTED => "VENUE_REJECTED"
  | .UNKNOWN_ON_VENUE => "UNKNOWN_ON_VENUE"
  | .RECONCILIATION_REQUIRED => "RECONCILIATION_REQUIRED"
  | .CLOSED => "CLOSED"

inductive OrderLifecycleEventKind where
  | INTENT_CREATED
  | ACCEPTED_BY_EXECUTION
  | REJECTED_BY_PERMISSION
  | REJECTED_BY_VALIDATION
  | SUBMISSION_REQUESTED
  | SUBMITTED_TO_VENUE
  | ACKNOWLEDGED_BY_VENUE
  | PARTIALLY_FILLED
  | FILLED
  | CANCEL_REQUESTED
  | CANCEL_ACKNOWLEDGED
  | CANCELED
  | REPLACE_REQUESTED
  | REPLACED
  | EXPIRED
  | VENUE_REJECTED
  | UNKNOWN_ON_VENUE
  | RECONCILIATION_REQUIRED
  | CLOSED
  deriving DecidableEq, Repr

def activeVenueStates : List OrderLifecycleState :=
  [.SUBMISSION_REQUESTED, .SUBMITTED_TO_VENUE, .ACKNOWLEDGED_BY_VENUE, .PARTIALLY_FILLED,
    .CANCEL_REQUESTED, .REPLACE_REQUESTED]

/-- The transitions as they are written down, before every active venue state gets the one to
UNKNOWN_ON_VENUE. -/
def writtenTransitions : OrderLifecycleState → List OrderLifecycleState
  | .CREATED => [.ACCEPTED_BY_EXECUTION, .REJECTED_BY_PERMISSION, .REJECTED_BY_VALIDATION]
  | .ACCEPTED_BY_EXECUTION => [.SUBMISSION_REQUESTED, .CANCEL_REQUESTED, .REPLACE_REQUESTED]
  | .SUBMISSION_REQUESTED => [.SUBMITTED_TO_VENUE, .UNKNOWN_ON_VENUE]
  | .SUBMITTED_TO_VENUE => [.ACKNOWLEDGED_BY_VENUE, .UNKNOWN_ON_VENUE, .VENUE_REJECTED]
  | .ACKNOWLEDGED_BY_VENUE =>
    [.PARTIALLY_FILLED, .FILLED, .CANCEL_REQUESTED, .REPLACE_REQUESTED, .EXPIRED,
      .UNKNOWN_ON_VENUE, .VENUE_REJECTED]
  | .PARTIALLY_FILLED =>
    [.PARTIALLY_FILLED, .FILLED, .CANCEL_REQUESTED, .REPLACE_REQUESTED, .UNKNOWN_ON_VENUE]
  | .CANCEL_REQUESTED => [.CANCEL_ACKNOWLEDGED, .UNKNOWN_ON_VENUE]
  | .CANCEL_ACKNOWLEDGED => [.CANCELED]
  | .REPLACE_REQUESTED => [.REPLACED, .UNKNOWN_ON_VENUE]
  | .UNKNOWN_ON_VENUE => [.RECONCILIATION_REQUIRED]
  | .RECONCILIATION_REQUIRED => [.CLOSED]
  | .FILLED => [.CLOSED]
  | .CANCELED => [.CLOSED]
  | .EXPIRED => [.CLOSED]
  | .VENUE_REJECTED => [.CLOSED]
  | .REJECTED_BY_PERMISSION => [.CLOSED]
  | .REJECTED_BY_VALIDATION => [.CLOSED]
  | .REPLACED => [.CLOSED]
  | .CLOSED => []

def allowedTransitions (state : OrderLifecycleState) : List OrderLifecycleState :=
  writtenTransitions state ++ (if state ∈ activeVenueStates then [.UNKNOWN_ON_VENUE] else [])

end Orders

/-- Why an admission, or a model it builds, is refused. A failed check carries its message. -/
inductive AdmissionError where
  | check (message : String)
  | decimal (e : DecimalError)
  | timedelta
  | datetime
  deriving DecidableEq

namespace Orders

def validateOrderLifecycleTransition (previous_state : Option OrderLifecycleState)
    (next_state : OrderLifecycleState) : Except AdmissionError Unit :=
  match previous_state with
  | none =>
    if next_state ≠ .CREATED then .error (.check "initial lifecycle event must create the order")
    else .ok ()
  | some previous_state =>
    if previous_state = .CLOSED then
      .error (.check "CLOSED cannot transition to another state")
    else if next_state ∉ allowedTransitions previous_state then
      .error (.check ("invalid order lifecycle transition: " ++ previous_state.value ++ "->" ++
        next_state.value))
    else .ok ()

abbrev ExecutionOrderRecordId := DomainId
abbrev OrderLifecycleEventId := DomainId
abbrev ExecutionReadinessProofId := DomainId

/-- An event, with its id left to its digest and the hash of its payload to the payload. -/
structure LifecycleEventFields where
  record_id : Option ExecutionOrderRecordId
  order_intent_id : OrderIntentId
  client_order_id : ClientOrderId
  event_kind : OrderLifecycleEventKind
  previous_state : Option OrderLifecycleState
  next_state : OrderLifecycleState
  occurred_at : DateTime
  payload : Json
  deriving DecidableEq

structure OrderLifecycleEvent extends LifecycleEventFields where
  allowed : validateOrderLifecycleTransition previous_state next_state = .ok ()
  deriving DecidableEq

def OrderLifecycleEvent.of (e : LifecycleEventFields) :
    Except AdmissionError OrderLifecycleEvent :=
  match h : validateOrderLifecycleTransition e.previous_state e.next_state with
  | .ok () => .ok ⟨e, h⟩
  | .error e => .error e

theorem OrderLifecycleEvent.of_eq_ok {fields : LifecycleEventFields} {event : OrderLifecycleEvent} :
    OrderLifecycleEvent.of fields = .ok event ↔ event.toLifecycleEventFields = fields := by
  rw [OrderLifecycleEvent.of]
  constructor
  · intro h
    split at h
    · rw [← Except.ok.inj h]
    · exact absurd h (by simp)
  · rintro rfl
    split
    · rfl
    · rename_i e he
      exact absurd (event.allowed.symm.trans he) (by simp)

/-- A record of an order. It need not pass its own checks: a copy with changed members is not
checked again. -/
structure ExecutionOrderRecord where
  record_id : ExecutionOrderRecordId
  order_intent : OrderIntent
  lifecycle_state : OrderLifecycleState
  client_order_id : ClientOrderId
  venue_order_id : Option VenueOrderId
  cumulative_filled_quantity : Decimal
  remaining_quantity : Option Decimal
  average_fill_price : Option Decimal
  last_lifecycle_event_id : Option OrderLifecycleEventId
  readiness_proof_id : Option ExecutionReadinessProofId
  created_at : DateTime
  updated_at : DateTime
  deriving DecidableEq

/-- The check that the filled and the remaining quantity make up the order, whose sum is rounded
to the context. -/
def ExecutionOrderRecord.validateSum (r : ExecutionOrderRecord) : Except AdmissionError Unit :=
  match r.order_intent.quantity, r.remaining_quantity with
  | some quantity, some remaining =>
    match r.cumulative_filled_quantity.add remaining with
    | .error e => .error (.decimal e)
    | .ok sum =>
      if sum.same quantity.1 then .ok ()
      else .error (.check "filled + remaining must equal order quantity")
  | _, _ => .ok ()

/-- The checks of a record before and after that of the sum. The client order id of the intent is
derived from its other members and is given. -/
def ExecutionOrderRecord.checksBeforeSum (r : ExecutionOrderRecord) :
    List (Check AdmissionError) :=
  [require (r.created_at ≤ r.updated_at) (.check "updated_at must be >= created_at"),
    require (r.cumulative_filled_quantity.negative = false)
      (.check "cumulative_filled_quantity must be >= 0"),
    require (∀ q ∈ r.order_intent.quantity, q.1.lt r.cumulative_filled_quantity = false)
      (.check "filled quantity cannot exceed order quantity"),
    require (∀ q ∈ r.remaining_quantity, q.negative = false)
      (.check "remaining_quantity must be >= 0")]

def ExecutionOrderRecord.checksAfterSum (intent_client_order_id : ClientOrderId)
    (r : ExecutionOrderRecord) : List (Check AdmissionError) :=
  [require (∀ p ∈ r.average_fill_price, p.positive = true)
      (.check "average_fill_price must be > 0"),
    require (r.client_order_id = intent_client_order_id)
      (.check "client_order_id must equal order_intent.client_order_id"),
    require (r.lifecycle_state = .ACCEPTED_BY_EXECUTION → r.readiness_proof_id ≠ none)
      (.check "ACCEPTED_BY_EXECUTION records require readiness_proof_id")]

/-- `ExecutionOrderRecord._validate_invariants`. -/
def ExecutionOrderRecord.validate (intent_client_order_id : ClientOrderId)
    (r : ExecutionOrderRecord) : Except AdmissionError Unit :=
  match checkAll r.checksBeforeSum with
  | .error e => .error e
  | .ok () =>
    match r.validateSum with
    | .error e => .error e
    | .ok () => checkAll (r.checksAfterSum intent_client_order_id)

end Orders

end FuturesBot
