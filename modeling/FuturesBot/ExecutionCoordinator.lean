import FuturesBot.ExecutionReadiness
import FuturesBot.ExecutionStores
import FuturesBot.StoreActions

/-! The coordinator of the execution manager: it admits orders, cancels and replaces, and writes
what it admits to its stores. -/
namespace FuturesBot.Execution

open JsonText (Json)
open Dicts DateTimes DecimalNumbers StoreActions Orders Venues

abbrev AdmissionAction (digests : Digests) (α : Type) : Type :=
  Action (AdmissionStores digests) AdmissionError α

def activeTargetStates : List OrderLifecycleState :=
  [.ACCEPTED_BY_EXECUTION, .SUBMISSION_REQUESTED, .SUBMITTED_TO_VENUE, .ACKNOWLEDGED_BY_VENUE,
    .PARTIALLY_FILLED]

variable {digests : Digests}

/-! Writes. -/

def appendOrderIntent (intent : OrderIntent) : AdmissionAction digests Unit :=
  Action.writing fun s =>
    (putIdempotent digests.sameIntent "order intent" s.orders intent).map fun orders =>
      { s with orders }

def appendCancelIntent (intent : CancelOrderIntent) : AdmissionAction digests Unit :=
  Action.writing fun s =>
    (putIdempotent (fun a b => decide (a = b)) "cancel intent" s.cancels intent).map
      fun cancels => { s with cancels }

def appendReplaceIntent (intent : ReplaceOrderIntent) : AdmissionAction digests Unit :=
  Action.writing fun s =>
    (putIdempotent digests.sameReplace "replace intent" s.replaces intent).map fun replaces =>
      { s with replaces }

def appendEvent (event : OrderLifecycleEvent) : AdmissionAction digests Unit :=
  Action.writing fun s =>
    (putIdempotent (fun a b => decide (a = b)) "order lifecycle event" s.events event).map
      fun events => { s with events }

def putProof (proof : ExecutionReadinessProof) : AdmissionAction digests Unit :=
  Action.writing fun s => (s.proofs.put proof).map fun proofs => { s with proofs }

def upsertRecord (record : ExecutionOrderRecord) : AdmissionAction digests Unit :=
  Action.writing fun s => (s.records.upsert record).map fun records => { s with records }

def putMarker (marker : ExecutionReconciliationMarker) : AdmissionAction digests Unit :=
  Action.writing fun s =>
    (putIdempotent (fun a b => decide (a = b)) "reconciliation marker" s.reconciliation
      marker).map fun reconciliation => { s with reconciliation }

/-- `_store_decision`: nothing is done without a store of decisions. -/
def storeDecision (decision : ExecutionAdmissionDecision) : AdmissionAction digests Unit :=
  Action.writing fun s =>
    match s.decisions with
    | none => .ok s
    | some decisions =>
      (putIdempotent (fun a b => decide (a = b)) "execution admission decision" decisions
        decision).map fun decisions => { s with decisions := some decisions }

variable (digests) in
def lifecycleEventFields (request : ExecutionAdmissionRequest) (order_intent : OrderIntent)
    (event_kind : OrderLifecycleEventKind) (previous_state : Option OrderLifecycleState)
    (next_state : OrderLifecycleState) (record_id : Option ExecutionOrderRecordId)
    (payload : Json) : LifecycleEventFields where
  record_id
  order_intent_id := digests.intentId order_intent
  client_order_id := digests.clientOrderId order_intent
  event_kind
  previous_state
  next_state
  occurred_at := request.requested_at
  payload

def appendLifecycleEvent (fields : LifecycleEventFields) :
    AdmissionAction digests OrderLifecycleEvent := do
  let event ← Action.reading fun _ => OrderLifecycleEvent.of fields
  appendEvent event
  pure event

/-! Decisions. -/

variable (digests) in
/-- A decision with the members that are not named left at their defaults. -/
def blankDecision (request : ExecutionAdmissionRequest) (accepted : Bool)
    (reason : ExecutionAdmissionDecisionReason) : DecisionFields where
  request_id := digests.requestId request
  request_kind := request.intent.kind
  accepted
  reason
  order_intent_id := none
  cancel_intent_id := none
  replace_intent_id := none
  client_order_id := none
  record_id := none
  lifecycle_event_ids := []
  reconciliation_marker_ids := []
  venue_validation_reason := none
  venue_validation_details := none
  freshness_reason := none
  freshness_details := none
  freshness_checked := false
  source_provenance_checked := request.source_provenance_checked
  source_provenance_passed := request.source_provenance_passed
  source_provenance_reason := request.source_provenance_reason
  source_provenance_details := request.source_provenance_details
  readiness_proof_id := none
  readiness_ready := none
  readiness_reason := none
  decided_at := request.requested_at

def decision (d : DecisionFields) : AdmissionAction digests ExecutionAdmissionDecision :=
  Action.reading fun _ => ExecutionAdmissionDecision.of d

/-- The event that a rejection leaves. It goes from CREATED and names no record. -/
structure RejectionEvent where
  order_intent : OrderIntent
  event_kind : OrderLifecycleEventKind
  next_state : OrderLifecycleState
  payload : Json

/-- A rejection: the event it leaves, if it leaves one, and the decision but for the ids of its
events. -/
structure Rejection where
  event : Option RejectionEvent
  decision : DecisionFields

/-- The event is appended and the decision returned, with the ids of the events before. -/
def reject (request : ExecutionAdmissionRequest) (earlier : List OrderLifecycleEventId)
    (rejection : Rejection) : AdmissionAction digests ExecutionAdmissionDecision :=
  match rejection.event with
  | none => decision { rejection.decision with lifecycle_event_ids := earlier }
  | some e => do
    let event ← appendLifecycleEvent (lifecycleEventFields digests request e.order_intent
      e.event_kind (some .CREATED) e.next_state none e.payload)
    decision { rejection.decision with lifecycle_event_ids := earlier ++ [digests.eventId event] }

/-! The checks of the venue, which orders and replacements pass alike. -/

inductive CapabilityVerdict where
  | notRequired
  | contextRequired
  | contextMismatch
  | freshnessRequired
  | freshnessMismatch (details : Json)
  | refused (decision : ExecutionCapabilityDecision)
  | executable (decision : ExecutionCapabilityDecision)

/-- The check of an order against the context of its request. -/
def capabilityCheck (request : ExecutionAdmissionRequest) (order_intent : OrderIntent)
    (context : VenueOrderValidationContext) : CapabilityCheckFields where
  order_intent
  venue_validation_context := context
  freshness_check := request.freshness_check
  require_fresh_capability_snapshot := request.require_fresh_capability_snapshot

def freshnessMismatchDetails (mismatches : List String) : Json :=
  .obj [("message",
      .str "freshness_check must match order intent and venue validation context"),
    ("mismatch", .str (String.intercalate "," mismatches))]

variable (digests) in
/-- The mismatches of the freshness check of a request that requires one. -/
def requestMismatches (request : ExecutionAdmissionRequest) (order_intent : OrderIntent)
    (context : VenueOrderValidationContext) : List String :=
  match request.require_fresh_capability_snapshot, request.freshness_check with
  | true, some freshness_check => freshnessMismatches digests order_intent context freshness_check
  | _, _ => []

variable (digests) in
def capabilityVerdict (request : ExecutionAdmissionRequest) (order_intent : OrderIntent) :
    Except AdmissionError CapabilityVerdict :=
  if !request.require_venue_capability_validation then .ok .notRequired
  else
    match request.venue_validation_context with
    | none => .ok .contextRequired
    | some context =>
      if !digests.sameIntent context.order_intent order_intent then .ok .contextMismatch
      else if request.require_fresh_capability_snapshot && request.freshness_check.isNone then
        .ok .freshnessRequired
      else if requestMismatches digests request order_intent context ≠ [] then
        .ok (.freshnessMismatch (freshnessMismatchDetails
          (requestMismatches digests request order_intent context)))
      else
        match (ExecutionCapabilityCheck.of (capabilityCheck request order_intent context) :
            Except AdmissionError (ExecutionCapabilityCheck digests)) with
        | .error e => .error e
        | .ok check =>
          match DeterministicExecutionCapabilityGate.check check with
          | .error e => .error e
          | .ok decision =>
            if decision.executable then .ok (.executable decision) else .ok (.refused decision)

def admissionReasonForGate (decision : ExecutionCapabilityDecision) :
    ExecutionAdmissionDecisionReason :=
  match decision.reason with
  | .REJECTED_BY_CAPABILITY_FRESHNESS => .REJECTED_BY_CAPABILITY_FRESHNESS
  | .FRESHNESS_CONTEXT_REQUIRED => .FRESHNESS_CONTEXT_REQUIRED
  | .FRESHNESS_CONTEXT_MISMATCH => .FRESHNESS_CONTEXT_MISMATCH
  | .VALIDATION_CONTEXT_MISMATCH => .VENUE_CAPABILITY_CONTEXT_MISMATCH
  | .EXECUTABLE | .REJECTED_BY_VENUE_CAPABILITY => .REJECTED_BY_VENUE_CAPABILITY

def sourceProvenanceFailed (request : ExecutionAdmissionRequest) : Bool :=
  (request.source_provenance_checked && !request.source_provenance_passed) ||
    (request.source_provenance_required && !request.source_provenance_passed)

def textJson (text : Option String) : Json := (text.map Json.str).getD .null

variable (digests) in
/-- The first members of the payload of a rejection after the checks of an order. -/
def orderMembers (order_intent : OrderIntent) : List (String × Json) :=
  [("order_intent_id", .str (digests.intentId order_intent).value),
    ("client_order_id", .str (digests.clientOrderId order_intent).value)]

variable (digests) in
def sourceProvenanceRejectionPayload (request : ExecutionAdmissionRequest)
    (order_intent : OrderIntent) (stage : String) (replace_intent : Option ReplaceOrderIntent) :
    Json :=
  .obj ([("request_id", .str (digests.requestId request).value)] ++
    orderMembers digests order_intent ++
    [("source_provenance_checked", .bool request.source_provenance_checked),
      ("source_provenance_passed", .bool request.source_provenance_passed),
      ("source_provenance_reason", textJson (request.source_provenance_reason.map (·.value))),
      ("source_provenance_details", request.source_provenance_details.getD .null),
      ("stage", .str stage)] ++
    replace_intent.toList.map fun r =>
      ("replace_intent_id", .str (digests.replaceIntentId r).value))

/-- A rejection by validation, for the event of an order. -/
def validationEvent (event_intent : OrderIntent) (members : List (String × Json)) :
    Option RejectionEvent :=
  some {
    order_intent := event_intent
    event_kind := .REJECTED_BY_VALIDATION
    next_state := .REJECTED_BY_VALIDATION
    payload := .obj members }

variable (digests) in
/-- What a verdict comes to: a rejection, or the decision of the gate to go on with. The events
are those of `event_intent`, the payloads start with `subject`. -/
def verdictOutcome (event_intent order_intent : OrderIntent) (subject : String × Json)
    (base : ExecutionAdmissionDecisionReason → DecisionFields) :
    CapabilityVerdict → Rejection ⊕ Option ExecutionCapabilityDecision
  | .notRequired => .inr none
  | .contextRequired => .inl ⟨none, base .VENUE_CAPABILITY_CONTEXT_REQUIRED⟩
  | .contextMismatch =>
    .inl {
      event := validationEvent event_intent
        [subject, ("validation_reason", .str "venue_capability_context_mismatch")]
      decision := { base .VENUE_CAPABILITY_CONTEXT_MISMATCH with
        venue_validation_reason := some "VALIDATION_CONTEXT_MISMATCH"
        venue_validation_details :=
          some (.obj [("message", .str "order_intent mismatch with context")]) } }
  | .freshnessRequired => .inl ⟨none, base .FRESHNESS_CONTEXT_REQUIRED⟩
  | .freshnessMismatch details =>
    .inl {
      event := validationEvent event_intent ([subject] ++ orderMembers digests order_intent ++
        [("freshness_reason", .str "FRESHNESS_CONTEXT_MISMATCH"), ("freshness_details", details),
          ("stage", .str "rejected_by_capability_freshness_context")])
      decision := { base .FRESHNESS_CONTEXT_MISMATCH with
        freshness_reason := some "FRESHNESS_CONTEXT_MISMATCH"
        freshness_details := some details } }
  | .refused decision =>
    .inl {
      event := validationEvent event_intent ([subject] ++ orderMembers digests order_intent ++
        [("venue_validation_reason", textJson decision.venue_validation_reason),
          ("venue_validation_details", decision.venue_validation_details.getD .null),
          ("freshness_reason", textJson decision.freshness_reason),
          ("freshness_details", decision.freshness_details.getD .null),
          ("stage", .str "rejected_by_venue_capability")])
      decision := { base (admissionReasonForGate decision) with
        venue_validation_reason := decision.venue_validation_reason
        venue_validation_details := decision.venue_validation_details
        freshness_reason := decision.freshness_reason
        freshness_details := decision.freshness_details
        freshness_checked := decision.freshness_checked } }
  | .executable decision => .inr (some decision)

/-! Records. -/

variable (digests) in
def newRecord (order_intent : OrderIntent) (state : OrderLifecycleState)
    (event_id : OrderLifecycleEventId) (created_at : DateTime)
    (readiness_proof_id : ExecutionReadinessProofId) : ExecutionOrderRecord where
  record_id := digests.deterministicExecutionOrderRecordId order_intent
  order_intent
  lifecycle_state := state
  client_order_id := digests.clientOrderId order_intent
  venue_order_id := none
  cumulative_filled_quantity := ⟨false, 0, 0⟩
  remaining_quantity := order_intent.quantity.map (·.1)
  average_fill_price := none
  last_lifecycle_event_id := some event_id
  readiness_proof_id := some readiness_proof_id
  created_at
  updated_at := created_at

/-- The record of an accepted order is checked and set. -/
def upsertNewRecord (record : ExecutionOrderRecord) : AdmissionAction digests Unit := do
  Action.reading fun _ => record.validate (digests.clientOrderId record.order_intent)
  upsertRecord record

/-- The copy of a record for a request on its order, which is not checked again. -/
def requestedCopy (target : ExecutionOrderRecord) (state : OrderLifecycleState)
    (event_id : OrderLifecycleEventId) (updated_at : DateTime) : ExecutionOrderRecord :=
  { target with
    lifecycle_state := state
    last_lifecycle_event_id := some event_id
    updated_at }

variable (digests) in
/-- The decision of an accepted order or replacement, with the evidence of the gate and of the
proof. -/
def acceptedDecision (base : DecisionFields) (record : ExecutionOrderRecord)
    (gate_decision : Option ExecutionCapabilityDecision) (proof : ExecutionReadinessProof)
    (lifecycle_event_ids : List OrderLifecycleEventId) : DecisionFields :=
  { base with
    client_order_id := some record.client_order_id
    record_id := some record.record_id
    lifecycle_event_ids
    venue_validation_reason := gate_decision.bind (·.venue_validation_reason)
    venue_validation_details := gate_decision.bind (·.venue_validation_details)
    freshness_reason := gate_decision.bind (·.freshness_reason)
    freshness_details := gate_decision.bind (·.freshness_details)
    freshness_checked := gate_decision.any (·.freshness_checked)
    readiness_proof_id := some (digests.proofId proof)
    readiness_ready := some proof.ready
    readiness_reason := some proof.reason.value }

/-! Orders. -/

section OrderPath

variable (request : ExecutionAdmissionRequest) (order_intent : OrderIntent)

variable (digests) in
/-- A decision about the order of a request. -/
def orderDecision (accepted : Bool) (reason : ExecutionAdmissionDecisionReason) :
    DecisionFields :=
  { blankDecision digests request accepted reason with
    order_intent_id := some (digests.intentId order_intent)
    client_order_id := some (digests.clientOrderId order_intent) }

variable (digests) in
/-- The answer to an order whose client order id has a record. -/
def existingOrderDecision (existing : ExecutionOrderRecord) : DecisionFields :=
  if digests.sameIntent existing.order_intent order_intent then
    { orderDecision digests request order_intent true .IDEMPOTENT_REPLAY with
      record_id := some existing.record_id
      readiness_proof_id := existing.readiness_proof_id
      readiness_ready := some existing.readiness_proof_id.isSome
      readiness_reason := if existing.readiness_proof_id.isSome then some "READY" else none }
  else orderDecision digests request order_intent false .DUPLICATE_IDEMPOTENCY_KEY

variable (digests) in
/-- The checks of an order that has been created: a rejection, or the decision of the gate. -/
def orderChecks : Except AdmissionError (Rejection ⊕ Option ExecutionCapabilityDecision) :=
  let permission := evaluateOrderIntentPermission order_intent request.order_flow_permission
  if !permission.allowed then
    .ok (.inl {
      event := some {
        order_intent
        event_kind := .REJECTED_BY_PERMISSION
        next_state := .REJECTED_BY_PERMISSION
        payload := .obj [("permission_reason", .str permission.reason.value)] }
      decision := orderDecision digests request order_intent false .REJECTED_BY_PERMISSION })
  else if sourceProvenanceFailed request then
    .ok (.inl {
      event := some {
        order_intent
        event_kind := .REJECTED_BY_VALIDATION
        next_state := .REJECTED_BY_VALIDATION
        payload := sourceProvenanceRejectionPayload digests request order_intent
          "rejected_by_source_provenance" none }
      decision :=
        orderDecision digests request order_intent false .REJECTED_BY_SOURCE_PROVENANCE })
  else
    (capabilityVerdict digests request order_intent).map
      (verdictOutcome digests order_intent order_intent
        ("request_id", .str (digests.requestId request).value)
        (orderDecision digests request order_intent false))

variable (digests) in
def createdEvent : LifecycleEventFields :=
  lifecycleEventFields digests request order_intent .INTENT_CREATED none .CREATED none
    (.obj [("request_id", .str (digests.requestId request).value),
      ("stage", .str "intent_created")])

variable (digests) in
def acceptedEvent : LifecycleEventFields :=
  lifecycleEventFields digests request order_intent .ACCEPTED_BY_EXECUTION (some .CREATED)
    .ACCEPTED_BY_EXECUTION (some (digests.deterministicExecutionOrderRecordId order_intent))
    (.obj [("request_id", .str (digests.requestId request).value), ("stage", .str "accepted")])

/-- An order that has passed its checks is journaled and gets its event, its proof and its
record. -/
def acceptOrder (created : OrderLifecycleEvent)
    (gate_decision : Option ExecutionCapabilityDecision) :
    AdmissionAction digests ExecutionAdmissionDecision := do
  appendOrderIntent order_intent
  let accepted ← appendLifecycleEvent (acceptedEvent digests request order_intent)
  let event_ids := [digests.eventId created, digests.eventId accepted]
  let proof ← Action.reading fun _ => buildOrderExecutionReadinessProof digests request order_intent
    (evaluateOrderIntentPermission order_intent request.order_flow_permission) gate_decision
    event_ids
  putProof proof
  let record := newRecord digests order_intent .ACCEPTED_BY_EXECUTION (digests.eventId accepted)
    request.requested_at (digests.proofId proof)
  upsertNewRecord record
  decision (acceptedDecision digests (orderDecision digests request order_intent true .ACCEPTED)
    record gate_decision proof event_ids)

/-- An order whose client order id has no record. -/
def admitNewOrder : AdmissionAction digests ExecutionAdmissionDecision := do
  let created ← appendLifecycleEvent (createdEvent digests request order_intent)
  match ← Action.reading fun _ => orderChecks digests request order_intent with
  | .inl rejection => reject request [digests.eventId created] rejection
  | .inr gate_decision => acceptOrder request order_intent created gate_decision

def admitOrderIntent : AdmissionAction digests ExecutionAdmissionDecision := do
  match ← Action.reading fun s =>
      .ok (s.records.getByClientOrderId (digests.clientOrderId order_intent)) with
  | some existing => decision (existingOrderDecision digests request order_intent existing)
  | none => admitNewOrder request order_intent

end OrderPath

/-! Targets of cancels and replaces. -/

def isEntryRecord (record : Option ExecutionOrderRecord) : Bool :=
  record.any fun r => r.order_intent.intent_kind = .ENTRY

/-- `_resolve_cancel_target` and `_resolve_replace_target`: by the client order id, or else by the
intent that the journal holds. -/
def resolveTarget (s : AdmissionStores digests) (target_client_order_id : Option ClientOrderId)
    (target_order_intent_id : Option OrderIntentId) : Option ExecutionOrderRecord :=
  match target_client_order_id with
  | some client_order_id => s.records.getByClientOrderId client_order_id
  | none =>
    (target_order_intent_id.bind s.orders.get?).bind fun intent =>
      s.records.getByClientOrderId (digests.clientOrderId intent)

/-- The scope of a marker: the first identifier of the target, or else the one given. -/
def targetScope (client_order_id : Option ClientOrderId) (venue_order_id : Option VenueOrderId)
    (order_intent_id : Option OrderIntentId) (otherwise : Option TrimmedText) :
    Option TrimmedText :=
  ((client_order_id.or venue_order_id).or order_intent_id).map DomainId.toTrimmedText
    |>.or otherwise

/-- A marker is left for a target that is not there. -/
def markReconciliation (request : ExecutionAdmissionRequest) (scope_id : Option TrimmedText)
    (base : DecisionFields) : AdmissionAction digests ExecutionAdmissionDecision := do
  let reconciliation_id := digests.deterministicReconciliationId (digests.requestId request)
    .VENUE_ORDER_NOT_FOUND scope_id
  putMarker {
    reconciliation_id
    scope_id
    reason := .VENUE_ORDER_NOT_FOUND
    required := true
    created_at := request.requested_at }
  decision { base with reconciliation_marker_ids := [reconciliation_id] }

/-- The rejection of a request on a target by its permission. -/
def targetPermissionRejection (target : Option ExecutionOrderRecord)
    (permission : OrderIntentPermissionDecision) (decision : DecisionFields) : Rejection where
  event := target.map fun target => {
    order_intent := target.order_intent
    event_kind := .REJECTED_BY_PERMISSION
    next_state := .REJECTED_BY_PERMISSION
    payload := .obj [("permission_reason", .str permission.reason.value)] }
  decision

/-! Cancels. -/

section CancelPath

variable (request : ExecutionAdmissionRequest) (cancel_intent : CancelOrderIntent)

variable (digests) in
def cancelDecision (accepted : Bool) (reason : ExecutionAdmissionDecisionReason) :
    DecisionFields :=
  { blankDecision digests request accepted reason with
    cancel_intent_id := some (digests.cancelIntentId cancel_intent) }

variable (digests) in
/-- A decision about a cancel that names its target. -/
def cancelTargetDecision (target : ExecutionOrderRecord) (accepted : Bool)
    (reason : ExecutionAdmissionDecisionReason) : DecisionFields :=
  { cancelDecision digests request cancel_intent accepted reason with
    client_order_id := some target.client_order_id
    record_id := some target.record_id }

variable (digests) in
def cancelRequestedEvent (target : ExecutionOrderRecord) : LifecycleEventFields :=
  lifecycleEventFields digests request target.order_intent .CANCEL_REQUESTED
    (some target.lifecycle_state) .CANCEL_REQUESTED (some target.record_id)
    (.obj [("cancel_intent_id", .str (digests.cancelIntentId cancel_intent).value)])

def acceptCancel (target : ExecutionOrderRecord) :
    AdmissionAction digests ExecutionAdmissionDecision := do
  appendCancelIntent cancel_intent
  let event ← appendLifecycleEvent (cancelRequestedEvent digests request cancel_intent target)
  upsertRecord (requestedCopy target .CANCEL_REQUESTED (digests.eventId event)
    request.requested_at)
  decision { cancelTargetDecision digests request cancel_intent target true .ACCEPTED with
    lifecycle_event_ids := [digests.eventId event] }

def admitCancelIntent : AdmissionAction digests ExecutionAdmissionDecision := do
  let target ← Action.reading fun s =>
    .ok (resolveTarget s cancel_intent.target_client_order_id cancel_intent.target_order_intent_id)
  let permission := evaluateCancelIntentPermission cancel_intent (isEntryRecord target)
    request.order_flow_permission
  if !permission.allowed then
    reject request [] (targetPermissionRejection target permission
      (cancelDecision digests request cancel_intent false .REJECTED_BY_PERMISSION))
  else
    match target with
    | none =>
      markReconciliation request
        (targetScope cancel_intent.target_client_order_id cancel_intent.target_venue_order_id
          cancel_intent.target_order_intent_id (some cancel_intent.instrument_id))
        (cancelDecision digests request cancel_intent false .RECONCILIATION_REQUIRED)
    | some target =>
      if target.lifecycle_state ∉ activeTargetStates then
        decision (cancelTargetDecision digests request cancel_intent target false
          .TARGET_ORDER_NOT_ACTIVE)
      else acceptCancel request cancel_intent target

end CancelPath

/-! Replaces. -/

def replacementScopeMatchesTarget (target : ExecutionOrderRecord) (replacement : OrderIntent) :
    Bool :=
  replacement.venue_id = target.order_intent.venue_id ∧
    replacement.instrument_id = target.order_intent.instrument_id ∧
    replacement.account_id = target.order_intent.account_id ∧
    replacement.position_side = target.order_intent.position_side ∧
    replacement.side = target.order_intent.side

section ReplacePath

variable (request : ExecutionAdmissionRequest) (replace_intent : ReplaceOrderIntent)

variable (digests) in
def replaceDecision (accepted : Bool) (reason : ExecutionAdmissionDecisionReason) :
    DecisionFields :=
  { blankDecision digests request accepted reason with
    replace_intent_id := some (digests.replaceIntentId replace_intent) }

variable (digests) in
/-- A decision about a replace that names its target. -/
def replaceTargetDecision (target : ExecutionOrderRecord)
    (reason : ExecutionAdmissionDecisionReason) : DecisionFields :=
  { replaceDecision digests request replace_intent false reason with
    client_order_id := some target.client_order_id
    record_id := some target.record_id }

variable (digests) in
def replaceSubject : String × Json :=
  ("replace_intent_id", .str (digests.replaceIntentId replace_intent).value)

/-- The checks of the replacement of an active target: a rejection, or the decision of the
gate. -/
def replaceChecks (s : AdmissionStores digests) (target : ExecutionOrderRecord) :
    Except AdmissionError (Rejection ⊕ Option ExecutionCapabilityDecision) :=
  let replacement := replace_intent.replacement_order
  if !replacementScopeMatchesTarget target replacement then
    .ok (.inl {
      event := validationEvent target.order_intent
        [replaceSubject digests replace_intent,
          ("validation_reason", .str "replacement_scope_mismatch")]
      decision := replaceTargetDecision digests request replace_intent target
        .REJECTED_BY_VALIDATION })
  else if (s.records.getByClientOrderId (digests.clientOrderId replacement)).any
      fun existing => !digests.sameIntent existing.order_intent replacement then
    .ok (.inl {
      event := none
      decision :=
        { replaceDecision digests request replace_intent false .DUPLICATE_IDEMPOTENCY_KEY with
          client_order_id := some (digests.clientOrderId replacement) } })
  else if sourceProvenanceFailed request then
    .ok (.inl {
      event := some {
        order_intent := target.order_intent
        event_kind := .REJECTED_BY_VALIDATION
        next_state := .REJECTED_BY_VALIDATION
        payload := sourceProvenanceRejectionPayload digests request replacement
          "replace_rejected_by_source_provenance" (some replace_intent) }
      decision :=
        { replaceDecision digests request replace_intent false .REJECTED_BY_SOURCE_PROVENANCE with
          client_order_id := some (digests.clientOrderId replacement)
          record_id := some target.record_id } })
  else
    (capabilityVerdict digests request replacement).map
      (verdictOutcome digests target.order_intent replacement
        (replaceSubject digests replace_intent)
        (replaceTargetDecision digests request replace_intent target))

variable (digests) in
def replaceRequestedEvent (target : ExecutionOrderRecord) : LifecycleEventFields :=
  lifecycleEventFields digests request target.order_intent .REPLACE_REQUESTED
    (some target.lifecycle_state) .REPLACE_REQUESTED (some target.record_id)
    (.obj [replaceSubject digests replace_intent])

variable (digests) in
def replacementAcceptedEvent : LifecycleEventFields :=
  lifecycleEventFields digests request replace_intent.replacement_order .ACCEPTED_BY_EXECUTION
    (some .CREATED) .ACCEPTED_BY_EXECUTION
    (some (digests.deterministicExecutionOrderRecordId replace_intent.replacement_order))
    (.obj [replaceSubject digests replace_intent])

/-- A replace that has passed its checks is journaled, with its replacement; the target and the
replacement get their events and records, the replacement its proof. -/
def acceptReplace (permission : OrderIntentPermissionDecision) (target : ExecutionOrderRecord)
    (gate_decision : Option ExecutionCapabilityDecision) :
    AdmissionAction digests ExecutionAdmissionDecision := do
  let replacement := replace_intent.replacement_order
  appendReplaceIntent replace_intent
  let target_event ← appendLifecycleEvent
    (replaceRequestedEvent digests request replace_intent target)
  appendOrderIntent replacement
  let replacement_event ← appendLifecycleEvent
    (replacementAcceptedEvent digests request replace_intent)
  let event_ids := [digests.eventId target_event, digests.eventId replacement_event]
  let proof ← Action.reading fun _ => buildReplaceExecutionReadinessProof digests request
    replace_intent permission gate_decision event_ids
  putProof proof
  upsertRecord (requestedCopy target .REPLACE_REQUESTED (digests.eventId target_event)
    request.requested_at)
  let record := newRecord digests replacement .ACCEPTED_BY_EXECUTION
    (digests.eventId replacement_event) request.requested_at (digests.proofId proof)
  upsertNewRecord record
  decision (acceptedDecision digests (replaceDecision digests request replace_intent true .ACCEPTED)
    record gate_decision proof event_ids)

def admitReplaceIntent : AdmissionAction digests ExecutionAdmissionDecision := do
  let target ← Action.reading fun s =>
    .ok (resolveTarget s replace_intent.target_client_order_id
      replace_intent.target_order_intent_id)
  let permission := evaluateReplaceIntentPermission replace_intent (isEntryRecord target)
    request.order_flow_permission
  if !permission.allowed then
    reject request [] (targetPermissionRejection target permission
      (replaceDecision digests request replace_intent false .REJECTED_BY_PERMISSION))
  else
    match target with
    | none =>
      markReconciliation request
        (targetScope replace_intent.target_client_order_id replace_intent.target_venue_order_id
          replace_intent.target_order_intent_id none)
        (replaceDecision digests request replace_intent false .RECONCILIATION_REQUIRED)
    | some target =>
      if target.lifecycle_state ∉ activeTargetStates then
        decision (replaceTargetDecision digests request replace_intent target
          .TARGET_ORDER_NOT_ACTIVE)
      else
        match ← Action.reading fun s => replaceChecks request replace_intent s target with
        | .inl rejection => reject request [] rejection
        | .inr gate_decision => acceptReplace request replace_intent permission target gate_decision

end ReplacePath

/-- The path of the intent of a request. -/
def admitIntent (request : ExecutionAdmissionRequest) :
    AdmissionAction digests ExecutionAdmissionDecision :=
  match request.intent with
  | .order order_intent => admitOrderIntent request order_intent
  | .cancel cancel_intent => admitCancelIntent request cancel_intent
  | .replace replace_intent => admitReplaceIntent request replace_intent

/-- `admit`. -/
def admitRequest (request : ExecutionAdmissionRequest) :
    AdmissionAction digests ExecutionAdmissionDecision := do
  let decision ← admitIntent request
  storeDecision decision
  pure decision

end FuturesBot.Execution
