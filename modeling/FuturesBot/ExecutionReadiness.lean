import FuturesBot.CapabilityGate

/-! The readiness proof of an accepted order: the evidence of its gates, one after the other. -/
namespace FuturesBot.Execution

open JsonText (Json)
open DateTimes Orders Assets Venues

/-- Values that count as true. -/
def truthy : Json → Bool
  | .null => false
  | .bool b => b
  | .int n => n ≠ 0
  | .float f => f.whole ≠ 0 || f.frac.any (· ≠ '0')
  | .str s => s ≠ ""
  | .arr items => items ≠ []
  | .obj members => members ≠ []

/-- `details or {}`. -/
def detailsOrEmpty (details : Option Json) : Json :=
  match details with
  | some details => if truthy details then details else .obj []
  | none => .obj []

/-- Evidence that a gate is not required, with its reason. -/
def notRequired (gate : ExecutionReadinessGate) (reason : String) :
    ExecutionReadinessGateEvidence where
  gate
  status := .NOT_REQUIRED
  required := false
  reason := some reason
  details := .obj []
  reasoned h := absurd h Bool.false_ne_true

/-- Evidence of a gate that is passed or failed. -/
def decided (gate : ExecutionReadinessGate) (passed required : Bool) (reason : Option String)
    (details : Json) : ExecutionReadinessGateEvidence where
  gate
  status := if passed then .PASSED else .FAILED
  required
  reason
  details
  reasoned _ h := by cases passed <;> exact absurd h (by decide)

def runtimePermissionGate (permission_decision : OrderIntentPermissionDecision) :
    ExecutionReadinessGateEvidence :=
  decided .RUNTIME_PERMISSION permission_decision.allowed true
    (some permission_decision.reason.value)
    (.obj [("requires_guardian", .bool permission_decision.requires_guardian),
      ("requires_reconciliation", .bool permission_decision.requires_reconciliation)])

def venueCapabilityGate (request : ExecutionAdmissionRequest)
    (capability_decision : Option ExecutionCapabilityDecision) : ExecutionReadinessGateEvidence :=
  if !request.require_venue_capability_validation then
    notRequired .VENUE_CAPABILITY "venue_capability_validation_not_required"
  else
    decided .VENUE_CAPABILITY (capability_decision.any (·.executable)) true
      (match capability_decision with
        | some decision => decision.venue_validation_reason
        | none => some "capability_decision_missing")
      (match capability_decision with
        | some decision => decision.venue_validation_details.getD .null
        | none => .obj [])

def capabilityFreshnessGate (request : ExecutionAdmissionRequest)
    (capability_decision : Option ExecutionCapabilityDecision) : ExecutionReadinessGateEvidence :=
  if !request.require_fresh_capability_snapshot then
    notRequired .CAPABILITY_FRESHNESS "fresh_capability_snapshot_not_required"
  else
    decided .CAPABILITY_FRESHNESS (capability_decision.any (·.freshness_checked)) true
      (match capability_decision with
        | some decision => decision.freshness_reason
        | none => some "freshness_decision_missing")
      (match capability_decision with
        | some decision => decision.freshness_details.getD .null
        | none => .obj [])

def sourceProvenanceGate (request : ExecutionAdmissionRequest) : ExecutionReadinessGateEvidence :=
  let required := request.source_provenance_required || request.source_provenance_checked
  let reason (otherwise : String) :=
    some ((request.source_provenance_reason.map (·.value)).getD otherwise)
  if request.source_provenance_passed then
    decided .SOURCE_PROVENANCE true required (reason "source_provenance_checked")
      (detailsOrEmpty request.source_provenance_details)
  else if request.source_provenance_checked then
    decided .SOURCE_PROVENANCE false true (reason "source_provenance_failed")
      (detailsOrEmpty request.source_provenance_details)
  else notRequired .SOURCE_PROVENANCE "source_provenance_not_required"

def assetSemanticsGate (context : Option VenueOrderValidationContext) :
    ExecutionReadinessGateEvidence :=
  match context.bind (·.instrument_rules.asset_semantics) with
  | none => notRequired .ASSET_SEMANTICS "asset_semantics_absent"
  | some semantics =>
    let decision := validateContractAssetSemanticsReadiness semantics
    decided .ASSET_SEMANTICS decision.ready true (some decision.reason.value) decision.details

def idempotencyGate : ExecutionReadinessGateEvidence :=
  decided .IDEMPOTENCY true true (some "client_order_id_available_and_not_conflicting") (.obj [])

/-- The text of an id, or null. -/
def stringOrNone (i : Option DomainId) : Json := (i.map fun i => Json.str i.value).getD .null

def textOrNone (t : Option TrimmedText) : Json := (t.map fun t => Json.str t.value).getD .null

def orderScopeGate (replace_intent : ReplaceOrderIntent) : ExecutionReadinessGateEvidence :=
  let replacement := replace_intent.replacement_order
  decided .ORDER_SCOPE true true (some "replacement_scope_matches_target")
    (.obj [("target_intent_kind", .str replace_intent.target_intent_kind.value),
      ("replacement_venue_id", .str replacement.venue_id.value),
      ("replacement_instrument_id", .str replacement.instrument_id.value),
      ("replacement_account_id", textOrNone replacement.account_id)])

def replaceTargetGate (replace_intent : ReplaceOrderIntent) : ExecutionReadinessGateEvidence :=
  decided .REPLACE_TARGET true true (some "target_active")
    (.obj [("target_order_intent_id", stringOrNone replace_intent.target_order_intent_id),
      ("target_client_order_id", stringOrNone replace_intent.target_client_order_id),
      ("target_venue_order_id", stringOrNone replace_intent.target_venue_order_id)])

variable (digests : Digests)

/-- The gates of every proof but the last. -/
def commonGates (request : ExecutionAdmissionRequest)
    (permission_decision : OrderIntentPermissionDecision)
    (capability_decision : Option ExecutionCapabilityDecision) :
    List ExecutionReadinessGateEvidence :=
  [runtimePermissionGate permission_decision, venueCapabilityGate request capability_decision,
    capabilityFreshnessGate request capability_decision, sourceProvenanceGate request,
    assetSemanticsGate request.venue_validation_context]

def proofDetails (request : ExecutionAdmissionRequest) (order_intent : OrderIntent) : Json :=
  .obj [("request_kind", .str request.intent.kind.value),
    ("venue_id", .str order_intent.venue_id.value),
    ("instrument_id", .str order_intent.instrument_id.value),
    ("local_acceptance_only", .bool true)]

def buildOrderExecutionReadinessProof (request : ExecutionAdmissionRequest)
    (order_intent : OrderIntent) (permission_decision : OrderIntentPermissionDecision)
    (capability_decision : Option ExecutionCapabilityDecision)
    (lifecycle_event_ids : List OrderLifecycleEventId) :
    Except AdmissionError ExecutionReadinessProof :=
  ExecutionReadinessProof.of {
    order_intent_id := digests.intentId order_intent
    replace_intent_id := none
    client_order_id := digests.clientOrderId order_intent
    replacement_client_order_id := none
    request_id := digests.requestId request
    lifecycle_event_ids
    gates := commonGates request permission_decision capability_decision ++ [idempotencyGate]
    ready := true
    reason := .READY
    created_at := request.requested_at
    details := proofDetails request order_intent }

def buildReplaceExecutionReadinessProof (request : ExecutionAdmissionRequest)
    (replace_intent : ReplaceOrderIntent) (permission_decision : OrderIntentPermissionDecision)
    (capability_decision : Option ExecutionCapabilityDecision)
    (lifecycle_event_ids : List OrderLifecycleEventId) :
    Except AdmissionError ExecutionReadinessProof :=
  let replacement := replace_intent.replacement_order
  ExecutionReadinessProof.of {
    order_intent_id := digests.intentId replacement
    replace_intent_id := some (digests.replaceIntentId replace_intent)
    client_order_id := digests.clientOrderId replacement
    replacement_client_order_id := some (digests.clientOrderId replacement)
    request_id := digests.requestId request
    lifecycle_event_ids
    gates := commonGates request permission_decision capability_decision ++
      [orderScopeGate replace_intent, replaceTargetGate replace_intent, idempotencyGate]
    ready := true
    reason := .READY
    created_at := request.requested_at
    details := proofDetails request replacement }

end FuturesBot.Execution
