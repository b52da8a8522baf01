import FuturesBot.CapabilityFreshness
import FuturesBot.OrderLifecycle

/-! The models of the execution manager: readiness proofs with the evidence of their gates,
admission requests, and admission decisions. -/
namespace FuturesBot

open JsonText (Json)
open DateTimes Checks

namespace Execution

open Orders Venues

abbrev ExecutionAdmissionRequestId := DomainId
abbrev ExecutionReconciliationId := DomainId

/-! Readiness proofs. -/

inductive ExecutionReadinessGate where
  | RUNTIME_PERMISSION
  | VENUE_CAPABILITY
  | CAPABILITY_FRESHNESS
  | SOURCE_PROVENANCE
  | ASSET_SEMANTICS
  | ORDER_SCOPE
  | REPLACE_TARGET
  | IDEMPOTENCY
  deriving DecidableEq, Repr

/-- The place of a gate in the order of the enumeration. -/
def ExecutionReadinessGate.index : ExecutionReadinessGate → ℕ
  | .RUNTIME_PERMISSION => 0
  | .VENUE_CAPABILITY => 1
  | .CAPABILITY_FRESHNESS => 2
  | .SOURCE_PROVENANCE => 3
  | .ASSET_SEMANTICS => 4
  | .ORDER_SCOPE => 5
  | .REPLACE_TARGET => 6
  | .IDEMPOTENCY => 7

inductive ExecutionReadinessGateStatus where
  | PASSED
  | FAILED
  | NOT_REQUIRED
  | SKIPPED
  | UNKNOWN
  deriving DecidableEq, Repr

inductive ExecutionReadinessProofReason where
  | READY
  | NOT_READY
  | INCOMPLETE_PROOF
  | FAILED_GATE
  | ACCEPTANCE_WITHOUT_REQUIRED_GATE
  deriving DecidableEq, Repr

def ExecutionReadinessProofReason.value : ExecutionReadinessProofReason → String
  | .READY => "READY"
  | .NOT_READY => "NOT_READY"
  | .INCOMPLETE_PROOF => "INCOMPLETE_PROOF"
  | .FAILED_GATE => "FAILED_GATE"
  | .ACCEPTANCE_WITHOUT_REQUIRED_GATE => "ACCEPTANCE_WITHOUT_REQUIRED_GATE"

structure ExecutionReadinessGateEvidence where
  gate : ExecutionReadinessGate
  status : ExecutionReadinessGateStatus
  required : Bool
  reason : Option String
  details : Json
  reasoned : required = true → status ∈ [.NOT_REQUIRED, .SKIPPED] → reason ≠ none
  deriving DecidableEq

structure ProofFields where
  order_intent_id : OrderIntentId
  replace_intent_id : Option DomainId
  client_order_id : ClientOrderId
  replacement_client_order_id : Option ClientOrderId
  request_id : ExecutionAdmissionRequestId
  lifecycle_event_ids : List OrderLifecycleEventId
  gates : List ExecutionReadinessGateEvidence
  ready : Bool
  reason : ExecutionReadinessProofReason
  created_at : DateTime
  details : Json
  deriving DecidableEq

/-- The checks of a proof. It names an order in any case. -/
def ProofFields.validateProof (p : ProofFields) : List (Check AdmissionError) :=
  [require (p.ready = true → p.reason = .READY)
      (.check "ready readiness proofs require READY reason"),
    require (p.reason = .READY → p.ready = true)
      (.check "not-ready readiness proofs require non-READY reason"),
    require (p.ready = true → p.gates ≠ [])
      (.check "ready readiness proofs require gate evidence"),
    require (p.gates.map (·.gate)).Nodup (.check "readiness proof gates must be unique")] ++
    p.gates.flatMap fun evidence =>
      [require (p.ready = true → evidence.status ∉ [.FAILED, .UNKNOWN])
          (.check "ready readiness proofs reject failed or unknown gates"),
        require (p.ready = true → evidence.required = true → evidence.status = .PASSED)
          (.check "ready readiness proofs require required gates to pass")]

structure ExecutionReadinessProof extends ProofFields where
  valid : checkAll toProofFields.validateProof = .ok ()
  deriving DecidableEq

/-- The fields of a proof, with its gates sorted by their place in the enumeration. -/
def ProofFields.sorted (p : ProofFields) : ProofFields :=
  { p with gates := p.gates.insertionSort fun a b => a.gate.index ≤ b.gate.index }

def ExecutionReadinessProof.of (p : ProofFields) :
    Except AdmissionError ExecutionReadinessProof :=
  match h : checkAll p.sorted.validateProof with
  | .ok () => .ok ⟨p.sorted, h⟩
  | .error e => .error e

theorem ExecutionReadinessProof.of_eq_ok {p : ProofFields} {proof : ExecutionReadinessProof} :
    ExecutionReadinessProof.of p = .ok proof ↔ proof.toProofFields = p.sorted := by
  rw [ExecutionReadinessProof.of]
  constructor
  · intro h
    split at h
    · rw [← Except.ok.inj h]
    · exact absurd h (by simp)
  · intro h
    split
    · cases proof
      cases h
      rfl
    · rename_i e he
      have hvalid := proof.valid
      rw [h] at hvalid
      exact absurd (hvalid.symm.trans he) (by simp)

/-! Requests. -/

/-- The one intent of a request, which gives its kind. -/
inductive ExecutionIntent where
  | order (order_intent : OrderIntent)
  | cancel (cancel_intent : CancelOrderIntent)
  | replace (replace_intent : ReplaceOrderIntent)
  deriving DecidableEq

inductive ExecutionAdmissionRequestKind where
  | ORDER_INTENT
  | CANCEL_INTENT
  | REPLACE_INTENT
  deriving DecidableEq, Repr

def ExecutionAdmissionRequestKind.value : ExecutionAdmissionRequestKind → String
  | .ORDER_INTENT => "ORDER_INTENT"
  | .CANCEL_INTENT => "CANCEL_INTENT"
  | .REPLACE_INTENT => "REPLACE_INTENT"

def ExecutionIntent.kind : ExecutionIntent → ExecutionAdmissionRequestKind
  | .order _ => .ORDER_INTENT
  | .cancel _ => .CANCEL_INTENT
  | .replace _ => .REPLACE_INTENT

structure RequestFields where
  intent : ExecutionIntent
  order_flow_permission : OrderFlowPermission
  venue_validation_context : Option VenueOrderValidationContext
  freshness_check : Option VenueCapabilityFreshnessCheck
  require_venue_capability_validation : Bool
  require_fresh_capability_snapshot : Bool
  source_provenance_required : Bool
  source_provenance_checked : Bool
  source_provenance_passed : Bool
  source_provenance_reason : Option TrimmedText
  source_provenance_details : Option Json
  requested_at : DateTime
  requested_by : TrimmedText
  correlation_id : Option TrimmedText
  deriving DecidableEq

/-- `_validate_source_provenance_request_fields`, and what an order or a replace request has to
carry. -/
def RequestFields.Valid (q : RequestFields) : Prop :=
  (q.source_provenance_passed = true → q.source_provenance_checked = true) ∧
  (q.source_provenance_required = true → q.source_provenance_checked = true) ∧
  (q.intent.kind ≠ .CANCEL_INTENT → q.require_venue_capability_validation = true →
    q.venue_validation_context ≠ none ∧
      (q.require_fresh_capability_snapshot = true → q.freshness_check ≠ none))

instance (q : RequestFields) : Decidable q.Valid := inferInstanceAs (Decidable (_ ∧ _))

structure ExecutionAdmissionRequest extends RequestFields where
  valid : toRequestFields.Valid
  deriving DecidableEq

/-! Decisions. -/

inductive ExecutionAdmissionDecisionReason where
  | ACCEPTED
  | REJECTED_BY_PERMISSION
  | REJECTED_BY_VALIDATION
  | REJECTED_BY_SOURCE_PROVENANCE
  | REJECTED_BY_VENUE_CAPABILITY
  | REJECTED_BY_CAPABILITY_FRESHNESS
  | VENUE_CAPABILITY_CONTEXT_REQUIRED
  | VENUE_CAPABILITY_CONTEXT_MISMATCH
  | FRESHNESS_CONTEXT_REQUIRED
  | FRESHNESS_CONTEXT_MISMATCH
  | TARGET_ORDER_NOT_FOUND
  | TARGET_ORDER_NOT_ACTIVE
  | RECONCILIATION_REQUIRED
  | DUPLICATE_IDEMPOTENCY_KEY
  | IDEMPOTENT_REPLAY
  deriving DecidableEq, Repr

structure DecisionFields where
  request_id : ExecutionAdmissionRequestId
  request_kind : ExecutionAdmissionRequestKind
  accepted : Bool
  reason : ExecutionAdmissionDecisionReason
  order_intent_id : Option OrderIntentId
  cancel_intent_id : Option DomainId
  replace_intent_id : Option DomainId
  client_order_id : Option ClientOrderId
  record_id : Option ExecutionOrderRecordId
  lifecycle_event_ids : List OrderLifecycleEventId
  reconciliation_marker_ids : List ExecutionReconciliationId
  venue_validation_reason : Option String
  venue_validation_details : Option Json
  freshness_reason : Option String
  freshness_details : Option Json
  freshness_checked : Bool
  source_provenance_checked : Bool
  source_provenance_passed : Bool
  source_provenance_reason : Option TrimmedText
  source_provenance_details : Option Json
  readiness_proof_id : Option ExecutionReadinessProofId
  readiness_ready : Option Bool
  readiness_reason : Option String
  decided_at : DateTime
  deriving DecidableEq

def DecisionFields.validateDecision (d : DecisionFields) : List (Check AdmissionError) :=
  [require (d.accepted = true → d.reason ∈ [.ACCEPTED, .IDEMPOTENT_REPLAY])
      (.check "accepted decisions require ACCEPTED or IDEMPOTENT_REPLAY"),
    require (d.reason ∈ [.ACCEPTED, .IDEMPOTENT_REPLAY] → d.accepted = true)
      (.check "rejected decisions require a non-accepted reason"),
    require (d.reason = .REJECTED_BY_VENUE_CAPABILITY → d.venue_validation_reason ≠ none)
      (.check "REJECTED_BY_VENUE_CAPABILITY decisions must include venue_validation_reason"),
    require (d.reason = .REJECTED_BY_CAPABILITY_FRESHNESS → d.freshness_reason ≠ none)
      (.check "REJECTED_BY_CAPABILITY_FRESHNESS decisions must include freshness_reason"),
    require (d.reason = .REJECTED_BY_SOURCE_PROVENANCE → d.source_provenance_checked = true)
      (.check "REJECTED_BY_SOURCE_PROVENANCE requires source_provenance_checked=True"),
    require (d.reason = .REJECTED_BY_SOURCE_PROVENANCE → d.source_provenance_passed = false)
      (.check "REJECTED_BY_SOURCE_PROVENANCE requires source_provenance_passed=False")]

structure ExecutionAdmissionDecision extends DecisionFields where
  valid : checkAll toDecisionFields.validateDecision = .ok ()
  deriving DecidableEq

def ExecutionAdmissionDecision.of (d : DecisionFields) :
    Except AdmissionError ExecutionAdmissionDecision :=
  match h : checkAll d.validateDecision with
  | .ok () => .ok ⟨d, h⟩
  | .error e => .error e

theorem ExecutionAdmissionDecision.of_eq_ok {d : DecisionFields}
    {decision : ExecutionAdmissionDecision} :
    ExecutionAdmissionDecision.of d = .ok decision ↔ decision.toDecisionFields = d := by
  rw [ExecutionAdmissionDecision.of]
  constructor
  · intro h
    split at h
    · rw [← Except.ok.inj h]
    · exact absurd h (by simp)
  · rintro rfl
    split
    · rfl
    · rename_i e he
      exact absurd (decision.valid.symm.trans he) (by simp)

/-! Reconciliation markers. -/

inductive ReconciliationReason where
  | UNKNOWN_ON_VENUE
  | MISSING_ACK
  | MISSING_CANCEL_ACK
  | UNKNOWN_FILL_STATE
  | VENUE_ORDER_NOT_FOUND
  | LOCAL_REMOTE_STATE_MISMATCH
  | RUNTIME_RESTART_WITH_OPEN_ORDERS
  | DATA_GAP_WITH_OPEN_EXPOSURE
  deriving DecidableEq, Repr

structure ExecutionReconciliationMarker where
  reconciliation_id : ExecutionReconciliationId
  scope_id : Option TrimmedText
  reason : ReconciliationReason
  required : Bool
  created_at : DateTime
  deriving DecidableEq

end Execution

end FuturesBot
