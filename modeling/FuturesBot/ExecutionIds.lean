import FuturesBot.ExecutionModels

/-! The ids of intents, events, proofs, requests and decisions, derived from their other members,
and the equality of models that hold decimals. -/
namespace FuturesBot

open TextLines DecimalNumbers

open Orders Assets Venues Execution

/-- The digests that ids are made of: each is the SHA-256 of the canonical JSON of the other
members of a model, so a function of them. Two models may have the same digest. -/
structure Digests where
  order_intent : OrderIntentFields → HexDigest
  cancel_intent : CancelOrderIntent → HexDigest
  replace_intent : ReplaceOrderIntent → HexDigest
  asset_semantics : ContractAssetSemantics → HexDigest
  lifecycle_event : LifecycleEventFields → HexDigest
  readiness_proof : ProofFields → HexDigest
  admission_request : RequestFields → HexDigest
  admission_decision : DecisionFields → HexDigest
  reconciliation : ExecutionAdmissionRequestId → ReconciliationReason → Option TrimmedText →
    HexDigest
  /-- `_digest` of a text of the coordinator -/
  text : String → HexDigest

namespace Digests

variable (digests : Digests)

def intentId (o : OrderIntent) : OrderIntentId :=
  .ofDigest ⟨"order-intent:", by decide⟩ (digests.order_intent o.toOrderIntentFields)

def clientOrderId (o : OrderIntent) : ClientOrderId :=
  .ofDigest ⟨"coid:", by decide⟩ (digests.order_intent o.toOrderIntentFields)

def cancelIntentId (c : CancelOrderIntent) : DomainId :=
  .ofDigest ⟨"cancel-intent:", by decide⟩ (digests.cancel_intent c)

def replaceIntentId (r : ReplaceOrderIntent) : DomainId :=
  .ofDigest ⟨"replace-intent:", by decide⟩ (digests.replace_intent r)

def eventId (e : OrderLifecycleEvent) : OrderLifecycleEventId :=
  .ofDigest ⟨"order-event:", by decide⟩ (digests.lifecycle_event e.toLifecycleEventFields)

def proofId (p : ExecutionReadinessProof) : ExecutionReadinessProofId :=
  .ofDigest ⟨"exec-readiness-proof:", by decide⟩ (digests.readiness_proof p.toProofFields)

def requestId (q : ExecutionAdmissionRequest) : ExecutionAdmissionRequestId :=
  .ofDigest ⟨"exec-admission-request:", by decide⟩ (digests.admission_request q.toRequestFields)

def decisionId (d : ExecutionAdmissionDecision) : DomainId :=
  .ofDigest ⟨"exec-admission-decision:", by decide⟩ (digests.admission_decision d.toDecisionFields)

def deterministicExecutionOrderRecordId (o : OrderIntent) : ExecutionOrderRecordId :=
  .ofDigest ⟨"execution-record:", by decide⟩ (digests.text (digests.intentId o).value)

def deterministicReconciliationId (request_id : ExecutionAdmissionRequestId)
    (reason : ReconciliationReason) (scope_id : Option TrimmedText) : ExecutionReconciliationId :=
  .ofDigest ⟨"exec-reconciliation:", by decide⟩ (digests.reconciliation request_id reason scope_id)

/-! Equality of models: ids are compared as ids, numbers by value. -/

def sameDecimal (a b : Option PositiveDecimal) : Bool := sameOption (a.map (·.1)) (b.map (·.1))

def sameIntent (a b : OrderIntent) : Bool :=
  decide (digests.intentId a = digests.intentId b) &&
    decide ({ a.toOrderIntentFields with
      quantity := b.quantity, limit_price := b.limit_price, stop_price := b.stop_price } =
        b.toOrderIntentFields) &&
    sameDecimal a.quantity b.quantity && sameDecimal a.limit_price b.limit_price &&
    sameDecimal a.stop_price b.stop_price

def sameReplace (a b : ReplaceOrderIntent) : Bool :=
  decide (digests.replaceIntentId a = digests.replaceIntentId b) &&
    decide (a.target_order_intent_id = b.target_order_intent_id) &&
    decide (a.target_client_order_id = b.target_client_order_id) &&
    decide (a.target_venue_order_id = b.target_venue_order_id) &&
    decide (a.target_intent_kind = b.target_intent_kind) &&
    digests.sameIntent a.replacement_order b.replacement_order &&
    decide (a.replace_reason = b.replace_reason) && decide (a.created_at = b.created_at)

def samePriceFilter (a b : PriceFilter) : Bool :=
  a.tick_size.1.same b.tick_size.1 && sameDecimal a.min_price b.min_price &&
    sameDecimal a.max_price b.max_price && decide (a.price_precision = b.price_precision)

def sameQuantityFilter (a b : QuantityFilter) : Bool :=
  a.step_size.1.same b.step_size.1 && a.min_quantity.1.same b.min_quantity.1 &&
    sameDecimal a.max_quantity b.max_quantity &&
    decide (a.quantity_precision = b.quantity_precision)

def sameNotionalFilter (a b : NotionalFilter) : Bool :=
  sameDecimal a.min_notional b.min_notional && sameDecimal a.max_notional b.max_notional &&
    decide (a.requires_reference_price_for_market_orders =
      b.requires_reference_price_for_market_orders)

def sameSemantics (a b : Option ContractAssetSemantics) : Bool :=
  match a, b with
  | some a, some b =>
    decide (digests.asset_semantics a = digests.asset_semantics b) && a.same b
  | none, none => true
  | _, _ => false

def sameRules (a b : VenueInstrumentRuleSnapshot) : Bool :=
  decide ({ a.toRuleFields with
      price_filter := b.price_filter, quantity_filter := b.quantity_filter,
      notional_filter := b.notional_filter, max_leverage := b.max_leverage,
      asset_semantics := b.asset_semantics } = b.toRuleFields) &&
    samePriceFilter a.price_filter b.price_filter &&
    sameQuantityFilter a.quantity_filter b.quantity_filter &&
    sameNotionalFilter a.notional_filter b.notional_filter &&
    sameDecimal a.max_leverage b.max_leverage &&
    digests.sameSemantics a.asset_semantics b.asset_semantics

theorem sameIntent_refl (a : OrderIntent) : digests.sameIntent a a = true := by
  simp only [sameIntent, sameDecimal, sameOption_refl, decide_true, Bool.and_true]

/-- Equal intents have the same ids. -/
theorem sameIntent_id {a b : OrderIntent} (h : digests.sameIntent a b = true) :
    digests.intentId a = digests.intentId b := by
  simp only [sameIntent, Bool.and_eq_true, decide_eq_true_eq] at h
  exact h.1.1.1.1

theorem clientOrderId_inj {a b : OrderIntent} :
    digests.clientOrderId a = digests.clientOrderId b ↔
      digests.intentId a = digests.intentId b := by
  rw [clientOrderId, clientOrderId, intentId, intentId, DomainId.ofDigest_inj,
    DomainId.ofDigest_inj]

end Digests

end FuturesBot
