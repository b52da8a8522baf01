import FuturesBot.ExecutionCoordinator

/-! The writes of an accepted order, cancel and replace, each as a whole: the values that are
written and the stores they lead to. -/
namespace FuturesBot.Execution

open Dicts StoreActions StoreActions.Action Orders Checks

variable {digests : Digests} {s t : AdmissionStores digests}

/-! One write. -/

theorem putIdempotent_eq_ok {κ ν : Type} [DecidableEq κ] {key : ν → κ} {same : ν → ν → Bool}
    {name : String} {store store' : KeyedDict key} {value : ν} :
    putIdempotent same name store value = .ok store' ↔
      (store.get? (key value) = none ∧ store' = store.put value) ∨
        ∃ existing, store.get? (key value) = some existing ∧ same existing value = true ∧
          store' = store := by
  rw [putIdempotent]
  cases hget : store.get? (key value) with
  | none =>
    simp only [Except.ok.injEq, true_and, reduceCtorEq, false_and, exists_false, or_false]
    exact eq_comm
  | some existing =>
    by_cases hsame : same existing value = true
    · simp only [hsame, ↓reduceIte, Except.ok.injEq, reduceCtorEq, false_and, Option.some.injEq,
        exists_eq_left', true_and, false_or]
      exact eq_comm
    · simp only [hsame, Bool.false_eq_true, ↓reduceIte, reduceCtorEq, false_and,
        Option.some.injEq, exists_eq_left', or_self]

theorem appendOrderIntent_eq_ok {intent : OrderIntent} :
    appendOrderIntent intent s = (t, .ok ()) ↔
      ∃ orders, putIdempotent digests.sameIntent "order intent" s.orders intent = .ok orders ∧
        t = { s with orders } := writing_part_eq_ok

theorem appendCancelIntent_eq_ok {intent : CancelOrderIntent} :
    appendCancelIntent intent s = (t, .ok ()) ↔
      ∃ cancels, putIdempotent (fun a b => Decidable.decide (a = b)) "cancel intent" s.cancels
        intent = .ok cancels ∧ t = { s with cancels } := writing_part_eq_ok

theorem appendReplaceIntent_eq_ok {intent : ReplaceOrderIntent} :
    appendReplaceIntent intent s = (t, .ok ()) ↔
      ∃ replaces, putIdempotent digests.sameReplace "replace intent" s.replaces intent =
        .ok replaces ∧ t = { s with replaces } := writing_part_eq_ok

theorem putProof_eq_ok {proof : ExecutionReadinessProof} :
    putProof proof s = (t, .ok ()) ↔
      ∃ proofs, s.proofs.put proof = .ok proofs ∧ t = { s with proofs } := writing_part_eq_ok

theorem upsertRecord_eq_ok {record : ExecutionOrderRecord} :
    upsertRecord record s = (t, .ok ()) ↔
      ∃ records, s.records.upsert record = .ok records ∧ t = { s with records } :=
  writing_part_eq_ok

/-- The events with one more, which may be there already. -/
def putEvent (events : KeyedDict digests.eventId) (event : OrderLifecycleEvent) :
    Except AdmissionError (KeyedDict digests.eventId) :=
  putIdempotent (fun a b => Decidable.decide (a = b)) "order lifecycle event" events event

theorem appendLifecycleEvent_eq_ok {fields : LifecycleEventFields} {event : OrderLifecycleEvent} :
    appendLifecycleEvent fields s = (t, .ok event) ↔
      event.toLifecycleEventFields = fields ∧
        ∃ events, putEvent s.events event = .ok events ∧ t = { s with events } := by
  rw [appendLifecycleEvent]
  constructor
  · intro h
    obtain ⟨_, made, hread, h⟩ := bind_eq_ok.mp h
    obtain ⟨rfl, hmade⟩ := reading_eq_ok.mp hread
    obtain ⟨_, _, happend, h⟩ := bind_eq_ok.mp h
    obtain ⟨rfl, rfl⟩ := pure_eq_ok.mp h
    exact ⟨OrderLifecycleEvent.of_eq_ok.mp hmade, writing_part_eq_ok.mp happend⟩
  · rintro ⟨hfields, hevents⟩
    refine bind_eq_ok.mpr ⟨s, event, reading_eq_ok.mpr ⟨rfl, ?_⟩, ?_⟩
    · exact OrderLifecycleEvent.of_eq_ok.mpr hfields
    · exact bind_eq_ok.mpr ⟨t, (), writing_part_eq_ok.mpr hevents, pure_eq_ok.mpr ⟨rfl, rfl⟩⟩

theorem upsertNewRecord_eq_ok {record : ExecutionOrderRecord} :
    upsertNewRecord record s = (t, .ok ()) ↔
      record.validate (digests.clientOrderId record.order_intent) = .ok () ∧
        ∃ records, s.records.upsert record = .ok records ∧ t = { s with records } := by
  rw [upsertNewRecord]
  constructor
  · intro h
    obtain ⟨_, _, hread, h⟩ := bind_eq_ok.mp h
    obtain ⟨rfl, hvalid⟩ := reading_eq_ok.mp hread
    exact ⟨hvalid, upsertRecord_eq_ok.mp h⟩
  · rintro ⟨hvalid, hrecords⟩
    exact bind_eq_ok.mpr ⟨s, (), reading_eq_ok.mpr ⟨rfl, hvalid⟩, upsertRecord_eq_ok.mpr hrecords⟩

theorem decision_eq_ok {fields : DecisionFields} {d : ExecutionAdmissionDecision} :
    decision fields s = (t, .ok d) ↔ s = t ∧ d.toDecisionFields = fields := by
  rw [decision, reading_eq_ok, ExecutionAdmissionDecision.of_eq_ok]

/-- A decision for the reason ACCEPTED passes its checks. -/
theorem decision_of_accepted {fields : DecisionFields} (hreason : fields.reason = .ACCEPTED)
    (haccepted : fields.accepted = true) :
    ∃ d : ExecutionAdmissionDecision, d.toDecisionFields = fields := by
  have hvalid : checkAll fields.validateDecision = .ok () := by
    simp [DecisionFields.validateDecision, hreason, haccepted]
  exact ⟨⟨fields, hvalid⟩, rfl⟩

theorem decision_accepted_ne_error {fields : DecisionFields} (hreason : fields.reason = .ACCEPTED)
    (haccepted : fields.accepted = true) (e : AdmissionError) :
    decision fields s ≠ (t, .error e) := by
  obtain ⟨d, hd⟩ := decision_of_accepted hreason haccepted
  intro h
  have herror := (reading_eq_error.mp h).2
  rw [ExecutionAdmissionDecision.of_eq_ok.mpr hd] at herror
  exact absurd herror (by simp)

/-! Accepted orders. -/

section OrderPath

/-- What an accepted order writes, with the values that are made on the way. -/
structure OrderWrites (request : ExecutionAdmissionRequest) (order_intent : OrderIntent)
    (created : OrderLifecycleEvent) (gate_decision : Option ExecutionCapabilityDecision)
    (s : AdmissionStores digests) where
  accepted : OrderLifecycleEvent
  proof : ExecutionReadinessProof
  orders : KeyedDict digests.intentId
  events : KeyedDict digests.eventId
  proofs : InMemoryExecutionReadinessProofStore digests
  records : InMemoryExecutionOrderRecordStore
  journaled : putIdempotent digests.sameIntent "order intent" s.orders order_intent = .ok orders
  accepted_event : accepted.toLifecycleEventFields = acceptedEvent digests request order_intent
  appended : putEvent s.events accepted = .ok events
  built : buildOrderExecutionReadinessProof digests request order_intent
    (evaluateOrderIntentPermission order_intent request.order_flow_permission) gate_decision
    [digests.eventId created, digests.eventId accepted] = .ok proof
  proven : s.proofs.put proof = .ok proofs
  valid : (newRecord digests order_intent .ACCEPTED_BY_EXECUTION (digests.eventId accepted)
    request.requested_at (digests.proofId proof)).validate (digests.clientOrderId order_intent) =
      .ok ()
  recorded : s.records.upsert (newRecord digests order_intent .ACCEPTED_BY_EXECUTION
    (digests.eventId accepted) request.requested_at (digests.proofId proof)) = .ok records

namespace OrderWrites

variable {request : ExecutionAdmissionRequest} {order_intent : OrderIntent}
  {created : OrderLifecycleEvent} {gate_decision : Option ExecutionCapabilityDecision}
  (w : OrderWrites request order_intent created gate_decision s)

def stores : AdmissionStores digests :=
  { s with
    orders := w.orders
    events := w.events
    proofs := w.proofs
    records := w.records }

def record : ExecutionOrderRecord :=
  newRecord digests order_intent .ACCEPTED_BY_EXECUTION (digests.eventId w.accepted)
    request.requested_at (digests.proofId w.proof)

def decision : DecisionFields :=
  acceptedDecision digests (orderDecision digests request order_intent true .ACCEPTED) w.record
    gate_decision w.proof [digests.eventId created, digests.eventId w.accepted]

end OrderWrites

variable {request : ExecutionAdmissionRequest} {order_intent : OrderIntent}
  {created : OrderLifecycleEvent} {gate_decision : Option ExecutionCapabilityDecision}

theorem acceptOrder_eq_ok {d : ExecutionAdmissionDecision} :
    acceptOrder request order_intent created gate_decision s = (t, .ok d) ↔
      ∃ w : OrderWrites request order_intent created gate_decision s,
        t = w.stores ∧ d.toDecisionFields = w.decision := by
  rw [acceptOrder]
  constructor
  · intro h
    obtain ⟨_, _, hjournal, h⟩ := bind_eq_ok.mp h
    obtain ⟨orders, journaled, rfl⟩ := appendOrderIntent_eq_ok.mp hjournal
    obtain ⟨_, accepted, hevent, h⟩ := bind_eq_ok.mp h
    obtain ⟨accepted_event, events, appended, rfl⟩ := appendLifecycleEvent_eq_ok.mp hevent
    obtain ⟨_, proof, hproof, h⟩ := bind_eq_ok.mp h
    obtain ⟨rfl, built⟩ := reading_eq_ok.mp hproof
    obtain ⟨_, _, hput, h⟩ := bind_eq_ok.mp h
    obtain ⟨proofs, proven, rfl⟩ := putProof_eq_ok.mp hput
    obtain ⟨_, _, hrecord, h⟩ := bind_eq_ok.mp h
    obtain ⟨valid, records, recorded, rfl⟩ := upsertNewRecord_eq_ok.mp hrecord
    obtain ⟨rfl, hd⟩ := decision_eq_ok.mp h
    exact ⟨⟨accepted, proof, orders, events, proofs, records, journaled, accepted_event, appended,
      built, proven, valid, recorded⟩, rfl, hd⟩
  · rintro ⟨w, rfl, hd⟩
    refine bind_eq_ok.mpr ⟨_, (), appendOrderIntent_eq_ok.mpr ⟨_, w.journaled, rfl⟩, ?_⟩
    refine bind_eq_ok.mpr ⟨_, w.accepted,
      appendLifecycleEvent_eq_ok.mpr ⟨w.accepted_event, _, w.appended, rfl⟩, ?_⟩
    refine bind_eq_ok.mpr ⟨_, w.proof, reading_eq_ok.mpr ⟨rfl, w.built⟩, ?_⟩
    refine bind_eq_ok.mpr ⟨_, (), putProof_eq_ok.mpr ⟨_, w.proven, rfl⟩, ?_⟩
    refine bind_eq_ok.mpr ⟨_, (), upsertNewRecord_eq_ok.mpr ⟨w.valid, _, w.recorded, rfl⟩, ?_⟩
    exact decision_eq_ok.mpr ⟨rfl, hd⟩

end OrderPath

/-! Accepted cancels. -/

section CancelPath

/-- What an accepted cancel writes. -/
structure CancelWrites (request : ExecutionAdmissionRequest) (cancel_intent : CancelOrderIntent)
    (target : ExecutionOrderRecord) (s : AdmissionStores digests) where
  event : OrderLifecycleEvent
  cancels : KeyedDict digests.cancelIntentId
  events : KeyedDict digests.eventId
  records : InMemoryExecutionOrderRecordStore
  journaled : putIdempotent (fun a b => Decidable.decide (a = b)) "cancel intent" s.cancels
    cancel_intent = .ok cancels
  cancel_event :
    event.toLifecycleEventFields = cancelRequestedEvent digests request cancel_intent target
  appended : putEvent s.events event = .ok events
  recorded : s.records.upsert (requestedCopy target .CANCEL_REQUESTED (digests.eventId event)
    request.requested_at) = .ok records

namespace CancelWrites

variable {request : ExecutionAdmissionRequest} {cancel_intent : CancelOrderIntent}
  {target : ExecutionOrderRecord} (w : CancelWrites request cancel_intent target s)

def stores : AdmissionStores digests :=
  { s with
    cancels := w.cancels
    events := w.events
    records := w.records }

def record : ExecutionOrderRecord :=
  requestedCopy target .CANCEL_REQUESTED (digests.eventId w.event) request.requested_at

def decision : DecisionFields :=
  { cancelTargetDecision digests request cancel_intent target true .ACCEPTED with
    lifecycle_event_ids := [digests.eventId w.event] }

end CancelWrites

variable {request : ExecutionAdmissionRequest} {cancel_intent : CancelOrderIntent}
  {target : ExecutionOrderRecord}

theorem acceptCancel_eq_ok {d : ExecutionAdmissionDecision} :
    acceptCancel request cancel_intent target s = (t, .ok d) ↔
      ∃ w : CancelWrites request cancel_intent target s,
        t = w.stores ∧ d.toDecisionFields = w.decision := by
  rw [acceptCancel]
  constructor
  · intro h
    obtain ⟨_, _, hjournal, h⟩ := bind_eq_ok.mp h
    obtain ⟨cancels, journaled, rfl⟩ := appendCancelIntent_eq_ok.mp hjournal
    obtain ⟨_, event, hevent, h⟩ := bind_eq_ok.mp h
    obtain ⟨cancel_event, events, appended, rfl⟩ := appendLifecycleEvent_eq_ok.mp hevent
    obtain ⟨_, _, hrecord, h⟩ := bind_eq_ok.mp h
    obtain ⟨records, recorded, rfl⟩ := upsertRecord_eq_ok.mp hrecord
    obtain ⟨rfl, hd⟩ := decision_eq_ok.mp h
    exact ⟨⟨event, cancels, events, records, journaled, cancel_event, appended, recorded⟩, rfl, hd⟩
  · rintro ⟨w, rfl, hd⟩
    refine bind_eq_ok.mpr ⟨_, (), appendCancelIntent_eq_ok.mpr ⟨_, w.journaled, rfl⟩, ?_⟩
    refine bind_eq_ok.mpr ⟨_, w.event,
      appendLifecycleEvent_eq_ok.mpr ⟨w.cancel_event, _, w.appended, rfl⟩, ?_⟩
    refine bind_eq_ok.mpr ⟨_, (), upsertRecord_eq_ok.mpr ⟨_, w.recorded, rfl⟩, ?_⟩
    exact decision_eq_ok.mpr ⟨rfl, hd⟩

end CancelPath

/-! Accepted replaces. -/

section ReplacePath

/-- What an accepted replace writes up to the record of its target. -/
structure ReplaceTargetWrites (request : ExecutionAdmissionRequest)
    (replace_intent : ReplaceOrderIntent) (permission : OrderIntentPermissionDecision)
    (target : ExecutionOrderRecord) (gate_decision : Option ExecutionCapabilityDecision)
    (s : AdmissionStores digests) where
  target_event : OrderLifecycleEvent
  replacement_event : OrderLifecycleEvent
  proof : ExecutionReadinessProof
  replaces : KeyedDict digests.replaceIntentId
  orders : KeyedDict digests.intentId
  target_events : KeyedDict digests.eventId
  events : KeyedDict digests.eventId
  proofs : InMemoryExecutionReadinessProofStore digests
  target_records : InMemoryExecutionOrderRecordStore
  journaled : putIdempotent digests.sameReplace "replace intent" s.replaces replace_intent =
    .ok replaces
  target_requested : target_event.toLifecycleEventFields =
    replaceRequestedEvent digests request replace_intent target
  target_appended : putEvent s.events target_event = .ok target_events
  replacement_journaled : putIdempotent digests.sameIntent "order intent" s.orders
    replace_intent.replacement_order = .ok orders
  replacement_accepted : replacement_event.toLifecycleEventFields =
    replacementAcceptedEvent digests request replace_intent
  replacement_appended : putEvent target_events replacement_event = .ok events
  built : buildReplaceExecutionReadinessProof digests request replace_intent permission
    gate_decision [digests.eventId target_event, digests.eventId replacement_event] = .ok proof
  proven : s.proofs.put proof = .ok proofs
  target_recorded : s.records.upsert (requestedCopy target .REPLACE_REQUESTED
    (digests.eventId target_event) request.requested_at) = .ok target_records

namespace ReplaceTargetWrites

variable {request : ExecutionAdmissionRequest} {replace_intent : ReplaceOrderIntent}
  {permission : OrderIntentPermissionDecision} {target : ExecutionOrderRecord}
  {gate_decision : Option ExecutionCapabilityDecision}
  (w : ReplaceTargetWrites request replace_intent permission target gate_decision s)

def stores : AdmissionStores digests :=
  { s with
    replaces := w.replaces
    orders := w.orders
    events := w.events
    proofs := w.proofs
    records := w.target_records }

def targetRecord : ExecutionOrderRecord :=
  requestedCopy target .REPLACE_REQUESTED (digests.eventId w.target_event) request.requested_at

def record : ExecutionOrderRecord :=
  newRecord digests replace_intent.replacement_order .ACCEPTED_BY_EXECUTION
    (digests.eventId w.replacement_event) request.requested_at (digests.proofId w.proof)

end ReplaceTargetWrites

/-- All that an accepted replace writes. -/
structure ReplaceWrites (request : ExecutionAdmissionRequest) (replace_intent : ReplaceOrderIntent)
    (permission : OrderIntentPermissionDecision) (target : ExecutionOrderRecord)
    (gate_decision : Option ExecutionCapabilityDecision) (s : AdmissionStores digests) extends
    ReplaceTargetWrites request replace_intent permission target gate_decision s where
  records : InMemoryExecutionOrderRecordStore
  valid : toReplaceTargetWrites.record.validate
    (digests.clientOrderId replace_intent.replacement_order) = .ok ()
  recorded : target_records.upsert toReplaceTargetWrites.record = .ok records

namespace ReplaceWrites

variable {request : ExecutionAdmissionRequest} {replace_intent : ReplaceOrderIntent}
  {permission : OrderIntentPermissionDecision} {target : ExecutionOrderRecord}
  {gate_decision : Option ExecutionCapabilityDecision}
  (w : ReplaceWrites request replace_intent permission target gate_decision s)

def stores : AdmissionStores digests := { w.toReplaceTargetWrites.stores with records := w.records }

def decision : DecisionFields :=
  acceptedDecision digests (replaceDecision digests request replace_intent true .ACCEPTED) w.record
    gate_decision w.proof [digests.eventId w.target_event, digests.eventId w.replacement_event]

end ReplaceWrites

variable {request : ExecutionAdmissionRequest} {replace_intent : ReplaceOrderIntent}
  {permission : OrderIntentPermissionDecision} {target : ExecutionOrderRecord}
  {gate_decision : Option ExecutionCapabilityDecision}

theorem acceptReplace_eq_ok {d : ExecutionAdmissionDecision} :
    acceptReplace request replace_intent permission target gate_decision s = (t, .ok d) ↔
      ∃ w : ReplaceWrites request replace_intent permission target gate_decision s,
        t = w.stores ∧ d.toDecisionFields = w.decision := by
  rw [acceptReplace]
  constructor
  · intro h
    obtain ⟨_, _, hjournal, h⟩ := bind_eq_ok.mp h
    obtain ⟨replaces, journaled, rfl⟩ := appendReplaceIntent_eq_ok.mp hjournal
    obtain ⟨_, target_event, htarget, h⟩ := bind_eq_ok.mp h
    obtain ⟨target_requested, target_events, target_appended, rfl⟩ :=
      appendLifecycleEvent_eq_ok.mp htarget
    obtain ⟨_, _, horder, h⟩ := bind_eq_ok.mp h
    obtain ⟨orders, replacement_journaled, rfl⟩ := appendOrderIntent_eq_ok.mp horder
    obtain ⟨_, replacement_event, hreplacement, h⟩ := bind_eq_ok.mp h
    obtain ⟨replacement_accepted, events, replacement_appended, rfl⟩ :=
      appendLifecycleEvent_eq_ok.mp hreplacement
    obtain ⟨_, proof, hproof, h⟩ := bind_eq_ok.mp h
    obtain ⟨rfl, built⟩ := reading_eq_ok.mp hproof
    obtain ⟨_, _, hput, h⟩ := bind_eq_ok.mp h
    obtain ⟨proofs, proven, rfl⟩ := putProof_eq_ok.mp hput
    obtain ⟨_, _, hcopy, h⟩ := bind_eq_ok.mp h
    obtain ⟨target_records, target_recorded, rfl⟩ := upsertRecord_eq_ok.mp hcopy
    obtain ⟨_, _, hrecord, h⟩ := bind_eq_ok.mp h
    obtain ⟨valid, records, recorded, rfl⟩ := upsertNewRecord_eq_ok.mp hrecord
    obtain ⟨rfl, hd⟩ := decision_eq_ok.mp h
    let w : ReplaceTargetWrites request replace_intent permission target gate_decision s :=
      ⟨target_event, replacement_event, proof, replaces, orders, target_events, events, proofs,
        target_records, journaled, target_requested, target_appended, replacement_journaled,
        replacement_accepted, replacement_appended, built, proven, target_recorded⟩
    exact ⟨⟨w, records, valid, recorded⟩, rfl, hd⟩
  · rintro ⟨w, rfl, hd⟩
    refine bind_eq_ok.mpr ⟨_, (), appendReplaceIntent_eq_ok.mpr ⟨_, w.journaled, rfl⟩, ?_⟩
    refine bind_eq_ok.mpr ⟨_, w.target_event,
      appendLifecycleEvent_eq_ok.mpr ⟨w.target_requested, _, w.target_appended, rfl⟩, ?_⟩
    refine bind_eq_ok.mpr ⟨_, (),
      appendOrderIntent_eq_ok.mpr ⟨_, w.replacement_journaled, rfl⟩, ?_⟩
    refine bind_eq_ok.mpr ⟨_, w.replacement_event,
      appendLifecycleEvent_eq_ok.mpr ⟨w.replacement_accepted, _, w.replacement_appended, rfl⟩, ?_⟩
    refine bind_eq_ok.mpr ⟨_, w.proof, reading_eq_ok.mpr ⟨rfl, w.built⟩, ?_⟩
    refine bind_eq_ok.mpr ⟨_, (), putProof_eq_ok.mpr ⟨_, w.proven, rfl⟩, ?_⟩
    refine bind_eq_ok.mpr ⟨_, (), upsertRecord_eq_ok.mpr ⟨_, w.target_recorded, rfl⟩, ?_⟩
    refine bind_eq_ok.mpr ⟨_, (), upsertNewRecord_eq_ok.mpr ⟨w.valid, _, w.recorded, rfl⟩, ?_⟩
    exact decision_eq_ok.mpr ⟨rfl, hd⟩

end ReplacePath

end FuturesBot.Execution
