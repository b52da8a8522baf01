import FuturesBot.TargetDesignation

/-! How an admission changes the order records: it writes the record of a new order, a copy of the
target of the request, or such a copy and then the record of the replacement. -/
namespace FuturesBot.Execution

open StoreActions StoreActions.Action Orders InMemoryExecutionOrderRecordStore

variable {digests : Digests} {s t : AdmissionStores digests} {request : ExecutionAdmissionRequest}

/-- The replace of the target goes through, up to the record of its replacement. -/
structure ReplaceThrough (request : ExecutionAdmissionRequest) (intent : ReplaceOrderIntent)
    (s : AdmissionStores digests) (target : ExecutionOrderRecord) : Prop where
  requested : request.intent = .replace intent
  allowed : ReplaceAllowed request intent s target
  written : ∃ gate_decision, replaceChecks request intent s target = .ok (.inr gate_decision) ∧
    Nonempty (ReplaceWrites request intent (replacePermission request intent target) target
      gate_decision s)

theorem ReplaceThrough.letThrough {intent : ReplaceOrderIntent} {target : ExecutionOrderRecord}
    (h : ReplaceThrough request intent s target) : LetThrough request s target := by
  obtain ⟨gate_decision, hchecks, ⟨w⟩⟩ := h.written
  rw [LetThrough, h.requested]
  exact ⟨h.allowed, gate_decision, hchecks, ⟨w.toReplaceTargetWrites⟩⟩

theorem letThrough_stored {target : ExecutionOrderRecord} (h : LetThrough request s target) :
    s.records.get? target.record_id = some target := by
  rw [LetThrough] at h
  cases hintent : request.intent with
  | order intent =>
    rw [hintent] at h
    exact h.elim
  | cancel intent =>
    rw [hintent] at h
    exact resolveTarget_stored h.1.resolved
  | replace intent =>
    rw [hintent] at h
    exact resolveTarget_stored h.1.resolved

/-- No record is under the id of a record whose client order id has none. -/
theorem get?_none_of_client {records records' : InMemoryExecutionOrderRecordStore}
    {record : ExecutionOrderRecord} (hupsert : records.upsert record = .ok records')
    (h : records.getByClientOrderId record.client_order_id = none) :
    records.get? record.record_id = none := by
  obtain ⟨haccepts, -⟩ := upsert_eq_ok.mp hupsert
  cases hstored : records.get? record.record_id with
  | none => rfl
  | some existing =>
    -- the record there would have the same client order id
    have hclient := (records.bound _ _).mpr ⟨existing, hstored, haccepts.1 existing hstored⟩
    rw [getByClientOrderId, hclient, Option.bind_some, hstored] at h
    cases h

/-- The records after an admission. -/
inductive RecordsChanged (request : ExecutionAdmissionRequest) (s : AdmissionStores digests)
    (records : InMemoryExecutionOrderRecordStore) : Prop where
  | kept (hkept : records = s.records) : RecordsChanged request s records
  | created {record : ExecutionOrderRecord}
      (hnew : s.records.getByClientOrderId record.client_order_id = none)
      (hvalid : record.validate (digests.clientOrderId record.order_intent) = .ok ())
      (hrecorded : s.records.upsert record = .ok records) : RecordsChanged request s records
  | copied {target : ExecutionOrderRecord} {state : OrderLifecycleState}
      {event_id : OrderLifecycleEventId} (hthrough : LetThrough request s target)
      (hreplace : ∀ intent, ¬ ReplaceThrough request intent s target)
      (hstate : state = .CANCEL_REQUESTED ∨ state = .REPLACE_REQUESTED)
      (hallowed : state ∈ allowedTransitions target.lifecycle_state)
      (hrecorded : s.records.upsert (requestedCopy target state event_id request.requested_at) =
        .ok records) : RecordsChanged request s records
  | replaced {intent : ReplaceOrderIntent} {target : ExecutionOrderRecord}
      {gate_decision : Option ExecutionCapabilityDecision}
      (hthrough : ReplaceThrough request intent s target)
      (hallowed : .REPLACE_REQUESTED ∈ allowedTransitions target.lifecycle_state)
      (w : ReplaceWrites request intent (replacePermission request intent target) target
        gate_decision s) (hrecords : records = w.records) : RecordsChanged request s records

/-! The transition of the copy is that of an event, which is checked. -/

theorem allowed_of_validate {state next_state : OrderLifecycleState}
    (h : validateOrderLifecycleTransition (some state) next_state = .ok ()) :
    next_state ∈ allowedTransitions state := by
  rw [validateOrderLifecycleTransition] at h
  split at h
  · cases h
  · split at h
    · cases h
    · rename_i hallowed
      exact not_not.mp hallowed

theorem allowed_of_event {event : OrderLifecycleEvent} {state : OrderLifecycleState}
    (h : event.previous_state = some state) : event.next_state ∈ allowedTransitions state := by
  apply allowed_of_validate
  rw [← h]
  exact event.allowed

theorem CancelWrites.allowed {intent : CancelOrderIntent} {target : ExecutionOrderRecord}
    (w : CancelWrites request intent target s) :
    .CANCEL_REQUESTED ∈ allowedTransitions target.lifecycle_state := by
  have hevent := w.cancel_event
  have hnext : w.event.next_state = .CANCEL_REQUESTED := by rw [hevent]; rfl
  rw [← hnext]
  exact allowed_of_event (by rw [hevent]; rfl)

theorem ReplaceTargetWrites.allowed {intent : ReplaceOrderIntent}
    {permission : OrderIntentPermissionDecision} {target : ExecutionOrderRecord}
    {gate_decision : Option ExecutionCapabilityDecision}
    (w : ReplaceTargetWrites request intent permission target gate_decision s) :
    .REPLACE_REQUESTED ∈ allowedTransitions target.lifecycle_state := by
  have hevent := w.target_requested
  have hnext : w.target_event.next_state = .REPLACE_REQUESTED := by rw [hevent]; rfl
  rw [← hnext]
  exact allowed_of_event (by rw [hevent]; rfl)

/-! The paths. -/

theorem order_changed {intent : OrderIntent} (hintent : request.intent = .order intent) :
    RecordsChanged request s (admitIntent request s).1.records := by
  have houtcome := admitIntent_outcome request s
  generalize (admitIntent request s).1 = t at houtcome ⊢
  generalize (admitIntent request s).2 = r at houtcome
  cases houtcome with
  | notAccepted _ haudited => exact .kept haudited.records
  | failed hkept => exact .kept hkept.records
  | @order intent created gate_decision u d _ hnew hcreated _ w hstores _ =>
    have hu : u.records = s.records := ((appendLifecycleEvent_keeps _).of_eq hcreated).records
    rw [hstores]
    refine .created hnew w.valid ?_
    rw [← hu]
    exact w.recorded
  | cancel hcancel =>
    rw [hintent] at hcancel
    cases hcancel
  | replace hreplace =>
    rw [hintent] at hreplace
    cases hreplace
  | replaceFailed hreplace =>
    rw [hintent] at hreplace
    cases hreplace

theorem cancel_changed {intent : CancelOrderIntent} (hintent : request.intent = .cancel intent) :
    RecordsChanged request s (admitIntent request s).1.records := by
  rcases cancel_path hintent with hrefused | ⟨target, hallowed, hpath⟩
  · exact .kept hrefused.records
  rw [hpath]
  rcases haccept : acceptCancel request intent target s with ⟨t, e | d⟩
  · exact .kept (acceptCancel_error request intent target s t e haccept).records
  · obtain ⟨w, rfl, -⟩ := acceptCancel_eq_ok.mp haccept
    have hthrough : LetThrough request s target := by
      rw [LetThrough, hintent]
      exact ⟨hallowed, ⟨w⟩⟩
    refine .copied hthrough (fun replace_intent hreplace => ?_) (.inl rfl) w.allowed w.recorded
    have hreplaced := hreplace.requested
    rw [hintent] at hreplaced
    cases hreplaced

/-- A replace that goes through ends with all its writes. -/
theorem replaceThrough_path {intent : ReplaceOrderIntent} {target : ExecutionOrderRecord}
    (h : ReplaceThrough request intent s target) :
    ∃ (gate_decision : Option ExecutionCapabilityDecision)
      (w : ReplaceWrites request intent (replacePermission request intent target) target
        gate_decision s) (d : ExecutionAdmissionDecision),
      admitIntent request s = (w.stores, .ok d) := by
  obtain ⟨gate_decision, hchecks, ⟨w⟩⟩ := h.written
  obtain ⟨d, hd⟩ := @decision_of_accepted w.decision rfl rfl
  refine ⟨gate_decision, w, d, ?_⟩
  rw [replace_path_allowed h.requested h.allowed hchecks]
  exact acceptReplace_eq_ok.mpr ⟨w, rfl, hd⟩

theorem replace_changed {intent : ReplaceOrderIntent} (hintent : request.intent = .replace intent) :
    RecordsChanged request s (admitIntent request s).1.records := by
  rcases replace_path hintent with hrefused | ⟨target, hallowed, gate_decision, hchecks, hpath⟩
  · exact .kept hrefused.records
  rcases haccept : acceptReplace request intent (replacePermission request intent target)
    target gate_decision s with ⟨t, e | d⟩
  · rcases acceptReplace_error haccept with hkept | ⟨w, rfl⟩
    · rw [hpath, haccept]
      exact .kept hkept.records
    -- the copy is written and the record of the replacement is refused
    have hthrough : LetThrough request s target := by
      rw [LetThrough, hintent]
      exact ⟨hallowed, gate_decision, hchecks, ⟨w⟩⟩
    have hfailed : (admitIntent request s).2 = .error e := by rw [hpath, haccept]
    rw [hpath, haccept]
    refine .copied hthrough (fun other hreplace => ?_) (.inr rfl) w.allowed w.target_recorded
    obtain ⟨_, _, d, hended⟩ := replaceThrough_path hreplace
    rw [hended] at hfailed
    cases hfailed
  · obtain ⟨w, rfl, -⟩ := acceptReplace_eq_ok.mp haccept
    rw [hpath, haccept]
    exact .replaced ⟨hintent, hallowed, gate_decision, hchecks, ⟨w⟩⟩ w.allowed w rfl

theorem records_changed (request : ExecutionAdmissionRequest) (s : AdmissionStores digests) :
    RecordsChanged request s (admitRequest request s).1.records := by
  rw [admit_records]
  cases hintent : request.intent with
  | order intent => exact order_changed hintent
  | cancel intent => exact cancel_changed hintent
  | replace intent => exact replace_changed hintent

/-! What is written on the way to the target. -/

/-- The record of the target is a copy with the time of the request, or the replace goes through. -/
theorem letThrough_written {target : ExecutionOrderRecord} (h : LetThrough request s target) :
    (∃ state event_id, (admitRequest request s).1.records.get? target.record_id =
        some (requestedCopy target state event_id request.requested_at)) ∨
      ∃ intent, ReplaceThrough request intent s target := by
  rw [admit_records]
  cases hintent : request.intent with
  | order intent =>
    rw [LetThrough, hintent] at h
    exact h.elim
  | cancel intent =>
    rw [LetThrough, hintent] at h
    obtain ⟨hallowed, ⟨w⟩⟩ := h
    exact .inl ⟨.CANCEL_REQUESTED, digests.eventId w.event, cancel_written hintent hallowed w⟩
  | replace intent =>
    rw [LetThrough, hintent] at h
    obtain ⟨hallowed, gate_decision, hchecks, ⟨w⟩⟩ := h
    rcases acceptReplace_written w with hwritten | ⟨w, -⟩
    · refine .inl ⟨.REPLACE_REQUESTED, digests.eventId w.target_event, ?_⟩
      rw [replace_path_allowed hintent hallowed hchecks]
      exact hwritten
    · exact .inr ⟨intent, hintent, hallowed, gate_decision, hchecks, ⟨w⟩⟩

/-- The records after a replace that goes through: that of the replacement, and the copy of the
target where it is another record. -/
theorem ReplaceWrites.get? {intent : ReplaceOrderIntent}
    {permission : OrderIntentPermissionDecision} {target : ExecutionOrderRecord}
    {gate_decision : Option ExecutionCapabilityDecision}
    (w : ReplaceWrites request intent permission target gate_decision s)
    (record_id : ExecutionOrderRecordId) :
    w.records.get? record_id =
      if digests.deterministicExecutionOrderRecordId intent.replacement_order = record_id then
        some w.record
      else if target.record_id = record_id then some w.targetRecord
      else s.records.get? record_id := by
  rw [get?_upsert w.recorded, get?_upsert w.target_recorded]
  rfl

end FuturesBot.Execution
