import FuturesBot.DecimalExactness
import FuturesBot.ForwardRecords
import FuturesBot.SoundRecords

/-! When a cancel or a replace of an active order is accepted. An active state need not have a
transition to the requested one, and a replacement is admitted as a new order is. -/
namespace FuturesBot.Execution

open Dicts StoreActions StoreActions.Action Orders Checks InMemoryExecutionOrderRecordStore

variable {digests : Digests} {s t : AdmissionStores digests} {request : ExecutionAdmissionRequest}

/-- The request is accepted, and moves the record of its target along the lifecycle. -/
structure MovesTo (request : ExecutionAdmissionRequest) (s : AdmissionStores digests)
    (target : ExecutionOrderRecord) (state : OrderLifecycleState) : Prop where
  accepted : ∃ d, (admitRequest request s).2 = .ok d ∧ d.accepted = true
  record : ∃ event_id, (admitRequest request s).1.records.get? target.record_id =
    some (requestedCopy target state event_id request.requested_at)
  allowed : state ∈ allowedTransitions target.lifecycle_state

/-- The active states without a transition to a requested one. -/
def submittedStates : List OrderLifecycleState := [.SUBMISSION_REQUESTED, .SUBMITTED_TO_VENUE]

/-- The exception of a lifecycle event whose transition is not in the table. -/
def invalidTransition (previous next : OrderLifecycleState) : AdmissionError :=
  .check ("invalid order lifecycle transition: " ++ previous.value ++ "->" ++ next.value)

theorem requested_allowed_iff {state : OrderLifecycleState} (h : state ∈ activeTargetStates)
    {next : OrderLifecycleState} (hnext : next ∈ [.CANCEL_REQUESTED, .REPLACE_REQUESTED]) :
    next ∈ allowedTransitions state ↔ state ∉ submittedStates := by
  simp only [activeTargetStates, List.mem_cons, List.not_mem_nil, or_false] at h hnext
  rcases hnext with rfl | rfl <;> rcases h with rfl | rfl | rfl | rfl | rfl <;> decide

/-! What the stores hold under the ids of new values. -/

/-- Under the key of the value there is nothing, or the same value. -/
def Free {κ ν : Type} [DecidableEq κ] {key : ν → κ} (same : ν → ν → Bool) (store : KeyedDict key)
    (value : ν) : Prop := ∀ existing ∈ store.get? (key value), same existing value = true

theorem putIdempotent_of_free {κ ν : Type} [DecidableEq κ] {key : ν → κ} {same : ν → ν → Bool}
    {store : KeyedDict key} {value : ν} (name : String) (h : Free same store value) :
    ∃ store', putIdempotent same name store value = .ok store' := by
  cases hstored : store.get? (key value) with
  | none => exact ⟨_, putIdempotent_eq_ok.mpr (.inl ⟨hstored, rfl⟩)⟩
  | some existing =>
    exact ⟨_, putIdempotent_eq_ok.mpr (.inr ⟨existing, hstored, h existing hstored, rfl⟩)⟩

/-- The event is the only one under its id. -/
def EventFree (s : AdmissionStores digests) (event : OrderLifecycleEvent) : Prop :=
  Free (fun a b => Decidable.decide (a = b)) s.events event

/-- A decision that is returned is stored, unless another one has its id. -/
theorem admit_of_path {d : ExecutionAdmissionDecision} (hpath : admitIntent request s = (t, .ok d))
    (hdecision : ¬ DecisionTaken t d) :
    ∃ decisions, admitRequest request s = ({ t with decisions }, .ok d) := by
  obtain ⟨decisions, hstores, -⟩ := admit_path request s
  rw [hpath] at hstores
  refine ⟨decisions, Prod.ext hstores ?_⟩
  rw [admitRequest, bind_apply, hpath]
  dsimp only
  rw [bind_apply]
  rcases hstored : storeDecision d t with ⟨u, e | _⟩
  · exact absurd (storeDecision_error hstored) hdecision
  · rfl

/-- An event whose transition is allowed is made. -/
theorem event_of_allowed {fields : LifecycleEventFields} {state : OrderLifecycleState}
    (hprevious : fields.previous_state = some state)
    (hallowed : fields.next_state ∈ allowedTransitions state) :
    ∃ event : OrderLifecycleEvent, event.toLifecycleEventFields = fields := by
  have hvalid : validateOrderLifecycleTransition fields.previous_state fields.next_state =
      .ok () := by
    rw [hprevious, validateOrderLifecycleTransition, if_neg, if_neg (not_not.mpr hallowed)]
    rintro rfl
    exact absurd hallowed (List.not_mem_nil)
  exact ⟨⟨fields, hvalid⟩, rfl⟩

/-- An event whose transition is not allowed is not made. -/
theorem event_of_refused {fields : LifecycleEventFields} {state : OrderLifecycleState}
    (hprevious : fields.previous_state = some state) (hopen : state ≠ .CLOSED)
    (hrefused : fields.next_state ∉ allowedTransitions state) :
    OrderLifecycleEvent.of fields = .error (invalidTransition state fields.next_state) := by
  have hinvalid : validateOrderLifecycleTransition fields.previous_state fields.next_state =
      .error (invalidTransition state fields.next_state) := by
    rw [hprevious, validateOrderLifecycleTransition, if_neg hopen, if_pos hrefused]
    rfl
  rw [OrderLifecycleEvent.of]
  split
  · rename_i hvalid
    rw [hinvalid] at hvalid
    cases hvalid
  · rename_i e he
    rw [hinvalid] at he
    rw [Except.error.inj he]

/-- The copy of a stored record is taken. -/
theorem upsert_copy {records : InMemoryExecutionOrderRecordStore} {target : ExecutionOrderRecord}
    (hstored : records.get? target.record_id = some target) (state : OrderLifecycleState)
    (event_id : OrderLifecycleEventId) (updated_at : DateTimes.DateTime) :
    ∃ records', records.upsert (requestedCopy target state event_id updated_at) = .ok records' := by
  refine ⟨_, upsert_eq_ok.mpr ⟨⟨?_, ?_⟩, rfl⟩⟩
  · intro existing hexisting
    change records.get? target.record_id = some existing at hexisting
    rw [hstored] at hexisting
    rw [← Option.some.inj hexisting]
    rfl
  · intro record_id hid
    have hbound := (records.bound _ _).mpr ⟨target, hstored, rfl⟩
    change records.record_id_by_client_id.get? target.client_order_id = some record_id at hid
    rw [hbound] at hid
    exact (Option.some.inj hid).symm

/-! Cancels. -/

/-- No store holds another value under an id of the cancel. -/
structure CancelFree (request : ExecutionAdmissionRequest) (intent : CancelOrderIntent)
    (s : AdmissionStores digests) (target : ExecutionOrderRecord) : Prop where
  journal : Free (fun a b => Decidable.decide (a = b)) s.cancels intent
  event : ∀ event : OrderLifecycleEvent, event.toLifecycleEventFields =
    cancelRequestedEvent digests request intent target → EventFree s event
  decision : ∀ (event : OrderLifecycleEvent) (d : ExecutionAdmissionDecision),
    event.toLifecycleEventFields = cancelRequestedEvent digests request intent target →
    d.toDecisionFields = { cancelTargetDecision digests request intent target true .ACCEPTED with
      lifecycle_event_ids := [digests.eventId event] } → ¬ DecisionTaken s d

theorem cancel_accepted {intent : CancelOrderIntent} {target : ExecutionOrderRecord}
    (hintent : request.intent = .cancel intent) (hallowed : CancelAllowed request intent s target)
    (htransition : .CANCEL_REQUESTED ∈ allowedTransitions target.lifecycle_state)
    (hfree : CancelFree request intent s target) : MovesTo request s target .CANCEL_REQUESTED := by
  obtain ⟨cancels, hcancels⟩ := putIdempotent_of_free "cancel intent" hfree.journal
  obtain ⟨event, hevent⟩ := @event_of_allowed (cancelRequestedEvent digests request intent target)
    _ rfl htransition
  obtain ⟨events, hevents⟩ := putIdempotent_of_free "order lifecycle event"
    (hfree.event event hevent)
  obtain ⟨records, hrecords⟩ := upsert_copy (resolveTarget_stored hallowed.resolved)
    .CANCEL_REQUESTED (digests.eventId event) request.requested_at
  let w : CancelWrites request intent target s :=
    ⟨event, cancels, events, records, hcancels, hevent, hevents, hrecords⟩
  obtain ⟨d, hd⟩ := @decision_of_accepted w.decision rfl rfl
  have hpath : admitIntent request s = (w.stores, .ok d) :=
    (cancel_path_allowed hintent hallowed).trans (acceptCancel_eq_ok.mpr ⟨w, rfl, hd⟩)
  have hdecision : ¬ DecisionTaken w.stores d := hfree.decision event d hevent hd
  obtain ⟨decisions, hadmitted⟩ := admit_of_path hpath hdecision
  refine ⟨⟨d, by rw [hadmitted], by rw [hd]; rfl⟩, ⟨digests.eventId event, ?_⟩, htransition⟩
  rw [hadmitted]
  change w.records.get? target.record_id = _
  rw [get?_upsert w.recorded]
  exact if_pos rfl

theorem appendLifecycleEvent_refused {fields : LifecycleEventFields} {state : OrderLifecycleState}
    (hprevious : fields.previous_state = some state) (hopen : state ≠ .CLOSED)
    (hrefused : fields.next_state ∉ allowedTransitions state) :
    appendLifecycleEvent fields s = (s, .error (invalidTransition state fields.next_state)) := by
  rw [appendLifecycleEvent, bind_apply, reading, event_of_refused hprevious hopen hrefused]

theorem active_open {state : OrderLifecycleState} (h : state ∈ activeTargetStates) :
    state ≠ .CLOSED := by
  rintro rfl
  exact absurd h (by decide)

theorem admit_of_error {e : AdmissionError} (hpath : admitIntent request s = (t, .error e)) :
    admitRequest request s = (t, .error e) := by
  rw [admitRequest, bind_apply, hpath]

/-- A cancel that the permission allows of an active order is accepted and moves the record, unless
the order is on its way to the venue: then the cancel is journaled, and the admission raises. -/
theorem cancel_of_active {intent : CancelOrderIntent} {target : ExecutionOrderRecord}
    (hintent : request.intent = .cancel intent) (hallowed : CancelAllowed request intent s target)
    (hfree : CancelFree request intent s target) :
    (target.lifecycle_state ∉ submittedStates → MovesTo request s target .CANCEL_REQUESTED) ∧
      (target.lifecycle_state ∈ submittedStates → ∃ cancels,
        cancels.get? (digests.cancelIntentId intent) = some intent ∧
        admitRequest request s = ({ s with cancels },
          .error (invalidTransition target.lifecycle_state .CANCEL_REQUESTED))) := by
  have htransition := @requested_allowed_iff _ hallowed.active .CANCEL_REQUESTED (by decide)
  constructor
  · intro hstate
    exact cancel_accepted hintent hallowed (htransition.mpr hstate) hfree
  · intro hstate
    obtain ⟨cancels, hcancels⟩ := putIdempotent_of_free "cancel intent" hfree.journal
    have hrefused := @appendLifecycleEvent_refused digests { s with cancels }
      (cancelRequestedEvent digests request intent target) _ rfl (active_open hallowed.active)
      (fun h => htransition.mp h hstate)
    refine ⟨cancels, ?_, admit_of_error ?_⟩
    · rcases putIdempotent_eq_ok.mp hcancels with ⟨-, rfl⟩ | ⟨existing, hget, hsame, rfl⟩
      · exact KeyedDict.get?_put_self _ _
      · rw [hget, of_decide_eq_true hsame]
    · rw [cancel_path_allowed hintent hallowed, acceptCancel]
      have hjournal : appendCancelIntent intent s = ({ s with cancels }, .ok ()) :=
        appendCancelIntent_eq_ok.mpr ⟨cancels, hcancels, rfl⟩
      rw [bind_apply, hjournal]
      dsimp only
      rw [bind_apply, hrefused]
      rfl

/-! Replaces. -/

/-- The evidence does not stand against a ready proof. -/
def Passable (evidence : ExecutionReadinessGateEvidence) : Prop :=
  evidence.status ∉ [.FAILED, .UNKNOWN] ∧ (evidence.required = true → evidence.status = .PASSED)

theorem passable_decided {gate : ExecutionReadinessGate} {required : Bool}
    {reason : Option String} {details : JsonText.Json} :
    Passable (decided gate true required reason details) :=
  ⟨by change ExecutionReadinessGateStatus.PASSED ∉ _; decide, fun _ => rfl⟩

/-- The gates of a proof by their names, whatever their evidence says. -/
theorem commonGates_names (request : ExecutionAdmissionRequest)
    (permission : OrderIntentPermissionDecision)
    (gate_decision : Option ExecutionCapabilityDecision) :
    (commonGates request permission gate_decision).map (·.gate) =
      [.RUNTIME_PERMISSION, .VENUE_CAPABILITY, .CAPABILITY_FRESHNESS, .SOURCE_PROVENANCE,
        .ASSET_SEMANTICS] := by
  have hvenue : (venueCapabilityGate request gate_decision).gate = .VENUE_CAPABILITY := by
    rw [venueCapabilityGate.eq_def]
    split <;> rfl
  have hfreshness : (capabilityFreshnessGate request gate_decision).gate =
      .CAPABILITY_FRESHNESS := by
    rw [capabilityFreshnessGate.eq_def]
    split <;> rfl
  have hprovenance : (sourceProvenanceGate request).gate = .SOURCE_PROVENANCE := by
    rw [sourceProvenanceGate]
    dsimp only
    split
    · rfl
    · split <;> rfl
  have hsemantics : (assetSemanticsGate request.venue_validation_context).gate =
      .ASSET_SEMANTICS := by
    rw [assetSemanticsGate]
    split <;> rfl
  simp only [commonGates, List.map_cons, List.map_nil, hvenue, hfreshness, hprovenance, hsemantics]
  rfl

/-- Gates that can all be passed make a ready proof. -/
theorem proof_of_passable {fields : ProofFields} (hready : fields.ready = true)
    (hreason : fields.reason = .READY) (hgates : fields.gates ≠ [])
    (hnames : (fields.gates.map (·.gate)).Nodup) (h : ∀ evidence ∈ fields.gates, Passable evidence) :
    ∃ proof, ExecutionReadinessProof.of fields = .ok proof := by
  have hperm := List.perm_insertionSort
    (fun a b : ExecutionReadinessGateEvidence => a.gate.index ≤ b.gate.index) fields.gates
  have hvalid : checkAll fields.sorted.validateProof = .ok () := by
    rw [ProofFields.validateProof, checkAll_append, checkAll_flatMap]
    refine ⟨?_, fun evidence hevidence => ?_⟩
    · simp only [checkAll_require, checkAll_nil, and_true]
      refine ⟨fun _ => hreason, fun _ => hready, fun _ => ?_, ?_⟩
      · intro hnone
        have hlength := hperm.length_eq
        rw [show fields.gates.insertionSort _ = [] from hnone] at hlength
        exact hgates (List.length_eq_zero_iff.mp hlength.symm)
      · exact (hperm.map _).nodup_iff.mpr hnames
    · obtain ⟨hnot, hrequired⟩ := h evidence (hperm.mem_iff.mp hevidence)
      rw [checkAll_require, checkAll_require]
      exact ⟨fun _ => hnot, fun _ => hrequired, rfl⟩
  exact ⟨⟨fields.sorted, hvalid⟩, ExecutionReadinessProof.of_eq_ok.mpr rfl⟩

theorem replaceProof_of_passable {intent : ReplaceOrderIntent}
    {permission : OrderIntentPermissionDecision}
    {gate_decision : Option ExecutionCapabilityDecision}
    (h : ∀ evidence ∈ commonGates request permission gate_decision, Passable evidence)
    (event_ids : List OrderLifecycleEventId) :
    ∃ proof, buildReplaceExecutionReadinessProof digests request intent permission gate_decision
      event_ids = .ok proof := by
  apply proof_of_passable rfl rfl
  · simp [commonGates]
  · rw [List.map_append, commonGates_names]
    change List.Nodup [ExecutionReadinessGate.RUNTIME_PERMISSION, .VENUE_CAPABILITY,
      .CAPABILITY_FRESHNESS, .SOURCE_PROVENANCE, .ASSET_SEMANTICS, .ORDER_SCOPE, .REPLACE_TARGET,
      .IDEMPOTENCY]
    decide
  · intro evidence hevidence
    rcases List.mem_append.mp hevidence with hevidence | hevidence
    · exact h evidence hevidence
    · simp only [List.mem_cons, List.not_mem_nil, or_false] at hevidence
      rcases hevidence with rfl | rfl | rfl <;> exact passable_decided

/-- The quantity of the order fits the decimal context, as the check of a new record needs. -/
def QuantityFits (order_intent : OrderIntent) : Prop :=
  ∀ quantity ∈ order_intent.quantity, DecimalNumbers.Decimal.Fits quantity.1.value

/-- The record of a new order passes its checks if its quantity fits. -/
theorem newRecord_valid {order_intent : OrderIntent} (h : QuantityFits order_intent)
    (event_id : OrderLifecycleEventId) (created_at : DateTimes.DateTime)
    (proof_id : ExecutionReadinessProofId) :
    (newRecord digests order_intent .ACCEPTED_BY_EXECUTION event_id created_at proof_id).validate
      (digests.clientOrderId order_intent) = .ok () := by
  refine validate_record_iff.mpr ⟨?_, ?_, ?_⟩
  · simp only [ExecutionOrderRecord.checksBeforeSum, checkAll_require, checkAll_nil, and_true]
    refine ⟨le_refl created_at, rfl, fun quantity hquantity => ?_, fun remaining hremaining => ?_⟩
    · rw [← Bool.not_eq_true, DecimalNumbers.Decimal.lt_iff, not_lt]
      have hzero : (newRecord digests order_intent .ACCEPTED_BY_EXECUTION event_id created_at
          proof_id).cumulative_filled_quantity.value = 0 :=
        (DecimalNumbers.Decimal.value_zero_iff _).mpr rfl
      rw [hzero]
      exact le_of_lt ((DecimalNumbers.Decimal.positive_iff _).mp quantity.2)
    · obtain ⟨quantity, -, rfl⟩ := Option.mem_map.mp hremaining
      rw [← Bool.not_eq_true, DecimalNumbers.Decimal.negative_iff, not_lt]
      exact le_of_lt ((DecimalNumbers.Decimal.positive_iff _).mp quantity.2)
  · simp only [ExecutionOrderRecord.validateSum, newRecord]
    cases hquantity : order_intent.quantity with
    | none => rfl
    | some quantity =>
      -- nothing is filled, so the sum is the quantity itself
      have hzero : (⟨false, 0, 0⟩ : DecimalNumbers.Decimal).value = 0 :=
        (DecimalNumbers.Decimal.value_zero_iff _).mpr rfl
      obtain ⟨sum, hsum, hvalue⟩ := (DecimalNumbers.Decimal.add_exact_iff ⟨false, 0, 0⟩
        quantity.1).mpr (by rw [hzero, zero_add]; exact h quantity hquantity)
      rw [hzero, zero_add] at hvalue
      simp only [Option.map_some, hsum]
      exact if_pos ((DecimalNumbers.Decimal.same_iff _ _).mpr hvalue)
  · simp only [ExecutionOrderRecord.checksAfterSum, checkAll_require, checkAll_nil, and_true]
    exact ⟨fun _ h => absurd h (by simp [newRecord]), rfl, fun _ h => absurd h (by simp [newRecord])⟩

/-- The values that an accepted replace makes on its way. -/
structure ReplaceValues (digests : Digests) (request : ExecutionAdmissionRequest)
    (intent : ReplaceOrderIntent) (target : ExecutionOrderRecord)
    (gate_decision : Option ExecutionCapabilityDecision) where
  target_event : OrderLifecycleEvent
  replacement_event : OrderLifecycleEvent
  proof : ExecutionReadinessProof
  target_requested : target_event.toLifecycleEventFields =
    replaceRequestedEvent digests request intent target
  replacement_accepted : replacement_event.toLifecycleEventFields =
    replacementAcceptedEvent digests request intent
  built : buildReplaceExecutionReadinessProof digests request intent
    (replacePermission request intent target) gate_decision
    [digests.eventId target_event, digests.eventId replacement_event] = .ok proof

section Values

variable {intent : ReplaceOrderIntent} {target : ExecutionOrderRecord}
  {gate_decision : Option ExecutionCapabilityDecision}
  (v : ReplaceValues digests request intent target gate_decision)

def ReplaceValues.record : ExecutionOrderRecord :=
  newRecord digests intent.replacement_order .ACCEPTED_BY_EXECUTION
    (digests.eventId v.replacement_event) request.requested_at (digests.proofId v.proof)

def ReplaceValues.decision : DecisionFields :=
  acceptedDecision digests (replaceDecision digests request intent true .ACCEPTED) v.record
    gate_decision v.proof [digests.eventId v.target_event, digests.eventId v.replacement_event]

/-- The replacement is new to the stores, which hold no other value under an id of the replace. -/
structure ReplaceValues.FreeIn (s : AdmissionStores digests) : Prop where
  orders : Free digests.sameIntent s.orders intent.replacement_order
  target_event : EventFree s v.target_event
  replacement_event : EventFree s v.replacement_event
  events : digests.eventId v.target_event ≠ digests.eventId v.replacement_event
  proof : s.proofs.proofs_by_id.get? (digests.proofId v.proof) = none
  unproven : s.proofs.proof_id_by_client_id.get?
    (digests.clientOrderId intent.replacement_order) = none
  record : s.records.get? v.record.record_id = none
  client : s.records.getByClientOrderId v.record.client_order_id = none
  decision : ∀ d : ExecutionAdmissionDecision, d.toDecisionFields = v.decision →
    ¬ DecisionTaken s d

/-- A proof that is new, and whose client order id is not bound, is taken. -/
theorem proofs_put_of_new {proofs : InMemoryExecutionReadinessProofStore digests}
    {proof : ExecutionReadinessProof}
    (hnew : proofs.proofs_by_id.get? (digests.proofId proof) = none)
    (hunbound : proofs.proof_id_by_client_id.get?
      (InMemoryExecutionReadinessProofStore.boundClientId proof) = none) :
    ∃ proofs', proofs.put proof = .ok proofs' := by
  rw [InMemoryExecutionReadinessProofStore.put, hnew]
  dsimp only
  rw [hunbound]
  exact ⟨_, if_neg (by simp)⟩

/-- A record with a new id and a new client order id is taken. -/
theorem upsert_of_new {records : InMemoryExecutionOrderRecordStore}
    {record : ExecutionOrderRecord} (hrecord : records.get? record.record_id = none)
    (hclient : records.getByClientOrderId record.client_order_id = none) :
    ∃ records', records.upsert record = .ok records' := by
  refine ⟨_, upsert_eq_ok.mpr ⟨⟨?_, ?_⟩, rfl⟩⟩
  · intro existing hexisting
    rw [hrecord] at hexisting
    cases hexisting
  · intro record_id hid
    obtain ⟨existing, hexisting, -⟩ := (records.bound _ _).mp hid
    rw [getByClientOrderId, Option.mem_def.mp hid, Option.bind_some] at hclient
    rw [show records.get? record_id = some existing from hexisting] at hclient
    cases hclient

theorem replacement_created_allowed : (replacementAcceptedEvent digests request intent).next_state ∈
    allowedTransitions .CREATED := by
  change OrderLifecycleState.ACCEPTED_BY_EXECUTION ∈ allowedTransitions .CREATED
  decide

/-- The replacement has its record. -/
def Replaces (request : ExecutionAdmissionRequest) (s : AdmissionStores digests)
    (replacement : OrderIntent) : Prop :=
  ∃ record, (admitRequest request s).1.records.get?
      (digests.deterministicExecutionOrderRecordId replacement) = some record ∧
    record.order_intent = replacement ∧ record.lifecycle_state = .ACCEPTED_BY_EXECUTION

theorem replace_accepted (hintent : request.intent = .replace intent)
    (hallowed : ReplaceAllowed request intent s target)
    (htransition : .REPLACE_REQUESTED ∈ allowedTransitions target.lifecycle_state)
    (hchecks : replaceChecks request intent s target = .ok (.inr gate_decision))
    (hgates : ∀ evidence ∈ commonGates request (replacePermission request intent target)
      gate_decision, Passable evidence)
    (hfits : QuantityFits intent.replacement_order)
    (hjournal : Free digests.sameReplace s.replaces intent)
    (hfree : ∀ v : ReplaceValues digests request intent target gate_decision, v.FreeIn s) :
    MovesTo request s target .REPLACE_REQUESTED ∧ Replaces request s intent.replacement_order := by
  obtain ⟨target_event, htarget_event⟩ := @event_of_allowed
    (replaceRequestedEvent digests request intent target) _ rfl htransition
  obtain ⟨event, hevent⟩ := @event_of_allowed (replacementAcceptedEvent digests request intent)
    .CREATED rfl replacement_created_allowed
  obtain ⟨proof, hproof⟩ := @replaceProof_of_passable digests request intent _ gate_decision hgates
    [digests.eventId target_event, digests.eventId event]
  let v : ReplaceValues digests request intent target gate_decision :=
    ⟨target_event, event, proof, htarget_event, hevent, hproof⟩
  have hv := hfree v
  have hstored := resolveTarget_stored hallowed.resolved
  -- every write goes through
  obtain ⟨replaces, hreplaces⟩ := putIdempotent_of_free "replace intent" hjournal
  obtain ⟨orders, horders⟩ := putIdempotent_of_free "order intent" hv.orders
  obtain ⟨target_events, htarget_events⟩ :=
    putIdempotent_of_free "order lifecycle event" hv.target_event
  have hevent_free : Free (fun a b => Decidable.decide (a = b)) target_events event := by
    intro existing hexisting
    rcases putIdempotent_eq_ok.mp htarget_events with ⟨-, rfl⟩ | ⟨_, -, -, rfl⟩
    · rw [KeyedDict.get?_put_ne _ hv.events] at hexisting
      exact hv.replacement_event existing hexisting
    · exact hv.replacement_event existing hexisting
  obtain ⟨events, hevents⟩ := putIdempotent_of_free "order lifecycle event" hevent_free
  have hbound : InMemoryExecutionReadinessProofStore.boundClientId proof =
      digests.clientOrderId intent.replacement_order := by
    rw [InMemoryExecutionReadinessProofStore.boundClientId,
      ExecutionReadinessProof.of_eq_ok.mp hproof]
    rfl
  obtain ⟨proofs, hproofs⟩ := proofs_put_of_new hv.proof (by rw [hbound]; exact hv.unproven)
  obtain ⟨target_records, htarget_records⟩ := upsert_copy hstored .REPLACE_REQUESTED
    (digests.eventId target_event) request.requested_at
  have htarget_id : target.record_id ≠ v.record.record_id := by
    intro heq
    have hnone := hv.record
    rw [← heq, hstored] at hnone
    cases hnone
  have hnew : target_records.get? v.record.record_id = none := by
    rw [get?_upsert htarget_records]
    exact (if_neg htarget_id).trans hv.record
  have hnew_client : target_records.getByClientOrderId v.record.client_order_id = none := by
    rw [getByClientOrderId_upsert htarget_records]
    refine (if_neg fun heq => ?_).trans hv.client
    have hnone := hv.client
    rw [← heq] at hnone
    change s.records.getByClientOrderId target.client_order_id = none at hnone
    rw [resolveTarget_client hallowed.resolved] at hnone
    cases hnone
  obtain ⟨records, hrecords⟩ := upsert_of_new hnew hnew_client
  let w : ReplaceWrites request intent (replacePermission request intent target) target
      gate_decision s :=
    ⟨⟨target_event, event, proof, replaces, orders, target_events, events, proofs, target_records,
      hreplaces, htarget_event, htarget_events, horders, hevent, hevents, hproof, hproofs,
      htarget_records⟩, records, newRecord_valid hfits _ _ _, hrecords⟩
  obtain ⟨d, hd⟩ := @decision_of_accepted w.decision rfl rfl
  have hpath : admitIntent request s = (w.stores, .ok d) :=
    (replace_path_allowed hintent hallowed hchecks).trans (acceptReplace_eq_ok.mpr ⟨w, rfl, hd⟩)
  have hdecision : ¬ DecisionTaken w.stores d := hv.decision d hd
  obtain ⟨decisions, hadmitted⟩ := admit_of_path hpath hdecision
  refine ⟨⟨⟨d, by rw [hadmitted], by rw [hd]; rfl⟩, ⟨digests.eventId target_event, ?_⟩,
    htransition⟩, w.record, ?_, rfl, rfl⟩
  · rw [hadmitted]
    change w.records.get? target.record_id = _
    rw [w.get?]
    exact (if_neg (Ne.symm htarget_id)).trans (if_pos rfl)
  · rw [hadmitted]
    change w.records.get? _ = _
    rw [w.get?]
    exact if_pos rfl

/-- A replace that the permission allows of an active order, with a replacement that passes the
checks of a new order, is accepted and moves the record, unless the order is on its way to the
venue: then the replace is journaled, and the admission raises. -/
theorem replace_of_active (hintent : request.intent = .replace intent)
    (hallowed : ReplaceAllowed request intent s target)
    (hchecks : replaceChecks request intent s target = .ok (.inr gate_decision))
    (hgates : ∀ evidence ∈ commonGates request (replacePermission request intent target)
      gate_decision, Passable evidence)
    (hfits : QuantityFits intent.replacement_order)
    (hjournal : Free digests.sameReplace s.replaces intent)
    (hfree : ∀ v : ReplaceValues digests request intent target gate_decision, v.FreeIn s) :
    (target.lifecycle_state ∉ submittedStates → MovesTo request s target .REPLACE_REQUESTED ∧
      Replaces request s intent.replacement_order) ∧
      (target.lifecycle_state ∈ submittedStates → ∃ replaces,
        (replaces.get? (digests.replaceIntentId intent)).isSome = true ∧
        admitRequest request s = ({ s with replaces },
          .error (invalidTransition target.lifecycle_state .REPLACE_REQUESTED))) := by
  have htransition := @requested_allowed_iff _ hallowed.active .REPLACE_REQUESTED (by decide)
  constructor
  · intro hstate
    exact replace_accepted hintent hallowed (htransition.mpr hstate) hchecks hgates hfits hjournal
      hfree
  · intro hstate
    obtain ⟨replaces, hreplaces⟩ := putIdempotent_of_free "replace intent" hjournal
    have hrefused := @appendLifecycleEvent_refused digests { s with replaces }
      (replaceRequestedEvent digests request intent target) _ rfl (active_open hallowed.active)
      (fun h => htransition.mp h hstate)
    refine ⟨replaces, ?_, admit_of_error ?_⟩
    · rcases putIdempotent_eq_ok.mp hreplaces with ⟨-, rfl⟩ | ⟨existing, hget, -, rfl⟩
      · rw [KeyedDict.get?_put_self]
        rfl
      · rw [hget]
        rfl
    · rw [replace_path_allowed hintent hallowed hchecks, acceptReplace]
      have hwritten : appendReplaceIntent intent s = ({ s with replaces }, .ok ()) :=
        appendReplaceIntent_eq_ok.mpr ⟨replaces, hreplaces, rfl⟩
      rw [bind_apply, hwritten]
      dsimp only
      rw [bind_apply, hrefused]
      rfl

end Values

/-! A cancel of a partly filled order, and its replacement by an order of twice the quantity. -/

theorem free_empty {κ ν : Type} [DecidableEq κ] {key : ν → κ} (same : ν → ν → Bool) (value : ν) :
    Free same (KeyedDict.empty : KeyedDict key) value :=
  fun _ h => absurd h (by simp)

theorem buy_targeted : (none : Option OrderIntentId).isSome ∨ (some buyClientId).isSome ∨
    (none : Option VenueOrderId).isSome :=
  .inr (.inl rfl)

def buyCancel : CancelOrderIntent where
  target_order_intent_id := none
  target_client_order_id := some buyClientId
  target_venue_order_id := none
  venue_id := ⟨"BINANCE", .checked evaluates⟩
  instrument_id := ⟨"BTC/USDT", .checked evaluates⟩
  account_id := none
  cancel_scope := .SINGLE_ORDER
  cancel_reason := ⟨"operator", by decide⟩
  created_at := sampleTime
  has_target _ := buy_targeted

theorem half_filled_canceled :
    MovesTo (plainRequest (.cancel buyCancel)) halfFilledStores halfFilled .CANCEL_REQUESTED := by
  have hallowed : CancelAllowed (plainRequest (.cancel buyCancel)) buyCancel halfFilledStores
      halfFilled := ⟨by decide, by decide, by decide⟩
  refine (cancel_of_active rfl hallowed ⟨free_empty _ _, fun _ _ => free_empty _ _, ?_⟩).1
    (by decide)
  rintro event d - - ⟨decisions, hdecisions, -⟩
  cases hdecisions

/-- Digests that tell orders apart by their quantity. -/
def quantityDigests : Digests :=
  { sampleDigests with
    order_intent := fun o => repeatHex (if o.quantity.map (·.1.coeff) = some 1 then 1 else 2) }

theorem halfFilled_accepted : InMemoryExecutionOrderRecordStore.empty.Accepts halfFilled := by
  decide

def quantityStores : AdmissionStores quantityDigests :=
  { AdmissionStores.empty quantityDigests false with
    records := InMemoryExecutionOrderRecordStore.set halfFilled_accepted }

def doubledEntry : OrderIntent :=
  { marketEntry .BUY with
    quantity := some ⟨⟨false, 2, 0⟩, by decide⟩
    valid := by decide }

def doublingReplace : ReplaceOrderIntent where
  target_order_intent_id := none
  target_client_order_id := some buyClientId
  target_venue_order_id := none
  target_intent_kind := .ENTRY
  replacement_order := doubledEntry
  replace_reason := ⟨"operator", by decide⟩
  created_at := sampleTime
  has_target := buy_targeted
  same_class := by decide

instance (evidence : ExecutionReadinessGateEvidence) : Decidable (Passable evidence) :=
  inferInstanceAs (Decidable (_ ∧ _))

theorem half_filled_replaced :
    MovesTo (plainRequest (.replace doublingReplace)) quantityStores halfFilled
        .REPLACE_REQUESTED ∧
      Replaces (plainRequest (.replace doublingReplace)) quantityStores doubledEntry := by
  have hallowed : ReplaceAllowed (plainRequest (.replace doublingReplace)) doublingReplace
      quantityStores halfFilled := ⟨by decide, by decide, by decide⟩
  have hchecks : replaceChecks (plainRequest (.replace doublingReplace)) doublingReplace
      quantityStores halfFilled = .ok (.inr none) := rfl
  have hfits : QuantityFits doubledEntry := by
    rintro quantity ⟨⟩
    exact DecimalNumbers.Decimal.fits_of_fix (d := ⟨false, 2, 0⟩) rfl
  refine (replace_of_active rfl hallowed hchecks (by decide) hfits (free_empty _ _)
    fun v => ?_).1 (by decide)
  have htarget := v.target_requested
  have hreplacement := v.replacement_accepted
  have hrecord : quantityStores.records.get?
      (quantityDigests.deterministicExecutionOrderRecordId doubledEntry) = none := by decide
  have hclient : quantityStores.records.getByClientOrderId
      (quantityDigests.clientOrderId doubledEntry) = none := by decide
  refine ⟨free_empty _ _, free_empty _ _, free_empty _ _, ?_, rfl, rfl, hrecord, hclient, ?_⟩
  · rw [Digests.eventId, Digests.eventId, htarget, hreplacement]
    decide
  · rintro d - ⟨decisions, hdecisions, -⟩
    cases hdecisions

end FuturesBot.Execution
