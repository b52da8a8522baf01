import FuturesBot.AdmissionWrites

/-! How an admission can end: it is not accepted and leaves the records, it fails, or it makes
the writes of an accepted order, cancel or replace. -/
namespace FuturesBot.Execution

open JsonText (Json)
open Dicts StoreActions StoreActions.Action Orders Venues Checks

variable {digests : Digests} {s t u : AdmissionStores digests}

/-! What the writes before those of the records leave as it is. -/

/-- The records are the same, and the proofs that were stored are stored. -/
structure RecordsKept (s t : AdmissionStores digests) : Prop where
  records : t.records = s.records
  proofs : ∀ proof_id proof, s.proofs.proofs_by_id.get? proof_id = some proof →
    t.proofs.proofs_by_id.get? proof_id = some proof

theorem recordsKept_frame : IsFrame (@RecordsKept digests) where
  refl _ := ⟨rfl, fun _ _ h => h⟩
  trans h h' := ⟨h'.records.trans h.records, fun i p hp => h'.proofs i p (h.proofs i p hp)⟩

/-- The stores differ only in events that name no record, and in markers. -/
structure Audited (s t : AdmissionStores digests) : Prop where
  orders : t.orders = s.orders
  cancels : t.cancels = s.cancels
  replaces : t.replaces = s.replaces
  records : t.records = s.records
  proofs : t.proofs = s.proofs
  decisions : t.decisions = s.decisions
  events : ∃ more, t.events.values = s.events.values ++ more ∧ ∀ e ∈ more, e.record_id = none

theorem audited_frame : IsFrame (@Audited digests) where
  refl _ := ⟨rfl, rfl, rfl, rfl, rfl, rfl, [], by simp, by simp⟩
  trans := by
    rintro s t u h h'
    obtain ⟨more, hmore, hnone⟩ := h.events
    obtain ⟨more', hmore', hnone'⟩ := h'.events
    refine ⟨h'.orders.trans h.orders, h'.cancels.trans h.cancels, h'.replaces.trans h.replaces,
      h'.records.trans h.records, h'.proofs.trans h.proofs, h'.decisions.trans h.decisions,
      more ++ more', ?_, ?_⟩
    · rw [hmore', hmore, List.append_assoc]
    · intro e he
      rcases List.mem_append.mp he with he | he
      · exact hnone e he
      · exact hnone' e he

theorem Audited.kept (h : Audited s t) : RecordsKept s t :=
  ⟨h.records, fun _ _ hp => h.proofs ▸ hp⟩

theorem putEvent_values {events events' : KeyedDict digests.eventId} {event : OrderLifecycleEvent}
    (h : putEvent events event = .ok events') :
    (events' = events ∧ event ∈ events.values) ∨
      (event ∉ events.values ∧ events'.values = events.values ++ [event]) := by
  rcases putIdempotent_eq_ok.mp h with ⟨hnew, rfl⟩ | ⟨existing, hget, hsame, rfl⟩
  · refine .inr ⟨fun hmem => ?_, KeyedDict.put_of_new hnew⟩
    rw [KeyedDict.mem_values.mp hmem] at hnew
    exact absurd hnew (by simp)
  · obtain rfl := of_decide_eq_true hsame
    exact .inl ⟨rfl, KeyedDict.mem_values_of_get? hget⟩

theorem put_proofs {store store' : InMemoryExecutionReadinessProofStore digests}
    {proof : ExecutionReadinessProof} (h : store.put proof = .ok store') :
    store'.proofs_by_id.get? (digests.proofId proof) = some proof ∧
      ∀ proof_id stored, store.proofs_by_id.get? proof_id = some stored →
        store'.proofs_by_id.get? proof_id = some stored := by
  rw [InMemoryExecutionReadinessProofStore.put] at h
  split at h
  · rename_i existing hget
    split at h
    · exact absurd h (by simp)
    · rename_i hsame
      rw [← Except.ok.inj h, ← not_not.mp hsame]
      exact ⟨not_not.mp hsame ▸ hget, fun _ _ hstored => hstored⟩
  · rename_i hnone
    split at h
    · exact absurd h (by simp)
    · rw [← Except.ok.inj h]
      refine ⟨KeyedDict.get?_put_self _ _, fun proof_id stored hstored => ?_⟩
      -- the id of the new proof was free
      have hne : digests.proofId proof ≠ proof_id := by
        rintro rfl
        rw [hnone] at hstored
        exact absurd hstored (by simp)
      rw [KeyedDict.get?_put_ne _ hne]
      exact hstored

theorem appendOrderIntent_keeps (intent : OrderIntent) :
    Keeps RecordsKept (@appendOrderIntent digests intent) :=
  keeps_writing_part recordsKept_frame fun _ _ _ => ⟨rfl, fun _ _ hp => hp⟩

theorem appendCancelIntent_keeps (intent : CancelOrderIntent) :
    Keeps RecordsKept (@appendCancelIntent digests intent) :=
  keeps_writing_part recordsKept_frame fun _ _ _ => ⟨rfl, fun _ _ hp => hp⟩

theorem appendReplaceIntent_keeps (intent : ReplaceOrderIntent) :
    Keeps RecordsKept (@appendReplaceIntent digests intent) :=
  keeps_writing_part recordsKept_frame fun _ _ _ => ⟨rfl, fun _ _ hp => hp⟩

theorem putProof_keeps (proof : ExecutionReadinessProof) :
    Keeps RecordsKept (@putProof digests proof) :=
  keeps_writing_part recordsKept_frame fun _ _ hput => ⟨rfl, (put_proofs hput).2⟩

theorem appendLifecycleEvent_keeps (fields : LifecycleEventFields) :
    Keeps RecordsKept (@appendLifecycleEvent digests fields) := by
  apply Keeps.bind recordsKept_frame (keeps_reading recordsKept_frame _)
  intro event
  apply Keeps.bind recordsKept_frame
  · exact keeps_writing_part recordsKept_frame fun _ _ _ => ⟨rfl, fun _ _ hp => hp⟩
  · exact fun _ => keeps_pure recordsKept_frame event

theorem appendLifecycleEvent_audited {fields : LifecycleEventFields}
    (hnone : fields.record_id = none) :
    Keeps Audited (@appendLifecycleEvent digests fields) := by
  intro s
  rcases hs : appendLifecycleEvent fields s with ⟨t, e | event⟩
  · -- only the last write can fail, and then nothing is written
    have herror : KeepsOnError (fun s t => t = s) (@appendLifecycleEvent digests
        fields) := by
      have heq : IsFrame fun s t : AdmissionStores digests => t = s := isFrame_eq id
      apply KeepsOnError.bind heq (keeps_reading heq _)
      intro event
      apply KeepsOnError.bind_total (keepsOnError_writing heq _)
      intro _ u v e h
      exact absurd (congrArg Prod.snd h) (by simp [pure])
    rw [show (t, Except.error e).1 = s from herror s t e hs]
    exact audited_frame.refl s
  · obtain ⟨hfields, events, hput, rfl⟩ := appendLifecycleEvent_eq_ok.mp hs
    refine ⟨rfl, rfl, rfl, rfl, rfl, rfl, ?_⟩
    rcases putEvent_values hput with ⟨rfl, -⟩ | ⟨-, hvalues⟩
    · exact ⟨[], by simp, by simp⟩
    · refine ⟨[event], hvalues, fun e he => ?_⟩
      rw [List.mem_singleton.mp he, hfields]
      exact hnone

theorem markReconciliation_audited (request : ExecutionAdmissionRequest)
    (scope_id : Option TrimmedText) (base : DecisionFields) :
    Keeps Audited (@markReconciliation digests request scope_id base) := by
  apply Keeps.bind audited_frame
  · apply keeps_writing_part audited_frame
    intro s _ _
    exact ⟨rfl, rfl, rfl, rfl, rfl, rfl, [], by simp, by simp⟩
  · exact fun _ => keeps_reading audited_frame _

theorem reject_audited (request : ExecutionAdmissionRequest)
    (earlier : List OrderLifecycleEventId) (rejection : Rejection) :
    Keeps Audited (@reject digests request earlier rejection) := by
  obtain ⟨_ | e, d⟩ := rejection
  · exact keeps_reading audited_frame _
  · apply Keeps.bind audited_frame (appendLifecycleEvent_audited rfl)
    exact fun _ => keeps_reading audited_frame _

/-- A rejection is returned for the reason it gives. -/
theorem reject_reason {request : ExecutionAdmissionRequest} {earlier : List OrderLifecycleEventId}
    {rejection : Rejection} {d : ExecutionAdmissionDecision}
    (h : reject request earlier rejection s = (t, .ok d)) :
    d.reason = rejection.decision.reason := by
  obtain ⟨_ | e, fields⟩ := rejection
  · rw [(decision_eq_ok.mp h).2]
  · obtain ⟨u, event, -, h⟩ := bind_eq_ok.mp h
    rw [(decision_eq_ok.mp h).2]

theorem markReconciliation_reason {request : ExecutionAdmissionRequest}
    {scope_id : Option TrimmedText} {base : DecisionFields} {d : ExecutionAdmissionDecision}
    (h : markReconciliation request scope_id base s = (t, .ok d)) : d.reason = base.reason := by
  obtain ⟨u, _, -, h⟩ := bind_eq_ok.mp h
  rw [(decision_eq_ok.mp h).2]

/-! What an order or a replacement has passed when it is accepted. -/

/-- The order has passed the gate of the venue, if the request requires it. -/
structure CapabilityPassed (digests : Digests) (request : ExecutionAdmissionRequest)
    (order_intent : OrderIntent) (gate_decision : Option ExecutionCapabilityDecision) : Prop where
  notRequired : request.require_venue_capability_validation = false → gate_decision = none
  required : request.require_venue_capability_validation = true →
    ∃ context decision, ∃ check : ExecutionCapabilityCheck digests,
      request.venue_validation_context = some context ∧
      check.toCapabilityCheckFields = capabilityCheck request order_intent context ∧
      gate_decision = some decision ∧ decision.executable = true ∧ Executable check decision

theorem capabilityVerdict_executable {request : ExecutionAdmissionRequest}
    {order_intent : OrderIntent} {decision : ExecutionCapabilityDecision}
    (h : capabilityVerdict digests request order_intent = .ok (.executable decision)) :
    CapabilityPassed digests request order_intent (some decision) := by
  rw [capabilityVerdict] at h
  split at h
  · exact absurd h (by simp)
  · rename_i hrequired
    refine ⟨fun hfalse => absurd hfalse (by simpa using hrequired), fun _ => ?_⟩
    split at h
    · exact absurd h (by simp)
    · rename_i context hcontext
      split at h
      · exact absurd h (by simp)
      split at h
      · exact absurd h (by simp)
      split at h
      · exact absurd h (by simp)
      split at h
      · exact absurd h (by simp)
      rename_i check hcheck
      split at h
      · exact absurd h (by simp)
      rename_i made hmade
      split at h
      · rename_i hexecutable
        obtain rfl : made = decision := CapabilityVerdict.executable.inj (Except.ok.inj h)
        exact ⟨context, made, check, hcontext, ExecutionCapabilityCheck.of_eq_ok hcheck, rfl,
          hexecutable, check_executable hmade hexecutable⟩
      · exact absurd h (by simp)

theorem capabilityVerdict_notRequired {request : ExecutionAdmissionRequest}
    {order_intent : OrderIntent}
    (h : capabilityVerdict digests request order_intent = .ok .notRequired) :
    CapabilityPassed digests request order_intent none := by
  rw [capabilityVerdict] at h
  split at h
  · rename_i hrequired
    refine ⟨fun _ => rfl, fun htrue => absurd htrue (by simpa using hrequired)⟩
  · -- every other verdict is another one
    exfalso
    revert h
    split
    · simp
    · repeat' split
      all_goals simp

theorem verdictOutcome_passed {event_intent order_intent : OrderIntent} {subject : String × Json}
    {base : ExecutionAdmissionDecisionReason → DecisionFields}
    {request : ExecutionAdmissionRequest} {gate_decision : Option ExecutionCapabilityDecision}
    (h : (capabilityVerdict digests request order_intent).map
      (verdictOutcome digests event_intent order_intent subject base) = .ok (.inr gate_decision)) :
    CapabilityPassed digests request order_intent gate_decision := by
  cases hverdict : capabilityVerdict digests request order_intent with
  | error e =>
    rw [hverdict] at h
    exact absurd h (by simp [Except.map])
  | ok verdict =>
    rw [hverdict] at h
    cases verdict with
    | notRequired =>
      rw [← Sum.inr.inj (Except.ok.inj h)]
      exact capabilityVerdict_notRequired hverdict
    | executable decision =>
      rw [← Sum.inr.inj (Except.ok.inj h)]
      exact capabilityVerdict_executable hverdict
    | _ => exact absurd (Except.ok.inj h) (by simp [verdictOutcome])

theorem verdictOutcome_rejection {event_intent order_intent : OrderIntent}
    {subject : String × Json} {base : ExecutionAdmissionDecisionReason → DecisionFields}
    (hbase : ∀ reason, (base reason).reason = reason) {verdict : CapabilityVerdict}
    {rejection : Rejection}
    (h : verdictOutcome digests event_intent order_intent subject base verdict = .inl rejection) :
    rejection.decision.reason ≠ .ACCEPTED := by
  cases verdict with
  | notRequired => exact absurd h (by simp [verdictOutcome])
  | executable decision => exact absurd h (by simp [verdictOutcome])
  | refused decision =>
    rw [← Sum.inl.inj h]
    change (base (admissionReasonForGate decision)).reason ≠ _
    rw [hbase, admissionReasonForGate]
    split <;> simp
  | _ =>
    rw [← Sum.inl.inj h]
    simp [hbase]

/-- What an order has passed when it is accepted. -/
structure OrderPassed (digests : Digests) (request : ExecutionAdmissionRequest)
    (order_intent : OrderIntent) (gate_decision : Option ExecutionCapabilityDecision) : Prop where
  allowed : (evaluateOrderIntentPermission order_intent request.order_flow_permission).allowed = true
  provenance : sourceProvenanceFailed request = false
  capability : CapabilityPassed digests request order_intent gate_decision

theorem orderChecks_passed {request : ExecutionAdmissionRequest} {order_intent : OrderIntent}
    {gate_decision : Option ExecutionCapabilityDecision}
    (h : orderChecks digests request order_intent = .ok (.inr gate_decision)) :
    OrderPassed digests request order_intent gate_decision := by
  rw [orderChecks] at h
  split at h
  · exact absurd h (by simp)
  rename_i hallowed
  split at h
  · exact absurd h (by simp)
  rename_i hprovenance
  exact ⟨by simpa using hallowed, by simpa using hprovenance, verdictOutcome_passed h⟩

theorem orderChecks_rejection {request : ExecutionAdmissionRequest} {order_intent : OrderIntent}
    {rejection : Rejection} (h : orderChecks digests request order_intent = .ok (.inl rejection)) :
    rejection.decision.reason ≠ .ACCEPTED := by
  rw [orderChecks] at h
  split at h
  · rw [← Sum.inl.inj (Except.ok.inj h)]
    simp [orderDecision, blankDecision]
  split at h
  · rw [← Sum.inl.inj (Except.ok.inj h)]
    simp [orderDecision, blankDecision]
  cases hverdict : capabilityVerdict digests request order_intent with
  | error e =>
    rw [hverdict] at h
    exact absurd h (by simp [Except.map])
  | ok verdict =>
    rw [hverdict] at h
    exact verdictOutcome_rejection (fun _ => rfl) (Except.ok.inj h)

/-- What a replacement has passed when it is accepted, beside the permission of the replace. -/
structure ReplacePassed (request : ExecutionAdmissionRequest) (replace_intent : ReplaceOrderIntent)
    (s : AdmissionStores digests) (target : ExecutionOrderRecord)
    (gate_decision : Option ExecutionCapabilityDecision) : Prop where
  scope : replacementScopeMatchesTarget target replace_intent.replacement_order = true
  unused : ∀ existing, s.records.getByClientOrderId
      (digests.clientOrderId replace_intent.replacement_order) = some existing →
    digests.sameIntent existing.order_intent replace_intent.replacement_order = true
  provenance : sourceProvenanceFailed request = false
  capability : CapabilityPassed digests request replace_intent.replacement_order gate_decision

theorem replaceChecks_passed {request : ExecutionAdmissionRequest}
    {replace_intent : ReplaceOrderIntent} {target : ExecutionOrderRecord}
    {gate_decision : Option ExecutionCapabilityDecision}
    (h : replaceChecks request replace_intent s target = .ok (.inr gate_decision)) :
    ReplacePassed request replace_intent s target gate_decision := by
  rw [replaceChecks] at h
  split at h
  · exact absurd h (by simp)
  rename_i hscope
  split at h
  · exact absurd h (by simp)
  rename_i hunused
  split at h
  · exact absurd h (by simp)
  rename_i hprovenance
  refine ⟨by simpa using hscope, fun existing hexisting => ?_, by simpa using hprovenance,
    verdictOutcome_passed h⟩
  rw [hexisting] at hunused
  simpa using hunused

theorem replaceChecks_rejection {request : ExecutionAdmissionRequest}
    {replace_intent : ReplaceOrderIntent} {target : ExecutionOrderRecord} {rejection : Rejection}
    (h : replaceChecks request replace_intent s target = .ok (.inl rejection)) :
    rejection.decision.reason ≠ .ACCEPTED := by
  rw [replaceChecks] at h
  split at h
  · rw [← Sum.inl.inj (Except.ok.inj h)]
    simp [replaceTargetDecision, replaceDecision, blankDecision]
  split at h
  · rw [← Sum.inl.inj (Except.ok.inj h)]
    simp [replaceDecision, blankDecision]
  split at h
  · rw [← Sum.inl.inj (Except.ok.inj h)]
    simp [replaceDecision, blankDecision]
  cases hverdict : capabilityVerdict digests request replace_intent.replacement_order with
  | error e =>
    rw [hverdict] at h
    exact absurd h (by simp [Except.map])
  | ok verdict =>
    rw [hverdict] at h
    exact verdictOutcome_rejection (fun _ => rfl) (Except.ok.inj h)

/-! Errors on the way of an acceptance. -/

theorem acceptedDecision_ne_error {base : DecisionFields} {record : ExecutionOrderRecord}
    {gate_decision : Option ExecutionCapabilityDecision} {proof : ExecutionReadinessProof}
    {event_ids : List OrderLifecycleEventId} (hreason : base.reason = .ACCEPTED)
    (haccepted : base.accepted = true) (e : AdmissionError) :
    decision (acceptedDecision digests base record gate_decision proof event_ids) s ≠
      (t, .error e) := by
  apply decision_accepted_ne_error
  · exact hreason
  · exact haccepted

theorem acceptOrder_error (request : ExecutionAdmissionRequest) (order_intent : OrderIntent)
    (created : OrderLifecycleEvent) (gate_decision : Option ExecutionCapabilityDecision) :
    KeepsOnError RecordsKept
      (@acceptOrder digests request order_intent created gate_decision) := by
  rw [acceptOrder]
  apply KeepsOnError.bind recordsKept_frame (appendOrderIntent_keeps _)
  intro _
  apply KeepsOnError.bind recordsKept_frame (appendLifecycleEvent_keeps _)
  intro accepted
  apply KeepsOnError.bind recordsKept_frame (keeps_reading recordsKept_frame _)
  intro proof
  apply KeepsOnError.bind recordsKept_frame (putProof_keeps _)
  intro _
  -- the record is written by the last step that can fail
  apply KeepsOnError.bind_total
  · rw [upsertNewRecord]
    apply KeepsOnError.bind recordsKept_frame (keeps_reading recordsKept_frame _)
    exact fun _ => keepsOnError_writing recordsKept_frame _
  · exact fun _ u v e => acceptedDecision_ne_error rfl rfl e

theorem acceptCancel_error (request : ExecutionAdmissionRequest) (cancel_intent : CancelOrderIntent)
    (target : ExecutionOrderRecord) :
    KeepsOnError RecordsKept
      (@acceptCancel digests request cancel_intent target) := by
  rw [acceptCancel]
  apply KeepsOnError.bind recordsKept_frame (appendCancelIntent_keeps _)
  intro _
  apply KeepsOnError.bind recordsKept_frame (appendLifecycleEvent_keeps _)
  intro event
  apply KeepsOnError.bind_total (keepsOnError_writing recordsKept_frame _)
  exact fun _ u v e => decision_accepted_ne_error rfl rfl e

/-- A replace that fails has left the records, or has written that of its target. -/
theorem acceptReplace_error {request : ExecutionAdmissionRequest}
    {replace_intent : ReplaceOrderIntent} {permission : OrderIntentPermissionDecision}
    {target : ExecutionOrderRecord} {gate_decision : Option ExecutionCapabilityDecision}
    {e : AdmissionError}
    (h : acceptReplace request replace_intent permission target gate_decision s = (t, .error e)) :
    RecordsKept s t ∨
      ∃ w : ReplaceTargetWrites request replace_intent permission target gate_decision s,
        t = w.stores := by
  rw [acceptReplace] at h
  rcases bind_eq_error.mp h with h | ⟨_, _, hjournal, h⟩
  · exact .inl ((appendReplaceIntent_keeps _).of_eq h)
  obtain ⟨replaces, journaled, rfl⟩ := appendReplaceIntent_eq_ok.mp hjournal
  rcases bind_eq_error.mp h with h | ⟨_, target_event, htarget, h⟩
  · exact .inl ⟨((appendLifecycleEvent_keeps _).of_eq h).records,
      ((appendLifecycleEvent_keeps _).of_eq h).proofs⟩
  obtain ⟨target_requested, target_events, target_appended, rfl⟩ :=
    appendLifecycleEvent_eq_ok.mp htarget
  rcases bind_eq_error.mp h with h | ⟨_, _, horder, h⟩
  · exact .inl ⟨((appendOrderIntent_keeps _).of_eq h).records,
      ((appendOrderIntent_keeps _).of_eq h).proofs⟩
  obtain ⟨orders, replacement_journaled, rfl⟩ := appendOrderIntent_eq_ok.mp horder
  rcases bind_eq_error.mp h with h | ⟨_, replacement_event, hreplacement, h⟩
  · exact .inl ⟨((appendLifecycleEvent_keeps _).of_eq h).records,
      ((appendLifecycleEvent_keeps _).of_eq h).proofs⟩
  obtain ⟨replacement_accepted, events, replacement_appended, rfl⟩ :=
    appendLifecycleEvent_eq_ok.mp hreplacement
  rcases bind_eq_error.mp h with h | ⟨_, proof, hproof, h⟩
  · obtain ⟨rfl, -⟩ := reading_eq_error.mp h
    exact .inl ⟨rfl, fun _ _ hp => hp⟩
  obtain ⟨rfl, built⟩ := reading_eq_ok.mp hproof
  rcases bind_eq_error.mp h with h | ⟨_, _, hput, h⟩
  · exact .inl ⟨((putProof_keeps _).of_eq h).records, ((putProof_keeps _).of_eq h).proofs⟩
  obtain ⟨proofs, proven, rfl⟩ := putProof_eq_ok.mp hput
  rcases bind_eq_error.mp h with h | ⟨_, _, hcopy, h⟩
  · obtain ⟨rfl, -⟩ := writing_eq_error.mp h
    exact .inl ⟨rfl, (put_proofs proven).2⟩
  obtain ⟨target_records, target_recorded, rfl⟩ := upsertRecord_eq_ok.mp hcopy
  -- from here on the record of the target is written
  let w : ReplaceTargetWrites request replace_intent permission target gate_decision s :=
    ⟨target_event, replacement_event, proof, replaces, orders, target_events, events, proofs,
      target_records, journaled, target_requested, target_appended, replacement_journaled,
      replacement_accepted, replacement_appended, built, proven, target_recorded⟩
  refine .inr ⟨w, ?_⟩
  rcases bind_eq_error.mp h with h | ⟨_, _, -, h⟩
  · rw [upsertNewRecord] at h
    rcases bind_eq_error.mp h with h | ⟨_, _, hvalid, h⟩
    · exact (reading_eq_error.mp h).1.symm
    · obtain ⟨rfl, -⟩ := reading_eq_ok.mp hvalid
      exact (writing_eq_error.mp h).1.symm
  · exact absurd h (acceptedDecision_ne_error rfl rfl e)

/-! The outcome of a path. -/

/-- A cancel is let through to its target. -/
structure CancelAllowed (request : ExecutionAdmissionRequest) (cancel_intent : CancelOrderIntent)
    (s : AdmissionStores digests) (target : ExecutionOrderRecord) : Prop where
  resolved : resolveTarget s cancel_intent.target_client_order_id
    cancel_intent.target_order_intent_id = some target
  allowed : (evaluateCancelIntentPermission cancel_intent (isEntryRecord (some target))
    request.order_flow_permission).allowed = true
  active : target.lifecycle_state ∈ activeTargetStates

/-- A replace is let through to its target. -/
structure ReplaceAllowed (request : ExecutionAdmissionRequest) (replace_intent : ReplaceOrderIntent)
    (s : AdmissionStores digests) (target : ExecutionOrderRecord) : Prop where
  resolved : resolveTarget s replace_intent.target_client_order_id
    replace_intent.target_order_intent_id = some target
  allowed : (evaluateReplaceIntentPermission replace_intent (isEntryRecord (some target))
    request.order_flow_permission).allowed = true
  active : target.lifecycle_state ∈ activeTargetStates

/-- The permission of a replace of the target. -/
def replacePermission (request : ExecutionAdmissionRequest) (replace_intent : ReplaceOrderIntent)
    (target : ExecutionOrderRecord) : OrderIntentPermissionDecision :=
  evaluateReplaceIntentPermission replace_intent (isEntryRecord (some target))
    request.order_flow_permission

/-- How the path of a request can end, from the stores `s`, in the stores `t` with a result. -/
inductive Outcome (request : ExecutionAdmissionRequest) (s t : AdmissionStores digests) :
    Except AdmissionError ExecutionAdmissionDecision → Prop where
  | notAccepted {d : ExecutionAdmissionDecision} (hreason : d.reason ≠ .ACCEPTED)
      (haudited : Audited s t) : Outcome request s t (.ok d)
  | failed {e : AdmissionError} (hkept : RecordsKept s t) : Outcome request s t (.error e)
  | order {order_intent : OrderIntent} {created : OrderLifecycleEvent}
      {gate_decision : Option ExecutionCapabilityDecision} {u : AdmissionStores digests}
      {d : ExecutionAdmissionDecision} (hintent : request.intent = .order order_intent)
      (hnew : s.records.getByClientOrderId (digests.clientOrderId order_intent) = none)
      (hcreated : appendLifecycleEvent (createdEvent digests request order_intent) s =
        (u, .ok created))
      (hpassed : OrderPassed digests request order_intent gate_decision)
      (w : OrderWrites request order_intent created gate_decision u) (hstores : t = w.stores)
      (hdecision : d.toDecisionFields = w.decision) : Outcome request s t (.ok d)
  | cancel {cancel_intent : CancelOrderIntent} {target : ExecutionOrderRecord}
      {d : ExecutionAdmissionDecision} (hintent : request.intent = .cancel cancel_intent)
      (hallowed : CancelAllowed request cancel_intent s target)
      (w : CancelWrites request cancel_intent target s) (hstores : t = w.stores)
      (hdecision : d.toDecisionFields = w.decision) : Outcome request s t (.ok d)
  | replace {replace_intent : ReplaceOrderIntent} {target : ExecutionOrderRecord}
      {gate_decision : Option ExecutionCapabilityDecision} {d : ExecutionAdmissionDecision}
      (hintent : request.intent = .replace replace_intent)
      (hallowed : ReplaceAllowed request replace_intent s target)
      (hpassed : ReplacePassed request replace_intent s target gate_decision)
      (w : ReplaceWrites request replace_intent (replacePermission request replace_intent target)
        target gate_decision s) (hstores : t = w.stores)
      (hdecision : d.toDecisionFields = w.decision) : Outcome request s t (.ok d)
  | replaceFailed {replace_intent : ReplaceOrderIntent} {target : ExecutionOrderRecord}
      {gate_decision : Option ExecutionCapabilityDecision} {e : AdmissionError}
      (hintent : request.intent = .replace replace_intent)
      (hallowed : ReplaceAllowed request replace_intent s target)
      (hpassed : ReplacePassed request replace_intent s target gate_decision)
      (w : ReplaceTargetWrites request replace_intent
        (replacePermission request replace_intent target) target gate_decision s)
      (hstores : t = w.stores) : Outcome request s t (.error e)

section Paths

variable {request : ExecutionAdmissionRequest}
  {r : Except AdmissionError ExecutionAdmissionDecision}

/-- A computation that only audits and does not accept, after others that audit. -/
theorem outcome_notAccepted {m : AdmissionAction digests ExecutionAdmissionDecision}
    (hm : Keeps Audited m) (hreason : ∀ t d, m u = (t, .ok d) → d.reason ≠ .ACCEPTED)
    (haudited : Audited s u) (h : m u = (t, r)) : Outcome request s t r := by
  have ht := audited_frame.trans haudited (hm.of_eq h)
  cases r with
  | ok d => exact .notAccepted (hreason t d h) ht
  | error e => exact .failed ht.kept

theorem outcome_decision {fields : DecisionFields} (hreason : fields.reason ≠ .ACCEPTED)
    (h : decision fields s = (t, r)) : Outcome request s t r := by
  apply outcome_notAccepted (keeps_reading audited_frame _) _ (audited_frame.refl s) h
  intro u d hd
  rw [(decision_eq_ok.mp hd).2]
  exact hreason

theorem outcome_reject {earlier : List OrderLifecycleEventId} {rejection : Rejection}
    (hreason : rejection.decision.reason ≠ .ACCEPTED) (haudited : Audited s u)
    (h : reject request earlier rejection u = (t, r)) : Outcome request s t r := by
  apply outcome_notAccepted (reject_audited request earlier rejection) _ haudited h
  intro v d hd
  rw [reject_reason hd]
  exact hreason

theorem outcome_markReconciliation {scope_id : Option TrimmedText} {base : DecisionFields}
    (hreason : base.reason ≠ .ACCEPTED)
    (h : markReconciliation request scope_id base s = (t, r)) : Outcome request s t r := by
  apply outcome_notAccepted (markReconciliation_audited request scope_id base) _
    (audited_frame.refl s) h
  intro u d hd
  rw [markReconciliation_reason hd]
  exact hreason

theorem admitNewOrder_outcome {order_intent : OrderIntent}
    (hintent : request.intent = .order order_intent)
    (hnew : s.records.getByClientOrderId (digests.clientOrderId order_intent) = none)
    (h : admitNewOrder request order_intent s = (t, r)) : Outcome request s t r := by
  rw [admitNewOrder, bind_apply] at h
  rcases hcreated : appendLifecycleEvent (createdEvent digests request order_intent) s with
    ⟨u, e | created⟩
  · rw [hcreated] at h
    cases h
    exact .failed ((appendLifecycleEvent_keeps _).of_eq hcreated)
  · rw [hcreated] at h
    have haudited : Audited s u := (appendLifecycleEvent_audited rfl).of_eq hcreated
    dsimp only at h
    rw [bind_apply, reading] at h
    cases hchecks : orderChecks digests request order_intent with
    | error e =>
      rw [hchecks] at h
      cases h
      exact .failed haudited.kept
    | ok checked =>
      rw [hchecks] at h
      cases checked with
      | inl rejection =>
        exact outcome_reject (orderChecks_rejection hchecks) haudited h
      | inr gate_decision =>
        cases r with
        | error e =>
          have hkept := acceptOrder_error request order_intent created gate_decision u t e h
          exact .failed (recordsKept_frame.trans haudited.kept hkept)
        | ok d =>
          obtain ⟨w, hstores, hdecision⟩ := acceptOrder_eq_ok.mp h
          exact .order hintent hnew hcreated (orderChecks_passed hchecks) w hstores hdecision

theorem admitOrderIntent_outcome {order_intent : OrderIntent}
    (hintent : request.intent = .order order_intent)
    (h : admitOrderIntent request order_intent s = (t, r)) : Outcome request s t r := by
  rw [admitOrderIntent, bind_apply, reading] at h
  cases hget : s.records.getByClientOrderId (digests.clientOrderId order_intent) with
  | none =>
    rw [hget] at h
    exact admitNewOrder_outcome hintent hget h
  | some existing =>
    rw [hget] at h
    apply outcome_decision _ h
    rw [existingOrderDecision]
    split <;> simp [orderDecision, blankDecision]

theorem admitCancelIntent_outcome {cancel_intent : CancelOrderIntent}
    (hintent : request.intent = .cancel cancel_intent)
    (h : admitCancelIntent request cancel_intent s = (t, r)) : Outcome request s t r := by
  rw [admitCancelIntent, bind_apply, reading] at h
  cases htarget : resolveTarget s cancel_intent.target_client_order_id
      cancel_intent.target_order_intent_id with
  | none =>
    rw [htarget] at h
    dsimp only at h
    split at h
    · exact outcome_reject (by simp [targetPermissionRejection, cancelDecision, blankDecision])
        (audited_frame.refl s) h
    · exact outcome_markReconciliation (by simp [cancelDecision, blankDecision]) h
  | some target =>
    rw [htarget] at h
    dsimp only at h
    split at h
    · exact outcome_reject (by simp [targetPermissionRejection, cancelDecision, blankDecision])
        (audited_frame.refl s) h
    rename_i hallowed
    split at h
    · exact outcome_decision (by simp [cancelTargetDecision, cancelDecision, blankDecision]) h
    rename_i hactive
    cases r with
    | error e => exact .failed (acceptCancel_error request cancel_intent target s t e h)
    | ok d =>
      obtain ⟨w, hstores, hdecision⟩ := acceptCancel_eq_ok.mp h
      exact .cancel hintent ⟨htarget, by simpa using hallowed, not_not.mp hactive⟩ w hstores
        hdecision

theorem admitReplaceIntent_outcome {replace_intent : ReplaceOrderIntent}
    (hintent : request.intent = .replace replace_intent)
    (h : admitReplaceIntent request replace_intent s = (t, r)) : Outcome request s t r := by
  rw [admitReplaceIntent, bind_apply, reading] at h
  cases htarget : resolveTarget s replace_intent.target_client_order_id
      replace_intent.target_order_intent_id with
  | none =>
    rw [htarget] at h
    dsimp only at h
    split at h
    · exact outcome_reject (by simp [targetPermissionRejection, replaceDecision, blankDecision])
        (audited_frame.refl s) h
    · exact outcome_markReconciliation (by simp [replaceDecision, blankDecision]) h
  | some target =>
    rw [htarget] at h
    dsimp only at h
    split at h
    · exact outcome_reject (by simp [targetPermissionRejection, replaceDecision, blankDecision])
        (audited_frame.refl s) h
    rename_i hallowed
    split at h
    · exact outcome_decision (by simp [replaceTargetDecision, replaceDecision, blankDecision]) h
    rename_i hactive
    have hthrough : ReplaceAllowed request replace_intent s target :=
      ⟨htarget, by simpa using hallowed, not_not.mp hactive⟩
    rw [bind_apply, reading] at h
    cases hchecks : replaceChecks request replace_intent s target with
    | error e =>
      rw [hchecks] at h
      cases h
      exact .failed (recordsKept_frame.refl _)
    | ok checked =>
      rw [hchecks] at h
      cases checked with
      | inl rejection =>
        exact outcome_reject (replaceChecks_rejection hchecks) (audited_frame.refl s) h
      | inr gate_decision =>
        have hpassed := replaceChecks_passed hchecks
        cases r with
        | error e =>
          rcases acceptReplace_error h with hkept | ⟨w, hstores⟩
          · exact .failed hkept
          · exact .replaceFailed hintent hthrough hpassed w hstores
        | ok d =>
          obtain ⟨w, hstores, hdecision⟩ := acceptReplace_eq_ok.mp h
          exact .replace hintent hthrough hpassed w hstores hdecision

theorem admitIntent_outcome (request : ExecutionAdmissionRequest) (s : AdmissionStores digests) :
    Outcome request s (admitIntent request s).1 (admitIntent request s).2 := by
  rw [admitIntent]
  cases hintent : request.intent with
  | order order_intent => exact admitOrderIntent_outcome hintent rfl
  | cancel cancel_intent => exact admitCancelIntent_outcome hintent rfl
  | replace replace_intent => exact admitReplaceIntent_outcome hintent rfl

end Paths

/-- An admission is its path, and the decision stored: what the path leaves in the other stores
stays, and a decision that is returned is that of the path. -/
theorem admit_path (request : ExecutionAdmissionRequest) (s : AdmissionStores digests) :
    ∃ decisions, (admitRequest request s).1 = { (admitIntent request s).1 with decisions } ∧
      ∀ d, (admitRequest request s).2 = .ok d → (admitIntent request s).2 = .ok d := by
  rw [admitRequest, bind_apply]
  rcases hpath : admitIntent request s with ⟨t, e | d⟩
  · exact ⟨t.decisions, rfl, fun d hd => hd⟩
  · dsimp only
    rw [bind_apply]
    rcases hstore : storeDecision d t with ⟨u, e | _⟩
    · obtain ⟨rfl, -⟩ := writing_eq_error.mp hstore
      exact ⟨t.decisions, rfl, fun _ hd => absurd hd (by simp)⟩
    · have hput := writing_eq_ok.mp hstore
      refine ⟨u.decisions, ?_, fun _ hd => hd⟩
      change u = _
      split at hput
      · rw [← Except.ok.inj hput]
      · rename_i stored hstored
        cases hmade : putIdempotent (fun a b => Decidable.decide (a = b))
            "execution admission decision" stored d with
        | error e =>
          rw [hmade] at hput
          exact absurd hput (by simp [Except.map])
        | ok decisions =>
          rw [hmade] at hput
          rw [← Except.ok.inj hput]

end FuturesBot.Execution
