import FuturesBot.ForwardRecords
import FuturesBot.JournalAgreement

/-! The journal of a run agrees with the records, as long as every admission returns a decision or
leaves the stores. -/
namespace FuturesBot.Execution

open Dicts StoreActions StoreActions.Action StepRuns Orders InMemoryExecutionOrderRecordStore

variable {digests : Digests} {s t : AdmissionStores digests} {request : ExecutionAdmissionRequest}

theorem putEvent_mem {events events' : KeyedDict digests.eventId} {event : OrderLifecycleEvent}
    (h : putEvent events event = .ok events') :
    event ∈ events'.values ∧ ∀ e ∈ events.values, e ∈ events'.values := by
  rcases putEvent_values h with ⟨rfl, hmem⟩ | ⟨-, hvalues⟩
  · exact ⟨hmem, fun _ he => he⟩
  · rw [hvalues]
    exact ⟨List.mem_append_right _ (List.mem_singleton_self event),
      fun e he => List.mem_append_left _ he⟩

/-- An event is new if no event of its kind is there. -/
theorem putEvent_new {events events' : KeyedDict digests.eventId} {event : OrderLifecycleEvent}
    (h : putEvent events event = .ok events') (hnew : event ∉ events.values) :
    events'.values = events.values ++ [event] := by
  rcases putEvent_values h with ⟨-, hmem⟩ | ⟨-, hvalues⟩
  · exact absurd hmem hnew
  · exact hvalues

/-! The proofs after an admission. -/

theorem Proved.kept (h : Proved s) (hproofs : t.proofs = s.proofs)
    (hevents : ∀ e ∈ s.events.values, e ∈ t.events.values)
    (hrecords : ∀ record_id record, t.records.get? record_id = some record →
      ∃ record_id record', s.records.get? record_id = some record' ∧
        record'.client_order_id = record.client_order_id) : Proved t := by
  constructor
  · rw [hproofs]
    exact h.linked
  · intro record_id record hrecord
    obtain ⟨_, record', hrecord', hclient⟩ := hrecords record_id record hrecord
    rw [hproofs, ← hclient]
    exact h.records _ record' hrecord'
  · intro proof_id proof hproof event_id hid
    rw [hproofs] at hproof
    obtain ⟨e, he, hkey⟩ := h.events proof_id proof hproof event_id hid
    exact ⟨e, hevents e he, hkey⟩

/-- What is bound stays bound, and the proof that is put is bound. -/
theorem Linked.put_bound {proofs proofs' : InMemoryExecutionReadinessProofStore digests}
    {proof : ExecutionReadinessProof} (h : Linked proofs) (hput : proofs.put proof = .ok proofs') :
    proofs'.proof_id_by_client_id.get?
        (InMemoryExecutionReadinessProofStore.boundClientId proof) =
        some (digests.proofId proof) ∧
      ∀ client_order_id proof_id,
        proofs.proof_id_by_client_id.get? client_order_id = some proof_id →
        proofs'.proof_id_by_client_id.get? client_order_id = some proof_id := by
  refine ⟨(h.put hput).bound _ _ (put_proofs hput).1, fun client_order_id proof_id hbound => ?_⟩
  rcases h.put_eq_ok hput with ⟨-, rfl⟩ | ⟨hclient, rfl⟩
  · exact hbound
  · change (proofs.proof_id_by_client_id.set _ _).get? _ = _
    rw [Dict.get?_set, if_neg, hbound]
    rintro rfl
    rw [hclient] at hbound
    cases hbound

theorem Proved.put (h : Proved s) {proof : ExecutionReadinessProof}
    (hput : s.proofs.put proof = .ok t.proofs)
    (hevents : ∀ e ∈ s.events.values, e ∈ t.events.values)
    (hids : ∀ event_id ∈ proof.lifecycle_event_ids, ∃ e ∈ t.events.values,
      digests.eventId e = event_id)
    (hrecords : ∀ record_id record, t.records.get? record_id = some record →
      (∃ record_id record', s.records.get? record_id = some record' ∧
        record'.client_order_id = record.client_order_id) ∨
      record.client_order_id = InMemoryExecutionReadinessProofStore.boundClientId proof) :
    Proved t := by
  obtain ⟨hbound, hkept⟩ := h.linked.put_bound hput
  constructor
  · exact h.linked.put hput
  · intro record_id record hrecord
    rcases hrecords record_id record hrecord with ⟨_, record', hrecord', hclient⟩ | hclient
    · obtain ⟨proof_id, hproof_id⟩ := h.records _ record' hrecord'
      rw [← hclient]
      exact ⟨proof_id, hkept _ _ hproof_id⟩
    · rw [hclient]
      exact ⟨digests.proofId proof, hbound⟩
  · intro proof_id stored hstored event_id hid
    rcases h.linked.put_eq_ok hput with ⟨-, hsame⟩ | ⟨-, hset⟩
    · rw [hsame] at hstored
      obtain ⟨e, he, hkey⟩ := h.events proof_id stored hstored event_id hid
      exact ⟨e, hevents e he, hkey⟩
    · rw [hset] at hstored
      change (s.proofs.proofs_by_id.put proof).get? proof_id = some stored at hstored
      rw [KeyedDict.get?_put] at hstored
      split at hstored
      · rw [← Option.some.inj hstored] at hid
        exact hids event_id hid
      · obtain ⟨e, he, hkey⟩ := h.events proof_id stored hstored event_id hid
        exact ⟨e, hevents e he, hkey⟩

/-- A record that is set has its own client order id, the others are there before. -/
theorem clients_upsert {records records' : InMemoryExecutionOrderRecordStore}
    {record : ExecutionOrderRecord} (h : records.upsert record = .ok records')
    {record_id : ExecutionOrderRecordId} {found : ExecutionOrderRecord}
    (hfound : records'.get? record_id = some found) :
    found.client_order_id = record.client_order_id ∨ records.get? record_id = some found := by
  rw [get?_upsert h] at hfound
  split at hfound
  · rw [← Option.some.inj hfound]
    exact .inl rfl
  · exact .inr hfound

/-! The invariant of a run. -/

structure Agreed (s : AdmissionStores digests) : Prop where
  told : AllTold digests s.events.values s.records
  proved : Proved s
  named : RecordsNamed s

theorem Agreed.agrees (h : Agreed s) : JournalAgrees s := fun record_id record hrecord =>
  (h.told.told record_id record hrecord).agrees

theorem Agreed.audited (h : Agreed s) (haudited : Audited s t) : Agreed t := by
  obtain ⟨more, hvalues, hnone⟩ := haudited.events
  constructor
  · rw [hvalues, haudited.records]
    exact h.told.append_others hnone
  · apply h.proved.kept haudited.proofs
    · intro e he
      rw [hvalues]
      exact List.mem_append_left _ he
    · intro record_id record hrecord
      rw [haudited.records] at hrecord
      exact ⟨record_id, record, hrecord, rfl⟩
  · rw [RecordsNamed, haudited.records]
    exact h.named

/-- The event of a new order is new. -/
theorem OrderWrites.values {intent : OrderIntent} {created : OrderLifecycleEvent}
    {gate_decision : Option ExecutionCapabilityDecision}
    (w : OrderWrites request intent created gate_decision s) (h : Agreed s)
    (hnew : s.records.getByClientOrderId (digests.clientOrderId intent) = none) :
    w.events.values = s.events.values ++ [w.accepted] := by
  apply putEvent_new w.appended
  intro hmem
  have hid : w.accepted.record_id = some w.record.record_id := by
    rw [w.accepted_event]
    rfl
  obtain ⟨record, hrecord⟩ := h.told.recorded _ hmem _ hid
  have hnone : s.records.get? w.record.record_id = none := get?_none_of_client w.recorded hnew
  rw [hnone] at hrecord
  cases hrecord

theorem OrderWrites.agreed {intent : OrderIntent} {created : OrderLifecycleEvent}
    {gate_decision : Option ExecutionCapabilityDecision}
    (w : OrderWrites request intent created gate_decision s) (h : Agreed s)
    (hnew : s.records.getByClientOrderId (digests.clientOrderId intent) = none)
    (hcreated : created ∈ s.events.values) : Agreed w.stores := by
  have hfields := ExecutionReadinessProof.of_eq_ok.mp w.built
  have hvalues := w.values h hnew
  obtain ⟨haccepted, hkept⟩ := putEvent_mem w.appended
  constructor
  · change AllTold digests w.events.values w.records
    rw [hvalues]
    exact h.told.accept (get?_none_of_client w.recorded hnew) (by rw [w.accepted_event]; rfl)
      (by rw [w.accepted_event]; rfl) (by rw [w.accepted_event]; rfl) rfl rfl w.recorded
  · apply h.proved.put w.proven hkept
    · intro event_id hid
      rw [hfields] at hid
      rcases List.mem_pair.mp hid with rfl | rfl
      · exact ⟨created, hkept created hcreated, rfl⟩
      · exact ⟨w.accepted, haccepted, rfl⟩
    · intro record_id record hrecord
      rcases clients_upsert w.recorded hrecord with hclient | hrecord
      · right
        rw [hclient, InMemoryExecutionReadinessProofStore.boundClientId, hfields]
        rfl
      · exact .inl ⟨record_id, record, hrecord, rfl⟩
  · exact h.named.upsert w.recorded rfl rfl

/-- The event of a cancel is new. -/
theorem CancelWrites.values {intent : CancelOrderIntent} {target : ExecutionOrderRecord}
    (w : CancelWrites request intent target s) (h : Agreed s)
    (hallowed : CancelAllowed request intent s target) :
    w.events.values = s.events.values ++ [w.event] := by
  apply putEvent_new w.appended
  intro hmem
  have hnext := h.told.next_of_active (resolveTarget_stored hallowed.resolved) hallowed.active
    hmem (by rw [w.cancel_event]; rfl)
  rw [w.cancel_event] at hnext
  cases hnext

theorem CancelWrites.agreed {intent : CancelOrderIntent} {target : ExecutionOrderRecord}
    (w : CancelWrites request intent target s) (h : Agreed s)
    (hallowed : CancelAllowed request intent s target) : Agreed w.stores := by
  have hstored := resolveTarget_stored hallowed.resolved
  have hnext : w.event.next_state = .CANCEL_REQUESTED := by rw [w.cancel_event]; rfl
  constructor
  · change AllTold digests w.events.values w.records
    rw [w.values h hallowed]
    apply h.told.requested hstored hallowed.active (by rw [w.cancel_event]; rfl)
      (by rw [w.cancel_event]; rfl) (.inl hnext)
    rw [hnext]
    exact w.recorded
  · refine h.proved.kept (show w.stores.proofs = s.proofs from rfl) (putEvent_mem w.appended).2 ?_
    intro record_id record hrecord
    rcases clients_upsert w.recorded hrecord with hclient | hrecord
    · exact ⟨_, target, hstored, hclient.symm⟩
    · exact ⟨record_id, record, hrecord, rfl⟩
  · have hclient := h.named _ _ hstored
    exact h.named.upsert w.recorded hclient rfl

section Replaces

variable {intent : ReplaceOrderIntent} {target : ExecutionOrderRecord}
  {permission : OrderIntentPermissionDecision}
  {gate_decision : Option ExecutionCapabilityDecision}

theorem ReplaceTargetWrites.target_values
    (w : ReplaceTargetWrites request intent permission target gate_decision s) (h : Agreed s)
    (hallowed : ReplaceAllowed request intent s target) :
    w.target_event ∉ s.events.values ∧
      w.target_events.values = s.events.values ++ [w.target_event] := by
  have hnew : w.target_event ∉ s.events.values := by
    intro hmem
    have hnext := h.told.next_of_active (resolveTarget_stored hallowed.resolved) hallowed.active
      hmem (by rw [w.target_requested]; rfl)
    rw [w.target_requested] at hnext
    cases hnext
  exact ⟨hnew, putEvent_new w.target_appended hnew⟩

/-- The order of a replacement that is accepted has no record. Its proof would be the one that is
there, and that names the event of the target. -/
theorem ReplaceWrites.replacement_new
    (w : ReplaceWrites request intent permission target gate_decision s) (h : Agreed s)
    (hallowed : ReplaceAllowed request intent s target) :
    s.records.get? w.record.record_id = none := by
  have hfields := ExecutionReadinessProof.of_eq_ok.mp w.built
  cases hexisting : s.records.get? w.record.record_id with
  | none => rfl
  | some record =>
    exfalso
    -- the record has the client order id of the replacement, so that a proof is bound to it
    have hclient : record.client_order_id = w.record.client_order_id := by
      obtain ⟨haccepts, -⟩ := upsert_eq_ok.mp w.recorded
      have hcopied := get?_upsert w.target_recorded w.record.record_id
      split at hcopied
      · rename_i hid
        rw [← hid] at hexisting
        have hstored := resolveTarget_stored hallowed.resolved
        change s.records.get? target.record_id = some record at hexisting
        rw [hstored] at hexisting
        rw [← Option.some.inj hexisting]
        have hcopy := haccepts.1 _ hcopied
        exact hcopy
      · exact haccepts.1 _ (hcopied.trans hexisting)
    obtain ⟨proof_id, hbound⟩ := h.proved.records _ record hexisting
    have hproof_client : InMemoryExecutionReadinessProofStore.boundClientId w.proof =
        record.client_order_id := by
      rw [hclient, InMemoryExecutionReadinessProofStore.boundClientId, hfields]
      rfl
    rcases h.proved.linked.put_eq_ok w.proven with ⟨hthere, -⟩ | ⟨hfree, -⟩
    · have hids : digests.eventId w.target_event ∈ w.proof.lifecycle_event_ids := by
        rw [hfields]
        exact List.mem_cons_self
      obtain ⟨e, he, hkey⟩ := h.proved.events _ _ hthere _ hids
      -- the event under its id is the event of the target itself
      obtain ⟨hnew, hvalues⟩ := w.target_values h hallowed
      have hget := KeyedDict.mem_values.mp he
      have hput := (putEvent_mem w.target_appended).2 e he
      have hown := (putEvent_mem w.target_appended).1
      have hsame : e = w.target_event := by
        rw [KeyedDict.mem_values, hkey] at hput
        rw [KeyedDict.mem_values, hput] at hown
        exact Option.some.inj hown
      exact hnew (hsame ▸ he)
    · rw [hproof_client, hbound] at hfree
      cases hfree

theorem ReplaceWrites.values
    (w : ReplaceWrites request intent permission target gate_decision s) (h : Agreed s)
    (hallowed : ReplaceAllowed request intent s target) :
    AllTold digests (s.events.values ++ [w.target_event] ++ [w.replacement_event]) w.records ∧
      w.events.values = s.events.values ++ [w.target_event] ++ [w.replacement_event] := by
  have hstored := resolveTarget_stored hallowed.resolved
  have hnone := w.replacement_new h hallowed
  obtain ⟨-, htarget_values⟩ := w.target_values h hallowed
  have hnext : w.target_event.next_state = .REPLACE_REQUESTED := by rw [w.target_requested]; rfl
  have hrequested : AllTold digests (s.events.values ++ [w.target_event]) w.target_records := by
    apply h.told.requested hstored hallowed.active (by rw [w.target_requested]; rfl)
      (by rw [w.target_requested]; rfl) (.inr hnext)
    rw [hnext]
    exact w.target_recorded
  have hnew : w.target_records.get? w.record.record_id = none := by
    rw [get?_upsert w.target_recorded, if_neg, hnone]
    intro hid
    change target.record_id = _ at hid
    rw [← hid, hstored] at hnone
    cases hnone
  have hid : w.replacement_event.record_id = some w.record.record_id := by
    rw [w.replacement_accepted]
    rfl
  refine ⟨hrequested.accept hnew hid (by rw [w.replacement_accepted]; rfl)
    (by rw [w.replacement_accepted]; rfl) rfl rfl w.recorded, ?_⟩
  rw [putEvent_new w.replacement_appended, htarget_values]
  rw [htarget_values]
  intro hmem
  obtain ⟨record, hrecord⟩ := hrequested.recorded _ hmem _ hid
  rw [hnew] at hrecord
  cases hrecord

theorem ReplaceWrites.agreed
    (w : ReplaceWrites request intent permission target gate_decision s) (h : Agreed s)
    (hallowed : ReplaceAllowed request intent s target) : Agreed w.stores := by
  have hstored := resolveTarget_stored hallowed.resolved
  have hfields := ExecutionReadinessProof.of_eq_ok.mp w.built
  obtain ⟨htold, hvalues⟩ := w.values h hallowed
  have hkept : ∀ e ∈ s.events.values, e ∈ w.events.values := fun e he =>
    (putEvent_mem w.replacement_appended).2 e ((putEvent_mem w.target_appended).2 e he)
  constructor
  · change AllTold digests w.events.values w.records
    rw [hvalues]
    exact htold
  · apply h.proved.put w.proven hkept
    · intro event_id hid
      rw [hfields] at hid
      rcases List.mem_pair.mp hid with rfl | rfl
      · exact ⟨w.target_event,
          (putEvent_mem w.replacement_appended).2 _ (putEvent_mem w.target_appended).1, rfl⟩
      · exact ⟨w.replacement_event, (putEvent_mem w.replacement_appended).1, rfl⟩
    · intro record_id record hrecord
      rcases clients_upsert w.recorded hrecord with hclient | hcopied
      · right
        rw [hclient, InMemoryExecutionReadinessProofStore.boundClientId, hfields]
        rfl
      · left
        rcases clients_upsert w.target_recorded hcopied with hclient | hrecord
        · exact ⟨_, target, hstored, hclient.symm⟩
        · exact ⟨record_id, record, hrecord, rfl⟩
  · have hclient := h.named _ _ hstored
    have hcopied : RecordsNamed w.toReplaceTargetWrites.stores :=
      h.named.upsert w.target_recorded hclient rfl
    exact hcopied.upsert w.recorded rfl rfl

end Replaces

/-! What an admission appends. -/

/-- The event carries the id of a record. -/
def Carried (e : OrderLifecycleEvent) : Prop := e.record_id ≠ none

theorem appendsFrom_none (hmore : ∃ more, t.events.values = s.events.values ++ more ∧
    ∀ e ∈ more, e.record_id = none) : AppendsFrom Carried s t := by
  obtain ⟨more, hvalues, hnone⟩ := hmore
  intro e he hnew hcarried
  rw [hvalues] at he
  rcases List.mem_append.mp he with he | he
  · exact absurd he hnew
  · exact absurd (hnone e he) hcarried

/-- The record under the client order id of the target is the target. -/
theorem target_of_client (h : Agreed s) {client_order_id : Option ClientOrderId}
    {order_intent_id : Option OrderIntentId} {target record : ExecutionOrderRecord}
    (hresolved : resolveTarget s client_order_id order_intent_id = some target)
    (hrecord : s.records.getByClientOrderId (digests.clientOrderId target.order_intent) =
      some record) : record = target := by
  have hclient := resolveTarget_client hresolved
  rw [h.named _ _ (resolveTarget_stored hresolved), hrecord] at hclient
  exact Option.some.inj hclient

theorem CancelWrites.appendsFrom {intent : CancelOrderIntent} {target : ExecutionOrderRecord}
    (w : CancelWrites request intent target s) (h : Agreed s)
    (hallowed : CancelAllowed request intent s target) : AppendsFrom Carried s w.stores := by
  intro e he hnew _ record hrecord
  change e ∈ w.events.values at he
  rw [w.values h hallowed] at he
  rcases List.mem_append.mp he with he | he
  · exact absurd he hnew
  · obtain rfl := List.mem_singleton.mp he
    rw [w.cancel_event] at hrecord ⊢
    obtain rfl := target_of_client h hallowed.resolved hrecord
    rfl

theorem ReplaceWrites.appendsFrom {intent : ReplaceOrderIntent} {target : ExecutionOrderRecord}
    {permission : OrderIntentPermissionDecision}
    {gate_decision : Option ExecutionCapabilityDecision}
    (w : ReplaceWrites request intent permission target gate_decision s) (h : Agreed s)
    (hallowed : ReplaceAllowed request intent s target) : AppendsFrom Carried s w.stores := by
  intro e he hnew _ record hrecord
  change e ∈ w.events.values at he
  rw [(w.values h hallowed).2] at he
  rcases List.mem_append.mp he with he | he
  · rcases List.mem_append.mp he with he | he
    · exact absurd he hnew
    · obtain rfl := List.mem_singleton.mp he
      rw [w.target_requested] at hrecord ⊢
      obtain rfl := target_of_client h hallowed.resolved hrecord
      rfl
  · -- the client order id of the replacement has no record yet
    obtain rfl := List.mem_singleton.mp he
    rw [w.replacement_accepted] at hrecord
    have hnone := w.replacement_new h hallowed
    have hcopied := getByClientOrderId_upsert w.target_recorded w.record.client_order_id
    split at hcopied
    · have hid := record_id_of_upsert w.recorded hcopied
      change target.record_id = w.record.record_id at hid
      rw [← hid, resolveTarget_stored hallowed.resolved] at hnone
      cases hnone
    · have hid := record_id_of_upsert w.recorded (hcopied.trans hrecord)
      rw [← hid, (get?_of_client hrecord).1] at hnone
      cases hnone

/-- A path that ends in a decision keeps the agreement, and appends its events from the states of
the records. -/
theorem outcome_agreed (h : Agreed s) {d : ExecutionAdmissionDecision}
    (houtcome : Outcome request s t (.ok d)) : Agreed t ∧ AppendsFrom Carried s t := by
  cases houtcome with
  | notAccepted _ haudited => exact ⟨h.audited haudited, appendsFrom_none haudited.events⟩
  | @order intent created gate_decision u _ _ hnew hcreated _ w hstores _ =>
    subst hstores
    have haudited : Audited s u := (appendLifecycleEvent_audited rfl).of_eq hcreated
    have hnew_u : u.records.getByClientOrderId (digests.clientOrderId intent) = none := by
      rw [haudited.records]
      exact hnew
    obtain ⟨-, events, hput, rfl⟩ := appendLifecycleEvent_eq_ok.mp hcreated
    have hu := h.audited haudited
    refine ⟨w.agreed hu hnew_u (putEvent_mem hput).1, ?_⟩
    intro e he hfresh hcarried record hrecord
    change e ∈ w.events.values at he
    rw [w.values hu hnew_u] at he
    rcases List.mem_append.mp he with he | he
    · exact appendsFrom_none haudited.events e he hfresh hcarried record hrecord
    · obtain rfl := List.mem_singleton.mp he
      rw [w.accepted_event] at hrecord
      change s.records.getByClientOrderId (digests.clientOrderId intent) = some record at hrecord
      rw [hnew] at hrecord
      cases hrecord
  | cancel _ hallowed w hstores _ =>
    subst hstores
    exact ⟨w.agreed h hallowed, w.appendsFrom h hallowed⟩
  | replace _ hallowed _ w hstores _ =>
    subst hstores
    exact ⟨w.agreed h hallowed, w.appendsFrom h hallowed⟩

/-- The admission returns a decision, or leaves the stores. -/
def Whole (s : AdmissionStores digests) (request : ExecutionAdmissionRequest) : Prop :=
  (∃ d, (admitRequest request s).2 = .ok d) ∨ (admitRequest request s).1 = s

theorem agreed_of_whole (h : Agreed s) (hwhole : Whole s request) :
    Agreed (admitRequest request s).1 ∧ AppendsFrom Carried s (admitRequest request s).1 := by
  rcases hwhole with ⟨d, hd⟩ | hsame
  · obtain ⟨decisions, hstores, hpath⟩ := admit_path request s
    have houtcome := admitIntent_outcome request s
    rw [hpath d hd] at houtcome
    obtain ⟨hagreed, happends⟩ := outcome_agreed h houtcome
    rw [hstores]
    -- the stored decision is neither an event nor a record nor a proof
    exact ⟨⟨hagreed.told, ⟨hagreed.proved.linked, hagreed.proved.records, hagreed.proved.events⟩,
      hagreed.named⟩, happends⟩
  · rw [hsame]
    exact ⟨h, fun e he hnew => absurd he hnew⟩

theorem agreed_empty (keepsDecisions : Bool) :
    Agreed (AdmissionStores.empty digests keepsDecisions) := by
  constructor
  · constructor
    · intro record_id record hrecord
      cases hrecord
    · intro e he
      cases he
  · constructor
    · constructor
      · intro proof_id proof hproof
        cases hproof
      · intro client_order_id proof_id hbound
        cases hbound
    · intro record_id record hrecord
      cases hrecord
    · intro proof_id proof hproof
      cases hproof
  · intro record_id record hrecord
    cases hrecord

/-- In a run of admissions that each return a decision or leave the stores, the journal agrees
with all records after each of them, and the events that carry the id of a record start from the
state of the record of their order. -/
theorem run_journal_agrees (digests : Digests) (keepsDecisions : Bool)
    (requests : List ExecutionAdmissionRequest)
    (h : Meets (fun s request => (admitRequest request s).1) Whole
      (.empty digests keepsDecisions) requests) :
    (∀ before, before <+: requests →
      JournalAgrees (run (fun s request => (admitRequest request s).1)
        (.empty digests keepsDecisions) before)) ∧
    ∀ before request, before ++ [request] <+: requests →
      let s := run (fun s request => (admitRequest request s).1) (.empty digests keepsDecisions)
        before
      AppendsFrom Carried s (admitRequest request s).1 := by
  have hagreed : ∀ before, before <+: requests → Agreed (run
      (fun s request => (admitRequest request s).1) (.empty digests keepsDecisions) before) := by
    rintro before ⟨rest, rfl⟩
    apply invariant _ (agreed_empty keepsDecisions) (meets_append.mp h).1
    intro s request hs hwhole
    exact (agreed_of_whole hs hwhole).1
  constructor
  · exact fun before hbefore => (hagreed before hbefore).agrees
  · intro before request hbefore
    have hwhole := meets_prefix_iff.mp h before request hbefore
    have hstart := hagreed before ((List.prefix_append before [request]).trans hbefore)
    exact (agreed_of_whole hstart hwhole).2

/-! A cancel that is not permitted, and a replace that fails, after an entry to buy. -/

def blockedCancel : ExecutionAdmissionRequest :=
  { cancelRequest ⟨"BINANCE", .checked evaluates⟩ with
    order_flow_permission := { openPermission with allow_entry_order_cancel := false } }

/-- Digests that tell the events and the proofs of a replace from those of an order. -/
def replaceDigests : Digests :=
  { sampleDigests with
    lifecycle_event := fun e => repeatHex (stateDigit e.next_state +
      match e.payload with
      | .obj [_] => 8
      | _ => 0)
    readiness_proof := fun p => repeatHex (if p.replace_intent_id = none then 1 else 2) }

/-- The event of the cancel starts from CREATED, where the order is accepted; the replace leaves
its event without the record it tells of. -/
theorem journal_disagrees :
    (¬ ∀ requests : List ExecutionAdmissionRequest, ∀ before request,
      before ++ [request] <+: requests →
        let s := run (fun s request => (admitRequest request s).1)
          (AdmissionStores.empty sampleDigests false) before
        AppendsFrom (fun _ => True) s (admitRequest request s).1) ∧
    ¬ ∀ requests : List ExecutionAdmissionRequest, ∀ before, before <+: requests →
      JournalAgrees (run (fun s request => (admitRequest request s).1)
        (AdmissionStores.empty replaceDigests false) before) := by
  constructor
  · intro h
    have hfrom := h [buyRequest, blockedCancel] [buyRequest] blockedCancel List.prefix_rfl
    change AppendsFrom _ buyAdmitted (admitRequest blockedCancel buyAdmitted).1 at hfrom
    have hevent : (admitRequest blockedCancel buyAdmitted).1.events.values.any (fun e =>
        e ∉ buyAdmitted.events.values ∧ e.client_order_id = buyClientId ∧
          e.previous_state = some .CREATED) = true := by decide +kernel
    obtain ⟨e, he, hproperties⟩ := List.any_eq_true.mp hevent
    obtain ⟨hnew, hclient, hprevious⟩ := of_decide_eq_true hproperties
    have hstate : (buyAdmitted.records.getByClientOrderId buyClientId).map (·.lifecycle_state) =
        some .ACCEPTED_BY_EXECUTION := by decide +kernel
    obtain ⟨record, hrecord, hrecord_state⟩ := Option.map_eq_some_iff.mp hstate
    rw [← hclient] at hrecord
    have hstart := hfrom e he hnew trivial record hrecord
    rw [hprevious, hrecord_state] at hstart
    cases hstart
  · intro h
    have hagrees := h [buyRequest, replaceRequest] _ List.prefix_rfl
    let failed := admitAll (.empty replaceDigests false) [buyRequest, replaceRequest]
    change JournalAgrees failed at hagrees
    have hlast : (failed.records.getByClientOrderId buyClientId).map (fun r =>
        decide ((eventsOf failed.events.values r.record_id).getLast?.map replaceDigests.eventId =
          r.last_lifecycle_event_id)) = some false := by decide +kernel
    obtain ⟨record, hrecord, hother⟩ := Option.map_eq_some_iff.mp hlast
    exact of_decide_eq_false hother (hagrees _ record (get?_of_client hrecord).1).last

/-- The entry to buy and a cancel of it. -/
theorem cancel_journal_agrees : JournalAgrees (run (fun s request => (admitRequest request s).1)
    (AdmissionStores.empty sampleDigests false)
    [buyRequest, cancelRequest ⟨"BINANCE", by decide⟩]) := by
  have hreturned (request : ExecutionAdmissionRequest) (s : AdmissionStores sampleDigests)
      (h : (admitRequest request s).2.toOption.isSome = true) : Whole s request := by
    cases hd : (admitRequest request s).2 with
    | error e =>
      rw [hd] at h
      cases h
    | ok d => exact .inl ⟨d, hd⟩
  refine (run_journal_agrees sampleDigests false [buyRequest, cancelRequest ⟨"BINANCE", by decide⟩]
    ⟨?_, ?_, trivial⟩).1 _ List.prefix_rfl
  · exact hreturned _ _ (by decide +kernel)
  · exact hreturned _ _ (by decide +kernel)

end FuturesBot.Execution
