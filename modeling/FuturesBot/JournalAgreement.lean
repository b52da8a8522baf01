import FuturesBot.RecordChanges

/-! The journal of the lifecycle events and the order records. The events of a record lead from
CREATED to its state, and the proof of a record names events of the journal. -/
namespace FuturesBot.Execution

open Dicts StoreActions StoreActions.Action StepRuns Orders InMemoryExecutionOrderRecordStore

variable {digests : Digests} {s t : AdmissionStores digests} {request : ExecutionAdmissionRequest}

/-! The events of a record. -/

/-- The events lead along the lifecycle from one state to the other. -/
def LeadsTo (state final : OrderLifecycleState) : List OrderLifecycleEvent → Prop
  | [] => final = state
  | e :: es => e.previous_state = some state ∧ e.next_state ∈ allowedTransitions state ∧
      LeadsTo e.next_state final es

/-- The events that carry the id of a record, in the order in which they were appended. -/
def eventsOf (events : List OrderLifecycleEvent) (record_id : ExecutionOrderRecordId) :
    List OrderLifecycleEvent := events.filter fun e => e.record_id = some record_id

theorem mem_eventsOf {events : List OrderLifecycleEvent} {record_id : ExecutionOrderRecordId}
    {e : OrderLifecycleEvent} :
    e ∈ eventsOf events record_id ↔ e ∈ events ∧ e.record_id = some record_id := by
  rw [eventsOf, List.mem_filter, decide_eq_true_iff]

theorem eventsOf_append_others {events more : List OrderLifecycleEvent}
    {record_id : ExecutionOrderRecordId} (h : ∀ e ∈ more, e.record_id ≠ some record_id) :
    eventsOf (events ++ more) record_id = eventsOf events record_id := by
  have hnone : more.filter (fun e => e.record_id = some record_id) = [] := by
    rw [List.filter_eq_nil_iff]
    intro e he
    rw [decide_eq_true_iff]
    exact h e he
  rw [eventsOf, List.filter_append, hnone, List.append_nil, eventsOf]

theorem eventsOf_append_own {events : List OrderLifecycleEvent} {event : OrderLifecycleEvent}
    {record_id : ExecutionOrderRecordId} (h : event.record_id = some record_id) :
    eventsOf (events ++ [event]) record_id = eventsOf events record_id ++ [event] := by
  have hown : [event].filter (fun e => e.record_id = some record_id) = [event] :=
    List.filter_cons_of_pos (decide_eq_true h)
  rw [eventsOf, List.filter_append, hown, eventsOf]

/-- The events of a record lead from CREATED to its state, and its last event is the last. -/
structure RecordAgrees (digests : Digests) (events : List OrderLifecycleEvent)
    (record : ExecutionOrderRecord) : Prop where
  leads : LeadsTo .CREATED record.lifecycle_state (eventsOf events record.record_id)
  last : (eventsOf events record.record_id).getLast?.map digests.eventId =
    record.last_lifecycle_event_id

/-- The journal agrees with every record. -/
def JournalAgrees (s : AdmissionStores digests) : Prop :=
  ∀ record_id record, s.records.get? record_id = some record →
    RecordAgrees digests s.events.values record

/-- Every new event of a kind for a client order id that has a record starts from the state of this
record. -/
def AppendsFrom (kind : OrderLifecycleEvent → Prop) (s t : AdmissionStores digests) : Prop :=
  ∀ e ∈ t.events.values, e ∉ s.events.values → kind e →
    ∀ record ∈ s.records.getByClientOrderId e.client_order_id,
      e.previous_state = some record.lifecycle_state

/-! After admissions alone an order is accepted, or a cancel or a replace of it is requested. -/

/-- The one event of a record whose order is accepted, or the two once a request followed. -/
def Told (digests : Digests) (events : List OrderLifecycleEvent) (record : ExecutionOrderRecord) :
    Prop :=
  ∃ accepted : OrderLifecycleEvent, accepted.previous_state = some .CREATED ∧
    accepted.next_state = .ACCEPTED_BY_EXECUTION ∧
    ((record.lifecycle_state = .ACCEPTED_BY_EXECUTION ∧
        eventsOf events record.record_id = [accepted] ∧
        record.last_lifecycle_event_id = some (digests.eventId accepted)) ∨
      ∃ requested : OrderLifecycleEvent, requested.previous_state = some .ACCEPTED_BY_EXECUTION ∧
        requested.next_state = record.lifecycle_state ∧
        (record.lifecycle_state = .CANCEL_REQUESTED ∨
          record.lifecycle_state = .REPLACE_REQUESTED) ∧
        eventsOf events record.record_id = [accepted, requested] ∧
        record.last_lifecycle_event_id = some (digests.eventId requested))

theorem Told.agrees {events : List OrderLifecycleEvent} {record : ExecutionOrderRecord}
    (h : Told digests events record) : RecordAgrees digests events record := by
  obtain ⟨accepted, hprevious, hnext, ⟨hstate, hevents, hlast⟩ |
    ⟨requested, hprevious', hnext', hstate, hevents, hlast⟩⟩ := h
  · constructor
    · rw [hevents, hstate]
      exact ⟨hprevious, allowed_of_event hprevious, hnext.symm⟩
    · rw [hevents, hlast]
      rfl
  · constructor
    · rw [hevents]
      refine ⟨hprevious, allowed_of_event hprevious, ?_, ?_, hnext'.symm⟩
      · rw [hnext]
        exact hprevious'
      · rw [hnext]
        exact allowed_of_event hprevious'
    · rw [hevents, hlast]
      rfl

/-- An active record is accepted and has one event. -/
theorem Told.active {events : List OrderLifecycleEvent} {record : ExecutionOrderRecord}
    (h : Told digests events record) (hactive : record.lifecycle_state ∈ activeTargetStates) :
    record.lifecycle_state = .ACCEPTED_BY_EXECUTION ∧
      ∃ accepted : OrderLifecycleEvent, accepted.previous_state = some .CREATED ∧
        accepted.next_state = .ACCEPTED_BY_EXECUTION ∧
        eventsOf events record.record_id = [accepted] := by
  obtain ⟨accepted, hprevious, hnext, ⟨hstate, hevents, -⟩ | ⟨_, -, -, hstate, -⟩⟩ := h
  · exact ⟨hstate, accepted, hprevious, hnext, hevents⟩
  · rcases hstate with hstate | hstate <;> exact absurd hactive (by rw [hstate]; decide)

/-- The events tell of all records, and of nothing else. -/
structure AllTold (digests : Digests) (events : List OrderLifecycleEvent)
    (records : InMemoryExecutionOrderRecordStore) : Prop where
  told : ∀ record_id record, records.get? record_id = some record → Told digests events record
  recorded : ∀ e ∈ events, ∀ record_id, e.record_id = some record_id →
    ∃ record, records.get? record_id = some record

theorem AllTold.append_others {events more : List OrderLifecycleEvent}
    {records : InMemoryExecutionOrderRecordStore} (h : AllTold digests events records)
    (hmore : ∀ e ∈ more, e.record_id = none) : AllTold digests (events ++ more) records := by
  constructor
  · intro record_id record hrecord
    have hothers : ∀ e ∈ more, e.record_id ≠ some record.record_id := by
      intro e he
      rw [hmore e he]
      simp
    rw [Told, eventsOf_append_others hothers]
    exact h.told record_id record hrecord
  · intro e he record_id hid
    rcases List.mem_append.mp he with he | he
    · exact h.recorded e he record_id hid
    · rw [hmore e he] at hid
      cases hid

/-- One more event, and the record it tells of. -/
theorem AllTold.append {events : List OrderLifecycleEvent} {event : OrderLifecycleEvent}
    {records records' : InMemoryExecutionOrderRecordStore} {record : ExecutionOrderRecord}
    (h : AllTold digests events records) (hid : event.record_id = some record.record_id)
    (hupsert : records.upsert record = .ok records')
    (htold : Told digests (events ++ [event]) record) :
    AllTold digests (events ++ [event]) records' := by
  constructor
  · intro record_id found hfound
    rw [get?_upsert hupsert] at hfound
    split at hfound
    · rwa [← Option.some.inj hfound]
    · rename_i hother
      have hothers : ∀ e ∈ [event], e.record_id ≠ some found.record_id := by
        intro e he
        rw [List.mem_singleton.mp he, hid, record_id_of_get? hfound]
        exact fun heq => hother (Option.some.inj heq)
      rw [Told, eventsOf_append_others hothers]
      exact h.told record_id found hfound
  · intro e he record_id heid
    rw [get?_upsert hupsert]
    split
    · exact ⟨record, rfl⟩
    · rename_i hother
      rcases List.mem_append.mp he with he | he
      · exact h.recorded e he record_id heid
      · rw [List.mem_singleton.mp he, hid] at heid
        exact absurd (Option.some.inj heid) hother

/-- The event and the record of a new order. -/
theorem AllTold.accept {events : List OrderLifecycleEvent} {event : OrderLifecycleEvent}
    {records records' : InMemoryExecutionOrderRecordStore} {record : ExecutionOrderRecord}
    (h : AllTold digests events records) (hnew : records.get? record.record_id = none)
    (hid : event.record_id = some record.record_id)
    (hprevious : event.previous_state = some .CREATED)
    (hnext : event.next_state = .ACCEPTED_BY_EXECUTION)
    (hstate : record.lifecycle_state = .ACCEPTED_BY_EXECUTION)
    (hlast : record.last_lifecycle_event_id = some (digests.eventId event))
    (hupsert : records.upsert record = .ok records') :
    AllTold digests (events ++ [event]) records' := by
  apply h.append hid hupsert
  refine ⟨event, hprevious, hnext, .inl ⟨hstate, ?_, hlast⟩⟩
  -- no event tells of a record that is not there
  have hnone : eventsOf events record.record_id = [] := by
    rw [List.eq_nil_iff_forall_not_mem]
    intro e he
    obtain ⟨hmem, heid⟩ := mem_eventsOf.mp he
    obtain ⟨found, hfound⟩ := h.recorded e hmem _ heid
    rw [hnew] at hfound
    cases hfound
  rw [eventsOf_append_own hid, hnone, List.nil_append]

/-- The event and the copy of an active record for a request on its order. -/
theorem AllTold.requested {events : List OrderLifecycleEvent} {event : OrderLifecycleEvent}
    {records records' : InMemoryExecutionOrderRecordStore} {target : ExecutionOrderRecord}
    {updated_at : DateTimes.DateTime} (h : AllTold digests events records)
    (hstored : records.get? target.record_id = some target)
    (hactive : target.lifecycle_state ∈ activeTargetStates)
    (hid : event.record_id = some target.record_id)
    (hprevious : event.previous_state = some target.lifecycle_state)
    (hnext : event.next_state = .CANCEL_REQUESTED ∨ event.next_state = .REPLACE_REQUESTED)
    (hupsert : records.upsert (requestedCopy target event.next_state (digests.eventId event)
      updated_at) = .ok records') :
    AllTold digests (events ++ [event]) records' := by
  obtain ⟨hstate, accepted, haccepted, hnext_accepted, hevents⟩ :=
    (h.told _ target hstored).active hactive
  have hid_copy : event.record_id = some (requestedCopy target event.next_state
    (digests.eventId event) updated_at).record_id := hid
  apply h.append hid_copy hupsert
  refine ⟨accepted, haccepted, hnext_accepted, .inr ⟨event, ?_, rfl, hnext, ?_, rfl⟩⟩
  · rw [hprevious, hstate]
  · change eventsOf _ target.record_id = _
    rw [eventsOf_append_own hid, hevents]
    rfl

/-- An event of an active record leads to its being accepted. -/
theorem AllTold.next_of_active {events : List OrderLifecycleEvent}
    {records : InMemoryExecutionOrderRecordStore} {target : ExecutionOrderRecord}
    (h : AllTold digests events records) (hstored : records.get? target.record_id = some target)
    (hactive : target.lifecycle_state ∈ activeTargetStates) {e : OrderLifecycleEvent}
    (he : e ∈ events) (hid : e.record_id = some target.record_id) :
    e.next_state = .ACCEPTED_BY_EXECUTION := by
  obtain ⟨-, accepted, -, hnext, hevents⟩ := (h.told _ target hstored).active hactive
  have hmem : e ∈ eventsOf events target.record_id := mem_eventsOf.mpr ⟨he, hid⟩
  rw [hevents] at hmem
  rw [List.mem_singleton.mp hmem]
  exact hnext

/-! The proofs. -/

/-- The proofs and the client order ids they are bound to. -/
structure Linked (proofs : InMemoryExecutionReadinessProofStore digests) : Prop where
  bound : ∀ proof_id proof, proofs.proofs_by_id.get? proof_id = some proof →
    proofs.proof_id_by_client_id.get?
      (InMemoryExecutionReadinessProofStore.boundClientId proof) = some proof_id
  present : ∀ client_order_id proof_id,
    proofs.proof_id_by_client_id.get? client_order_id = some proof_id →
      ∃ proof, proofs.proofs_by_id.get? proof_id = some proof

/-- A proof that is put is there already, or its client order id was not bound. -/
theorem Linked.put_eq_ok {proofs proofs' : InMemoryExecutionReadinessProofStore digests}
    {proof : ExecutionReadinessProof} (h : Linked proofs) (hput : proofs.put proof = .ok proofs') :
    (proofs.proofs_by_id.get? (digests.proofId proof) = some proof ∧ proofs' = proofs) ∨
      (proofs.proof_id_by_client_id.get?
          (InMemoryExecutionReadinessProofStore.boundClientId proof) = none ∧
        proofs' = ⟨proofs.proofs_by_id.put proof, proofs.proof_id_by_client_id.set
          (InMemoryExecutionReadinessProofStore.boundClientId proof) (digests.proofId proof)⟩) := by
  rw [InMemoryExecutionReadinessProofStore.put] at hput
  split at hput
  · rename_i existing hexisting
    split at hput
    · cases hput
    · rename_i hsame
      obtain rfl := not_not.mp hsame
      exact .inl ⟨hexisting, (Except.ok.inj hput).symm⟩
  · rename_i hfree
    split at hput
    · cases hput
    · rename_i hbound
      refine .inr ⟨?_, (Except.ok.inj hput).symm⟩
      cases hclient : proofs.proof_id_by_client_id.get?
        (InMemoryExecutionReadinessProofStore.boundClientId proof) with
      | none => rfl
      | some proof_id =>
        -- a proof that is bound is there, so that its id is not the free one
        obtain ⟨stored, hstored⟩ := h.present _ _ hclient
        refine absurd ⟨proof_id, hclient, ?_⟩ hbound
        rintro rfl
        rw [hfree] at hstored
        cases hstored

theorem Linked.put {proofs proofs' : InMemoryExecutionReadinessProofStore digests}
    {proof : ExecutionReadinessProof} (h : Linked proofs) (hput : proofs.put proof = .ok proofs') :
    Linked proofs' := by
  rcases h.put_eq_ok hput with ⟨-, rfl⟩ | ⟨hclient, rfl⟩
  · exact h
  constructor
  · intro proof_id stored hstored
    change (proofs.proofs_by_id.put proof).get? proof_id = some stored at hstored
    change (proofs.proof_id_by_client_id.set _ _).get? _ = _
    rw [KeyedDict.get?_put] at hstored
    split at hstored
    · rename_i hid
      rw [← Option.some.inj hstored, ← hid, Dict.get?_set, if_pos rfl]
    · have hbound := h.bound proof_id stored hstored
      rw [Dict.get?_set, if_neg, hbound]
      intro heq
      rw [← heq, hclient] at hbound
      cases hbound
  · intro client_order_id proof_id hbound
    change (proofs.proof_id_by_client_id.set _ _).get? _ = _ at hbound
    change ∃ stored, (proofs.proofs_by_id.put proof).get? proof_id = some stored
    rw [Dict.get?_set] at hbound
    rw [KeyedDict.get?_put]
    split at hbound
    · rw [if_pos (Option.some.inj hbound)]
      exact ⟨proof, rfl⟩
    · split
      · exact ⟨proof, rfl⟩
      · exact h.present client_order_id proof_id hbound

/-- Every record has a proof bound to its client order id, and every proof names events of the
journal. -/
structure Proved (s : AdmissionStores digests) : Prop where
  linked : Linked s.proofs
  records : ∀ record_id record, s.records.get? record_id = some record →
    ∃ proof_id, s.proofs.proof_id_by_client_id.get? record.client_order_id = some proof_id
  events : ∀ proof_id proof, s.proofs.proofs_by_id.get? proof_id = some proof →
    ∀ event_id ∈ proof.lifecycle_event_ids, ∃ e ∈ s.events.values, digests.eventId e = event_id

end FuturesBot.Execution
