import FuturesBot.AdmissionOutcomes
import FuturesBot.StepRuns

/-! Who may create records: a new record of the kind ENTRY needs a permission for new entries,
and an admission that is not accepted leaves the records as they are. -/
namespace FuturesBot.Execution

open DateTimes StoreActions StepRuns Orders InMemoryExecutionOrderRecordStore

variable {digests : Digests} {s t : AdmissionStores digests} {request : ExecutionAdmissionRequest}

/-- New entries are allowed, and neither the guardian nor manual intervention is required. -/
def EntriesPermitted (permission : OrderFlowPermission) : Prop :=
  permission.allow_new_entries = true ∧ permission.guardian_required = false ∧
    permission.manual_intervention_required = false

/-- A record that is new after the stores `s`. -/
def NewRecord (s t : AdmissionStores digests) (record : ExecutionOrderRecord) : Prop :=
  s.records.get? record.record_id = none ∧ t.records.get? record.record_id = some record

theorem resolveTarget_stored {client_order_id : Option ClientOrderId}
    {order_intent_id : Option OrderIntentId} {target : ExecutionOrderRecord}
    (h : resolveTarget s client_order_id order_intent_id = some target) :
    s.records.get? target.record_id = some target := by
  rw [resolveTarget.eq_def] at h
  split at h
  · exact (get?_of_client h).1
  · obtain ⟨intent, -, hget⟩ := Option.bind_eq_some_iff.mp h
    exact (get?_of_client hget).1

theorem not_newRecord_of_kept (h : t.records = s.records) {record : ExecutionOrderRecord} :
    ¬ NewRecord s t record := by
  rintro ⟨hnone, hsome⟩
  rw [h, hnone] at hsome
  exact absurd hsome (by simp)

/-- The only new record after a record is set is this one. -/
theorem newRecord_upsert {record new : ExecutionOrderRecord}
    {records : InMemoryExecutionOrderRecordStore} (hupsert : s.records.upsert record = .ok records)
    (ht : t.records = records) (h : NewRecord s t new) : new = record := by
  obtain ⟨hnone, hsome⟩ := h
  rw [ht, get?_upsert hupsert] at hsome
  split at hsome
  · exact (Option.some.inj hsome).symm
  · rw [hnone] at hsome
    exact absurd hsome (by simp)

/-- A record that is set again is not new. -/
theorem not_newRecord_copy {target : ExecutionOrderRecord} {state : OrderLifecycleState}
    {event_id : OrderLifecycleEventId} {updated_at : DateTime}
    {records : InMemoryExecutionOrderRecordStore}
    (hstored : s.records.get? target.record_id = some target)
    (hupsert : s.records.upsert (requestedCopy target state event_id updated_at) = .ok records)
    (ht : t.records = records) {record : ExecutionOrderRecord} : ¬ NewRecord s t record := by
  intro h
  have hrecord := newRecord_upsert hupsert ht h
  obtain ⟨hnone, -⟩ := h
  rw [hrecord] at hnone
  change s.records.get? target.record_id = none at hnone
  rw [hstored] at hnone
  exact absurd hnone (by simp)

/-- A new record comes from the order of the request, or from the replacement. -/
theorem outcome_newRecord {r : Except AdmissionError ExecutionAdmissionDecision}
    (h : Outcome request s t r) {record : ExecutionOrderRecord} (hnew : NewRecord s t record) :
    (∃ intent, request.intent = .order intent ∧ record.order_intent = intent ∧
      (evaluateOrderIntentPermission intent request.order_flow_permission).allowed = true) ∨
    ∃ intent target, request.intent = .replace intent ∧
      record.order_intent = intent.replacement_order ∧
      (evaluateReplaceIntentPermission intent (isEntryRecord (some target))
        request.order_flow_permission).allowed = true := by
  cases h with
  | notAccepted _ haudited => exact absurd hnew (not_newRecord_of_kept haudited.records)
  | failed hkept => exact absurd hnew (not_newRecord_of_kept hkept.records)
  | @order intent created gate_decision u d hintent _ hcreated hpassed w hstores _ =>
    refine .inl ⟨intent, hintent, ?_, hpassed.allowed⟩
    have hu : u.records = s.records := ((appendLifecycleEvent_keeps _).of_eq hcreated).records
    have hrecorded := w.recorded
    rw [hu] at hrecorded
    rw [newRecord_upsert hrecorded (by rw [hstores]; rfl) hnew]
    rfl
  | cancel _ hallowed w hstores _ =>
    have hstored := resolveTarget_stored hallowed.resolved
    exact absurd hnew (not_newRecord_copy hstored w.recorded (by rw [hstores]; rfl))
  | @replace intent target gate_decision d hintent hallowed _ w hstores _ =>
    refine .inr ⟨intent, target, hintent, ?_, hallowed.allowed⟩
    have hstored := resolveTarget_stored hallowed.resolved
    obtain ⟨hnone, hsome⟩ := hnew
    have ht : t.records = w.records := by
      rw [hstores]
      rfl
    rw [ht, get?_upsert w.recorded] at hsome
    split at hsome
    · rw [← Option.some.inj hsome]
      rfl
    · -- the target was there before
      have hcopy : NewRecord s w.toReplaceTargetWrites.stores record := ⟨hnone, hsome⟩
      exact absurd hcopy (not_newRecord_copy hstored w.target_recorded rfl)
  | replaceFailed _ hallowed _ w hstores =>
    have hstored := resolveTarget_stored hallowed.resolved
    exact absurd hnew (not_newRecord_copy hstored w.target_recorded (by rw [hstores]; rfl))

theorem outcome_records_kept {d : ExecutionAdmissionDecision} (h : Outcome request s t (.ok d))
    (hreason : d.reason ≠ .ACCEPTED) : t.records = s.records := by
  cases h with
  | notAccepted _ haudited => exact haudited.records
  | order _ _ _ _ w _ hdecision => exact absurd (by rw [hdecision]; rfl) hreason
  | cancel _ _ w _ hdecision => exact absurd (by rw [hdecision]; rfl) hreason
  | replace _ _ _ w _ hdecision => exact absurd (by rw [hdecision]; rfl) hreason

theorem admit_records (request : ExecutionAdmissionRequest) (s : AdmissionStores digests) :
    (admitRequest request s).1.records = (admitIntent request s).1.records := by
  obtain ⟨decisions, hstores, -⟩ := admit_path request s
  rw [hstores]

/-- After any run of requests, a request that creates a record of the kind ENTRY permits new
entries, and a decision other than ACCEPTED leaves the records. -/
theorem admit_run_entries_permitted (s : AdmissionStores digests)
    (requests : List ExecutionAdmissionRequest) (request : ExecutionAdmissionRequest) :
    let before := run (fun s request => (admitRequest request s).1) s requests
    (∀ record, NewRecord before (admitRequest request before).1 record →
      record.order_intent.intent_kind = .ENTRY → EntriesPermitted request.order_flow_permission) ∧
    ∀ d, (admitRequest request before).2 = .ok d → d.reason ≠ .ACCEPTED →
      (admitRequest request before).1.records = before.records := by
  intro before
  have houtcome := admitIntent_outcome request before
  refine ⟨fun record hnew hkind => ?_, fun d hd hreason => ?_⟩
  · have hpath : NewRecord before (admitIntent request before).1 record := by
      rw [NewRecord, ← admit_records]
      exact hnew
    rcases outcome_newRecord houtcome hpath with ⟨intent, -, hintent, hallowed⟩ |
      ⟨intent, target, -, hintent, hallowed⟩
    · rw [hintent] at hkind
      exact (entry_allowed hkind _).mp hallowed
    · rw [hintent] at hkind
      exact entry_replacement_allowed hkind hallowed
  · obtain ⟨decisions, hstores, hdecision⟩ := admit_path request before
    rw [hdecision d hd] at houtcome
    rw [admit_records]
    exact outcome_records_kept houtcome hreason

end FuturesBot.Execution
