import FuturesBot.RecordChanges

/-! Whether an admission moves a stored record only along the lifecycle, and never takes back what
is filled. A replacement whose order has a record already sets that record anew. -/
namespace FuturesBot.Execution

open StepRuns Orders InMemoryExecutionOrderRecordStore

variable {digests : Digests} {s t : AdmissionStores digests} {request : ExecutionAdmissionRequest}

/-- A record moves along an allowed transition, or stays in its state, and no fill is lost. -/
structure Forward (record record' : ExecutionOrderRecord) : Prop where
  state : record'.lifecycle_state = record.lifecycle_state ∨
    record'.lifecycle_state ∈ allowedTransitions record.lifecycle_state
  filled : record.cumulative_filled_quantity.value ≤ record'.cumulative_filled_quantity.value

theorem Forward.refl (record : ExecutionOrderRecord) : Forward record record :=
  ⟨.inl rfl, le_rfl⟩

/-- Every stored record is kept, or moves forward. -/
def AllForward (records records' : InMemoryExecutionOrderRecordStore) : Prop :=
  ∀ record_id record, records.get? record_id = some record →
    ∃ record', records'.get? record_id = some record' ∧ Forward record record'

def RecordsForward (s t : AdmissionStores digests) : Prop := AllForward s.records t.records

/-- Nothing is filled, and the order has not left for the venue. -/
structure NotBegun (record : ExecutionOrderRecord) : Prop where
  state : record.lifecycle_state = .CREATED ∨ record.lifecycle_state = .ACCEPTED_BY_EXECUTION
  filled : record.cumulative_filled_quantity.value ≤ 0

/-- A replace that goes through has no record under the id of its replacement, or one whose order
has not begun. -/
def SparesBegun (request : ExecutionAdmissionRequest) (s : AdmissionStores digests) : Prop :=
  ∀ intent target, ReplaceThrough request intent s target →
    ∀ record ∈ s.records.get?
      (digests.deterministicExecutionOrderRecordId intent.replacement_order), NotBegun record

theorem accepted_allowed_iff (state : OrderLifecycleState) :
    .ACCEPTED_BY_EXECUTION ∈ allowedTransitions state ↔ state = .CREATED := by
  cases state <;> decide

/-- To a new record only a record goes forward whose order has not begun. -/
theorem forward_new_iff {record new : ExecutionOrderRecord}
    (hstate : new.lifecycle_state = .ACCEPTED_BY_EXECUTION)
    (hfilled : new.cumulative_filled_quantity.value = 0) :
    Forward record new ↔ NotBegun record := by
  constructor
  · rintro ⟨hmoved, hkept⟩
    rw [hstate, accepted_allowed_iff] at hmoved
    rw [hfilled] at hkept
    exact ⟨hmoved.symm.imp id Eq.symm, hkept⟩
  · rintro ⟨hnew, hnone⟩
    refine ⟨?_, by rw [hfilled]; exact hnone⟩
    rw [hstate, accepted_allowed_iff]
    exact hnew.symm.imp Eq.symm id

theorem ReplaceTargetWrites.forward_record_iff {intent : ReplaceOrderIntent}
    {permission : OrderIntentPermissionDecision} {target record : ExecutionOrderRecord}
    {gate_decision : Option ExecutionCapabilityDecision}
    (w : ReplaceTargetWrites request intent permission target gate_decision s) :
    Forward record w.record ↔ NotBegun record := by
  apply forward_new_iff rfl
  exact (DecimalNumbers.Decimal.value_zero_iff _).mpr rfl

theorem forward_copy {target : ExecutionOrderRecord} {state : OrderLifecycleState}
    (h : state ∈ allowedTransitions target.lifecycle_state) (event_id : OrderLifecycleEventId)
    (updated_at : DateTimes.DateTime) :
    Forward target (requestedCopy target state event_id updated_at) :=
  ⟨.inr h, le_rfl⟩

/-- Setting a record moves all records forward if it does so with the one under its id. -/
theorem allForward_upsert {records records' : InMemoryExecutionOrderRecordStore}
    {record : ExecutionOrderRecord} (hupsert : records.upsert record = .ok records')
    (h : ∀ existing ∈ records.get? record.record_id, Forward existing record) :
    AllForward records records' := by
  intro record_id existing hexisting
  rw [get?_upsert hupsert]
  split
  · rename_i hid
    rw [← hid] at hexisting
    exact ⟨record, rfl, h existing hexisting⟩
  · exact ⟨existing, hexisting, Forward.refl existing⟩

/-- An admission moves all records forward exactly when it spares the orders that have begun. -/
theorem recordsForward_iff (s : AdmissionStores digests) (request : ExecutionAdmissionRequest) :
    RecordsForward s (admitRequest request s).1 ↔ SparesBegun request s := by
  constructor
  · intro h intent target hthrough record hrecord
    obtain ⟨gate_decision, w, d, hpath⟩ := replaceThrough_path hthrough
    obtain ⟨record', hrecord', hforward⟩ := h _ record hrecord
    rw [admit_records, hpath] at hrecord'
    change w.records.get? _ = _ at hrecord'
    rw [w.get?, if_pos rfl] at hrecord'
    rw [← Option.some.inj hrecord'] at hforward
    exact w.forward_record_iff.mp hforward
  · intro h
    have hchanged := records_changed request s
    rw [RecordsForward]
    generalize (admitRequest request s).1.records = records at hchanged ⊢
    cases hchanged with
    | kept hkept =>
      rw [hkept]
      exact fun _ record hrecord => ⟨record, hrecord, Forward.refl record⟩
    | created hnew _ hrecorded =>
      apply allForward_upsert hrecorded
      intro existing hexisting
      rw [get?_none_of_client hrecorded hnew] at hexisting
      cases hexisting
    | @copied target state event_id hthrough _ _ hallowed hrecorded =>
      apply allForward_upsert hrecorded
      intro existing hexisting
      change s.records.get? target.record_id = some existing at hexisting
      rw [letThrough_stored hthrough] at hexisting
      rw [← Option.some.inj hexisting]
      exact forward_copy hallowed event_id request.requested_at
    | @replaced intent target _ hthrough hallowed w hrecords =>
      rw [hrecords]
      intro record_id record hrecord
      rw [w.get?]
      split
      · rename_i hid
        rw [← hid] at hrecord
        refine ⟨_, rfl, ?_⟩
        exact w.forward_record_iff.mpr (h intent target hthrough record hrecord)
      split
      · rename_i htarget
        rw [← htarget, letThrough_stored hthrough.letThrough] at hrecord
        rw [← Option.some.inj hrecord]
        exact ⟨_, rfl, forward_copy hallowed _ request.requested_at⟩
      · exact ⟨record, hrecord, Forward.refl record⟩

/-! Runs of admissions, with any updates of the stores between them. -/

inductive LifecycleAction (digests : Digests) where
  | admitted (request : ExecutionAdmissionRequest)
  | updated (update : AdmissionStores digests → AdmissionStores digests)

def LifecycleAction.step (s : AdmissionStores digests) :
    LifecycleAction digests → AdmissionStores digests
  | .admitted request => (admitRequest request s).1
  | .updated update => update s

/-- What is asked of an admission in the stores where it comes. -/
def LifecycleAction.Spares (s : AdmissionStores digests) : LifecycleAction digests → Prop
  | .admitted request => SparesBegun request s
  | .updated _ => True

/-- The admissions of a run all move the records forward exactly when each of them spares the
orders that have begun. -/
theorem run_forward_iff (s : AdmissionStores digests) (actions : List (LifecycleAction digests)) :
    (∀ before request, before ++ [.admitted request] <+: actions →
      RecordsForward (run LifecycleAction.step s before)
        (admitRequest request (run LifecycleAction.step s before)).1) ↔
      Meets LifecycleAction.step LifecycleAction.Spares s actions := by
  rw [meets_prefix_iff]
  constructor
  · intro h before action hbefore
    cases action with
    | admitted request => exact (recordsForward_iff _ request).mp (h before request hbefore)
    | updated update => trivial
  · intro h before request hbefore
    exact (recordsForward_iff _ request).mpr (h before _ hbefore)

/-! A replace of a partly filled order by the same order. -/

/-- The record of an entry to buy one, of which a half is filled. -/
def halfFilled : ExecutionOrderRecord where
  record_id := sampleDigests.deterministicExecutionOrderRecordId (marketEntry .BUY)
  order_intent := marketEntry .BUY
  lifecycle_state := .PARTIALLY_FILLED
  client_order_id := buyClientId
  venue_order_id := none
  cumulative_filled_quantity := ⟨false, 5, -1⟩
  remaining_quantity := some ⟨false, 5, -1⟩
  average_fill_price := none
  last_lifecycle_event_id := none
  readiness_proof_id := none
  created_at := sampleTime
  updated_at := sampleTime

/-- The stores with this record and nothing else. -/
def halfFilledStores : AdmissionStores sampleDigests :=
  { AdmissionStores.empty sampleDigests false with
    records := InMemoryExecutionOrderRecordStore.set
      (show InMemoryExecutionOrderRecordStore.empty.Accepts halfFilled by decide) }

def replaceRequest : ExecutionAdmissionRequest :=
  plainRequest (.replace {
    target_order_intent_id := none
    target_client_order_id := some buyClientId
    target_venue_order_id := none
    target_intent_kind := .ENTRY
    replacement_order := marketEntry .BUY
    replace_reason := ⟨"operator", .checked evaluates⟩
    created_at := sampleTime
    has_target := .inr (.inl rfl)
    same_class := by decide })

theorem half_filled_reset : ¬ ∀ before request, before ++ [.admitted request] <+:
    [(.admitted replaceRequest : LifecycleAction sampleDigests)] →
      RecordsForward (run LifecycleAction.step halfFilledStores before)
        (admitRequest request (run LifecycleAction.step halfFilledStores before)).1 := by
  intro h
  obtain ⟨record, hrecord, hforward⟩ := h [] replaceRequest List.prefix_rfl
    halfFilled.record_id halfFilled (by decide)
  have hreset : ((admitRequest replaceRequest halfFilledStores).1.records.get?
      halfFilled.record_id).map (·.lifecycle_state) = some .ACCEPTED_BY_EXECUTION := by
    decide +kernel
  change (admitRequest replaceRequest halfFilledStores).1.records.get? _ = _ at hrecord
  rw [hrecord] at hreset
  have hstate : record.lifecycle_state = .ACCEPTED_BY_EXECUTION := Option.some.inj hreset
  have hmoved := hforward.state
  rw [hstate] at hmoved
  exact absurd hmoved (by decide)

end FuturesBot.Execution
