import FuturesBot.RecordChanges

/-! Whether the stored records pass their own checks. A copy of a record for a request on its order
is not checked again, and has the time of that request. -/
namespace FuturesBot.Execution

open StoreActions StoreActions.Action StepRuns Orders Checks InMemoryExecutionOrderRecordStore

variable {digests : Digests} {s t : AdmissionStores digests} {request : ExecutionAdmissionRequest}

/-! The checks of a record. -/

/-- The record passes the checks of its model. -/
def Sound (digests : Digests) (record : ExecutionOrderRecord) : Prop :=
  record.validate (digests.clientOrderId record.order_intent) = .ok ()

theorem validate_record_iff {id : ClientOrderId} {record : ExecutionOrderRecord} :
    record.validate id = .ok () ↔ checkAll record.checksBeforeSum = .ok () ∧
      record.validateSum = .ok () ∧ checkAll (record.checksAfterSum id) = .ok () := by
  -- unfolded as a function: applied to the record, the kernel would compute the checks
  obtain ⟨validate, hvalidate⟩ : ∃ f, f = ExecutionOrderRecord.validate := ⟨_, rfl⟩
  rw [← hvalidate]
  delta ExecutionOrderRecord.validate at hvalidate
  rw [hvalidate]
  beta_reduce
  generalize checkAll record.checksBeforeSum = before
  generalize record.validateSum = sum
  generalize checkAll (record.checksAfterSum id) = after
  cases before with
  | error e => simp
  | ok _ =>
    cases sum with
    | error e => simp
    | ok _ => simp

/-- The copy of a sound record is sound exactly when it is not older than the record. -/
theorem sound_copy_iff {target : ExecutionOrderRecord} (h : Sound digests target)
    {state : OrderLifecycleState} (hstate : state ≠ .ACCEPTED_BY_EXECUTION)
    (event_id : OrderLifecycleEventId) (updated_at : DateTimes.DateTime) :
    Sound digests (requestedCopy target state event_id updated_at) ↔
      target.created_at ≤ updated_at := by
  obtain ⟨hbefore, hsum, hafter⟩ := validate_record_iff.mp h
  rw [Sound, validate_record_iff]
  simp only [ExecutionOrderRecord.checksBeforeSum, ExecutionOrderRecord.checksAfterSum,
    checkAll_require, checkAll_nil, and_true] at hbefore hafter ⊢
  constructor
  · exact fun hcopy => hcopy.1.1
  · intro hcreated
    exact ⟨⟨hcreated, hbefore.2⟩, hsum, hafter.1, hafter.2.1, fun heq => absurd heq hstate⟩

/-! The records of a store. -/

def AllSound (digests : Digests) (records : InMemoryExecutionOrderRecordStore) : Prop :=
  ∀ record_id record, records.get? record_id = some record → Sound digests record

/-- Every stored record passes its checks. -/
def SoundRecords (s : AdmissionStores digests) : Prop := AllSound digests s.records

theorem allSound_upsert {records records' : InMemoryExecutionOrderRecordStore}
    {record : ExecutionOrderRecord} (h : AllSound digests records)
    (hupsert : records.upsert record = .ok records') (hrecord : Sound digests record) :
    AllSound digests records' := by
  intro record_id found hfound
  rw [get?_upsert hupsert] at hfound
  split at hfound
  · rwa [← Option.some.inj hfound]
  · exact h record_id found hfound

/-! What a request has to meet. -/

/-- A replace of the target by its own order goes through: its record is set anew. -/
def SetAnew (request : ExecutionAdmissionRequest) (s : AdmissionStores digests)
    (target : ExecutionOrderRecord) : Prop :=
  ∃ intent, ReplaceThrough request intent s target ∧
    digests.deterministicExecutionOrderRecordId intent.replacement_order = target.record_id

/-- A request that is let through to a record is not older than the record. -/
def InTime (s : AdmissionStores digests) (request : ExecutionAdmissionRequest) : Prop :=
  ∀ target, LetThrough request s target →
    target.created_at ≤ request.requested_at ∨ SetAnew request s target

/-- The record of the target is a copy with the time of the request, or is set anew. -/
theorem copy_or_setAnew {target : ExecutionOrderRecord} (h : LetThrough request s target) :
    (∃ state event_id, (admitRequest request s).1.records.get? target.record_id =
        some (requestedCopy target state event_id request.requested_at)) ∨
      SetAnew request s target := by
  rcases letThrough_written h with hwritten | ⟨intent, hthrough⟩
  · exact .inl hwritten
  by_cases hsame :
      digests.deterministicExecutionOrderRecordId intent.replacement_order = target.record_id
  · exact .inr ⟨intent, hthrough, hsame⟩
  · obtain ⟨_, w, d, hpath⟩ := replaceThrough_path hthrough
    refine .inl ⟨.REPLACE_REQUESTED, digests.eventId w.target_event, ?_⟩
    rw [admit_records, hpath]
    change w.records.get? target.record_id = _
    rw [w.get?, if_neg hsame, if_pos rfl]
    rfl

/-- Only a request in time leaves all records sound. -/
theorem inTime_of_sound (h : SoundRecords (admitRequest request s).1) : InTime s request := by
  intro target hthrough
  rcases copy_or_setAnew hthrough with ⟨state, event_id, hwritten⟩ | hanew
  · left
    obtain ⟨hbefore, -⟩ := validate_record_iff.mp (h _ _ hwritten)
    simp only [ExecutionOrderRecord.checksBeforeSum, checkAll_require] at hbefore
    exact hbefore.1
  · exact .inr hanew

/-- A request in time leaves sound records sound. -/
theorem sound_of_inTime (hs : SoundRecords s) (h : InTime s request) :
    SoundRecords (admitRequest request s).1 := by
  have hcopy : ∀ target, LetThrough request s target → target.created_at ≤ request.requested_at →
      ∀ (state : OrderLifecycleState) event_id, state ≠ .ACCEPTED_BY_EXECUTION →
        Sound digests (requestedCopy target state event_id request.requested_at) := by
    intro target hthrough htime state event_id hstate
    exact (sound_copy_iff (hs _ _ (letThrough_stored hthrough)) hstate _ _).mpr htime
  have hchanged := records_changed request s
  rw [SoundRecords]
  generalize (admitRequest request s).1.records = records at hchanged ⊢
  cases hchanged with
  | kept hkept =>
    rw [hkept]
    exact hs
  | created _ hvalid hrecorded => exact allSound_upsert hs hrecorded hvalid
  | @copied target state event_id hthrough hreplace hstate _ hrecorded =>
    apply allSound_upsert hs hrecorded
    rcases h target hthrough with htime | ⟨intent, hanew, -⟩
    · apply hcopy target hthrough htime
      rcases hstate with rfl | rfl <;> decide
    · exact absurd hanew (hreplace intent)
  | @replaced intent target _ hthrough _ w hrecords =>
    rw [hrecords]
    intro record_id record hrecord
    rw [w.get?] at hrecord
    split at hrecord
    · rw [← Option.some.inj hrecord]
      exact w.valid
    rename_i hother
    split at hrecord
    · -- the copy is still there, so that the replacement is another order
      rename_i htarget
      rw [← Option.some.inj hrecord]
      rcases h target hthrough.letThrough with htime | ⟨other, hanew, hsame⟩
      · exact hcopy target hthrough.letThrough htime _ _ (by decide)
      · obtain rfl := ExecutionIntent.replace.inj
          (hthrough.requested.symm.trans hanew.requested)
        exact absurd (hsame.trans htarget) hother
    · exact hs record_id record hrecord

/-- Sound records stay sound under exactly the requests in time. -/
theorem sound_admit_iff (hs : SoundRecords s) (request : ExecutionAdmissionRequest) :
    SoundRecords (admitRequest request s).1 ↔ InTime s request :=
  ⟨inTime_of_sound, sound_of_inTime hs⟩

/-- All records of a run are sound, after every request of it, exactly when every request of it is
in time where it comes. -/
theorem records_sound_iff (s : AdmissionStores digests) (hs : SoundRecords s)
    (requests : List ExecutionAdmissionRequest) :
    (∀ before, before <+: requests →
      SoundRecords (run (fun s request => (admitRequest request s).1) s before)) ↔
      Meets (fun s request => (admitRequest request s).1) InTime s requests := by
  apply always_iff_meets _ hs
  intro s request h
  exact sound_admit_iff h request

/-! A cancel after an entry to buy, in time and too early. -/

theorem empty_sound (keepsDecisions : Bool) :
    SoundRecords (AdmissionStores.empty digests keepsDecisions) := by
  intro record_id record hrecord
  cases hrecord

def cancelAt (requested_at : DateTimes.DateTime) : ExecutionAdmissionRequest :=
  { cancelRequest ⟨"BINANCE", .checked evaluates⟩ with requested_at }

def earlierTime : DateTimes.DateTime :=
  { sampleTime with second := 4, time_ok := by decide }

theorem early_cancel_unsound : ¬ ∀ before, before <+: [buyRequest, cancelAt earlierTime] →
    SoundRecords (run (fun s request => (admitRequest request s).1)
      (.empty sampleDigests false) before) := by
  intro h
  have hsound := h _ List.prefix_rfl
  change SoundRecords (admitRequest (cancelAt earlierTime) buyAdmitted).1 at hsound
  have htimes : ((admitRequest (cancelAt earlierTime) buyAdmitted).1.records.getByClientOrderId
      buyClientId).map (fun r => (r.created_at, r.updated_at)) =
        some (sampleTime, earlierTime) := by decide +kernel
  obtain ⟨record, hrecord, hrecord_times⟩ := Option.map_eq_some_iff.mp htimes
  obtain ⟨hcreated, hupdated⟩ := Prod.mk.inj hrecord_times
  obtain ⟨hbefore, -⟩ := validate_record_iff.mp (hsound _ _ (get?_of_client hrecord).1)
  simp only [ExecutionOrderRecord.checksBeforeSum, checkAll_require] at hbefore
  have hordered := hbefore.1
  rw [hcreated, hupdated] at hordered
  exact absurd hordered (by decide)

theorem plain_cancel_sound : SoundRecords (run (fun s request => (admitRequest request s).1)
    (.empty sampleDigests false) [buyRequest, cancelAt sampleTime]) := by
  refine (records_sound_iff (.empty sampleDigests false) (empty_sound false)
    [buyRequest, cancelAt sampleTime]).mpr ⟨fun _ h => h.elim, ?_, trivial⟩ _ List.prefix_rfl
  intro target hthrough
  left
  have hcreated : (buyAdmitted.records.getByClientOrderId buyClientId).map (·.created_at) =
      some sampleTime := by decide +kernel
  have hresolved : buyAdmitted.records.getByClientOrderId buyClientId = some target :=
    hthrough.1.resolved
  rw [hresolved] at hcreated
  exact le_of_eq (Option.some.inj hcreated)

end FuturesBot.Execution
