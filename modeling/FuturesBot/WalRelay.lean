import FuturesBot.ConsecutiveNumbers
import FuturesBot.Sidecars

/-! The WAL relay: a pass builds the next batch after the checkpoint, publishes it and saves
the checkpoint of what the broker acknowledged. -/
namespace FuturesBot

open DateTimes Dicts ConsecutiveNumbers

inductive RelayError where
  | maxRecordsNotPositive
  | gap (expected found : ℕ)
  | emptyBatch
  | mixedRunIds
  | batchNotAscending
  | batchGap (previous current : ℕ)
  /-- a model validator refused a value -/
  | validation
  /-- a call of a store failed -/
  | storeFailure
  /-- the process stopped -/
  | stopped
  deriving DecidableEq

def checkBatchOffsets : List ℕ → Except RelayError Unit
  | a :: b :: rest =>
    if b ≤ a then .error .batchNotAscending
    else if b ≠ a + 1 then .error (.batchGap a b)
    else checkBatchOffsets (b :: rest)
  | _ => .ok ()

theorem checkBatchOffsets_ok {l : List ℕ} : checkBatchOffsets l = .ok () ↔ Consecutive l := by
  induction l with
  | nil => exact ⟨fun _ => List.isChain_nil, fun _ => rfl⟩
  | cons a l ih =>
    cases l with
    | nil => exact ⟨fun _ => List.isChain_singleton a, fun _ => rfl⟩
    | cons b l =>
      rw [checkBatchOffsets, Consecutive, List.isChain_cons_cons]
      constructor
      · intro h
        split_ifs at h with hle hgap
        exact ⟨not_not.mp hgap, ih.mp h⟩
      · rintro ⟨rfl, h⟩
        rw [if_neg (by omega), if_neg (not_not.mpr rfl)]
        exact ih.mpr h

/-- An ordered, contiguous slice of WAL records prepared for publishing. -/
structure WalRelayBatch where
  run_id : RunId
  records : List JournalRecord
  nonempty : records ≠ []
  same_run : ∀ r ∈ records, r.run_id = run_id
  contiguous : Consecutive (records.map (·.wal_offset.value))

namespace WalRelayBatch

def of (run_id : RunId) (records : List JournalRecord) : Except RelayError WalRelayBatch :=
  if hempty : records = [] then .error .emptyBatch
  else if hrun : ∀ r ∈ records, r.run_id = run_id then
    match h : checkBatchOffsets (records.map (·.wal_offset.value)) with
    | .error e => .error e
    | .ok () => .ok ⟨run_id, records, hempty, hrun, checkBatchOffsets_ok.mp h⟩
  else .error .mixedRunIds

def first (batch : WalRelayBatch) : JournalRecord := batch.records.head batch.nonempty

def last (batch : WalRelayBatch) : JournalRecord := batch.records.getLast batch.nonempty

end WalRelayBatch

structure WalRelayPublishResult where
  run_id : RunId
  first_offset : WalOffset
  last_offset : WalOffset
  record_count : ℕ
  broker_ack : KafkaPublishAck
  valid : 0 < record_count ∧ first_offset.value ≤ last_offset.value ∧
    record_count = last_offset.value - first_offset.value + 1 ∧
    broker_ack.journal_offset = last_offset

structure LocalWalRelayService where
  relay_id : SidecarId
  topic : BrokerTopicId

namespace LocalWalRelayService

/-- The records after the checkpoint, or all of them. -/
def pendingRecords (all_records : List JournalRecord) :
    Option WalRelayCheckpoint → List JournalRecord
  | none => all_records
  | some checkpoint =>
    all_records.filter fun r => checkpoint.last_published_wal_offset.value < r.wal_offset.value

def checkRelayGap (checkpoint : Option WalRelayCheckpoint) (found : ℕ) : Except RelayError Unit :=
  match checkpoint with
  | none => .ok ()
  | some checkpoint =>
    if found ≠ checkpoint.last_published_wal_offset.value + 1 then
      .error (.gap (checkpoint.last_published_wal_offset.value + 1) found)
    else .ok ()

/-- The batch after a checkpoint that was loaded. -/
def buildBatchAfter (all_records : List JournalRecord) (run_id : RunId)
    (checkpoint : Option WalRelayCheckpoint) (max_records : ℤ) :
    Except RelayError (Option WalRelayBatch) :=
  match pendingRecords all_records checkpoint with
  | [] => .ok none
  | first :: rest =>
    match checkRelayGap checkpoint first.wal_offset.value with
    | .error e => .error e
    | .ok () =>
      match WalRelayBatch.of run_id ((first :: rest).take max_records.toNat) with
      | .error e => .error e
      | .ok batch => .ok (some batch)

def buildBatchAfterCheckpoint (service : LocalWalRelayService) (journal : List JournalRecord)
    (store : InMemoryWalRelayCheckpointStore) (load_fails : Bool) (max_records : ℤ) :
    Except RelayError (Option WalRelayBatch) :=
  if max_records ≤ 0 then .error .maxRecordsNotPositive
  else match journal with
    | [] => .ok none
    | record :: _ =>
      if load_fails then .error .storeFailure
      else
        buildBatchAfter journal record.run_id
          (InMemoryWalRelayCheckpointStore.load store service.relay_id record.run_id) max_records

def recordKey (record : JournalRecord) : TrimmedText :=
  match record.event.bot_id with
  | some bot_id => ⟨bot_id.value, bot_id.valid.1⟩
  | none => ⟨record.run_id.value, record.run_id.valid.1⟩

def kafkaRecord (service : LocalWalRelayService) (record : JournalRecord) : KafkaPublishRecord where
  journal_record := record
  topic := service.topic
  key := recordKey record

/-- The broker's part of `publish_batch`: the acknowledged result of the batch. -/
def publish (service : LocalWalRelayService) (broker : InMemoryBrokerPublisher)
    (batch : WalRelayBatch) :
    InMemoryBrokerPublisher × Except RelayError WalRelayPublishResult :=
  match broker.publishBatch (batch.records.map service.kafkaRecord) with
  | (broker, ack) =>
    if h : 0 < batch.records.length ∧ batch.first.wal_offset.value ≤ batch.last.wal_offset.value ∧
        batch.records.length = batch.last.wal_offset.value - batch.first.wal_offset.value + 1 ∧
        ack.journal_offset = batch.last.wal_offset then
      (broker, .ok ⟨batch.run_id, batch.first.wal_offset, batch.last.wal_offset,
        batch.records.length, ack, h⟩)
    else (broker, .error .validation)

def newRelayCheckpoint (service : LocalWalRelayService) (batch : WalRelayBatch)
    (kafka_offset : KafkaPartitionOffset) (updated_at : DateTime) : WalRelayCheckpoint where
  relay_id := service.relay_id
  run_id := batch.run_id
  last_published_wal_offset := batch.last.wal_offset
  last_published_event_id := batch.last.event.event_id
  kafka_offset
  updated_at

/-- How a save of the relay checkpoint ends. -/
inductive SaveFault where
  | none
  | before
  | after
  deriving DecidableEq, Repr

/-- The last part of `publish_batch`: an acknowledged batch saves the checkpoint. The clock
gives no time when it gives a naive one, which the checkpoint refuses. -/
def saveCheckpoint (service : LocalWalRelayService) (store : InMemoryWalRelayCheckpointStore)
    (now : Option DateTime) (fault : SaveFault) (batch : WalRelayBatch) (ack : KafkaPublishAck) :
    InMemoryWalRelayCheckpointStore × Except RelayError Unit :=
  match ack.kafka_offset with
  | none => (store, .ok ())
  | some kafka_offset =>
    match now with
    | none => (store, .error .validation)
    | some now =>
      let saved := InMemoryWalRelayCheckpointStore.save store
        (service.newRelayCheckpoint batch kafka_offset now)
      match fault with
      | .none => (saved, .ok ())
      | .before => (store, .error .storeFailure)
      | .after => (saved, .error .storeFailure)

/-- What may go wrong in a pass, and the clock's time. -/
structure PassFaults where
  load_fails : Bool
  broker_unavailable : Bool
  /-- the process stops after the broker has the batch -/
  stops : Bool
  now : Option DateTime
  save : SaveFault

/-- `relay_once`. -/
def relayOnce (service : LocalWalRelayService) (journal : List JournalRecord)
    (broker : InMemoryBrokerPublisher) (store : InMemoryWalRelayCheckpointStore)
    (faults : PassFaults) (max_records : ℤ) :
    (InMemoryBrokerPublisher × InMemoryWalRelayCheckpointStore) ×
      Except RelayError (Option WalRelayPublishResult) :=
  match service.buildBatchAfterCheckpoint journal store faults.load_fails max_records with
  | .error e => ((broker, store), .error e)
  | .ok none => ((broker, store), .ok none)
  | .ok (some batch) =>
    match service.publish { broker with fail_next := broker.fail_next || faults.broker_unavailable }
      batch with
    | (broker, .error e) => ((broker, store), .error e)
    | (broker, .ok result) =>
      if faults.stops then ((broker, store), .error .stopped)
      else match service.saveCheckpoint store faults.now faults.save batch result.broker_ack with
        | (store, .error e) => ((broker, store), .error e)
        | (store, .ok ()) => ((broker, store), .ok (some result))

end LocalWalRelayService

/-! The slices of a WAL. -/

/-- The journal of one run: its records count up from offset 0. -/
structure WalContent where
  run_id : RunId
  records : List JournalRecord
  same_run : ∀ r ∈ records, r.run_id = run_id
  numbered : records.map (·.wal_offset.value) = List.range' 0 records.length

namespace WalContent

variable (wal : WalContent)

theorem offset_getElem {k : ℕ} (h : k < wal.records.length) :
    (wal.records[k]).wal_offset.value = k := by
  have hk := congrArg (·[k]?) wal.numbered
  simp only [List.getElem?_map, List.getElem?_eq_getElem h, Option.map_some,
    List.getElem?_range' h, Nat.zero_add, Nat.one_mul, Option.some.injEq] at hk
  exact hk

theorem getElem?_offset {r : JournalRecord} (h : r ∈ wal.records) :
    wal.records[r.wal_offset.value]? = some r := by
  obtain ⟨k, hk, rfl⟩ := List.getElem_of_mem h
  rw [wal.offset_getElem hk, List.getElem?_eq_getElem hk]

theorem offset_lt {r : JournalRecord} (h : r ∈ wal.records) :
    r.wal_offset.value < wal.records.length :=
  (List.getElem?_eq_some_iff.mp (wal.getElem?_offset h)).1

/-- The records from an offset on are those whose offset is that large. -/
theorem filter_offsets (n : ℕ) :
    wal.records.filter (fun r => n ≤ r.wal_offset.value) = wal.records.drop n := by
  have hsplit := List.take_append_drop n wal.records
  have hkeep : ∀ r ∈ wal.records.drop n, decide (n ≤ r.wal_offset.value) = true := by
    intro r hr
    obtain ⟨k, hk, rfl⟩ := List.getElem_of_mem hr
    rw [List.getElem_drop, wal.offset_getElem]
    exact decide_eq_true (by omega)
  have hdrop : ∀ r ∈ wal.records.take n, ¬ decide (n ≤ r.wal_offset.value) = true := by
    intro r hr
    obtain ⟨k, hk, rfl⟩ := List.getElem_of_mem hr
    rw [List.getElem_take, wal.offset_getElem, decide_eq_true_eq]
    rw [List.length_take] at hk
    omega
  conv_lhs => rw [← hsplit]
  rw [List.filter_append, List.filter_eq_nil_iff.mpr hdrop, List.filter_eq_self.mpr hkeep,
    List.nil_append]

theorem slice_contiguous (n m : ℕ) :
    Consecutive (((wal.records.drop n).take m).map (·.wal_offset.value)) := by
  rw [List.map_take, List.map_drop, wal.numbered]
  have h := consecutive_range' 0 wal.records.length
  exact List.IsChain.take (List.IsChain.drop h n) m

end WalContent

/-- The offset a pass starts from. -/
def afterCheckpoint : Option WalRelayCheckpoint → ℕ
  | none => 0
  | some checkpoint => checkpoint.last_published_wal_offset.value + 1

namespace LocalWalRelayService

theorem pendingRecords_eq (wal : WalContent) (checkpoint : Option WalRelayCheckpoint) :
    pendingRecords wal.records checkpoint = wal.records.drop (afterCheckpoint checkpoint) := by
  cases checkpoint with
  | none => rfl
  | some checkpoint =>
    rw [← wal.filter_offsets]
    rfl

/-- The batch of a pass is the slice of the WAL after the checkpoint that the pass loaded. -/
theorem buildBatchAfter_slice {wal : WalContent} {run_id : RunId}
    {checkpoint : Option WalRelayCheckpoint} {max_records : ℤ} {batch : WalRelayBatch}
    (h : buildBatchAfter wal.records run_id checkpoint max_records = .ok (some batch)) :
    batch.run_id = run_id ∧
      batch.records = (wal.records.drop (afterCheckpoint checkpoint)).take max_records.toNat := by
  rw [buildBatchAfter, pendingRecords_eq] at h
  split at h
  · exact absurd h (by simp)
  · rename_i first rest hpending
    split at h
    · exact absurd h (by simp)
    · rw [← hpending] at h
      split at h
      · exact absurd h (by simp)
      · rename_i batch' hbatch
        obtain rfl := Option.some.inj (Except.ok.inj h)
        rw [WalRelayBatch.of] at hbatch
        split_ifs at hbatch
        split at hbatch
        · exact absurd hbatch (by simp)
        · obtain rfl := Except.ok.inj hbatch
          exact ⟨rfl, rfl⟩

theorem buildBatch_slice {service : LocalWalRelayService} {wal : WalContent}
    {store : InMemoryWalRelayCheckpointStore} {load_fails : Bool} {max_records : ℤ}
    {batch : WalRelayBatch}
    (h : service.buildBatchAfterCheckpoint wal.records store load_fails max_records =
      .ok (some batch)) :
    batch.run_id = wal.run_id ∧ batch.records =
      (wal.records.drop (afterCheckpoint (InMemoryWalRelayCheckpointStore.load store
        service.relay_id wal.run_id))).take max_records.toNat := by
  rw [buildBatchAfterCheckpoint.eq_def] at h
  split at h
  · exact absurd h (by simp)
  · split at h
    · exact absurd h (by simp)
    · rename_i record rest hrecords
      split at h
      · exact absurd h (by simp)
      · have hrun : record.run_id = wal.run_id :=
          wal.same_run record (by rw [hrecords]; exact List.mem_cons_self)
        rw [hrun] at h
        exact buildBatchAfter_slice h

end LocalWalRelayService

end FuturesBot
