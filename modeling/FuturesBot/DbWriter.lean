import FuturesBot.ConsecutiveNumbers
import FuturesBot.Sidecars

/-! The database writer: the in-memory store of committed events, and the service that commits
consumed batches and advances its checkpoints once the commit went through. A call of a store
may fail, before or after its effect. -/
namespace FuturesBot

open TextLines DateTimes Dicts ConsecutiveNumbers

namespace KafkaConsumedRecord

def runId (r : KafkaConsumedRecord) : RunId := r.journal_record.run_id

def walOffset (r : KafkaConsumedRecord) : ℕ := r.journal_record.wal_offset.value

def eventId (r : KafkaConsumedRecord) : EventId := r.journal_record.event.event_id

end KafkaConsumedRecord

/-! `_validate_batch`, the same in the service and in the store. -/

def validateBatchScope (first : KafkaConsumedRecord) :
    List KafkaConsumedRecord → Except DbWriterError Unit
  | [] => .ok ()
  | r :: rs =>
    if r.runId ≠ first.runId then .error .mixedRunIds
    else if r.topic ≠ first.topic then .error .mixedTopics
    else if r.kafka_offset.partition ≠ first.kafka_offset.partition then .error .mixedPartitions
    else validateBatchScope first rs

def validateSortedContiguous (values : List ℕ) (unsorted gap : DbWriterError) :
    Except DbWriterError Unit :=
  if values ≠ values.insertionSort (· ≤ ·) then .error unsorted
  else if ¬ Consecutive values then .error gap
  else .ok ()

def validateBatch (records : List KafkaConsumedRecord) : Except DbWriterError Unit :=
  match records with
  | [] => .error .emptyBatch
  | first :: _ =>
    match validateBatchScope first records with
    | .error e => .error e
    | .ok () =>
      match validateSortedContiguous (records.map (·.walOffset)) .walOffsetsUnsorted
        .walOffsetsGap with
      | .error e => .error e
      | .ok () =>
        validateSortedContiguous (records.map (·.kafka_offset.offset)) .brokerOffsetsUnsorted
          .brokerOffsetsGap

/-- Two records of one run, topic and partition. -/
def SameScope (a b : KafkaConsumedRecord) : Prop :=
  b.runId = a.runId ∧ b.topic = a.topic ∧ b.kafka_offset.partition = a.kafka_offset.partition

structure ValidBatch (records : List KafkaConsumedRecord) : Prop where
  nonempty : records ≠ []
  scope : ∀ first ∈ records.head?, ∀ r ∈ records, SameScope first r
  wal : Consecutive (records.map (·.walOffset))
  broker : Consecutive (records.map (·.kafka_offset.offset))

theorem validateBatchScope_ok {first : KafkaConsumedRecord} {records : List KafkaConsumedRecord} :
    validateBatchScope first records = .ok () ↔ ∀ r ∈ records, SameScope first r := by
  induction records with
  | nil => simp [validateBatchScope]
  | cons r rs ih =>
    rw [validateBatchScope, List.forall_mem_cons, ← ih]
    constructor
    · intro h
      split_ifs at h with hrun htopic hpart
      exact ⟨⟨not_not.mp hrun, not_not.mp htopic, not_not.mp hpart⟩, h⟩
    · rintro ⟨⟨hrun, htopic, hpart⟩, h⟩
      rw [if_neg (not_not.mpr hrun), if_neg (not_not.mpr htopic), if_neg (not_not.mpr hpart), h]

theorem validateSortedContiguous_ok {values : List ℕ} {unsorted gap : DbWriterError} :
    validateSortedContiguous values unsorted gap = .ok () ↔ Consecutive values := by
  rw [validateSortedContiguous]
  constructor
  · intro h
    split_ifs at h with _ hchain
    exact hchain
  · intro h
    rw [h.insertionSort_eq, if_neg (not_not.mpr rfl), if_neg (not_not.mpr h)]

theorem validateBatch_ok {records : List KafkaConsumedRecord} :
    validateBatch records = .ok () ↔ ValidBatch records := by
  cases records with
  | nil => exact ⟨fun h => absurd h (by simp [validateBatch]), fun h => absurd rfl h.nonempty⟩
  | cons first rs =>
    rw [validateBatch]
    constructor
    · intro h
      split at h
      · exact absurd h (by simp)
      · rename_i hscope
        split at h
        · exact absurd h (by simp)
        · rename_i hwal
          refine ⟨by simp, ?_, validateSortedContiguous_ok.mp hwal,
            validateSortedContiguous_ok.mp h⟩
          rintro first' ⟨⟩
          exact validateBatchScope_ok.mp hscope
    · rintro ⟨-, hscope, hwal, hbroker⟩
      rw [validateBatchScope_ok.mpr (hscope first rfl), validateSortedContiguous_ok.mpr hwal]
      exact validateSortedContiguous_ok.mpr hbroker

/-! The committed-event store. -/

def recordKey (r : KafkaConsumedRecord) : String × ℕ := (r.runId.value, r.walOffset)

structure InMemoryCommittedEventStore where
  records : KeyedDict recordKey
  fail_next_commit : Bool

namespace InMemoryCommittedEventStore

def empty (fail_next_commit : Bool) : InMemoryCommittedEventStore := ⟨.empty, fail_next_commit⟩

def stage (store : InMemoryCommittedEventStore) (staged : KeyedDict recordKey)
    (record : KafkaConsumedRecord) : Except DbWriterError (KeyedDict recordKey) :=
  match (store.records.get? (recordKey record)).or (staged.get? (recordKey record)) with
  | some existing =>
    if existing.eventId ≠ record.eventId then
      .error (.eventConflict record.walOffset existing.eventId record.eventId)
    else if existing.kafka_offset ≠ record.kafka_offset then
      .error (.brokerOffsetConflict record.walOffset (some existing.kafka_offset)
        record.kafka_offset)
    else .ok staged
  | none => .ok (staged.put record)

def stageAll (store : InMemoryCommittedEventStore) (staged : KeyedDict recordKey) :
    List KafkaConsumedRecord → Except DbWriterError (KeyedDict recordKey)
  | [] => .ok staged
  | record :: records =>
    match store.stage staged record with
    | .error e => .error e
    | .ok staged => store.stageAll staged records

def commitRecords (store : InMemoryCommittedEventStore) (records : List KafkaConsumedRecord) :
    InMemoryCommittedEventStore × Except DbWriterError (List JournalRecord) :=
  match validateBatch records with
  | .error e => (store, .error e)
  | .ok () =>
    if store.fail_next_commit then
      ({ store with fail_next_commit := false }, .error .simulatedCommitFailure)
    else
      match store.stageAll .empty records with
      | .error e => (store, .error e)
      | .ok staged =>
        ({ store with records := store.records.update staged },
          .ok (records.map (·.journal_record)))

def committedRecords (store : InMemoryCommittedEventStore) (run_id : RunId) :
    List JournalRecord :=
  ((store.records.values.filter fun r => r.runId.value = run_id.value).insertionSort
    fun a b => a.walOffset ≤ b.walOffset).map (·.journal_record)

def hasCommitted (store : InMemoryCommittedEventStore) (run_id : RunId) (wal_offset : ℕ) : Bool :=
  (store.records.get? (run_id.value, wal_offset)).isSome

def committedKafkaOffset (store : InMemoryCommittedEventStore) (run_id : RunId)
    (wal_offset : ℕ) : Option KafkaPartitionOffset :=
  (store.records.get? (run_id.value, wal_offset)).map (·.kafka_offset)

end InMemoryCommittedEventStore

/-! The service. -/

structure LocalDbWriterService where
  consumer_id : ConsumerId
  is_required_for_wal_gc : Bool

/-- The stores a service is given; the last two may be missing. -/
structure DbWriterStores where
  db_store : InMemoryCommittedEventStore
  checkpoint_store : InMemoryDbWriterCheckpointStore
  required_checkpoint_writer : Option InMemoryRequiredConsumerCheckpointStore
  broker_cursor_store : Option InMemoryBrokerConsumerCursorStore

/-- How a call of a store ends: as the store says, with an exception before its effect, or
with one after it. -/
inductive CallFault where
  | none
  | before
  | after
  deriving DecidableEq, Repr

/-- The faults of the store calls that one call of the service makes. -/
structure StoreFaults where
  load : Bool
  committed_records : Bool
  committed_kafka_offset : ℕ → Bool
  commit : CallFault
  save : CallFault
  upsert : CallFault
  cursor : CallFault

def StoreFaults.never : StoreFaults := ⟨false, false, fun _ => false, .none, .none, .none, .none⟩

/-- A call that changes a store, under a fault. -/
def CallFault.apply {σ α : Type} (fault : CallFault) (store : σ)
    (result : σ × Except DbWriterError α) : σ × Except DbWriterError α :=
  match fault with
  | .none => result
  | .before => (store, .error .storeFailure)
  | .after => (result.1, .error .storeFailure)

/-- A store that an exception leaves unchanged. -/
def orUnchanged {σ : Type} (store : σ) (result : Except DbWriterError σ) :
    σ × Except DbWriterError Unit :=
  match result with
  | .ok store' => (store', .ok ())
  | .error e => (store, .error e)

/-- What a call is to do once the batch has been checked against the checkpoint. -/
inductive BatchPlan where
  | upToDate (checkpoint : DbWriterCheckpoint)
  | commit (records_to_commit : List KafkaConsumedRecord)

namespace LocalDbWriterService

/-- `committed_by_offset`, the last record winning. -/
def committedByOffset (committed : List JournalRecord) (wal_offset : ℕ) : Option JournalRecord :=
  committed.reverse.find? fun r => r.wal_offset.value = wal_offset

def checkDuplicates (stores : DbWriterStores) (faults : StoreFaults)
    (checkpoint : DbWriterCheckpoint) (committed : List JournalRecord) :
    List KafkaConsumedRecord → Except DbWriterError Unit
  | [] => .ok ()
  | r :: rs =>
    if checkpoint.last_committed_wal_offset.value < r.walOffset then
      checkDuplicates stores faults checkpoint committed rs
    else
      match committedByOffset committed r.walOffset with
      | none => .error (.notCommitted r.walOffset)
      | some existing =>
        if existing.event.event_id ≠ r.eventId then
          .error (.eventConflict r.walOffset existing.event.event_id r.eventId)
        else if faults.committed_kafka_offset r.walOffset then .error .storeFailure
        else if stores.db_store.committedKafkaOffset checkpoint.run_id r.walOffset ≠
            some r.kafka_offset then
          .error (.brokerOffsetConflict r.walOffset
            (stores.db_store.committedKafkaOffset checkpoint.run_id r.walOffset) r.kafka_offset)
        else checkDuplicates stores faults checkpoint committed rs

def validateCheckpointDuplicates (stores : DbWriterStores) (faults : StoreFaults)
    (checkpoint : DbWriterCheckpoint) (records : List KafkaConsumedRecord) :
    Except DbWriterError Unit :=
  if faults.committed_records then .error .storeFailure
  else checkDuplicates stores faults checkpoint
    (stores.db_store.committedRecords checkpoint.run_id) records

/-- The first part of `commit_consumed_batch`: what is left to commit. -/
def planBatch (service : LocalDbWriterService) (stores : DbWriterStores) (faults : StoreFaults)
    (run_id : RunId) (records : List KafkaConsumedRecord) : Except DbWriterError BatchPlan :=
  if faults.load then .error .storeFailure
  else match stores.checkpoint_store.load service.consumer_id run_id with
    | none => .ok (.commit records)
    | some checkpoint =>
      match validateCheckpointDuplicates stores faults checkpoint records with
      | .error e => .error e
      | .ok () =>
        match records.filter fun r => checkpoint.last_committed_wal_offset.value < r.walOffset with
        | [] => .ok (.upToDate checkpoint)
        | first :: rest =>
          if first.walOffset ≠ checkpoint.last_committed_wal_offset.value + 1 then
            .error (.gap (checkpoint.last_committed_wal_offset.value + 1) first.walOffset)
          else .ok (.commit (first :: rest))

def numberText (n : ℕ) : String := String.ofList (JsonText.natText n)

def transactionText (consumer_id : ConsumerId) (run_id : RunId) (last_offset : ℕ) : String :=
  "local-dbwriter:" ++ consumer_id.value ++ ":" ++ run_id.value ++ ":" ++ numberText last_offset

def batchText (consumer_id : ConsumerId) (run_id : RunId) (first_offset last_offset : ℕ) : String :=
  "dbw-" ++ consumer_id.value ++ "-" ++ run_id.value ++ "-" ++ numberText first_offset ++ "-" ++
    numberText last_offset

def sidecarText (consumer_id : ConsumerId) : String := "db-writer:" ++ consumer_id.value

theorem numberText_last (n : ℕ) :
    ∃ d, (numberText n).toList.getLast? = some d ∧ isSpace d = false := by
  have hne := JsonText.natText_ne_nil n
  refine ⟨(JsonText.natText n).getLast hne, ?_, ?_⟩
  · rw [numberText, String.toList_ofList, List.getLast?_eq_some_getLast hne]
  · exact isDigit_not_space (JsonText.natText_isDigit n _ (List.getLast_mem hne))

theorem transactionText_trimmed (consumer_id : ConsumerId) (run_id : RunId) (last_offset : ℕ) :
    Trimmed (transactionText consumer_id run_id last_offset).toList := by
  have hstart : "local-dbwriter:".toList.head? = some 'l' := by decide
  obtain ⟨d, hd, hspace⟩ := numberText_last last_offset
  apply trimmed_append (c := 'l') ?_ hd (by decide) hspace
  exact head?_append_text (head?_append_text (head?_append_text (head?_append_text hstart)))

def newCheckpoint (service : LocalDbWriterService) (run_id : RunId) (first_offset : ℕ)
    (last_record : JournalRecord) (kafka_offset : KafkaPartitionOffset) (saved_at : DateTime) :
    Option DbWriterCheckpoint :=
  (DomainId.of (batchText service.consumer_id run_id first_offset
    last_record.wal_offset.value)).map fun batch_id =>
    { consumer_id := service.consumer_id
      run_id
      last_committed_wal_offset := last_record.wal_offset
      last_committed_event_id := last_record.event.event_id
      kafka_offset
      db_transaction_id := ⟨_, transactionText_trimmed service.consumer_id run_id
        last_record.wal_offset.value⟩
      batch_id
      updated_at := saved_at }

def newSidecarCheckpoint (service : LocalDbWriterService) (run_id : RunId)
    (last_record : JournalRecord) (saved_at : DateTime) : Option SidecarCheckpoint :=
  (DomainId.of (sidecarText service.consumer_id)).map fun sidecar_id =>
    { sidecar_id
      sidecar_kind := .DB_WRITER
      run_id
      last_committed_wal_offset := last_record.wal_offset
      updated_at := saved_at
      is_required_for_wal_gc := service.is_required_for_wal_gc
      relay_not_required := fun h => absurd h (by decide) }

def newCursor (service : LocalDbWriterService) (run_id : RunId) (last_record : JournalRecord)
    (kafka_offset : KafkaPartitionOffset) (saved_at : DateTime) : BrokerConsumerCursor where
  consumer_id := service.consumer_id
  kafka_offset
  last_committed_run_id := run_id
  last_committed_wal_offset := last_record.wal_offset
  last_committed_event_id := last_record.event.event_id
  updated_at := saved_at

/-- The last part: the cursor, when there is a store for it. -/
def saveCursor (stores : DbWriterStores) (faults : StoreFaults) (cursor : BrokerConsumerCursor)
    (saved_checkpoint : DbWriterCheckpoint) :
    DbWriterStores × Except DbWriterError (Option DbWriterCheckpoint) :=
  match stores.broker_cursor_store with
  | none => (stores, .ok (some saved_checkpoint))
  | some store =>
    match faults.cursor.apply store (orUnchanged store
      (InMemoryBrokerConsumerCursorStore.save store cursor)) with
    | (store, .error e) => ({ stores with broker_cursor_store := some store }, .error e)
    | (store, .ok ()) =>
      ({ stores with broker_cursor_store := some store }, .ok (some saved_checkpoint))

/-- The required-consumer checkpoint, when there is a writer for it, and what follows. -/
def upsertRequired (service : LocalDbWriterService) (stores : DbWriterStores)
    (faults : StoreFaults) (run_id : RunId) (last_record : JournalRecord)
    (kafka_offset : KafkaPartitionOffset) (saved_at : DateTime)
    (saved_checkpoint : DbWriterCheckpoint) :
    DbWriterStores × Except DbWriterError (Option DbWriterCheckpoint) :=
  let cursor := newCursor service run_id last_record kafka_offset saved_at
  match stores.required_checkpoint_writer with
  | none => saveCursor stores faults cursor saved_checkpoint
  | some store =>
    match newSidecarCheckpoint service run_id last_record saved_at with
    | none => (stores, .error .validation)
    | some checkpoint =>
      match faults.upsert.apply store (orUnchanged store
        (InMemoryRequiredConsumerCheckpointStore.upsert store checkpoint)) with
      | (store, .error e) => ({ stores with required_checkpoint_writer := some store }, .error e)
      | (store, .ok ()) =>
        saveCursor { stores with required_checkpoint_writer := some store } faults cursor
          saved_checkpoint

/-- The checkpoints, in their order, after a commit that went through. -/
def advanceCheckpoints (service : LocalDbWriterService) (stores : DbWriterStores)
    (faults : StoreFaults) (saved_at : Option DateTime) (run_id : RunId) (first_offset : ℕ)
    (last_record : JournalRecord) (kafka_offset : KafkaPartitionOffset) :
    DbWriterStores × Except DbWriterError (Option DbWriterCheckpoint) :=
  match saved_at with
  | none => (stores, .error .validation)
  | some saved_at =>
    match newCheckpoint service run_id first_offset last_record kafka_offset saved_at with
    | none => (stores, .error .validation)
    | some checkpoint =>
      match faults.save.apply stores.checkpoint_store (orUnchanged stores.checkpoint_store
        (InMemoryDbWriterCheckpointStore.save stores.checkpoint_store checkpoint)) with
      | (store, .error e) => ({ stores with checkpoint_store := store }, .error e)
      | (store, .ok ()) =>
        upsertRequired service { stores with checkpoint_store := store } faults run_id last_record
          kafka_offset saved_at checkpoint

/-- `commit_consumed_batch`. The clock gives no time when it gives a naive one, which the
checkpoint refuses. -/
def commitConsumedBatch (service : LocalDbWriterService) (stores : DbWriterStores)
    (faults : StoreFaults) (now : Option DateTime) (records : List KafkaConsumedRecord) :
    DbWriterStores × Except DbWriterError (Option DbWriterCheckpoint) :=
  match validateBatch records, records.head? with
  | .error e, _ => (stores, .error e)
  | .ok (), none => (stores, .error .emptyBatch)
  | .ok (), some first =>
    match planBatch service stores faults first.runId records with
    | .error e => (stores, .error e)
    | .ok (.upToDate checkpoint) => (stores, .ok (some checkpoint))
    | .ok (.commit records_to_commit) =>
      match faults.commit.apply stores.db_store (stores.db_store.commitRecords records_to_commit)
        with
      | (db_store, .error e) => ({ stores with db_store }, .error e)
      | (db_store, .ok committed) =>
        match committed.head?, committed.getLast?, records_to_commit.getLast? with
        | some first_record, some last_record, some last_consumed =>
          advanceCheckpoints service { stores with db_store } faults now first.runId
            first_record.wal_offset.value last_record last_consumed.kafka_offset
        | _, _, _ => ({ stores with db_store }, .error .emptyBatch)

end LocalDbWriterService

end FuturesBot
