import FuturesBot.Broker

/-! Checkpoints of the sidecars, the set of required consumers, the garbage-collection
decision over it, and the in-memory checkpoint stores. -/
namespace FuturesBot

open TextLines DateTimes Dicts

inductive SidecarKind where
  | WAL_RELAY
  | DB_WRITER
  | LIVE_AGGREGATOR
  | DATASET_WRITER
  | EVALUATION_WORKER
  | DASHBOARD_PROJECTION_WORKER
  | RECONCILER
  | MARKET_DATA_COLLECTOR
  | MARKET_STATE_BUILDER
  deriving DecidableEq, Repr

structure SidecarCheckpoint where
  sidecar_id : SidecarId
  sidecar_kind : SidecarKind
  run_id : RunId
  last_committed_wal_offset : WalOffset
  updated_at : DateTime
  is_required_for_wal_gc : Bool
  relay_not_required : sidecar_kind = .WAL_RELAY → is_required_for_wal_gc = false
  deriving DecidableEq

/-- Broker publish progress only. -/
structure WalRelayCheckpoint where
  relay_id : SidecarId
  run_id : RunId
  last_published_wal_offset : WalOffset
  last_published_event_id : EventId
  kafka_offset : KafkaPartitionOffset
  updated_at : DateTime
  deriving DecidableEq

structure DbWriterCheckpoint where
  consumer_id : ConsumerId
  run_id : RunId
  last_committed_wal_offset : WalOffset
  last_committed_event_id : EventId
  kafka_offset : KafkaPartitionOffset
  db_transaction_id : TrimmedText
  batch_id : BatchId
  updated_at : DateTime
  deriving DecidableEq

structure RequiredConsumerCheckpointSet where
  run_id : RunId
  checkpoints : List SidecarCheckpoint
  same_run : ∀ cp ∈ checkpoints, cp.run_id.value = run_id.value
  distinct : (checkpoints.map (·.sidecar_id.value)).Nodup

namespace RequiredConsumerCheckpointSet

def requiredCheckpoints (set : RequiredConsumerCheckpointSet) : List SidecarCheckpoint :=
  set.checkpoints.filter (·.is_required_for_wal_gc)

def slower (a b : SidecarCheckpoint) : SidecarCheckpoint :=
  if b.last_committed_wal_offset.value < a.last_committed_wal_offset.value then b else a

/-- The first of the slowest required checkpoints. -/
def requiredMinOffset (set : RequiredConsumerCheckpointSet) : Option WalOffset :=
  match set.requiredCheckpoints with
  | [] => none
  | cp :: cps => some (cps.foldl slower cp).last_committed_wal_offset

def allRequiredConsumersReached (set : RequiredConsumerCheckpointSet) (offset : WalOffset) : Bool :=
  !set.requiredCheckpoints.isEmpty &&
    set.requiredCheckpoints.all fun cp => offset.value ≤ cp.last_committed_wal_offset.value

end RequiredConsumerCheckpointSet

inductive WalGcAction where
  | KEEP
  | ARCHIVE
  | DELETE
  deriving DecidableEq, Repr

structure WalGcDecision where
  segment_id : WalSegmentId
  action : WalGcAction
  eligible : Bool
  reason : TrimmedText
  decided_at : DateTime
  required_checkpoint_min_offset : Option WalOffset
  kept : action = .KEEP → eligible = false
  removed : action ≠ .KEEP → eligible = true ∧ required_checkpoint_min_offset ≠ none

def walGcKeep (segment : WalSegmentMetadata) (decided_at : DateTime) (reason : TrimmedText) :
    WalGcDecision where
  segment_id := segment.segment_id
  action := .KEEP
  eligible := false
  reason
  decided_at
  required_checkpoint_min_offset := none
  kept _ := rfl
  removed h := absurd rfl h

theorem runMismatch_trimmed (a b : RunId) :
    Trimmed ("segment run_id " ++ a.value ++ " does not match checkpoint set run_id " ++
      b.value).toList := by
  obtain ⟨d, hd, hspace⟩ := b.valid.1.last
  have hstart : "segment run_id ".toList.head? = some 's' := by decide
  exact trimmed_append (head?_append_text (head?_append_text hstart)) hd (by decide) hspace

def decideWalGc (segment : WalSegmentMetadata) (checkpoints : RequiredConsumerCheckpointSet)
    (decided_at : DateTime) (archive_instead_of_delete : Bool) : WalGcDecision :=
  let keep := walGcKeep segment decided_at
  if segment.run_id ≠ checkpoints.run_id then
    keep ⟨_, runMismatch_trimmed segment.run_id checkpoints.run_id⟩
  else if segment.status = .OPEN then keep ⟨"segment is OPEN", by decide⟩
  else if segment.status = .DELETED then keep ⟨"segment is already DELETED", by decide⟩
  else if segment.status = .ARCHIVED then keep ⟨"segment is already ARCHIVED", by decide⟩
  else match segment.offset_range with
    | none => keep ⟨"segment has no offset_range", by decide⟩
    | some range =>
      match checkpoints.requiredMinOffset with
      | none => keep ⟨"no required consumer checkpoints configured", by decide⟩
      | some min_offset =>
        if !checkpoints.allRequiredConsumersReached range.last then
          keep ⟨"not all required consumers have reached segment end offset", by decide⟩
        else
          { segment_id := segment.segment_id
            action := if archive_instead_of_delete then .ARCHIVE else .DELETE
            eligible := true
            reason := ⟨"all required consumers have committed at or beyond segment end offset",
              by decide⟩
            decided_at
            required_checkpoint_min_offset := some min_offset
            kept := fun h => by
              cases archive_instead_of_delete <;> exact absurd h (by decide)
            removed := fun _ => ⟨rfl, by simp⟩ }

/-- A segment is declared eligible only when there are required consumers and all of them have
reached its end. -/
theorem decideWalGc_eligible {segment : WalSegmentMetadata}
    {checkpoints : RequiredConsumerCheckpointSet} {decided_at : DateTime} {archive : Bool}
    (h : (decideWalGc segment checkpoints decided_at archive).eligible = true) :
    segment.run_id = checkpoints.run_id ∧ ∃ range, segment.offset_range = some range ∧
      checkpoints.requiredCheckpoints ≠ [] ∧ ∀ cp ∈ checkpoints.requiredCheckpoints,
        range.last.value ≤ cp.last_committed_wal_offset.value := by
  have hkeep : ∀ reason, (walGcKeep segment decided_at reason).eligible ≠ true :=
    fun _ h => Bool.false_ne_true h
  simp only [decideWalGc] at h
  split at h
  · exact absurd h (hkeep _)
  rename_i hrun
  split at h
  · exact absurd h (hkeep _)
  split at h
  · exact absurd h (hkeep _)
  split at h
  · exact absurd h (hkeep _)
  -- the segment is closed and still there: what counts is its range and the required consumers
  cases hrange : segment.offset_range with
  | none =>
    rw [hrange] at h
    exact absurd h (hkeep _)
  | some range =>
    rw [hrange] at h
    cases hmin : checkpoints.requiredMinOffset with
    | none =>
      rw [hmin] at h
      exact absurd h (hkeep _)
    | some min_offset =>
      rw [hmin] at h
      dsimp only at h
      split at h
      · exact absurd h (hkeep _)
      · rename_i hreached
        rw [Bool.not_eq_true, Bool.not_eq_false'] at hreached
        rw [RequiredConsumerCheckpointSet.allRequiredConsumersReached, Bool.and_eq_true,
          Bool.not_eq_true', List.isEmpty_eq_false_iff, List.all_eq_true] at hreached
        refine ⟨not_not.mp hrun, range, rfl, hreached.1, fun cp hcp => ?_⟩
        exact of_decide_eq_true (hreached.2 cp hcp)

/-! The in-memory checkpoint stores, each keyed by fields of its checkpoints. -/

def relayKey (cp : WalRelayCheckpoint) : String × String := (cp.relay_id.value, cp.run_id.value)

abbrev InMemoryWalRelayCheckpointStore := KeyedDict relayKey

namespace InMemoryWalRelayCheckpointStore

def load (store : InMemoryWalRelayCheckpointStore) (relay_id : SidecarId) (run_id : RunId) :
    Option WalRelayCheckpoint := store.get? (relay_id.value, run_id.value)

def save (store : InMemoryWalRelayCheckpointStore) (checkpoint : WalRelayCheckpoint) :
    InMemoryWalRelayCheckpointStore := store.put checkpoint

end InMemoryWalRelayCheckpointStore

/-- The exceptions of the database writer and of the stores it calls. -/
inductive DbWriterError where
  | emptyBatch
  | mixedRunIds
  | mixedTopics
  | mixedPartitions
  | walOffsetsUnsorted
  | walOffsetsGap
  | brokerOffsetsUnsorted
  | brokerOffsetsGap
  | notCommitted (offset : ℕ)
  | eventConflict (offset : ℕ) (existing new : EventId)
  | brokerOffsetConflict (offset : ℕ) (existing : Option KafkaPartitionOffset)
    (new : KafkaPartitionOffset)
  | gap (expected found : ℕ)
  | checkpointRegression (existing new : ℕ)
  | checkpointConflict (offset : ℕ) (existing new : EventId)
  | sidecarCheckpointConflict (offset : ℕ)
  | cursorRegression (existing new : ℕ)
  | cursorConflict
  /-- a model validator refused an id or a time -/
  | validation
  /-- `RuntimeError` of the store told to fail -/
  | simulatedCommitFailure
  /-- a call of a store failed -/
  | storeFailure
  deriving DecidableEq

def dbWriterKey (cp : DbWriterCheckpoint) : String × String :=
  (cp.consumer_id.value, cp.run_id.value)

abbrev InMemoryDbWriterCheckpointStore := KeyedDict dbWriterKey

namespace InMemoryDbWriterCheckpointStore

def load (store : InMemoryDbWriterCheckpointStore) (consumer_id : ConsumerId) (run_id : RunId) :
    Option DbWriterCheckpoint := store.get? (consumer_id.value, run_id.value)

def save (store : InMemoryDbWriterCheckpointStore) (checkpoint : DbWriterCheckpoint) :
    Except DbWriterError InMemoryDbWriterCheckpointStore :=
  match store.get? (dbWriterKey checkpoint) with
  | none => .ok (store.put checkpoint)
  | some existing =>
    let new_off := checkpoint.last_committed_wal_offset.value
    let old_off := existing.last_committed_wal_offset.value
    if new_off < old_off then .error (.checkpointRegression old_off new_off)
    else if new_off = old_off then
      if checkpoint.last_committed_event_id ≠ existing.last_committed_event_id then
        .error (.checkpointConflict new_off existing.last_committed_event_id
          checkpoint.last_committed_event_id)
      else .ok store
    else .ok (store.put checkpoint)

end InMemoryDbWriterCheckpointStore

def cursorKey (cursor : BrokerConsumerCursor) : String × String × ℕ :=
  (cursor.consumer_id.value, cursor.kafka_offset.topic.value, cursor.kafka_offset.partition)

abbrev InMemoryBrokerConsumerCursorStore := KeyedDict cursorKey

namespace InMemoryBrokerConsumerCursorStore

def sameCursorMetadata (existing new : BrokerConsumerCursor) : Bool :=
  existing.last_committed_run_id = new.last_committed_run_id ∧
    existing.last_committed_wal_offset = new.last_committed_wal_offset ∧
    existing.last_committed_event_id = new.last_committed_event_id

def save (store : InMemoryBrokerConsumerCursorStore) (cursor : BrokerConsumerCursor) :
    Except DbWriterError InMemoryBrokerConsumerCursorStore :=
  match store.get? (cursorKey cursor) with
  | none => .ok (store.put cursor)
  | some existing =>
    let new_offset := cursor.kafka_offset.offset
    let old_offset := existing.kafka_offset.offset
    if new_offset < old_offset then .error (.cursorRegression old_offset new_offset)
    else if new_offset = old_offset then
      if sameCursorMetadata existing cursor then .ok store else .error .cursorConflict
    else .ok (store.put cursor)

end InMemoryBrokerConsumerCursorStore

def sidecarKey (cp : SidecarCheckpoint) : String × String := (cp.sidecar_id.value, cp.run_id.value)

abbrev InMemoryRequiredConsumerCheckpointStore := KeyedDict sidecarKey

namespace InMemoryRequiredConsumerCheckpointStore

theorem distinct_sidecars (store : InMemoryRequiredConsumerCheckpointStore) (run_id : RunId) :
    (((store.values.filter fun cp => cp.run_id.value = run_id.value).map
      (·.sidecar_id.value))).Nodup := by
  have hkeys : (store.values.map sidecarKey).Nodup := by
    have heq : store.values.map sidecarKey = store.dict.entries.map (·.1) := by
      rw [KeyedDict.values, Dict.values, List.map_map]
      exact List.map_congr_left fun e he => (store.keyed e he).symm
    rw [heq]
    exact store.dict.nodup
  rw [List.nodup_map_iff_inj_on ((List.Nodup.of_map _ hkeys).filter _)]
  intro a ha b hb hab
  obtain ⟨ha, hra⟩ := List.mem_filter.mp ha
  obtain ⟨hb, hrb⟩ := List.mem_filter.mp hb
  -- two checkpoints of one run under one sidecar id stand under one key
  have hrun : a.run_id.value = b.run_id.value :=
    (of_decide_eq_true hra).trans (of_decide_eq_true hrb).symm
  exact List.inj_on_of_nodup_map hkeys ha hb (Prod.ext hab hrun)

def loadRequiredCheckpoints (store : InMemoryRequiredConsumerCheckpointStore) (run_id : RunId) :
    RequiredConsumerCheckpointSet where
  run_id
  checkpoints := store.values.filter fun cp => cp.run_id.value = run_id.value
  same_run _ hcp := of_decide_eq_true (List.mem_filter.mp hcp).2
  distinct := distinct_sidecars store run_id

def upsert (store : InMemoryRequiredConsumerCheckpointStore) (checkpoint : SidecarCheckpoint) :
    Except DbWriterError InMemoryRequiredConsumerCheckpointStore :=
  match store.get? (sidecarKey checkpoint) with
  | none => .ok (store.put checkpoint)
  | some existing =>
    let new_off := checkpoint.last_committed_wal_offset.value
    let old_off := existing.last_committed_wal_offset.value
    if new_off < old_off then .error (.checkpointRegression old_off new_off)
    else if new_off = old_off ∧ (checkpoint.sidecar_kind ≠ existing.sidecar_kind ∨
        checkpoint.is_required_for_wal_gc ≠ existing.is_required_for_wal_gc) then
      .error (.sidecarCheckpointConflict new_off)
    else .ok (store.put checkpoint)

end InMemoryRequiredConsumerCheckpointStore

/-! What a store holds after a call that went through: the new checkpoint or the old store. -/

theorem InMemoryDbWriterCheckpointStore.save_eq {store store' : InMemoryDbWriterCheckpointStore}
    {cp : DbWriterCheckpoint} (h : store.save cp = .ok store') :
    store' = store.put cp ∨ store' = store := by
  rw [save] at h
  split at h
  · exact .inl (Except.ok.inj h).symm
  · dsimp only at h
    split_ifs at h
    · exact .inr (Except.ok.inj h).symm
    · exact .inl (Except.ok.inj h).symm

theorem InMemoryRequiredConsumerCheckpointStore.upsert_eq
    {store store' : InMemoryRequiredConsumerCheckpointStore} {cp : SidecarCheckpoint}
    (h : store.upsert cp = .ok store') : store' = store.put cp := by
  rw [upsert] at h
  split at h
  · exact (Except.ok.inj h).symm
  · dsimp only at h
    split_ifs at h
    exact (Except.ok.inj h).symm

end FuturesBot
