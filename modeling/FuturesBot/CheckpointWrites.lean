import FuturesBot.BatchCommits

/-! The checkpoints that follow a commit, when a store fails: what each write would change, and
where the offsets of the stores stand. -/
namespace FuturesBot

open DateTimes Dicts StepRuns LocalDbWriterService

section Writes

variable {service : LocalDbWriterService} {stores : DbWriterStores} {faults : StoreFaults}

/-! What the writes after the checkpoint would change. -/

/-- The cursor store is past the record already, or there is none. -/
def CursorKept (service : LocalDbWriterService) (stores : DbWriterStores)
    (last : KafkaConsumedRecord) : Prop :=
  ∀ store ∈ stores.broker_cursor_store, ∃ cursor,
    store.get? (service.consumer_id.value, last.kafka_offset.topic.value,
      last.kafka_offset.partition) = some cursor ∧
      last.kafka_offset.offset ≤ cursor.kafka_offset.offset

/-- The required-consumer store refuses the checkpoint. -/
def RequiredRefused (store : InMemoryRequiredConsumerCheckpointStore)
    (checkpoint : SidecarCheckpoint) : Prop :=
  ∃ e, InMemoryRequiredConsumerCheckpointStore.upsert store checkpoint = .error e

/-- The writes from the required-consumer checkpoint on change nothing: without a store for it
that of the cursor does not; otherwise the checkpoint is refused, or there already and the cursor
is kept too. -/
def RequiredKept (service : LocalDbWriterService) (stores : DbWriterStores)
    (last : KafkaConsumedRecord) (saved_at : DateTime) : Prop :=
  match stores.required_checkpoint_writer with
  | none => CursorKept service stores last
  | some store =>
    ∀ checkpoint ∈ newSidecarCheckpoint service last.runId last.journal_record saved_at,
      RequiredRefused store checkpoint ∨
        store.get? (sidecarKey checkpoint) = some checkpoint ∧ CursorKept service stores last

theorem cursor_save_kept {store : InMemoryBrokerConsumerCursorStore}
    {cursor : BrokerConsumerCursor} :
    (orUnchanged store (InMemoryBrokerConsumerCursorStore.save store cursor)).1 = store ↔
      ∃ existing, store.get? (cursorKey cursor) = some existing ∧
        cursor.kafka_offset.offset ≤ existing.kafka_offset.offset := by
  rw [InMemoryBrokerConsumerCursorStore.save]
  cases hget : store.get? (cursorKey cursor) with
  | none =>
    refine iff_of_false (fun heq => ?_) (by simp)
    have hput : store.put cursor = store := heq
    rw [← hput, KeyedDict.get?_put_self] at hget
    exact absurd hget (by simp)
  | some existing =>
    simp only [Option.some.injEq, exists_eq_left']
    split_ifs with hless heq hsame
    · exact iff_of_true rfl hless.le
    · exact iff_of_true rfl heq.le
    · exact iff_of_true rfl heq.le
    · refine iff_of_false (fun hstore => ?_) (by omega)
      have hput : store.put cursor = store := hstore
      rw [← hput, KeyedDict.get?_put_self] at hget
      obtain rfl := Option.some.inj hget
      exact heq rfl

theorem saveCursor_frame (cursor : BrokerConsumerCursor) (saved : DbWriterCheckpoint) :
    ∃ cursors, (saveCursor stores faults cursor saved).1 =
      { stores with broker_cursor_store := cursors } := by
  rw [saveCursor]
  split
  · exact ⟨stores.broker_cursor_store, rfl⟩
  · split
    · exact ⟨_, rfl⟩
    · exact ⟨_, rfl⟩

theorem saveCursor_kept {run_id : RunId} {last : KafkaConsumedRecord} {saved_at : DateTime}
    {saved : DbWriterCheckpoint} :
    (saveCursor stores .never (newCursor service run_id last.journal_record last.kafka_offset
      saved_at) saved).1 = stores ↔ CursorKept service stores last := by
  have hkey : cursorKey (newCursor service run_id last.journal_record last.kafka_offset saved_at) =
      (service.consumer_id.value, last.kafka_offset.topic.value,
        last.kafka_offset.partition) := rfl
  rw [saveCursor, CursorKept]
  cases hstore : stores.broker_cursor_store with
  | none => simp
  | some store =>
    have hkept := @cursor_save_kept store
      (newCursor service run_id last.journal_record last.kafka_offset saved_at)
    rw [hkey] at hkept
    simp only [Option.mem_def, Option.some.injEq, forall_eq']
    refine Iff.trans ?_ hkept
    simp only [StoreFaults.never, CallFault.apply]
    have hset (store' : InMemoryBrokerConsumerCursorStore) :
        { stores with broker_cursor_store := some store' } = stores ↔ store' = store := by
      constructor
      · intro h
        have hcursor := congrArg DbWriterStores.broker_cursor_store h
        rw [hstore] at hcursor
        exact Option.some.inj hcursor
      · rintro rfl
        rw [← hstore]
    split
    · rename_i store' e heq
      rw [heq]
      exact hset store'
    · rename_i store' heq
      rw [heq]
      exact hset store'

/-- What the call makes of the stores from the required-consumer checkpoint on. -/
theorem upsertRequired_kept {last : KafkaConsumedRecord} {saved_at : DateTime}
    {saved : DbWriterCheckpoint} :
    (upsertRequired service stores .never last.runId last.journal_record last.kafka_offset saved_at
      saved).1 = stores ↔ RequiredKept service stores last saved_at := by
  rw [upsertRequired, RequiredKept]
  cases hstore : stores.required_checkpoint_writer with
  | none => exact saveCursor_kept
  | some store =>
    dsimp only
    cases hsidecar : newSidecarCheckpoint service last.runId last.journal_record saved_at with
    | none => simp
    | some checkpoint =>
      simp only [Option.mem_def, Option.some.injEq, forall_eq', StoreFaults.never, CallFault.apply,
        RequiredRefused]
      cases hupsert : InMemoryRequiredConsumerCheckpointStore.upsert store checkpoint with
      | error e =>
        simp only [orUnchanged, Except.error.injEq, exists_eq', true_or, iff_true]
        rw [← hstore]
      | ok store' =>
        obtain rfl := InMemoryRequiredConsumerCheckpointStore.upsert_eq hupsert
        simp only [orUnchanged, reduceCtorEq, exists_false, false_or]
        have hput (hget : store.get? (sidecarKey checkpoint) = some checkpoint) :
            { stores with required_checkpoint_writer := some (store.put checkpoint) } = stores := by
          rw [KeyedDict.put_of_get? hget, ← hstore]
        constructor
        · intro h
          obtain ⟨cursors, hcursors⟩ := @saveCursor_frame
            { stores with required_checkpoint_writer := some (store.put checkpoint) } .never
            (newCursor service last.runId last.journal_record last.kafka_offset saved_at) saved
          have hsame : store.put checkpoint = store := by
            have hrequired := congrArg DbWriterStores.required_checkpoint_writer
              (hcursors.symm.trans h)
            rw [hstore] at hrequired
            exact Option.some.inj hrequired
          have hget : store.get? (sidecarKey checkpoint) = some checkpoint := by
            rw [← hsame]
            exact KeyedDict.get?_put_self store checkpoint
          rw [hput hget] at h
          exact ⟨hget, saveCursor_kept.mp h⟩
        · rintro ⟨hget, hcursor⟩
          rw [hput hget]
          exact saveCursor_kept.mpr hcursor

theorem cursor_save_error {store : InMemoryBrokerConsumerCursorStore}
    {cursor : BrokerConsumerCursor} {e : DbWriterError}
    (h : InMemoryBrokerConsumerCursorStore.save store cursor = .error e) : e.isFault = false := by
  rw [InMemoryBrokerConsumerCursorStore.save] at h
  split at h
  · exact absurd h (by simp)
  · dsimp only at h
    split_ifs at h
    · exact Except.error.inj h ▸ rfl
    · exact Except.error.inj h ▸ rfl

theorem upsert_error {store : InMemoryRequiredConsumerCheckpointStore}
    {checkpoint : SidecarCheckpoint} {e : DbWriterError}
    (h : InMemoryRequiredConsumerCheckpointStore.upsert store checkpoint = .error e) :
    e.isFault = false := by
  rw [InMemoryRequiredConsumerCheckpointStore.upsert] at h
  split at h
  · exact absurd h (by simp)
  · dsimp only at h
    split_ifs at h
    · exact Except.error.inj h ▸ rfl
    · exact Except.error.inj h ▸ rfl

/-- Where the cursor is saved under a fault. -/
theorem saveCursor_fault {cursor : BrokerConsumerCursor} {saved : DbWriterCheckpoint}
    (h : (saveCursor stores faults cursor saved).2 = .error .storeFailure) :
    faults.cursor ≠ .none ∧
      (faults.cursor = .before → (saveCursor stores faults cursor saved).1 = stores) ∧
      (faults.cursor = .after → (saveCursor stores faults cursor saved).1 =
        (saveCursor stores .never cursor saved).1) := by
  rw [saveCursor] at h ⊢
  rw [saveCursor]
  cases hstore : stores.broker_cursor_store with
  | none =>
    rw [hstore] at h
    exact absurd h (by simp)
  | some store =>
    rw [hstore] at h
    dsimp only at h ⊢
    simp only [StoreFaults.never]
    cases hfault : faults.cursor with
    | none =>
      rw [hfault] at h
      simp only [CallFault.apply] at h
      cases hsave : InMemoryBrokerConsumerCursorStore.save store cursor with
      | ok store' =>
        rw [hsave] at h
        exact absurd h (by simp [orUnchanged])
      | error e =>
        rw [hsave] at h
        have he : e = .storeFailure := Except.error.inj h
        have hown := cursor_save_error hsave
        rw [he] at hown
        exact absurd hown (by decide)
    | before =>
      refine ⟨by simp, fun _ => ?_, fun hafter => absurd hafter (by simp)⟩
      simp only [CallFault.apply]
      rw [← hstore]
    | after =>
      refine ⟨by simp, fun hbefore => absurd hbefore (by simp), fun _ => ?_⟩
      simp only [CallFault.apply]
      cases InMemoryBrokerConsumerCursorStore.save store cursor <;> rfl

/-- Where the required-consumer checkpoint is written under a fault, or the cursor after it. -/
theorem upsertRequired_fault {last : KafkaConsumedRecord} {saved_at : DateTime}
    {saved : DbWriterCheckpoint}
    (h : (upsertRequired service stores faults last.runId last.journal_record last.kafka_offset
      saved_at saved).2 = .error .storeFailure) :
    (∃ store checkpoint, stores.required_checkpoint_writer = some store ∧
        newSidecarCheckpoint service last.runId last.journal_record saved_at = some checkpoint ∧
        ((faults.upsert = .before ∧ (upsertRequired service stores faults last.runId
            last.journal_record last.kafka_offset saved_at saved).1 = stores) ∨
          faults.upsert = .after ∧ (upsertRequired service stores faults last.runId
            last.journal_record last.kafka_offset saved_at saved).1 =
            { stores with required_checkpoint_writer := some (orUnchanged store
              (InMemoryRequiredConsumerCheckpointStore.upsert store checkpoint)).1 })) ∨
      ∃ stores', stores'.broker_cursor_store = stores.broker_cursor_store ∧
        upsertRequired service stores faults last.runId last.journal_record last.kafka_offset
            saved_at saved = saveCursor stores' faults (newCursor service last.runId
              last.journal_record last.kafka_offset saved_at) saved ∧
        upsertRequired service stores .never last.runId last.journal_record last.kafka_offset
            saved_at saved = saveCursor stores' .never (newCursor service last.runId
              last.journal_record last.kafka_offset saved_at) saved := by
  rw [upsertRequired] at h ⊢
  rw [upsertRequired]
  cases hstore : stores.required_checkpoint_writer with
  | none => exact .inr ⟨stores, rfl, rfl, rfl⟩
  | some store =>
    rw [hstore] at h
    dsimp only at h ⊢
    cases hsidecar : newSidecarCheckpoint service last.runId last.journal_record saved_at with
    | none =>
      rw [hsidecar] at h
      exact absurd h (by simp)
    | some checkpoint =>
      rw [hsidecar] at h
      dsimp only at h ⊢
      simp only [StoreFaults.never]
      cases hfault : faults.upsert with
      | before =>
        refine .inl ⟨store, checkpoint, rfl, rfl, .inl ⟨rfl, ?_⟩⟩
        simp only [CallFault.apply]
        rw [← hstore]
      | after => exact .inl ⟨store, checkpoint, rfl, rfl, .inr ⟨rfl, rfl⟩⟩
      | none =>
        rw [hfault] at h
        simp only [CallFault.apply] at h ⊢
        cases hupsert : InMemoryRequiredConsumerCheckpointStore.upsert store checkpoint with
        | error e =>
          rw [hupsert] at h
          have he : e = .storeFailure := Except.error.inj h
          have hown := upsert_error hupsert
          rw [he] at hown
          exact absurd hown (by decide)
        | ok store' =>
          exact .inr ⟨{ stores with required_checkpoint_writer := some store' }, rfl, rfl, rfl⟩

/-- Once the required-consumer checkpoint is written, only the cursor is still to come. -/
theorem upsertRequired_written {last : KafkaConsumedRecord} {saved_at : DateTime}
    {saved : DbWriterCheckpoint} {store : InMemoryRequiredConsumerCheckpointStore}
    {checkpoint : SidecarCheckpoint} (hstore : stores.required_checkpoint_writer = some store)
    (hsidecar : newSidecarCheckpoint service last.runId last.journal_record saved_at =
      some checkpoint) :
    (upsertRequired service stores .never last.runId last.journal_record last.kafka_offset saved_at
        saved).1 =
      { stores with required_checkpoint_writer := some (orUnchanged store
        (InMemoryRequiredConsumerCheckpointStore.upsert store checkpoint)).1 } ↔
      (∀ store ∈ stores.required_checkpoint_writer, ∀ checkpoint ∈ newSidecarCheckpoint service
        last.runId last.journal_record saved_at, RequiredRefused store checkpoint) ∨
        CursorKept service stores last := by
  rw [upsertRequired, hstore]
  simp only [hsidecar, Option.mem_def, Option.some.injEq, forall_eq', StoreFaults.never,
    CallFault.apply, RequiredRefused]
  cases hupsert : InMemoryRequiredConsumerCheckpointStore.upsert store checkpoint with
  | error e => simp [orUnchanged]
  | ok store' =>
    simp only [orUnchanged, reduceCtorEq, exists_false, false_or]
    exact saveCursor_kept

theorem upsertRequired_frame (run_id : RunId) (last_record : JournalRecord)
    (kafka_offset : KafkaPartitionOffset) (saved_at : DateTime) (saved : DbWriterCheckpoint) :
    ∃ required cursors, (upsertRequired service stores faults run_id last_record kafka_offset
      saved_at saved).1 = { stores with
        required_checkpoint_writer := required
        broker_cursor_store := cursors } := by
  rw [upsertRequired]
  split
  · obtain ⟨cursors, hcursors⟩ := @saveCursor_frame stores faults
      (newCursor service run_id last_record kafka_offset saved_at) saved
    exact ⟨stores.required_checkpoint_writer, cursors, hcursors⟩
  · split
    · exact ⟨stores.required_checkpoint_writer, stores.broker_cursor_store, rfl⟩
    · split
      · exact ⟨_, stores.broker_cursor_store, rfl⟩
      · rename_i store' _
        obtain ⟨cursors, hcursors⟩ := @saveCursor_frame
          { stores with required_checkpoint_writer := some store' } faults
          (newCursor service run_id last_record kafka_offset saved_at) saved
        exact ⟨_, cursors, hcursors⟩

end Writes

/-! Where the offsets stand. -/

/-- The required-consumer offset of a run is at most that of the checkpoint, and this at most the
last committed one. -/
structure OffsetsOrdered (service : LocalDbWriterService) (stores : DbWriterStores) : Prop where
  required : ∀ store ∈ stores.required_checkpoint_writer, ∀ (run_id : RunId) cp,
    store.get? (sidecarText service.consumer_id, run_id.value) = some cp →
    ∃ checkpoint, stores.checkpoint_store.load service.consumer_id run_id = some checkpoint ∧
      cp.last_committed_wal_offset.value ≤ checkpoint.last_committed_wal_offset.value
  committed : ∀ run_id checkpoint,
    stores.checkpoint_store.load service.consumer_id run_id = some checkpoint →
    ∃ k, checkpoint.last_committed_wal_offset.value ≤ k ∧
      stores.db_store.hasCommitted run_id k = true

section Offsets

variable {service : LocalDbWriterService} {stores : DbWriterStores} {faults : StoreFaults}

theorem OffsetsOrdered.grows (h : OffsetsOrdered service stores)
    {db' : InMemoryCommittedEventStore} (hgrows : Grows stores.db_store db') :
    OffsetsOrdered service { stores with db_store := db' } := by
  refine ⟨h.required, fun run_id checkpoint hload => ?_⟩
  obtain ⟨k, hk, hcommitted⟩ := h.committed run_id checkpoint hload
  exact ⟨k, hk, hgrows run_id k hcommitted⟩

theorem saveCursor_ordered (h : OffsetsOrdered service stores) (cursor : BrokerConsumerCursor)
    (saved : DbWriterCheckpoint) :
    OffsetsOrdered service (saveCursor stores faults cursor saved).1 := by
  obtain ⟨cursors, hcursors⟩ := @saveCursor_frame stores faults cursor saved
  rw [hcursors]
  exact ⟨h.required, h.committed⟩

/-- The required-consumer store takes the offset of the checkpoint, or keeps its own. -/
theorem OffsetsOrdered.upsert (h : OffsetsOrdered service stores)
    {store store' : InMemoryRequiredConsumerCheckpointStore} {cp : SidecarCheckpoint}
    {checkpoint : DbWriterCheckpoint} (hstore : stores.required_checkpoint_writer = some store)
    (hload : stores.checkpoint_store.load service.consumer_id cp.run_id = some checkpoint)
    (hoffset : cp.last_committed_wal_offset.value ≤ checkpoint.last_committed_wal_offset.value)
    (hcall : store' = store ∨ store' = store.put cp) :
    OffsetsOrdered service { stores with required_checkpoint_writer := some store' } := by
  refine ⟨?_, h.committed⟩
  rintro _ ⟨⟩ run_id cp' hcp'
  rcases hcall with rfl | rfl
  · exact h.required store' hstore run_id cp' hcp'
  · rw [KeyedDict.get?_put] at hcp'
    split_ifs at hcp' with hkey
    · obtain rfl := Option.some.inj hcp'
      have hrun : cp.run_id = run_id := DomainId.ext (Prod.mk.inj hkey).2
      rw [← hrun]
      exact ⟨checkpoint, hload, hoffset⟩
    · exact h.required store hstore run_id cp' hcp'

theorem upsertRequired_ordered (h : OffsetsOrdered service stores) {run_id : RunId}
    {last_record : JournalRecord} {kafka_offset : KafkaPartitionOffset} {saved_at : DateTime}
    {saved checkpoint : DbWriterCheckpoint}
    (hload : stores.checkpoint_store.load service.consumer_id run_id = some checkpoint)
    (hoffset : last_record.wal_offset.value ≤ checkpoint.last_committed_wal_offset.value) :
    OffsetsOrdered service (upsertRequired service stores faults run_id last_record kafka_offset
      saved_at saved).1 := by
  rw [upsertRequired]
  split
  · exact saveCursor_ordered h _ _
  · rename_i store hstore
    split
    · exact h
    · rename_i cp hcp
      obtain ⟨sidecar_id, -, heq⟩ := Option.map_eq_some_iff.mp hcp
      have hrun : cp.run_id = run_id := by rw [← heq]
      have hlast : cp.last_committed_wal_offset = last_record.wal_offset := by rw [← heq]
      -- whatever the call comes to, the store is the old one or has the new checkpoint
      have hwritten {store' : InMemoryRequiredConsumerCheckpointStore}
          {result : Except DbWriterError Unit}
          (hcall : faults.upsert.apply store (orUnchanged store
            (InMemoryRequiredConsumerCheckpointStore.upsert store cp)) = (store', result)) :
          OffsetsOrdered service { stores with required_checkpoint_writer := some store' } := by
        refine h.upsert hstore (by rw [hrun]; exact hload) (by rw [hlast]; exact hoffset) ?_
        have happly := faults.upsert.apply_store store
          (InMemoryRequiredConsumerCheckpointStore.upsert store cp)
        rw [hcall] at happly
        exact happly.imp id fun hput => InMemoryRequiredConsumerCheckpointStore.upsert_eq hput.2
      split
      · rename_i store' e hcall
        exact hwritten hcall
      · rename_i store' hcall
        exact saveCursor_ordered (hwritten hcall) _ _

/-- A save that goes through puts the offset of its checkpoint, and lowers none. -/
theorem save_offsets {store store' : InMemoryDbWriterCheckpointStore}
    {checkpoint : DbWriterCheckpoint}
    (h : InMemoryDbWriterCheckpointStore.save store checkpoint = .ok store') :
    (∃ c, store'.get? (dbWriterKey checkpoint) = some c ∧
      c.last_committed_wal_offset.value = checkpoint.last_committed_wal_offset.value) ∧
    ∀ k c, store.get? k = some c → ∃ c', store'.get? k = some c' ∧
      c.last_committed_wal_offset.value ≤ c'.last_committed_wal_offset.value := by
  rw [InMemoryDbWriterCheckpointStore.save] at h
  cases hget : store.get? (dbWriterKey checkpoint) with
  | none =>
    rw [hget] at h
    obtain rfl := Except.ok.inj h
    refine ⟨⟨checkpoint, KeyedDict.get?_put_self _ _, rfl⟩, fun k c hc => ⟨c, ?_, le_refl _⟩⟩
    rw [KeyedDict.get?_put_ne _ (fun hkey => by rw [hkey, hc] at hget; exact absurd hget (by simp))]
    exact hc
  | some existing =>
    rw [hget] at h
    dsimp only at h
    split_ifs at h with hless heq hevent
    · obtain rfl := Except.ok.inj h
      exact ⟨⟨existing, hget, heq.symm⟩, fun k c hc => ⟨c, hc, le_refl _⟩⟩
    · obtain rfl := Except.ok.inj h
      refine ⟨⟨checkpoint, KeyedDict.get?_put_self _ _, rfl⟩, fun k c hc => ?_⟩
      rw [KeyedDict.get?_put]
      split_ifs with hkey
      · rw [← hkey, hget] at hc
        obtain rfl := Option.some.inj hc
        exact ⟨checkpoint, rfl, by omega⟩
      · exact ⟨c, hc, le_refl _⟩

theorem OffsetsOrdered.save (h : OffsetsOrdered service stores)
    {store' : InMemoryDbWriterCheckpointStore} {checkpoint : DbWriterCheckpoint}
    (hcommitted : stores.db_store.hasCommitted checkpoint.run_id
      checkpoint.last_committed_wal_offset.value = true)
    (hsave : InMemoryDbWriterCheckpointStore.save stores.checkpoint_store checkpoint =
      .ok store') : OffsetsOrdered service { stores with checkpoint_store := store' } := by
  obtain ⟨-, hmono⟩ := save_offsets hsave
  constructor
  · intro store hstore run_id cp hcp
    obtain ⟨old, hold, hle⟩ := h.required store hstore run_id cp hcp
    obtain ⟨new, hnew, hle'⟩ := hmono _ _ hold
    exact ⟨new, hnew, hle.trans hle'⟩
  · intro run_id cp hcp
    rcases InMemoryDbWriterCheckpointStore.save_eq hsave with rfl | rfl
    · change (stores.checkpoint_store.put checkpoint).get? _ = _ at hcp
      rw [KeyedDict.get?_put] at hcp
      split_ifs at hcp with hkey
      · obtain rfl := Option.some.inj hcp
        have hrun : checkpoint.run_id = run_id := DomainId.ext (Prod.mk.inj hkey).2
        rw [← hrun]
        exact ⟨_, le_refl _, hcommitted⟩
      · exact h.committed run_id cp hcp
    · exact h.committed run_id cp hcp

theorem advanceCheckpoints_ordered (h : OffsetsOrdered service stores)
    {saved_at : Option DateTime} {run_id : RunId} {first_offset : ℕ} {last_record : JournalRecord}
    {kafka_offset : KafkaPartitionOffset}
    (hcommitted : stores.db_store.hasCommitted run_id last_record.wal_offset.value = true) :
    OffsetsOrdered service (advanceCheckpoints service stores faults saved_at run_id first_offset
      last_record kafka_offset).1 := by
  cases saved_at with
  | none => exact h
  | some saved_at =>
    rw [advanceCheckpoints]
    split
    · exact h
    · rename_i checkpoint hcheckpoint
      obtain ⟨batch_id, -, heq⟩ := Option.map_eq_some_iff.mp hcheckpoint
      have hkey : dbWriterKey checkpoint = (service.consumer_id.value, run_id.value) := by
        rw [← heq]
        rfl
      have hlast : checkpoint.last_committed_wal_offset = last_record.wal_offset := by rw [← heq]
      have hcommitted : stores.db_store.hasCommitted checkpoint.run_id
          checkpoint.last_committed_wal_offset.value = true := by
        rw [← heq]
        exact hcommitted
      split
      · rename_i store' e hcall
        have happly := faults.save.apply_store stores.checkpoint_store
          (InMemoryDbWriterCheckpointStore.save stores.checkpoint_store checkpoint)
        rw [hcall] at happly
        rcases happly with hsame | ⟨-, hsaved⟩
        · change store' = stores.checkpoint_store at hsame
          rw [hsame]
          exact h
        · exact h.save hcommitted hsaved
      · rename_i store' hcall
        have hsave := (CallFault.apply_ok hcall).2
        cases hresult : InMemoryDbWriterCheckpointStore.save stores.checkpoint_store checkpoint with
        | error e =>
          rw [hresult] at hsave
          exact absurd (Prod.mk.inj hsave).2 (by simp)
        | ok saved =>
          rw [hresult] at hsave
          obtain rfl : saved = store' := (Prod.mk.inj hsave).1
          obtain ⟨⟨c, hc, hoffset⟩, -⟩ := save_offsets hresult
          rw [hkey] at hc
          apply upsertRequired_ordered (h.save hcommitted hresult) hc
          rw [hoffset, hlast]

/-- No call of the service, whatever fails in it, puts the offsets out of order. -/
theorem commitStep_ordered (h : OffsetsOrdered service stores) (call : CommitCall) :
    OffsetsOrdered service (commitStep service stores call) := by
  rw [commitStep, commitConsumedBatch]
  split
  · exact h
  · exact h
  · rename_i start hvalid hhead
    split
    · exact h
    · exact h
    · rename_i rest hplan
      have hgrows := grows_apply stores.db_store call.faults.commit rest
      split
      · rename_i db e hcall
        rw [hcall] at hgrows
        exact h.grows hgrows
      · rename_i db committed hcall
        rw [hcall] at hgrows
        obtain ⟨-, hcall⟩ := CallFault.apply_ok hcall
        obtain ⟨-, -, -, rfl, hall⟩ := commitRecords_ok hcall
        split
        · rename_i firstRecord lastRecord lastConsumed hfirst hlast hlastConsumed
          rw [List.getLast?_map, hlastConsumed, Option.map_some] at hlast
          obtain rfl := Option.some.inj hlast
          apply advanceCheckpoints_ordered (h.grows hgrows)
          have hmem := List.mem_of_getLast? hlastConsumed
          have hrun := (validateBatch_ok.mp hvalid).scope start hhead lastConsumed
            ((planBatch_commit hplan).2.1 lastConsumed hmem)
          rw [← hrun.1]
          exact hall lastConsumed hmem
        · exact h.grows hgrows

/-- In every run from empty stores the offsets stand in order. -/
theorem commit_run_ordered (service : LocalDbWriterService)
    (fail_next_commit has_required has_cursor : Bool) (calls : List CommitCall) :
    OffsetsOrdered service (run (commitStep service)
      (.empty fail_next_commit has_required has_cursor) calls) := by
  have hempty : OffsetsOrdered service (.empty fail_next_commit has_required has_cursor) := by
    constructor
    · intro store hstore run_id cp hcp
      cases has_required with
      | false => exact absurd hstore (by simp [DbWriterStores.empty])
      | true =>
        obtain rfl := Option.some.inj hstore
        exact absurd hcp (by simp)
    · intro run_id checkpoint hload
      exact absurd hload (by simp [DbWriterStores.empty, InMemoryDbWriterCheckpointStore.load])
  have hstep (stores : DbWriterStores) (call : CommitCall) (h : OffsetsOrdered service stores) :
      OffsetsOrdered service (commitStep service stores call) := commitStep_ordered h call
  exact run_keeps hstep hempty calls

end Offsets

end FuturesBot
