import FuturesBot.Pipelines

/-! A fresh writer that is given the broker's records one at a time, in the order of their broker
offsets: it commits the first delivery of every journal record and refuses every other one. -/
namespace FuturesBot

open DateTimes Dicts StepRuns GapFreeLogs LocalDbWriterService

section Delivery

variable {ι : Type} [DecidableEq ι] (relay : LocalWalRelayService) (writer : LocalDbWriterService)
  (wal : WalContent) (now : DateTime)

/-- A call of the writer with one consumed record, in which nothing fails. -/
def delivered (stores : DbWriterStores) (c : KafkaConsumedRecord) :
    DbWriterStores × Except DbWriterError (Option DbWriterCheckpoint) :=
  commitConsumedBatch writer stores .never (some now) [c]

def deliverOne (stores : DbWriterStores) (c : KafkaConsumedRecord) : DbWriterStores :=
  (delivered writer now stores c).1

/-- The ids that the writer makes for the records of the journal are accepted. -/
structure RecordsNameable : Prop where
  batch : ∀ k < wal.records.length,
    (DomainId.of (batchText writer.consumer_id wal.run_id k k)).isSome = true
  sidecar : (DomainId.of (sidecarText writer.consumer_id)).isSome = true

/-- The first delivery of a journal offset. -/
def firstDelivery (cs : List KafkaConsumedRecord) (k : ℕ) : Option KafkaConsumedRecord :=
  cs.find? fun c => c.walOffset = k

/-- How far a reader of the deliveries has come that takes the next offset only. -/
def reached (cs : List KafkaConsumedRecord) : ℕ := run takeNext 0 (cs.map (·.walOffset))

/-- The stores once the records `cs` have been delivered. -/
structure Delivered (cs : List KafkaConsumedRecord) (stores : DbWriterStores) : Prop where
  ready : stores.db_store.fail_next_commit = false
  held : ∀ k, stores.db_store.records.get? (wal.run_id.value, k) = firstDelivery cs k
  checkpoint : (stores.checkpoint_store.load writer.consumer_id wal.run_id = none ∧
      reached cs = 0) ∨
    ∃ cp, stores.checkpoint_store.load writer.consumer_id wal.run_id = some cp ∧
      reached cs = cp.last_committed_wal_offset.value + 1
  required : ∀ store ∈ stores.required_checkpoint_writer, ∀ cp,
    store.get? (sidecarText writer.consumer_id, wal.run_id.value) = some cp →
    cp.last_committed_wal_offset.value < reached cs
  cursor : ∀ store ∈ stores.broker_cursor_store, ∀ cursor,
    store.get? (writer.consumer_id.value, relay.topic.value, 0) = some cursor →
    cursor.kafka_offset.offset < cs.length

variable {relay writer wal now}

theorem validBatch_singleton (c : KafkaConsumedRecord) : ValidBatch [c] := by
  refine ⟨by simp, ?_, List.isChain_singleton _, List.isChain_singleton _⟩
  rintro first ⟨⟩ r hr
  rw [List.mem_singleton.mp hr]
  exact ⟨rfl, rfl, rfl⟩

theorem firstDelivery_concat (cs : List KafkaConsumedRecord) (c : KafkaConsumedRecord) (k : ℕ) :
    firstDelivery (cs ++ [c]) k =
      (firstDelivery cs k).or (if c.walOffset = k then some c else none) := by
  rw [firstDelivery, List.find?_append, firstDelivery, List.find?_cons, List.find?_nil]
  by_cases h : c.walOffset = k <;> simp [h]

theorem reached_concat (cs : List KafkaConsumedRecord) (c : KafkaConsumedRecord) :
    reached (cs ++ [c]) = takeNext (reached cs) c.walOffset := by
  rw [reached, List.map_append, run_append]
  rfl

/-- The next record of the log, with what the writer has been given before. -/
structure NextDelivery (relay : LocalWalRelayService) (wal : WalContent)
    (cs : List KafkaConsumedRecord) (c : KafkaConsumedRecord) : Prop where
  of_wal : c.journal_record ∈ wal.records
  offset : c.kafka_offset = ⟨relay.topic, 0, cs.length⟩
  no_gap : c.walOffset ≤ reached cs
  seen : ∀ k, k < reached cs ↔ ∃ d, firstDelivery cs k = some d
  before : ∀ d ∈ cs, d.journal_record ∈ wal.records ∧ d.kafka_offset ≠ c.kafka_offset

theorem NextDelivery.run (h : NextDelivery relay wal cs c) : c.runId = wal.run_id :=
  wal.same_run _ h.of_wal

/-- A commit of one record that is not committed yet. -/
theorem commitRecords_new {db : InMemoryCommittedEventStore} {c : KafkaConsumedRecord}
    (hready : db.fail_next_commit = false) (hnew : db.records.get? (recordKey c) = none) :
    ∃ db', db.commitRecords [c] = (db', .ok [c.journal_record]) ∧
      db'.fail_next_commit = false ∧
      ∀ k, db'.records.get? k = if recordKey c = k then some c else db.records.get? k := by
  have hstage : db.stageAll .empty [c] = .ok ((KeyedDict.empty).put c) := by
    rw [InMemoryCommittedEventStore.stageAll, InMemoryCommittedEventStore.stage, hnew]
    rfl
  refine ⟨{ db with records := db.records.update ((KeyedDict.empty).put c) }, ?_, hready,
    fun k => ?_⟩
  · rw [InMemoryCommittedEventStore.commitRecords, validateBatch_ok.mpr (validBatch_singleton c)]
    dsimp only
    rw [if_neg (Bool.eq_false_iff.mp hready), hstage]
    rfl
  · rw [KeyedDict.get?_update, KeyedDict.get?_put]
    split_ifs
    · rfl
    · rfl

variable {cs : List KafkaConsumedRecord} {c : KafkaConsumedRecord} {stores : DbWriterStores}

/-- A record that follows on the checkpoint is planned for commit. -/
theorem planBatch_next (h : stores.checkpoint_store.load writer.consumer_id c.runId = none ∨
    ∃ cp, stores.checkpoint_store.load writer.consumer_id c.runId = some cp ∧
      c.walOffset = cp.last_committed_wal_offset.value + 1) :
    planBatch writer stores .never c.runId [c] = .ok (.commit [c]) := by
  rcases h with hnone | ⟨cp, hcp, hnext⟩
  · rw [planBatch, hnone]
    rfl
  · have hlater : cp.last_committed_wal_offset.value < c.walOffset := by omega
    have hrun : ∀ r ∈ [c], r.runId = c.runId := by
      intro r hr
      rw [List.mem_singleton.mp hr]
    rw [(planBatch_some .never hcp hrun).1 [c]]
    refine ⟨fun r hr hle => ?_, ?_, c, rfl, hnext⟩
    · rw [List.mem_singleton.mp hr] at hle
      omega
    · rw [restAfter, List.filter_singleton, decide_eq_true hlater]
      rfl

/-- A first delivery is planned and committed. -/
theorem Delivered.commits (h : Delivered relay writer wal cs stores)
    (hnext : NextDelivery relay wal cs c) (hfirst : firstDelivery cs c.walOffset = none) :
    reached cs = c.walOffset ∧ ∃ db', Commits writer stores [c] [c] db' c c c ∧
      db'.fail_next_commit = false ∧
      ∀ k, db'.records.get? k = if recordKey c = k then some c
        else stores.db_store.records.get? k := by
  -- a smaller offset would have been delivered before
  have hreached : reached cs = c.walOffset := by
    by_contra hne
    have hlt : c.walOffset < reached cs := lt_of_le_of_ne hnext.no_gap (Ne.symm hne)
    obtain ⟨d, hd⟩ := (hnext.seen _).mp hlt
    rw [hfirst] at hd
    exact absurd hd (by simp)
  have hnew : stores.db_store.records.get? (recordKey c) = none := by
    rw [recordKey, hnext.run, h.held, hfirst]
  obtain ⟨db', hcommit, hready, hget⟩ := commitRecords_new h.ready hnew
  have hplan : planBatch writer stores .never c.runId [c] = .ok (.commit [c]) := by
    apply planBatch_next
    rw [hnext.run]
    -- the checkpoint stands right before the reached offset
    rcases h.checkpoint with ⟨hnone, -⟩ | ⟨cp, hcp, hlast⟩
    · exact .inl hnone
    · exact .inr ⟨cp, hcp, by omega⟩
  exact ⟨hreached, db', ⟨validBatch_singleton c, rfl, hplan, hcommit, rfl, rfl⟩, hready, hget⟩

theorem upsert_later {store : InMemoryRequiredConsumerCheckpointStore} {cp : SidecarCheckpoint}
    (h : ∀ old, store.get? (sidecarKey cp) = some old →
      old.last_committed_wal_offset.value < cp.last_committed_wal_offset.value) :
    InMemoryRequiredConsumerCheckpointStore.upsert store cp = .ok (store.put cp) := by
  rw [InMemoryRequiredConsumerCheckpointStore.upsert]
  cases hget : store.get? (sidecarKey cp) with
  | none => rfl
  | some old =>
    have hlt := h old hget
    dsimp only
    rw [if_neg (by omega), if_neg (by omega)]

theorem cursor_later {store : InMemoryBrokerConsumerCursorStore} {cursor : BrokerConsumerCursor}
    (h : ∀ old, store.get? (cursorKey cursor) = some old →
      old.kafka_offset.offset < cursor.kafka_offset.offset) :
    InMemoryBrokerConsumerCursorStore.save store cursor = .ok (store.put cursor) := by
  rw [InMemoryBrokerConsumerCursorStore.save]
  cases hget : store.get? (cursorKey cursor) with
  | none => rfl
  | some old =>
    have hlt := h old hget
    dsimp only
    rw [if_neg (by omega), if_neg (by omega)]

def writeCursor (stores : DbWriterStores) (cursor : BrokerConsumerCursor) : DbWriterStores where
  db_store := stores.db_store
  checkpoint_store := stores.checkpoint_store
  required_checkpoint_writer := stores.required_checkpoint_writer
  broker_cursor_store := stores.broker_cursor_store.map fun store => store.put cursor

def writeRequired (stores : DbWriterStores) (cp : SidecarCheckpoint) : DbWriterStores where
  db_store := stores.db_store
  checkpoint_store := stores.checkpoint_store
  required_checkpoint_writer := stores.required_checkpoint_writer.map fun store => store.put cp
  broker_cursor_store := stores.broker_cursor_store

/-- The writes after the checkpoint, when both stores are behind. -/
theorem upsertRequired_later {run_id : RunId} {last_record : JournalRecord}
    {kafka_offset : KafkaPartitionOffset} {saved : DbWriterCheckpoint} {cp : SidecarCheckpoint}
    (hcp : newSidecarCheckpoint writer run_id last_record now = some cp)
    (hrequired : ∀ store ∈ stores.required_checkpoint_writer, ∀ old,
      store.get? (sidecarKey cp) = some old →
      old.last_committed_wal_offset.value < cp.last_committed_wal_offset.value)
    (hcursor : ∀ store ∈ stores.broker_cursor_store, ∀ old,
      store.get? (writer.consumer_id.value, kafka_offset.topic.value, kafka_offset.partition) =
        some old → old.kafka_offset.offset < kafka_offset.offset) :
    upsertRequired writer stores .never run_id last_record kafka_offset now saved =
      (writeCursor (writeRequired stores cp)
        (newCursor writer run_id last_record kafka_offset now), .ok (some saved)) := by
  have hsave (stores' : DbWriterStores)
      (hstores' : stores'.broker_cursor_store = stores.broker_cursor_store) :
      saveCursor stores' .never (newCursor writer run_id last_record kafka_offset now) saved =
        (writeCursor stores' (newCursor writer run_id last_record kafka_offset now),
          .ok (some saved)) := by
    rw [saveCursor, writeCursor]
    cases hstore : stores'.broker_cursor_store with
    | none =>
      obtain ⟨db, checkpoints, required, cursors⟩ := stores'
      obtain rfl : cursors = none := hstore
      rfl
    | some store =>
      have hput : InMemoryBrokerConsumerCursorStore.save store
          (newCursor writer run_id last_record kafka_offset now) =
          .ok (store.put (newCursor writer run_id last_record kafka_offset now)) :=
        cursor_later (hcursor store (hstores'.symm.trans hstore))
      simp only [StoreFaults.never, CallFault.apply, hput, orUnchanged, Option.map_some]
  rw [upsertRequired, writeRequired]
  cases hstore : stores.required_checkpoint_writer with
  | none =>
    dsimp only
    rw [hsave stores rfl]
    obtain ⟨db, checkpoints, required, cursors⟩ := stores
    obtain rfl : required = none := hstore
    rfl
  | some store =>
    dsimp only
    rw [hcp]
    dsimp only
    rw [upsert_later (hrequired store hstore)]
    simp only [StoreFaults.never, CallFault.apply, orUnchanged]
    exact hsave _ rfl

/-- The first delivery of a journal record is committed, and the checkpoints move to it. -/
theorem Delivered.first (h : Delivered relay writer wal cs stores)
    (hnext : NextDelivery relay wal cs c) (hnamed : RecordsNameable writer wal)
    (hfirst : firstDelivery cs c.walOffset = none) :
    (∃ cp, (delivered writer now stores c).2 = .ok (some cp) ∧
      cp.last_committed_wal_offset.value = c.walOffset) ∧
      Delivered relay writer wal (cs ++ [c]) (deliverOne writer now stores c) := by
  obtain ⟨hreached, db', hcommits, hready, hget⟩ := h.commits hnext hfirst
  have hafter : reached (cs ++ [c]) = c.walOffset + 1 := by
    rw [reached_concat, hreached, takeNext, if_pos rfl]
  obtain ⟨batch_id, hbatch⟩ := Option.isSome_iff_exists.mp
    (hnamed.batch _ (wal.offset_lt hnext.of_wal))
  obtain ⟨sidecar_id, hsidecar⟩ := Option.isSome_iff_exists.mp hnamed.sidecar
  obtain ⟨checkpoint, hcheckpoint⟩ : ∃ checkpoint, newCheckpoint writer c.runId c.walOffset
      c.journal_record c.kafka_offset now = some checkpoint := by
    refine ⟨_, Option.map_eq_some_iff.mpr ⟨batch_id, ?_, rfl⟩⟩
    rw [hnext.run]
    exact hbatch
  obtain ⟨cp, hcp⟩ : ∃ cp, newSidecarCheckpoint writer c.runId c.journal_record now = some cp :=
    ⟨_, Option.map_eq_some_iff.mpr ⟨sidecar_id, hsidecar, rfl⟩⟩
  have hcpkey : sidecarKey cp = (sidecarText writer.consumer_id, wal.run_id.value) ∧
      cp.last_committed_wal_offset = c.journal_record.wal_offset := by
    obtain ⟨sidecar_id', hid, rfl⟩ := Option.map_eq_some_iff.mp hcp
    exact ⟨Prod.ext (DomainId.of_value hid) (congrArg DomainId.value hnext.run), rfl⟩
  have hcall : delivered writer now stores c = _ := hcommits.call .never (some now)
  simp only [StoreFaults.never] at hcall
  rw [hcommits.advance hcheckpoint] at hcall
  simp only at hcall
  -- the stores behind the checkpoint are behind this record too, so both take it
  have hwrites := @upsertRequired_later writer now (savedStores stores db' checkpoint) c.runId
    c.journal_record c.kafka_offset checkpoint cp hcp (fun store hstore old hold => by
      rw [hcpkey.2]
      have hlt := h.required store hstore old (hcpkey.1 ▸ hold)
      rw [hreached] at hlt
      exact hlt) (fun store hstore old hold => by
        rw [hnext.offset] at hold ⊢
        exact h.cursor store hstore old hold)
  have hload := @newCheckpoint_load writer stores db' c c c now checkpoint hcheckpoint
  rw [hnext.run] at hload
  have hresult : delivered writer now stores c = (writeCursor (writeRequired
      (savedStores stores db' checkpoint) cp) (newCursor writer c.runId c.journal_record
        c.kafka_offset now), .ok (some checkpoint)) := hcall.trans hwrites
  refine ⟨⟨checkpoint, by rw [hresult], hload.2⟩, ?_⟩
  rw [deliverOne, hresult]
  refine ⟨hready, fun k => ?_, .inr ⟨checkpoint, hload.1, ?_⟩, fun store hstore cp' hcp' => ?_,
    fun store hstore cursor hcursor => ?_⟩
  · change db'.records.get? (wal.run_id.value, k) = _
    rw [hget, h.held, firstDelivery_concat, recordKey, hnext.run]
    -- the record itself is the first delivery of its offset
    by_cases hk : c.walOffset = k
    · subst hk
      rw [if_pos rfl, if_pos rfl, hfirst, Option.none_or]
    · rw [if_neg (fun heq => hk (Prod.mk.inj heq).2), if_neg hk, Option.or_none]
  · rw [hafter, hload.2]
  · obtain ⟨old, hold, rfl⟩ := Option.map_eq_some_iff.mp hstore
    rw [hafter]
    rw [KeyedDict.get?_put, hcpkey.1, if_pos rfl] at hcp'
    obtain rfl := Option.some.inj hcp'
    rw [hcpkey.2]
    exact Nat.lt_succ_self _
  · obtain ⟨old, hold, rfl⟩ := Option.map_eq_some_iff.mp hstore
    have hkey : cursorKey (newCursor writer c.runId c.journal_record c.kafka_offset now) =
        (writer.consumer_id.value, relay.topic.value, 0) := by
      rw [cursorKey, newCursor, hnext.offset]
    rw [KeyedDict.get?_put, hkey, if_pos rfl] at hcursor
    obtain rfl := Option.some.inj hcursor
    rw [newCursor, hnext.offset, List.length_append]
    exact Nat.lt_succ_self _

variable (now) in
/-- Any other delivery of it is refused, and changes nothing. -/
theorem Delivered.again (h : Delivered relay writer wal cs stores)
    (hnext : NextDelivery relay wal cs c) {d : KafkaConsumedRecord}
    (hd : firstDelivery cs c.walOffset = some d) :
    delivered writer now stores c = (stores, .error (.brokerOffsetConflict c.walOffset
      (some d.kafka_offset) c.kafka_offset)) ∧ Delivered relay writer wal (cs ++ [c]) stores := by
  have hlt : c.walOffset < reached cs := (hnext.seen _).mpr ⟨d, hd⟩
  -- a reader that takes the next offset only passes over an earlier one
  have hreached : reached (cs ++ [c]) = reached cs := by
    rw [reached_concat, takeNext, if_neg (by omega)]
  have hheld : ∀ k, firstDelivery (cs ++ [c]) k = firstDelivery cs k := by
    intro k
    rw [firstDelivery_concat]
    by_cases hk : c.walOffset = k
    · subst hk
      rw [hd, Option.some_or]
    · rw [if_neg hk, Option.or_none]
  constructor
  · rcases h.checkpoint with ⟨-, hzero⟩ | ⟨cp, hcp, hlast⟩
    · omega
    · obtain ⟨hdwal, hdoffset⟩ := hnext.before d (List.mem_of_find?_eq_some hd)
      have hoffset : d.walOffset = c.walOffset := by simpa using List.find?_some hd
      -- the committed record is the same journal record, at another broker offset
      have hsame : d.journal_record = c.journal_record :=
        wal.eq_of_offset hdwal hnext.of_wal hoffset
      have hget : stores.db_store.records.get? (cp.run_id.value, c.walOffset) = some d := by
        rw [load_run hcp, h.held, hd]
      have hold : ¬ cp.last_committed_wal_offset.value < c.walOffset := by omega
      have hkafka : stores.db_store.committedKafkaOffset cp.run_id c.walOffset =
          some d.kafka_offset := by
        rw [InMemoryCommittedEventStore.committedKafkaOffset, hget, Option.map_some]
      have hevent : ¬ d.journal_record.event.event_id ≠ c.eventId := by
        rw [hsame]
        exact not_not.mpr rfl
      have hcheck : validateCheckpointDuplicates stores .never cp [c] =
          .error (.brokerOffsetConflict c.walOffset (some d.kafka_offset) c.kafka_offset) := by
        rw [validateCheckpointDuplicates, if_neg (by simp [StoreFaults.never]), checkDuplicates,
          if_neg hold, committedByOffset_eq, hget, Option.map_some]
        dsimp only
        rw [if_neg hevent, if_neg (by simp [StoreFaults.never]), hkafka,
          if_pos (fun heq => hdoffset (Option.some.inj heq))]
      have hplan : planBatch writer stores .never c.runId [c] =
          .error (.brokerOffsetConflict c.walOffset (some d.kafka_offset) c.kafka_offset) := by
        rw [planBatch, if_neg (by simp [StoreFaults.never]), hnext.run, hcp]
        dsimp only
        rw [hcheck]
      rw [delivered, commitConsumedBatch, validateBatch_ok.mpr (validBatch_singleton c)]
      simp only [List.head?_cons, hplan]
  · refine ⟨h.ready, fun k => (h.held k).trans (hheld k).symm, ?_, ?_, fun store hstore cursor hc => ?_⟩
    · rw [hreached]
      exact h.checkpoint
    · rw [hreached]
      exact h.required
    · rw [List.length_append]
      exact Nat.lt_succ_of_lt (h.cursor store hstore cursor hc)

/-! The whole log. -/

/-- What the log says of its next record. -/
theorem LogHolds.next {broker : InMemoryBrokerPublisher} (h : LogHolds relay wal broker)
    (hstart : cs ++ [c] <+: broker.consumedRecords) : NextDelivery relay wal cs c := by
  have hoffsets : broker.walOffsets = broker.consumedRecords.map (·.walOffset) := List.map_map
  have hcs : cs <+: broker.consumedRecords := (List.prefix_append cs [c]).trans hstart
  -- the beginning of a log without gaps has none
  have hgap : GapFree (cs.map (·.walOffset)) := by
    intro bs k hbs
    apply h.gap_free bs k
    rw [hoffsets]
    exact hbs.trans (hcs.map _)
  -- the broker numbers its records by their place in the log
  have hposition : ∀ (i : ℕ) (d : KafkaConsumedRecord), (cs ++ [c])[i]? = some d →
      d.kafka_offset = ⟨relay.topic, 0, i⟩ := by
    intro i d hd
    obtain ⟨rest, hrest⟩ := hstart
    have hget : broker.consumedRecords[i]? = some d := by
      rw [← hrest, List.getElem?_append_left (List.getElem?_eq_some_iff.mp hd).1]
      exact hd
    rw [h.getElem?] at hget
    obtain ⟨r, -, rfl⟩ := Option.map_eq_some_iff.mp hget
    rfl
  have hlast := hposition cs.length c (by simp)
  refine ⟨(h.of_mem (hstart.subset (by simp))).1, hlast, ?_, fun k => ?_, fun d hd => ?_⟩
  · apply h.gap_free.le_reader
    rw [hoffsets, ← List.map_singleton, ← List.map_append]
    exact hstart.map _
  · rw [reached, ← hgap.mem_iff, ← Option.isSome_iff_exists, firstDelivery, List.find?_isSome]
    simp only [List.mem_map, decide_eq_true_eq]
  · obtain ⟨i, hi, hget⟩ := List.getElem_of_mem hd
    refine ⟨(h.of_mem (hcs.subset hd)).1, fun heq => ?_⟩
    have hd' := hposition i d (by rw [List.getElem?_append_left hi, List.getElem?_eq_getElem hi, hget])
    rw [hd', hlast] at heq
    exact absurd (congrArg KafkaPartitionOffset.offset heq) (Nat.ne_of_lt hi)

variable (relay writer wal now) in
theorem delivered_empty (has_required has_cursor : Bool) :
    Delivered relay writer wal [] (.empty false has_required has_cursor) := by
  refine ⟨rfl, fun k => rfl, .inl ⟨rfl, rfl⟩, fun store hstore cp hcp => ?_,
    fun store hstore cursor hcursor => ?_⟩
  · cases has_required with
    | true =>
      obtain rfl := Option.some.inj hstore
      exact absurd hcp (by simp)
    | false => exact absurd hstore (by simp [DbWriterStores.empty])
  · cases has_cursor with
    | true =>
      obtain rfl := Option.some.inj hstore
      exact absurd hcursor (by simp)
    | false => exact absurd hstore (by simp [DbWriterStores.empty])

/-- The stores once the first records of the log have been delivered. -/
theorem delivered_run {broker : InMemoryBrokerPublisher} (h : LogHolds relay wal broker)
    (hnamed : RecordsNameable writer wal) (has_required has_cursor : Bool)
    (hcs : cs <+: broker.consumedRecords) :
    Delivered relay writer wal cs
      (run (deliverOne writer now) (.empty false has_required has_cursor) cs) := by
  -- by induction on the deliveries so far: the last one is a first delivery or a repeated one
  induction cs using List.reverseRecOn with
  | nil => exact delivered_empty relay writer wal has_required has_cursor
  | append_singleton cs c ih =>
    have hbefore := ih ((List.prefix_append cs [c]).trans hcs)
    have hnext := h.next hcs
    rw [run_append, run_cons, run_nil]
    cases hfirst : firstDelivery cs c.walOffset with
    | none => exact (hbefore.first hnext hnamed hfirst).2
    | some d =>
      have hagain := hbefore.again now hnext hfirst
      rw [deliverOne, hagain.1]
      exact hagain.2

/-- Passes over the growing journal leave a log without gaps, whatever the writer does. -/
theorem pipeline_run_logged (broker_fails commit_fails has_required has_cursor : Bool)
    (steps : List (PipelineStep ι)) :
    let s := run (pipelineStep relay writer wal)
      (.initial broker_fails commit_fails has_required has_cursor) steps
    RelayLogged relay (wal.upTo s.appended) s.relay := by
  have hstep : ∀ (s : PipelineState ι) step, RelayLogged relay (wal.upTo s.appended) s.relay →
      RelayLogged relay (wal.upTo (pipelineStep relay writer wal s step).appended)
        (pipelineStep relay writer wal s step).relay := by
    intro s step h
    cases step with
    | append => exact h.mono (Nat.le_succ _)
    | relay step => exact (relayStep_logged h step).1
    | commit call => exact h
  exact run_keeps hstep (relayLogged_initial _) steps

/-- However the relay passes went, a writer that is given the broker's records one by one commits
every journal record on the broker once, under the broker offset of its first delivery: a first
delivery goes through, any other is refused as a conflict and leaves the stores as they are. -/
theorem deliveries_committed_once (relay : LocalWalRelayService)
    (writer other : LocalDbWriterService) (wal : WalContent) (now : DateTime)
    (hnamed : RecordsNameable writer wal)
    (broker_fails commit_fails has_required has_cursor : Bool) (steps : List (PipelineStep ι)) :
    let broker := (run (pipelineStep relay other wal)
      (.initial broker_fails commit_fails has_required has_cursor) steps).relay.broker
    let stores (cs : List KafkaConsumedRecord) :=
      run (deliverOne writer now) (.empty false has_required has_cursor) cs
    (∀ cs c, cs ++ [c] <+: broker.consumedRecords →
      match firstDelivery cs c.walOffset with
      | none => ∃ cp, (delivered writer now (stores cs) c).2 = .ok (some cp) ∧
          cp.last_committed_wal_offset.value = c.walOffset
      | some d => delivered writer now (stores cs) c = (stores cs,
          .error (.brokerOffsetConflict c.walOffset (some d.kafka_offset) c.kafka_offset))) ∧
    ∃ n, (stores broker.consumedRecords).db_store.committedRecords wal.run_id =
        wal.records.take n ∧ n ≤ wal.records.length ∧
      (∀ r ∈ wal.records, r.wal_offset.value < n ↔
        ∃ c ∈ broker.consumedRecords, c.journal_record = r) ∧
      ∀ k, (stores broker.consumedRecords).db_store.committedKafkaOffset wal.run_id k =
        (firstDelivery broker.consumedRecords k).map (·.kafka_offset) := by
  intro broker stores
  have hlogged := (@pipeline_run_logged ι _ relay other wal broker_fails commit_fails has_required
    has_cursor steps).log
  have hlog : LogHolds relay wal broker := ⟨hlogged.consumed, hlogged.counter,
    fun r hr => List.mem_of_mem_take (hlogged.of_wal r hr), hlogged.gap_free⟩
  constructor
  · intro cs c hstart
    have hbefore : Delivered relay writer wal cs (stores cs) :=
      delivered_run hlog hnamed has_required has_cursor ((List.prefix_append cs [c]).trans hstart)
    have hnext := hlog.next hstart
    cases hfirst : firstDelivery cs c.walOffset with
    | none => exact (hbefore.first hnext hnamed hfirst).1
    | some d => exact (hbefore.again now hnext hfirst).1
  · have hall : Delivered relay writer wal broker.consumedRecords (stores broker.consumedRecords) :=
      delivered_run hlog hnamed has_required has_cursor (List.prefix_refl _)
    have hoffsets : broker.walOffsets = broker.consumedRecords.map (·.walOffset) := List.map_map
    -- an offset is committed when it has a first delivery, that is below the reached one
    have hcount : CommittedUpTo (stores broker.consumedRecords).db_store wal.run_id
        (reached broker.consumedRecords) := by
      intro k
      rw [InMemoryCommittedEventStore.hasCommitted, hall.held, reached, ← hoffsets,
        ← hlog.gap_free.mem_iff, hoffsets, firstDelivery, List.find?_isSome]
      simp only [List.mem_map, decide_eq_true_eq]
    have hentry : ∀ r ∈ (stores broker.consumedRecords).db_store.committedRecords wal.run_id,
        r ∈ wal.records := by
      intro r hr
      obtain ⟨e, he, rfl⟩ := List.mem_map.mp hr
      obtain ⟨he, hrun⟩ := List.mem_filter.mp ((List.mem_insertionSort _).mp he)
      have hget := KeyedDict.mem_values.mp he
      rw [recordKey, of_decide_eq_true hrun, hall.held] at hget
      exact (hlog.of_mem (List.mem_of_find?_eq_some hget)).1
    obtain ⟨hcommitted, hle⟩ := WalContent.eq_take hentry (committedRecords_offsets hcount)
    refine ⟨reached broker.consumedRecords, hcommitted, hle, fun r hr => ?_, fun k => ?_⟩
    · rw [reached, ← hoffsets, ← hlog.gap_free.mem_iff, hoffsets, List.mem_map]
      constructor
      · rintro ⟨c, hc, hoffset⟩
        exact ⟨c, hc, wal.eq_of_offset (hlog.of_mem hc).1 hr hoffset⟩
      · rintro ⟨c, hc, rfl⟩
        exact ⟨c, hc, rfl⟩
    · rw [InMemoryCommittedEventStore.committedKafkaOffset, hall.held]

end Delivery

theorem sampleWal_records_nameable : RecordsNameable sampleWriter sampleWal :=
  ⟨by decide +kernel, by decide +kernel⟩

/-- Two records published twice: the writer commits the first delivery of each. -/
theorem republished_committed :
    let broker := (run (pipelineStep sampleRelay sampleWriter sampleWal)
      (.initial false false true true) republished).relay.broker
    let stores := run (deliverOne sampleWriter sampleTime) (.empty false true true)
      broker.consumedRecords
    ∃ n, stores.db_store.committedRecords sampleWal.run_id = sampleWal.records.take n ∧
      n ≤ sampleWal.records.length ∧
      (∀ r ∈ sampleWal.records, r.wal_offset.value < n ↔
        ∃ c ∈ broker.consumedRecords, c.journal_record = r) ∧
      ∀ k, stores.db_store.committedKafkaOffset sampleWal.run_id k =
        (firstDelivery broker.consumedRecords k).map (·.kafka_offset) :=
  (deliveries_committed_once sampleRelay sampleWriter sampleWriter sampleWal sampleTime
    sampleWal_records_nameable false false true true republished).2

end FuturesBot
