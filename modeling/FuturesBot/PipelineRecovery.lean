import FuturesBot.InOrderDelivery

/-! The pipeline is never stuck: from every state that it reaches, whatever has failed so far, steps
in which nothing fails any more bring the whole journal into the committed events. -/
namespace FuturesBot

open DateTimes Dicts ConsecutiveNumbers StepRuns GapFreeLogs LocalWalRelayService
  LocalDbWriterService InMemoryBrokerPublisher

/-! A relay pass that publishes all that is pending. -/

section Relay

variable {ι : Type} [DecidableEq ι] {service : LocalWalRelayService} {wal : WalContent}

variable (service wal) in
theorem buildBatch_pending (store : InMemoryWalRelayCheckpointStore)
    (h : afterCheckpoint (storedCheckpoint service wal store) < wal.records.length) :
    ∃ batch, service.buildBatchAfterCheckpoint wal.records store false wal.records.length =
      .ok (some batch) := by
  have hpos : ¬ (wal.records.length : ℤ) ≤ 0 := by omega
  obtain ⟨record, rest, hrecords⟩ : ∃ record rest, wal.records = record :: rest := by
    cases hwal : wal.records with
    | nil =>
      rw [hwal] at h
      exact absurd h (Nat.not_lt_zero _)
    | cons record rest => exact ⟨record, rest, rfl⟩
  have hrun : record.run_id = wal.run_id :=
    wal.same_run record (by rw [hrecords]; exact List.mem_cons_self)
  have hstored : InMemoryWalRelayCheckpointStore.load store service.relay_id record.run_id =
      storedCheckpoint service wal store := by rw [hrun]; rfl
  -- the run of the first record is the run of the journal, so its checkpoint is the one stored
  have hbuild : service.buildBatchAfterCheckpoint wal.records store false wal.records.length =
      buildBatchAfter wal.records record.run_id (storedCheckpoint service wal store)
        wal.records.length := by
    rw [buildBatchAfterCheckpoint.eq_def, if_neg hpos]
    split
    · rename_i hnil
      rw [hrecords] at hnil
      exact absurd hnil (by simp)
    · rename_i record' rest' hcons
      rw [hrecords] at hcons
      obtain ⟨rfl, -⟩ := List.cons.inj hcons
      rw [if_neg Bool.false_ne_true, hstored]
  rw [hbuild, buildBatchAfter, pendingRecords_eq]
  cases hpending : wal.records.drop (afterCheckpoint (storedCheckpoint service wal store)) with
  | nil => exact absurd (List.drop_eq_nil_iff.mp hpending) (by omega)
  | cons first tail =>
    have hfirst : first.wal_offset.value =
        afterCheckpoint (storedCheckpoint service wal store) := by
      have hget := wal.offset_getElem h
      rw [← List.getElem_cons_drop h] at hpending
      obtain ⟨rfl, -⟩ := List.cons.inj hpending
      exact hget
    -- the first pending record follows the checkpoint, so no gap is reported
    have hgap : checkRelayGap (storedCheckpoint service wal store) first.wal_offset.value =
        .ok () := by
      cases hcp : storedCheckpoint service wal store with
      | none => rfl
      | some cp =>
        rw [hcp, afterCheckpoint] at hfirst
        rw [checkRelayGap, if_neg (not_not.mpr hfirst)]
    have hmem : ∀ r ∈ (first :: tail).take (wal.records.length : ℤ).toNat,
        r.run_id = record.run_id := by
      intro r hr
      rw [← hpending] at hr
      rw [hrun]
      exact wal.same_run r (List.mem_of_mem_drop (List.mem_of_mem_take hr))
    have hcontiguous : checkBatchOffsets (((first :: tail).take
        (wal.records.length : ℤ).toNat).map (·.wal_offset.value)) = .ok () := by
      rw [checkBatchOffsets_ok, ← hpending]
      exact wal.slice_contiguous _ _
    have hne : (first :: tail).take (wal.records.length : ℤ).toNat ≠ [] := by
      rw [Int.toNat_natCast, hrecords, List.length_cons, List.take_succ_cons]
      exact List.cons_ne_nil _ _
    dsimp only
    rw [hgap]
    dsimp only
    rw [WalRelayBatch.of, dif_neg hne, dif_pos hmem]
    split
    · rename_i batch' hbatch'
      split at hbatch'
      · rename_i e he
        rw [hcontiguous] at he
        exact absurd he (by simp)
      · exact absurd hbatch' (by simp)
    · exact ⟨_, rfl⟩

theorem publish_broker (broker : InMemoryBrokerPublisher) (batch : WalRelayBatch) :
    (service.publish broker batch).1 =
      (broker.publishBatch (batch.records.map service.kafkaRecord)).1 := by
  rw [LocalWalRelayService.publish]
  split
  rename_i broker' ack hpublish
  rw [hpublish]
  split_ifs <;> rfl

/-- A broker that is told to fail does so once; otherwise it takes the batch. -/
theorem publishBatch_ready (broker : InMemoryBrokerPublisher) {records : List KafkaPublishRecord}
    (hne : records ≠ []) :
    (broker.publishBatch records).1.fail_next = false ∧ (broker.fail_next = false →
      (broker.publishBatch records).1.consumedRecords =
        broker.consumedRecords ++ consumedFrom broker.offset_counter records) := by
  rw [publishBatch, List.getLast?_eq_some_getLast hne]
  dsimp only
  split_ifs with hfail
  · exact ⟨rfl, fun h => absurd h (by simp [hfail])⟩
  · refine ⟨Bool.eq_false_of_not_eq_true hfail, fun _ => ?_⟩
    simp only [consumedRecords, List.flatten_append, List.flatten_cons, List.flatten_nil,
      List.append_nil]

/-- A new pass that loads the checkpoint and publishes all records after it. -/
def relayAll (p : ι) (n : ℕ) : List (RelayStep ι) := [.stop p, .load p n false, .publish p false]

/-- The batch that the pass builds goes to the broker, and the checkpoint stays. -/
theorem relayAll_eq {s : RelayState ι} {n : ℕ} {batch : WalRelayBatch}
    (hbuild : service.buildBatchAfterCheckpoint wal.records s.store false n = .ok (some batch))
    (p : ι) : ∃ pass', run (relayStep service wal) s (relayAll p n) =
      ⟨(service.publish { s.broker with fail_next := s.broker.fail_next || false } batch).1, s.store,
        pass'⟩ := by
  let loaded := storedCheckpoint service wal s.store
  -- stopping and loading leave the broker and the store alone
  let pass' := Function.update (Function.update s.pass p .idle) p (RelayPhase.built loaded batch)
  have hload : relayStep service wal (relayStep service wal s (.stop p)) (.load p n false) =
      { s with pass := pass' } := by
    rw [relayStep, relayStep]
    dsimp only
    rw [Function.update_self]
    dsimp only
    rw [hbuild]
  have hbuilt : pass' p = .built loaded batch := Function.update_self ..
  rw [relayAll, run_cons, run_cons, hload, run_cons, run_nil, relayStep]
  dsimp only
  rw [hbuilt]
  dsimp only
  split
  · rename_i broker result hresult
    rw [hresult]
    exact ⟨_, rfl⟩
  · rename_i broker e hresult
    rw [hresult]
    exact ⟨_, rfl⟩

theorem publishBatch_offsets (broker : InMemoryBrokerPublisher) {batch : WalRelayBatch}
    {loaded : Option WalRelayCheckpoint} (hafter : SliceAfter wal loaded batch)
    (hfail : broker.fail_next = false) :
    (broker.publishBatch (batch.records.map service.kafkaRecord)).1.walOffsets =
      broker.walOffsets ++ List.range' (afterCheckpoint loaded) batch.records.length := by
  have hne : batch.records.map service.kafkaRecord ≠ [] := by
    rw [ne_eq, List.map_eq_nil_iff]
    exact batch.nonempty
  have hconsumed := (publishBatch_ready broker hne).2 hfail
  have hrecords : (batch.records.map service.kafkaRecord).map (·.journal_record) =
      batch.records := by
    rw [List.map_map]
    exact List.map_id _
  rw [walOffsets, InMemoryBrokerPublisher.log, hconsumed, List.map_append, consumedFrom_records,
    hrecords, List.map_append, ← hafter.offsets]
  rfl

theorem relayAll_run {s : RelayState ι} (h : RelayLogged service wal s) (p : ι)
    (hpending : afterCheckpoint (storedCheckpoint service wal s.store) < wal.records.length) :
    let s' := run (relayStep service wal) s (relayAll p wal.records.length)
    s'.store = s.store ∧ s'.broker.fail_next = false ∧
      (s.broker.fail_next = false → CoveredTo s'.broker.walOffsets wal.records.length) := by
  obtain ⟨batch, hbuild⟩ := buildBatch_pending service wal s.store hpending
  obtain ⟨hrun, hslice⟩ := buildBatch_slice hbuild
  obtain ⟨pass', hall⟩ := relayAll_eq hbuild p
  have hne : batch.records.map service.kafkaRecord ≠ [] := by
    rw [ne_eq, List.map_eq_nil_iff]
    exact batch.nonempty
  dsimp only
  rw [hall, publish_broker]
  refine ⟨rfl, (publishBatch_ready _ hne).1, fun hfail => ?_⟩
  rw [publishBatch_offsets _ ⟨hrun, _, hslice⟩ (by rw [hfail]; rfl)]
  -- the batch is all that comes after the checkpoint
  have hlen : batch.records.length =
      wal.records.length - afterCheckpoint (storedCheckpoint service wal s.store) := by
    rw [hslice, Int.toNat_natCast, List.length_take, List.length_drop]
    exact Nat.min_eq_right (Nat.sub_le _ _)
  have hcovered := h.checkpoint.append_range' batch.records.length
  have hlast : afterCheckpoint (storedCheckpoint service wal s.store) + batch.records.length =
      wal.records.length := by
    omega
  rw [hlast] at hcovered
  exact hcovered

theorem relayRun_logged {s : RelayState ι} (h : RelayLogged service wal s)
    (steps : List (RelayStep ι)) : RelayLogged service wal (run (relayStep service wal) s steps) := by
  have hstep : ∀ (s : RelayState ι) step, RelayLogged service wal s →
      RelayLogged service wal (relayStep service wal s step) :=
    fun _ step hs => (relayStep_logged hs step).1
  exact run_keeps hstep h steps

/-- Steps of a pass in which nothing fails. -/
def SoundStep : RelayStep ι → Prop
  | .load _ _ load_fails => load_fails = false
  | .publish _ broker_unavailable => broker_unavailable = false
  | .save _ now fault => now ≠ none ∧ fault = .none
  | .stop _ => True

/-- Two passes bring the journal to the broker; the first may meet a broker that fails once. -/
theorem relay_recovers {s : RelayState ι} (h : RelayLogged service wal s) (p : ι) :
    ∃ more : List (RelayStep ι), (∀ step ∈ more, SoundStep step) ∧
      CoveredTo (run (relayStep service wal) s more).broker.walOffsets wal.records.length := by
  by_cases hpending : afterCheckpoint (storedCheckpoint service wal s.store) < wal.records.length
  · have hsound : ∀ step ∈ relayAll p wal.records.length, SoundStep step := by
      intro step hstep
      simp only [relayAll, List.mem_cons, List.not_mem_nil, or_false] at hstep
      rcases hstep with rfl | rfl | rfl <;> simp [SoundStep]
    obtain ⟨hstore, hfail, -⟩ := relayAll_run h p hpending
    have hlogged := relayRun_logged h (relayAll p wal.records.length)
    refine ⟨relayAll p wal.records.length ++ relayAll p wal.records.length, ?_, ?_⟩
    · intro step hstep
      exact (List.mem_append.mp hstep).elim (hsound step) (hsound step)
    · -- the first pass has used up the failure, so the second one goes through
      rw [run_append]
      exact (relayAll_run hlogged p (hstore ▸ hpending)).2.2 hfail
  · refine ⟨[], fun step hstep => absurd hstep List.not_mem_nil, fun j hj => ?_⟩
    exact h.checkpoint j (by omega)

end Relay

/-! The writer takes up where its checkpoint stands. -/

section Writer

variable {ι : Type} [DecidableEq ι] {relay : LocalWalRelayService} {writer : LocalDbWriterService}
  {wal : WalContent} {s : PipelineState ι} {c : KafkaConsumedRecord} {now : DateTime}

/-- The offset that the writer waits for. -/
def awaited (writer : LocalDbWriterService) (wal : WalContent) (stores : DbWriterStores) : ℕ :=
  match stores.checkpoint_store.load writer.consumer_id wal.run_id with
  | none => 0
  | some cp => cp.last_committed_wal_offset.value + 1

def feed (now : DateTime) (c : KafkaConsumedRecord) : PipelineStep ι :=
  .commit ⟨[c], some now, StoreFaults.never⟩

/-- A delivery of a record that the committed events hold, or may take. -/
structure Acceptable (wal : WalContent) (s : PipelineState ι) (c : KafkaConsumedRecord) :
    Prop where
  from_broker : c ∈ s.relay.broker.consumedRecords
  run : c.runId = wal.run_id
  fits : s.stores.db_store.records.get? (recordKey c) = none ∨ HoldsRecord s.stores.db_store c

omit [DecidableEq ι] in
theorem acceptable_of_covered (h : PipelineHolds relay writer wal s) {k : ℕ}
    (hk : k ∈ s.relay.broker.walOffsets) : ∃ c, Acceptable wal s c ∧ c.walOffset = k := by
  -- the delivery that is committed already, or any other one of the offset
  cases hget : s.stores.db_store.records.get? (wal.run_id.value, k) with
  | some e =>
    -- what is committed came from the broker
    have hkey : recordKey e = (wal.run_id.value, k) := KeyedDict.key_of_get? hget
    have he := h.from_broker _ e hget
    refine ⟨e, ⟨he, h.run_of he, .inr ⟨e, ?_, rfl, rfl⟩⟩, (Prod.mk.inj hkey).2⟩
    rw [hkey]
    exact hget
  | none =>
    obtain ⟨r, hr, rfl⟩ := List.mem_map.mp hk
    obtain ⟨c, hc, rfl⟩ := List.mem_map.mp hr
    have hrun := h.run_of hc
    refine ⟨c, ⟨hc, hrun, .inl ?_⟩, rfl⟩
    rw [recordKey, hrun]
    exact hget

theorem commitRecords_one {db : InMemoryCommittedEventStore} (hready : db.fail_next_commit = false)
    (hfits : db.records.get? (recordKey c) = none ∨ HoldsRecord db c) :
    ∃ db', db.commitRecords [c] = (db', .ok [c.journal_record]) ∧ db'.fail_next_commit = false := by
  rcases hfits with hnew | hheld
  · obtain ⟨db', hcommit, hready', -⟩ := commitRecords_new hready hnew
    exact ⟨db', hcommit, hready'⟩
  · have hstaged : db.stageAll .empty [c] = .ok .empty := by
      apply stageAll_of_held
      intro r hr
      rw [List.mem_singleton.mp hr]
      exact hheld
    refine ⟨{ db with records := db.records.update .empty }, ?_, hready⟩
    rw [InMemoryCommittedEventStore.commitRecords, validateBatch_ok.mpr (validBatch_singleton c)]
    dsimp only
    rw [if_neg (Bool.eq_false_iff.mp hready), hstaged]
    rfl

omit [DecidableEq ι] in
variable (now) in
theorem Acceptable.fed (h : Acceptable wal s c) (hnext : c.walOffset = awaited writer wal s.stores) :
    Fed writer wal s (feed now c) := by
  refine ⟨fun r hr => ?_, fun hnone first hfirst k hk => ?_⟩
  · rw [List.mem_singleton.mp hr]
    exact h.from_broker
  · obtain rfl : c = first := Option.some.inj hfirst
    rw [hnext, awaited, hnone] at hk
    exact absurd hk (Nat.not_lt_zero k)

omit [DecidableEq ι] in
theorem Acceptable.plan (h : Acceptable wal s c)
    (hnext : c.walOffset = awaited writer wal s.stores) :
    planBatch writer s.stores .never c.runId [c] = .ok (.commit [c]) := by
  apply planBatch_next
  rw [h.run]
  rw [awaited] at hnext
  cases hload : s.stores.checkpoint_store.load writer.consumer_id wal.run_id with
  | none => exact .inl rfl
  | some cp =>
    rw [hload] at hnext
    exact .inr ⟨cp, rfl, hnext⟩

variable (relay now) in
/-- The record that the writer waits for is committed, and the checkpoint moves to it. -/
theorem feed_next (h : Acceptable wal s c) (hnext : c.walOffset = awaited writer wal s.stores)
    (hid : (DomainId.of (batchText writer.consumer_id wal.run_id c.walOffset
      c.walOffset)).isSome = true) (hready : s.stores.db_store.fail_next_commit = false) :
    let s' := pipelineStep relay writer wal s (feed now c)
    s'.relay = s.relay ∧ s'.appended = s.appended ∧
      s'.stores.db_store.fail_next_commit = false ∧
      awaited writer wal s'.stores = awaited writer wal s.stores + 1 := by
  obtain ⟨db', hcommit, hready'⟩ := commitRecords_one hready h.fits
  have hcommits : Commits writer s.stores [c] [c] db' c c c :=
    ⟨validBatch_singleton c, rfl, h.plan hnext, hcommit, rfl, rfl⟩
  obtain ⟨batch_id, hbatch⟩ := Option.isSome_iff_exists.mp hid
  obtain ⟨checkpoint, hcheckpoint⟩ : ∃ checkpoint, newCheckpoint writer c.runId c.walOffset
      c.journal_record c.kafka_offset now = some checkpoint := by
    refine ⟨_, Option.map_eq_some_iff.mpr ⟨batch_id, ?_, rfl⟩⟩
    rw [h.run]
    exact hbatch
  have hcall := hcommits.call .never (some now)
  simp only [StoreFaults.never] at hcall
  rw [hcommits.advance hcheckpoint] at hcall
  simp only at hcall
  obtain ⟨required, cursors, hframe⟩ := @upsertRequired_frame writer
    (savedStores s.stores db' checkpoint) .never c.runId c.journal_record c.kafka_offset now
    checkpoint
  have hstores : (commitStep writer s.stores ⟨[c], some now, StoreFaults.never⟩) =
      { savedStores s.stores db' checkpoint with
        required_checkpoint_writer := required
        broker_cursor_store := cursors } := by
    rw [commitStep, ← hframe]
    exact congrArg Prod.fst hcall
  have hload := @newCheckpoint_load writer s.stores db' c c c now checkpoint hcheckpoint
  rw [h.run] at hload
  refine ⟨rfl, rfl, ?_, ?_⟩
  · change (commitStep writer s.stores _).db_store.fail_next_commit = false
    rw [hstores]
    exact hready'
  · change awaited writer wal (commitStep writer s.stores _) = _
    rw [hstores, ← hnext, awaited]
    rw [hload.1]
    dsimp only
    rw [hload.2]

variable (relay now) in
/-- A store that is told to fail does so once. -/
theorem feed_refused (h : Acceptable wal s c) (hnext : c.walOffset = awaited writer wal s.stores)
    (hfail : s.stores.db_store.fail_next_commit = true) :
    pipelineStep relay writer wal s (feed now c) =
      { s with stores := { s.stores with db_store :=
          { s.stores.db_store with fail_next_commit := false } } } := by
  have hcommit : s.stores.db_store.commitRecords [c] =
      ({ s.stores.db_store with fail_next_commit := false }, .error .simulatedCommitFailure) := by
    rw [InMemoryCommittedEventStore.commitRecords, validateBatch_ok.mpr (validBatch_singleton c)]
    dsimp only
    rw [if_pos hfail]
  rw [feed, pipelineStep, commitStep, commitConsumedBatch,
    validateBatch_ok.mpr (validBatch_singleton c)]
  simp only [List.head?_cons, h.plan hnext, hcommit]
  rfl

/-- Once no store is told to fail, the writer works through what is on the broker. -/
theorem writer_works (now : DateTime) (hnamed : RecordsNameable writer wal)
    (h : PipelineHolds relay writer wal s) (hready : s.stores.db_store.fail_next_commit = false)
    {n : ℕ} (hn : n ≤ wal.records.length) (hcovered : CoveredTo s.relay.broker.walOffsets n)
    (hawaited : awaited writer wal s.stores ≤ n) :
    ∃ cs : List KafkaConsumedRecord,
      Meets (pipelineStep relay writer wal) (Fed writer wal) s (cs.map (feed now)) ∧
      let s' := run (pipelineStep relay writer wal) s (cs.map (feed now))
      s'.appended = s.appended ∧ awaited writer wal s'.stores = n := by
  -- by induction on how many records are still to come
  obtain ⟨d, hd⟩ : ∃ d, awaited writer wal s.stores + d = n := ⟨n - awaited writer wal s.stores,
    by omega⟩
  induction d generalizing s with
  | zero => exact ⟨[], trivial, rfl, hd⟩
  | succ d ih =>
    obtain ⟨c, hc, hnext⟩ := acceptable_of_covered h (hcovered (awaited writer wal s.stores)
      (by omega))
    have hfed := hc.fed now hnext
    have hid := hnamed.batch c.walOffset (by omega)
    obtain ⟨hrelay, happended, hready', hstep⟩ := feed_next relay now hc hnext hid hready
    obtain ⟨cs, hmeets, happended', hdone⟩ := ih (pipelineStep_holds h _ hfed).1 hready'
      (hrelay ▸ hcovered) (by omega) (by omega)
    exact ⟨c :: cs, ⟨hfed, hmeets⟩, happended'.trans happended, hdone⟩

theorem writer_recovers (now : DateTime) (hnamed : RecordsNameable writer wal)
    (h : PipelineHolds relay writer wal s) {n : ℕ} (hn : n ≤ wal.records.length)
    (hcovered : CoveredTo s.relay.broker.walOffsets n)
    (hawaited : awaited writer wal s.stores ≤ n) :
    ∃ cs : List KafkaConsumedRecord,
      Meets (pipelineStep relay writer wal) (Fed writer wal) s (cs.map (feed now)) ∧
      let s' := run (pipelineStep relay writer wal) s (cs.map (feed now))
      s'.appended = s.appended ∧ awaited writer wal s'.stores = n := by
  by_cases hready : s.stores.db_store.fail_next_commit = false
  · exact writer_works now hnamed h hready hn hcovered hawaited
  · by_cases hdone : awaited writer wal s.stores = n
    · exact ⟨[], trivial, rfl, hdone⟩
    · -- the first call meets the store that fails once
      obtain ⟨c, hc, hnext⟩ := acceptable_of_covered h (hcovered (awaited writer wal s.stores)
        (by omega))
      have hfed := hc.fed now hnext
      have hrefused := feed_refused relay now hc hnext
        (Bool.eq_true_of_not_eq_false hready)
      have hholds := (pipelineStep_holds h _ hfed).1
      rw [hrefused] at hholds
      obtain ⟨cs, hmeets, hlater⟩ := writer_works now hnamed hholds rfl hn hcovered hawaited
      refine ⟨c :: cs, ⟨hfed, ?_⟩, ?_⟩
      · rw [hrefused]
        exact hmeets
      · rw [List.map_cons, run_cons, hrefused]
        exact hlater

variable (relay writer wal) in
theorem run_relay (s : PipelineState ι) (steps : List (RelayStep ι)) :
    run (pipelineStep relay writer wal) s (steps.map .relay) =
      { s with relay := run (relayStep relay (wal.upTo s.appended)) s.relay steps } := by
  induction steps generalizing s with
  | nil => rfl
  | cons step steps ih =>
    rw [List.map_cons, run_cons, ih]
    rfl

/-- A step in which nothing is made to fail. -/
def Undisturbed (now : DateTime) : PipelineStep ι → Prop
  | .append => False
  | .relay step => SoundStep step
  | .commit call => call.faults = .never ∧ call.now = some now

variable (relay writer wal) in
theorem run_relay_meets (s : PipelineState ι) (steps : List (RelayStep ι)) :
    Meets (pipelineStep relay writer wal) (Fed writer wal) s (steps.map .relay) := by
  rw [meets_prefix_iff]
  intro bs a hbs
  have hmem : a ∈ steps.map PipelineStep.relay := hbs.subset (by simp)
  obtain ⟨step, -, rfl⟩ := List.mem_map.mp hmem
  trivial

omit [DecidableEq ι] in
/-- The writer waits for the record after the committed ones, or for an earlier one. -/
theorem PipelineSafe.awaited_le {n : ℕ} (h : PipelineSafe relay writer wal s n) :
    awaited writer wal s.stores ≤ n := by
  rw [awaited]
  split
  · exact Nat.zero_le n
  · rename_i cp hcp
    exact h.checkpoint cp hcp

/-- What a state that holds comes to: first the journal comes to the broker, then the writer commits
what is there. -/
theorem PipelineHolds.recovers (now : DateTime) (p : ι) (hnamed : RecordsNameable writer wal)
    (h : PipelineHolds relay writer wal s) :
    ∃ more : List (PipelineStep ι), (∀ step ∈ more, Undisturbed now step) ∧
      Meets (pipelineStep relay writer wal) (Fed writer wal) s more ∧
      let s' := run (pipelineStep relay writer wal) s more
      s'.appended = s.appended ∧
        s'.stores.db_store.committedRecords wal.run_id = wal.records.take s.appended ∧
        awaited writer wal s'.stores = min s.appended wal.records.length := by
  obtain ⟨published, hsound, hcovered⟩ := relay_recovers h.relay p
  have hlength : (wal.upTo s.appended).records.length = min s.appended wal.records.length :=
    List.length_take
  rw [hlength] at hcovered
  obtain ⟨relayed, hrelayed⟩ : ∃ relayed, relayed = run (pipelineStep relay writer wal) s
      (published.map .relay) := ⟨_, rfl⟩
  have hmeets := run_relay_meets relay writer wal s published
  have hholds := (h.after hmeets).1
  have hrun := run_relay relay writer wal s published
  rw [← hrelayed] at hholds hrun
  have happended : relayed.appended = s.appended := by rw [hrun]
  have hall : CoveredTo relayed.relay.broker.walOffsets (min s.appended wal.records.length) := by
    rw [hrun]
    exact hcovered
  obtain ⟨n, hsafe⟩ := hholds.safe
  have hawaited : awaited writer wal relayed.stores ≤ min s.appended wal.records.length :=
    hsafe.awaited_le.trans (le_min (happended ▸ hsafe.appended.1) hsafe.appended.2)
  obtain ⟨cs, hfed, hkept, hdone⟩ := writer_recovers now hnamed hholds (Nat.min_le_right _ _) hall
    hawaited
  obtain ⟨n', hend⟩ := (hholds.after hfed).1.safe
  refine ⟨published.map .relay ++ cs.map (feed now), ?_, ?_, ?_⟩
  · intro step hmem
    rcases List.mem_append.mp hmem with hmem | hmem
    · obtain ⟨step, hpublished, rfl⟩ := List.mem_map.mp hmem
      exact hsound step hpublished
    · obtain ⟨c, -, rfl⟩ := List.mem_map.mp hmem
      exact ⟨rfl, rfl⟩
  · rw [meets_append, ← hrelayed]
    exact ⟨hmeets, hfed⟩
  · rw [run_append, ← hrelayed]
    refine ⟨hkept.trans happended, ?_, hdone⟩
    -- the writer stands at the end of the journal, so nothing of it is left out
    have hle := hend.appended
    have hreach := hend.awaited_le
    rw [hdone] at hreach
    rw [hkept, happended] at hle
    rw [hend.committed]
    rcases Nat.le_total s.appended wal.records.length with hshort | hlong
    · rw [show n' = s.appended by omega]
    · rw [List.take_of_length_le (by omega), List.take_of_length_le hlong]

end Writer

end FuturesBot
