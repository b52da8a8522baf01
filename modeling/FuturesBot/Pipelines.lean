import FuturesBot.AppendOnly
import FuturesBot.BrokerLogs
import FuturesBot.CheckpointWrites

/-! The pipeline from the journal to the committed events: the journal is appended to, relay passes
publish it, and one database writer commits what it consumes from the broker, all interleaved and
with any failures. -/
namespace FuturesBot

open DateTimes Dicts ConsecutiveNumbers StepRuns GapFreeLogs LocalWalRelayService
  LocalDbWriterService

/-! What a call of the writer makes of the committed events. -/

section Calls

variable {service : LocalDbWriterService} {stores : DbWriterStores}

theorem advanceCheckpoints_db (stores : DbWriterStores) (faults : StoreFaults)
    (saved_at : Option DateTime) (run_id : RunId) (first_offset : ℕ) (last_record : JournalRecord)
    (kafka_offset : KafkaPartitionOffset) :
    (advanceCheckpoints service stores faults saved_at run_id first_offset last_record
      kafka_offset).1.db_store = stores.db_store := by
  rw [advanceCheckpoints.eq_def]
  split
  · rfl
  · split
    · rfl
    · split
      · rfl
      · rename_i store _
        obtain ⟨required, cursors, hframe⟩ := @upsertRequired_frame service
          { stores with checkpoint_store := store } faults run_id last_record kafka_offset _ _
        rw [hframe]

/-- A call leaves the committed events alone, or it commits what its batch has left. -/
theorem commitStep_db (stores : DbWriterStores) (call : CommitCall) :
    (commitStep service stores call).db_store = stores.db_store ∨
      ∃ first rest, call.records.head? = some first ∧ ValidBatch call.records ∧
        planBatch service stores call.faults first.runId call.records = .ok (.commit rest) ∧
        (commitStep service stores call).db_store = (stores.db_store.commitRecords rest).1 := by
  rw [commitStep, commitConsumedBatch]
  split
  · exact .inl rfl
  · exact .inl rfl
  · rename_i first hvalid hhead
    split
    · exact .inl rfl
    · exact .inl rfl
    · rename_i rest hplan
      have happly : (call.faults.commit.apply stores.db_store
          (stores.db_store.commitRecords rest)).1 = stores.db_store ∨
          (call.faults.commit.apply stores.db_store (stores.db_store.commitRecords rest)).1 =
            (stores.db_store.commitRecords rest).1 := by
        cases call.faults.commit with
        | none => exact .inr rfl
        | before => exact .inl rfl
        | after => exact .inr rfl
      have hwhole (db : InMemoryCommittedEventStore)
          (hdb : db = (call.faults.commit.apply stores.db_store
            (stores.db_store.commitRecords rest)).1) :
          db = stores.db_store ∨
            ∃ first' rest', call.records.head? = some first' ∧ ValidBatch call.records ∧
              planBatch service stores call.faults first'.runId call.records =
                .ok (.commit rest') ∧
              db = (stores.db_store.commitRecords rest').1 := by
        rcases happly with hsame | hcommit
        · exact .inl (hdb.trans hsame)
        · exact .inr ⟨first, rest, ‹_›, validateBatch_ok.mp hvalid, hplan, hdb.trans hcommit⟩
      split
      · rename_i db e hcall
        exact hwhole db (by rw [hcall])
      · rename_i db committed hcall
        split
        · rw [advanceCheckpoints_db]
          exact hwhole db (by rw [hcall])
        · exact hwhole db (by rw [hcall])

theorem stageAll_mem {db : InMemoryCommittedEventStore} {staged staged' : KeyedDict recordKey}
    {records : List KafkaConsumedRecord} (h : db.stageAll staged records = .ok staged') :
    ∀ e ∈ staged'.values, e ∈ staged.values ∨ e ∈ records := by
  induction records generalizing staged with
  | nil =>
    obtain rfl := Except.ok.inj h
    exact fun e he => .inl he
  | cons r rs ih =>
    rw [InMemoryCommittedEventStore.stageAll] at h
    split at h
    · exact absurd h (by simp)
    · rename_i mid hmid
      intro e he
      rcases ih h e he with hmem | hrs
      · rw [InMemoryCommittedEventStore.stage] at hmid
        split at hmid
        · split_ifs at hmid
          obtain rfl := Except.ok.inj hmid
          exact .inl hmem
        · obtain rfl := Except.ok.inj hmid
          rcases KeyedDict.mem_values_put.mp hmem with rfl | ⟨-, hold⟩
          · exact .inr List.mem_cons_self
          · exact .inl hold
      · exact .inr (List.mem_cons_of_mem r hrs)

/-- What a commit leaves: the events committed before, and those of its batch when it goes
through. -/
theorem commitRecords_result (db : InMemoryCommittedEventStore)
    (records : List KafkaConsumedRecord) :
    Extends db (db.commitRecords records).1 ∧
      ((db.commitRecords records).1.records = db.records ∨ ValidBatch records ∧
        (∀ r ∈ records, HoldsRecord (db.commitRecords records).1 r) ∧
        ∀ k e, (db.commitRecords records).1.records.get? k = some e →
          db.records.get? k = some e ∨ e ∈ records) := by
  rcases hcommit : db.commitRecords records with ⟨db', result⟩
  cases result with
  | error e =>
    have hsame : db'.records = db.records := by
      rcases commitRecords_error hcommit with ⟨rfl, -⟩ | ⟨-, -, rfl⟩ <;> rfl
    refine ⟨fun k e he => ?_, .inl hsame⟩
    rw [hsame]
    exact he
  | ok committed =>
    obtain ⟨hext, hholds, -⟩ := commitRecords_again hcommit
    obtain ⟨hvalid, hready, -, -, -⟩ := commitRecords_ok hcommit
    refine ⟨hext, .inr ⟨hvalid, hholds, fun k e he => ?_⟩⟩
    rw [InMemoryCommittedEventStore.commitRecords, validateBatch_ok.mpr hvalid] at hcommit
    dsimp only at hcommit
    rw [if_neg (Bool.eq_false_iff.mp hready)] at hcommit
    split at hcommit
    · exact absurd (Prod.mk.inj hcommit).2 (by simp)
    · rename_i staged hstaged
      obtain ⟨rfl, -⟩ := Prod.mk.inj hcommit
      have hget : (db.records.update staged).get? k = some e := he
      rw [KeyedDict.get?_update] at hget
      cases hk : staged.get? k with
      | none =>
        rw [hk, Option.none_or] at hget
        exact .inl hget
      | some e' =>
        rw [hk, Option.some_or] at hget
        obtain rfl := Option.some.inj hget
        have hmem := stageAll_mem hstaged e' (KeyedDict.mem_values_of_get? hk)
        exact .inr (hmem.resolve_left List.not_mem_nil)

/-- The offsets of the run that are committed are those below `n`. -/
def CommittedUpTo (db : InMemoryCommittedEventStore) (run_id : RunId) (n : ℕ) : Prop :=
  ∀ k, db.hasCommitted run_id k = true ↔ k < n

theorem hasCommitted_get? {db : InMemoryCommittedEventStore} {run_id : RunId} {k : ℕ} :
    db.hasCommitted run_id k = true ↔ ∃ e, db.records.get? (run_id.value, k) = some e :=
  Option.isSome_iff_exists

/-- The offsets of the run's committed records are sorted, each once. -/
theorem committedRecords_offsets {db : InMemoryCommittedEventStore} {run_id : RunId} {n : ℕ}
    (h : CommittedUpTo db run_id n) :
    (db.committedRecords run_id).map (·.wal_offset.value) = List.range n := by
  let entries := db.records.values.filter fun r => r.runId.value = run_id.value
  have hkeys : (db.records.values.map recordKey).Nodup := db.records.values_keys_nodup
  have hnodup : (entries.map (·.walOffset)).Nodup := by
    rw [List.nodup_map_iff_inj_on ((List.Nodup.of_map _ hkeys).filter _)]
    intro a ha b hb hab
    obtain ⟨ha, hra⟩ := List.mem_filter.mp ha
    obtain ⟨hb, hrb⟩ := List.mem_filter.mp hb
    have hrun : a.runId.value = b.runId.value :=
      (of_decide_eq_true hra).trans (of_decide_eq_true hrb).symm
    exact List.inj_on_of_nodup_map hkeys ha hb (Prod.ext hrun hab)
  have hmem : ∀ k, k ∈ entries.map (·.walOffset) ↔ k ∈ List.range n := by
    intro k
    rw [List.mem_range, ← h k, hasCommitted_get?, List.mem_map]
    constructor
    · rintro ⟨e, he, rfl⟩
      obtain ⟨he, hrun⟩ := List.mem_filter.mp he
      refine ⟨e, ?_⟩
      rw [← of_decide_eq_true hrun]
      exact KeyedDict.mem_values.mp he
    · rintro ⟨e, he⟩
      have hkey : recordKey e = (run_id.value, k) := KeyedDict.key_of_get? he
      obtain ⟨hrun, hoffset⟩ := Prod.mk.inj hkey
      exact ⟨e, List.mem_filter.mpr ⟨KeyedDict.mem_values_of_get? he, decide_eq_true hrun⟩, hoffset⟩
  have hsorted : (entries.map (·.walOffset)).insertionSort (· ≤ ·) = List.range n := by
    refine List.Perm.eq_of_pairwise' (List.pairwise_insertionSort _ _) List.pairwise_le_range ?_
    refine (List.perm_insertionSort _ _).trans ?_
    exact (List.perm_ext_iff_of_nodup hnodup List.nodup_range).mpr hmem
  rw [InMemoryCommittedEventStore.committedRecords, List.map_map, ← hsorted]
  exact List.map_insertionSort _ _ _ _ fun a _ b _ => Iff.rfl

/-- A batch that begins no later than `n` leaves no gap. -/
theorem commitRecords_upTo {db : InMemoryCommittedEventStore} {run_id : RunId} {n : ℕ}
    {records : List KafkaConsumedRecord} (h : CommittedUpTo db run_id n)
    (hrun : ∀ r ∈ records, r.runId = run_id) (hfirst : ∀ first ∈ records.head?, first.walOffset ≤ n) :
    ∃ n', CommittedUpTo (db.commitRecords records).1 run_id n' := by
  obtain ⟨hext, hsame | ⟨hvalid, hholds, hfrom⟩⟩ := commitRecords_result db records
  · refine ⟨n, fun k => ?_⟩
    rw [InMemoryCommittedEventStore.hasCommitted, hsame]
    exact h k
  · obtain ⟨first, hhead⟩ := Option.isSome_iff_exists.mp
      (List.isSome_head?.mpr hvalid.nonempty)
    have hlast := List.getLast?_eq_some_getLast hvalid.nonempty
    have hmem : ∀ k, k ∈ records.map (·.walOffset) ↔
        first.walOffset ≤ k ∧ k ≤ (records.getLast hvalid.nonempty).walOffset := by
      intro k
      apply hvalid.wal.mem_iff
      · rw [List.head?_map, hhead, Option.map_some]
      · rw [List.getLast?_map, hlast, Option.map_some]
    have hstart := hfirst first hhead
    refine ⟨max n ((records.getLast hvalid.nonempty).walOffset + 1), fun k => ⟨fun hk => ?_,
      fun hk => ?_⟩⟩
    · obtain ⟨e, he⟩ := hasCommitted_get?.mp hk
      rcases hfrom _ e he with hold | hnew
      · have hlt := (h k).mp (hasCommitted_get?.mpr ⟨e, hold⟩)
        omega
      · have hkey : recordKey e = (run_id.value, k) := KeyedDict.key_of_get? he
        have hoffset : e.walOffset = k := (Prod.mk.inj hkey).2
        have hin := (hmem k).mp (hoffset ▸ List.mem_map_of_mem hnew)
        omega
    · by_cases hlow : k < n
      · obtain ⟨e, he⟩ := hasCommitted_get?.mp ((h k).mpr hlow)
        exact hasCommitted_get?.mpr ⟨e, hext _ e he⟩
      · -- the batch reaches from `n` or below to its last offset
        obtain ⟨r, hr, rfl⟩ := List.mem_map.mp ((hmem k).mpr ⟨by omega, by omega⟩)
        obtain ⟨e, he, -⟩ := hholds r hr
        rw [recordKey, hrun r hr] at he
        exact hasCommitted_get?.mpr ⟨e, he⟩

end Calls

/-! The whole pipeline. -/

structure PipelineState (ι : Type) where
  /-- how many records the journal has so far -/
  appended : ℕ
  relay : RelayState ι
  stores : DbWriterStores

inductive PipelineStep (ι : Type) where
  | append
  | relay (step : RelayStep ι)
  | commit (call : CommitCall)

section Pipeline

variable {ι : Type} [DecidableEq ι] (relay : LocalWalRelayService) (writer : LocalDbWriterService)
  (wal : WalContent)

def pipelineStep (s : PipelineState ι) : PipelineStep ι → PipelineState ι
  | .append => { s with appended := s.appended + 1 }
  | .relay step => { s with relay := relayStep relay (wal.upTo s.appended) s.relay step }
  | .commit call => { s with stores := commitStep writer s.stores call }

def PipelineState.initial (broker_fails commit_fails has_required has_cursor : Bool) :
    PipelineState ι :=
  ⟨0, .initial broker_fails, .empty commit_fails has_required has_cursor⟩

/-- The writer is given records that it consumed from the broker; while the run has no checkpoint
its batches leave no uncommitted offset before them. -/
structure Consumes (s : PipelineState ι) (call : CommitCall) : Prop where
  from_broker : ∀ r ∈ call.records, r ∈ s.relay.broker.consumedRecords
  from_start : s.stores.checkpoint_store.load writer.consumer_id wal.run_id = none →
    ∀ first ∈ call.records.head?, ∀ k < first.walOffset,
      s.stores.db_store.hasCommitted wal.run_id k = true

def Fed (s : PipelineState ι) : PipelineStep ι → Prop
  | .commit call => Consumes writer wal s call
  | _ => True

structure PipelineHolds (s : PipelineState ι) : Prop where
  relay : RelayLogged relay (wal.upTo s.appended) s.relay
  from_broker : ∀ k e, s.stores.db_store.records.get? k = some e →
    e ∈ s.relay.broker.consumedRecords
  backed : Backed writer s.stores
  own : OwnCheckpoints writer s.stores
  counted : ∃ n, CommittedUpTo s.stores.db_store wal.run_id n

/-- What holds of a state that a run reaches, with the first `n` records committed. -/
structure PipelineSafe (s : PipelineState ι) (n : ℕ) : Prop where
  committed : s.stores.db_store.committedRecords wal.run_id = wal.records.take n
  appended : n ≤ s.appended ∧ n ≤ wal.records.length
  consumed : ∀ r ∈ wal.records.take n, ∃ c ∈ s.relay.broker.consumedRecords,
    c.journal_record = r ∧ s.stores.db_store.committedKafkaOffset wal.run_id r.wal_offset.value =
      some c.kafka_offset
  relayed : ∀ cp, storedCheckpoint relay wal s.relay.store = some cp → ∀ r ∈ wal.records,
    r.wal_offset.value ≤ cp.last_published_wal_offset.value →
    ∃ c ∈ s.relay.broker.consumedRecords, c.journal_record = r
  checkpoint : ∀ cp, s.stores.checkpoint_store.load writer.consumer_id wal.run_id = some cp →
    cp.last_committed_wal_offset.value < n
  collected : ∀ store ∈ s.stores.required_checkpoint_writer, ∀ segment decided_at archive,
    (decideWalGc segment
      (InMemoryRequiredConsumerCheckpointStore.loadRequiredCheckpoints store wal.run_id)
      decided_at archive).eligible = true →
    ∃ range, segment.offset_range = some range ∧ range.last.value < n

variable {relay writer wal} {s : PipelineState ι}

omit [DecidableEq ι] in
theorem PipelineHolds.run_of (h : PipelineHolds relay writer wal s) {c : KafkaConsumedRecord}
    (hc : c ∈ s.relay.broker.consumedRecords) : c.runId = wal.run_id := by
  obtain ⟨hmem, -⟩ := h.relay.log.of_mem hc
  exact (wal.upTo s.appended).same_run _ hmem

omit [DecidableEq ι] in
/-- A batch that the writer consumes gives the run no checkpoint over a gap. -/
theorem Consumes.starts (h : PipelineHolds relay writer wal s) {call : CommitCall}
    (hcall : Consumes writer wal s call) : StartsAtPrefix writer s.stores call := by
  intro first hfirst k hk
  have hmem : first ∈ call.records := List.mem_of_mem_head? hfirst.head
  have hrun := h.run_of (hcall.from_broker first hmem)
  have hunsaved := hfirst.unsaved
  rw [hrun] at hunsaved ⊢
  exact hcall.from_start hunsaved first hfirst.head k hk

omit [DecidableEq ι] in
/-- What is left of a batch begins no later than what is committed. -/
theorem Consumes.rest_first (h : PipelineHolds relay writer wal s) {call : CommitCall}
    (hcall : Consumes writer wal s call) {n : ℕ}
    (hn : CommittedUpTo s.stores.db_store wal.run_id n) {first : KafkaConsumedRecord}
    {rest : List KafkaConsumedRecord} (hhead : call.records.head? = some first)
    (hplan : planBatch writer s.stores call.faults first.runId call.records =
      .ok (.commit rest)) :
    (∀ r ∈ rest, r ∈ call.records) ∧ ∀ r ∈ rest.head?, r.walOffset ≤ n := by
  obtain ⟨-, hsub, hcases⟩ := planBatch_commit hplan
  have hrun := h.run_of (hcall.from_broker first (List.mem_of_mem_head? hhead))
  rw [hrun] at hcases
  refine ⟨hsub, fun r hr => ?_⟩
  rcases hcases with ⟨hnone, rfl⟩ | ⟨cp, hcp, hnext⟩
  · -- no checkpoint: everything before the batch is committed
    by_contra hlt
    have hcommitted := hcall.from_start hnone r hr n (by omega)
    exact absurd ((hn n).mp hcommitted) (lt_irrefl n)
  · have hbacked := h.backed.checkpoint wal.run_id cp hcp _ (le_refl _)
    have hlt := (hn _).mp hbacked
    rw [hnext r hr]
    omega

theorem pipelineStep_holds (h : PipelineHolds relay writer wal s) (step : PipelineStep ι)
    (hfed : Fed writer wal s step) :
    PipelineHolds relay writer wal (pipelineStep relay writer wal s step) ∧
      Extends s.stores.db_store (pipelineStep relay writer wal s step).stores.db_store := by
  cases step with
  | append =>
    exact ⟨⟨h.relay.mono (Nat.le_succ _), h.from_broker, h.backed, h.own, h.counted⟩,
      fun k e he => he⟩
  | relay step =>
    obtain ⟨hrelay, hprefix⟩ := relayStep_logged h.relay step
    refine ⟨⟨hrelay, fun k e he => ?_, h.backed, h.own, h.counted⟩, fun k e he => he⟩
    exact hprefix.subset (h.from_broker k e he)
  | commit call =>
    have hcall : Consumes writer wal s call := hfed
    have hkeeps := commitStep_keeps h.backed (hcall.starts h)
    have hown : OwnCheckpoints writer (commitStep writer s.stores call) := by
      intro store' hstore' cp hcp
      obtain ⟨store, hstore, hsub⟩ := hkeeps.others store' hstore'
      exact (hsub cp hcp).elim (h.own store hstore cp) id
    obtain ⟨n, hn⟩ := h.counted
    rcases commitStep_db s.stores call with hsame | ⟨first, rest, hhead, -, hplan, hdb⟩
    · refine ⟨⟨h.relay, ?_, hkeeps.backed, hown, n, ?_⟩, ?_⟩
      · change ∀ k e, (commitStep writer s.stores call).db_store.records.get? k = some e → _
        rw [hsame]
        exact h.from_broker
      · change CommittedUpTo (commitStep writer s.stores call).db_store wal.run_id n
        rw [hsame]
        exact hn
      · change Extends _ (commitStep writer s.stores call).db_store
        rw [hsame]
        exact fun k e he => he
    · obtain ⟨hsub, hfirst⟩ := hcall.rest_first h hn hhead hplan
      obtain ⟨hext, hresult⟩ := commitRecords_result s.stores.db_store rest
      have hrun : ∀ r ∈ rest, r.runId = wal.run_id :=
        fun r hr => h.run_of (hcall.from_broker r (hsub r hr))
      refine ⟨⟨h.relay, ?_, hkeeps.backed, hown, ?_⟩, ?_⟩
      · change ∀ k e, (commitStep writer s.stores call).db_store.records.get? k = some e → _
        rw [hdb]
        intro k e he
        rcases hresult with hsame | ⟨-, -, hfrom⟩
        · rw [hsame] at he
          exact h.from_broker k e he
        · rcases hfrom k e he with hold | hnew
          · exact h.from_broker k e hold
          · exact hcall.from_broker e (hsub e hnew)
      · change ∃ n', CommittedUpTo (commitStep writer s.stores call).db_store wal.run_id n'
        rw [hdb]
        exact commitRecords_upTo hn hrun hfirst
      · change Extends _ (commitStep writer s.stores call).db_store
        rw [hdb]
        exact hext

omit [DecidableEq ι] in
theorem pipelineHolds_initial (broker_fails commit_fails has_required has_cursor : Bool) :
    PipelineHolds relay writer wal
      (.initial broker_fails commit_fails has_required has_cursor : PipelineState ι) := by
  have hnone : ∀ store ∈ (DbWriterStores.empty commit_fails has_required
      has_cursor).required_checkpoint_writer, store = .empty := by
    intro store hstore
    cases has_required with
    | true => exact (Option.some.inj hstore).symm
    | false => exact absurd hstore (by simp [DbWriterStores.empty])
  have hempty : ∀ store ∈ (DbWriterStores.empty commit_fails has_required
      has_cursor).required_checkpoint_writer, ∀ cp ∈ store.values, False := by
    intro store hstore cp hcp
    rw [hnone store hstore] at hcp
    exact List.not_mem_nil hcp
  refine ⟨relayLogged_initial _, fun k e he => absurd he (by simp [PipelineState.initial,
    DbWriterStores.empty, InMemoryCommittedEventStore.empty]), ⟨fun run_id cp hcp => absurd hcp (by
      simp [PipelineState.initial, DbWriterStores.empty, InMemoryDbWriterCheckpointStore.load]),
      fun store hstore cp hcp => (hempty store hstore cp hcp).elim⟩,
    fun store hstore cp hcp => (hempty store hstore cp hcp).elim, 0, fun k => ?_⟩
  simp [PipelineState.initial, DbWriterStores.empty, InMemoryCommittedEventStore.empty,
    InMemoryCommittedEventStore.hasCommitted]

/-- Records of the journal at the offsets 0, 1, … are its beginning. -/
theorem WalContent.eq_take {wal : WalContent} {l : List JournalRecord} {n : ℕ}
    (hmem : ∀ r ∈ l, r ∈ wal.records) (hoffsets : l.map (·.wal_offset.value) = List.range n) :
    l = wal.records.take n ∧ n ≤ wal.records.length := by
  have hlen : l.length = n := by
    have := congrArg List.length hoffsets
    rwa [List.length_map, List.length_range] at this
  have hget : ∀ k (hk : k < l.length), wal.records[k]? = some l[k] := by
    intro k hk
    have hoffset := congrArg (·[k]?) hoffsets
    simp only [List.getElem?_map, List.getElem?_eq_getElem hk, Option.map_some,
      List.getElem?_range (hlen ▸ hk), Option.some.injEq] at hoffset
    have hwal := wal.getElem?_offset (hmem l[k] (List.getElem_mem hk))
    rwa [hoffset] at hwal
  have hle : n ≤ wal.records.length := by
    by_contra hlt
    have hk : wal.records.length < l.length := by omega
    have hnone := hget _ hk
    rw [List.getElem?_eq_none (le_refl _)] at hnone
    exact absurd hnone (by simp)
  refine ⟨List.ext_getElem ?_ fun k hk hk' => ?_, hle⟩
  · rw [List.length_take, hlen, Nat.min_eq_left hle]
  · have hwal := hget k hk
    rw [List.getElem?_eq_getElem (by omega)] at hwal
    rw [List.getElem_take, Option.some.inj hwal]

omit [DecidableEq ι] in
theorem PipelineHolds.safe (h : PipelineHolds relay writer wal s) :
    ∃ n, PipelineSafe relay writer wal s n := by
  obtain ⟨n, hn⟩ := h.counted
  have hentry : ∀ r ∈ s.stores.db_store.committedRecords wal.run_id,
      ∃ e ∈ s.relay.broker.consumedRecords, e.journal_record = r ∧
        s.stores.db_store.records.get? (wal.run_id.value, r.wal_offset.value) = some e := by
    intro r hr
    obtain ⟨e, he, rfl⟩ := List.mem_map.mp hr
    obtain ⟨he, hrun⟩ := List.mem_filter.mp ((List.mem_insertionSort _).mp he)
    have hget := KeyedDict.mem_values.mp he
    rw [recordKey, of_decide_eq_true hrun] at hget
    exact ⟨e, h.from_broker _ e hget, rfl, hget⟩
  have hmem : ∀ r ∈ s.stores.db_store.committedRecords wal.run_id,
      r ∈ (wal.upTo s.appended).records := by
    intro r hr
    obtain ⟨e, he, rfl, -⟩ := hentry r hr
    exact (h.relay.log.of_mem he).1
  obtain ⟨hvisible, hle⟩ := WalContent.eq_take hmem (committedRecords_offsets hn)
  rw [show (wal.upTo s.appended).records = wal.records.take s.appended from rfl,
    List.length_take] at hle
  have hcommitted : s.stores.db_store.committedRecords wal.run_id = wal.records.take n := by
    rw [hvisible]
    change (wal.records.take s.appended).take n = wal.records.take n
    rw [List.take_take, Nat.min_eq_left (by omega)]
  refine ⟨n, hcommitted, by omega, fun r hr => ?_, fun cp hcp r hr hr' => ?_, fun cp hcp => ?_,
    fun store hstore segment decided_at archive heligible => ?_⟩
  · rw [← hcommitted] at hr
    obtain ⟨e, he, her, hget⟩ := hentry r hr
    refine ⟨e, he, her, ?_⟩
    rw [InMemoryCommittedEventStore.committedKafkaOffset, hget, Option.map_some]
  · -- what the checkpoint of the relay stands on is in the log
    have hcovered := h.relay.checkpoint
    have hload : storedCheckpoint relay (wal.upTo s.appended) s.relay.store = some cp := hcp
    rw [hload] at hcovered
    obtain ⟨r', hr', hoffset⟩ := List.mem_map.mp (hcovered r.wal_offset.value
      (Nat.lt_succ_of_le hr'))
    obtain ⟨c, hc, rfl⟩ := List.mem_map.mp hr'
    have hwal := List.mem_of_mem_take (h.relay.log.of_mem hc).1
    exact ⟨c, hc, wal.eq_of_offset hwal hr hoffset⟩
  · exact (hn _).mp (h.backed.checkpoint wal.run_id cp hcp _ (le_refl _))
  · have hgc := h.backed.gcSafe h.own
    obtain ⟨range, hrange, hall⟩ := hgc.gc store hstore wal.run_id segment decided_at archive
      heligible
    obtain ⟨hrun, -⟩ := decideWalGc_eligible heligible
    refine ⟨range, hrange, ?_⟩
    have hlast := hall range.last.value range.ordered (le_refl _)
    rw [hrun] at hlast
    exact (hn _).mp hlast

/-- What holds of a state holds after every run from it, and nothing committed changes. -/
theorem PipelineHolds.after {steps : List (PipelineStep ι)} (h : PipelineHolds relay writer wal s)
    (hmeets : Meets (pipelineStep relay writer wal) (Fed writer wal) s steps) :
    let s' := run (pipelineStep relay writer wal) s steps
    PipelineHolds relay writer wal s' ∧ Extends s.stores.db_store s'.stores.db_store := by
  induction steps generalizing s with
  | nil => exact ⟨h, fun k e he => he⟩
  | cons step steps ih =>
    obtain ⟨hfed, hrest⟩ := hmeets
    obtain ⟨hholds, hkept⟩ := pipelineStep_holds h step hfed
    obtain ⟨hlast, hlater⟩ := ih hholds hrest
    exact ⟨hlast, fun k e he => hlater k e (hkept k e he)⟩

/-- In every interleaving of appends, relay passes and calls of the writer, whatever fails, the
committed events are the journal's first records, each once and as the journal has it; the
checkpoints and garbage collection stand on committed records; nothing that was committed
changes. -/
theorem pipeline_run_safe (relay : LocalWalRelayService) (writer : LocalDbWriterService)
    (wal : WalContent) (broker_fails commit_fails has_required has_cursor : Bool)
    (steps : List (PipelineStep ι))
    (h : Meets (pipelineStep relay writer wal) (Fed writer wal)
      (.initial broker_fails commit_fails has_required has_cursor) steps) :
    let s := PipelineState.initial broker_fails commit_fails has_required has_cursor
    (∃ n, PipelineSafe relay writer wal (run (pipelineStep relay writer wal) s steps) n) ∧
      ∀ before, before <+: steps →
        Extends (run (pipelineStep relay writer wal) s before).stores.db_store
          (run (pipelineStep relay writer wal) s steps).stores.db_store := by
  have hinitial := @pipelineHolds_initial ι relay writer wal broker_fails commit_fails has_required
    has_cursor
  refine ⟨(hinitial.after h).1.safe, ?_⟩
  rintro before ⟨rest, rfl⟩
  obtain ⟨hbefore, hrest⟩ := meets_append.mp h
  rw [run_append]
  exact ((hinitial.after hbefore).1.after hrest).2

end Pipeline

/-! A journal of two records whose first relay pass loses its save, so that the second publishes
them again; the writer commits the second delivery. -/

def republished : List (PipelineStep Unit) :=
  [.append, .append, .relay (.load () 2 false), .relay (.publish () false),
    .relay (.save () (some sampleTime) .before), .relay (.load () 2 false),
    .relay (.publish () false), .relay (.save () (some sampleTime) .none)]

def delivery (wal_offset kafka_offset : ℕ) : KafkaConsumedRecord :=
  InMemoryBrokerPublisher.consumed (sampleRelay.kafkaRecord (sampleRecord wal_offset)) kafka_offset

def secondDelivery : CommitCall :=
  ⟨[delivery 0 2, delivery 1 3], some sampleTime, StoreFaults.never⟩

theorem republished_records :
    (run (pipelineStep sampleRelay sampleWriter sampleWal) (.initial false false true true)
      republished).relay.broker.consumedRecords =
      [delivery 0 0, delivery 1 1, delivery 0 2, delivery 1 3] := by decide +kernel

theorem republished_fed :
    Meets (pipelineStep sampleRelay sampleWriter sampleWal) (Fed sampleWriter sampleWal)
      (.initial false false true true) (republished ++ [.commit secondDelivery]) := by
  rw [meets_append]
  refine ⟨⟨trivial, trivial, trivial, trivial, trivial, trivial, trivial, trivial, trivial⟩,
    ⟨?_, ?_⟩, trivial⟩
  · rw [republished_records]
    intro r hr
    rcases List.mem_pair.mp hr with rfl | rfl <;> simp
  · rintro - first ⟨⟩ k hk
    exact absurd hk (Nat.not_lt_zero k)

theorem republished_safe : ∃ n, PipelineSafe sampleRelay sampleWriter sampleWal
    (run (pipelineStep sampleRelay sampleWriter sampleWal) (.initial false false true true)
      (republished ++ [.commit secondDelivery])) n :=
  (pipeline_run_safe sampleRelay sampleWriter sampleWal false false true true _
    republished_fed).1

end FuturesBot
