import FuturesBot.WalGcSafety

/-! What a call of the database writer commits: the records that the store holds afterwards, the
same batch committed again, and the batch found committed once its checkpoint has moved. -/
namespace FuturesBot

open DateTimes Dicts ConsecutiveNumbers LocalDbWriterService

/-! What is committed at an offset, and what a commit makes of it. -/

/-- The record, or one with its event and its broker offset, is committed. -/
def HoldsRecord (db : InMemoryCommittedEventStore) (r : KafkaConsumedRecord) : Prop :=
  ∃ e, db.records.get? (recordKey r) = some e ∧ e.eventId = r.eventId ∧
    e.kafka_offset = r.kafka_offset

/-- Nothing that is committed is replaced. -/
def Extends (db db' : InMemoryCommittedEventStore) : Prop :=
  ∀ k e, db.records.get? k = some e → db'.records.get? k = some e

theorem HoldsRecord.mono {db db' : InMemoryCommittedEventStore} {r : KafkaConsumedRecord}
    (h : HoldsRecord db r) (hext : Extends db db') : HoldsRecord db' r := by
  obtain ⟨e, he, hsame⟩ := h
  exact ⟨e, hext _ _ he, hsame⟩

/-- What is staged is new, and stands for the records seen so far. -/
structure Staged (db : InMemoryCommittedEventStore) (staged : KeyedDict recordKey)
    (seen : List KafkaConsumedRecord) : Prop where
  fresh : ∀ k e, staged.get? k = some e → db.records.get? k = none
  holds : ∀ r ∈ seen, ∃ e, (db.records.get? (recordKey r)).or (staged.get? (recordKey r)) = some e ∧
    e.eventId = r.eventId ∧ e.kafka_offset = r.kafka_offset

theorem Staged.step {db : InMemoryCommittedEventStore} {staged staged' : KeyedDict recordKey}
    {seen : List KafkaConsumedRecord} {r : KafkaConsumedRecord} (h : Staged db staged seen)
    (hstage : db.stage staged r = .ok staged') : Staged db staged' (r :: seen) := by
  rw [InMemoryCommittedEventStore.stage] at hstage
  split at hstage
  · -- the record is there already, and agrees
    rename_i existing hexisting
    split_ifs at hstage with hevent hkafka
    obtain rfl := Except.ok.inj hstage
    refine ⟨h.fresh, List.forall_mem_cons.mpr ⟨?_, h.holds⟩⟩
    exact ⟨existing, hexisting, not_not.mp hevent, not_not.mp hkafka⟩
  · rename_i hnone
    obtain rfl := Except.ok.inj hstage
    obtain ⟨hdb, hstaged⟩ := Option.or_eq_none_iff.mp hnone
    constructor
    · intro k e he
      rw [KeyedDict.get?_put] at he
      split_ifs at he with hkey
      · rw [← hkey]
        exact hdb
      · exact h.fresh k e he
    · refine List.forall_mem_cons.mpr
        ⟨⟨r, by rw [hdb, KeyedDict.get?_put_self, Option.none_or], rfl, rfl⟩, ?_⟩
      intro r' hr'
      obtain ⟨e, he, hsame⟩ := h.holds r' hr'
      refine ⟨e, ?_, hsame⟩
      -- another record under the same key was staged or committed before
      have hkey : recordKey r ≠ recordKey r' := by
        intro heq
        rw [← heq, hdb, hstaged] at he
        exact absurd he (by simp)
      rw [KeyedDict.get?_put_ne _ hkey]
      exact he

theorem stageAll_staged {db : InMemoryCommittedEventStore} {staged staged' : KeyedDict recordKey}
    {seen records : List KafkaConsumedRecord} (h : Staged db staged seen)
    (hstage : db.stageAll staged records = .ok staged') :
    Staged db staged' (records.reverse ++ seen) := by
  induction records generalizing staged seen with
  | nil =>
    obtain rfl := Except.ok.inj hstage
    exact h
  | cons r rs ih =>
    rw [InMemoryCommittedEventStore.stageAll] at hstage
    split at hstage
    · exact absurd hstage (by simp)
    · rename_i mid hmid
      rw [List.reverse_cons, List.append_assoc, List.singleton_append]
      exact ih (h.step hmid) hstage

/-- Records that are all committed leave nothing to stage. -/
theorem stageAll_of_held {db : InMemoryCommittedEventStore}
    {records : List KafkaConsumedRecord} (h : ∀ r ∈ records, HoldsRecord db r) :
    db.stageAll .empty records = .ok .empty := by
  induction records with
  | nil => rfl
  | cons r rs ih =>
    obtain ⟨hr, hrs⟩ := List.forall_mem_cons.mp h
    obtain ⟨e, he, hevent, hkafka⟩ := hr
    have hstage : db.stage .empty r = .ok .empty := by
      rw [InMemoryCommittedEventStore.stage, he, Option.some_or]
      simp only [ne_eq, hevent, not_true_eq_false, ↓reduceIte, hkafka]
    rw [InMemoryCommittedEventStore.stageAll, hstage]
    exact ih hrs

/-- A commit that went through keeps what was committed, holds its batch, and may be made again
without effect. -/
theorem commitRecords_again {db db' : InMemoryCommittedEventStore}
    {records : List KafkaConsumedRecord} {committed : List JournalRecord}
    (h : db.commitRecords records = (db', .ok committed)) :
    Extends db db' ∧ (∀ r ∈ records, HoldsRecord db' r) ∧
      db'.commitRecords records = (db', .ok committed) := by
  obtain ⟨hvalid, hready, -, rfl, -⟩ := commitRecords_ok h
  rw [InMemoryCommittedEventStore.commitRecords, validateBatch_ok.mpr hvalid] at h
  dsimp only at h
  rw [if_neg (Bool.eq_false_iff.mp hready)] at h
  split at h
  · exact absurd (Prod.mk.inj h).2 (by simp)
  · rename_i staged hstaged
    obtain ⟨rfl, -⟩ := Prod.mk.inj h
    have hempty : Staged db .empty [] :=
      ⟨fun k e he => absurd he (by simp), fun r hr => absurd hr List.not_mem_nil⟩
    have hall := stageAll_staged hempty hstaged
    have hext : Extends db { db with records := db.records.update staged } := by
      intro k e he
      change (db.records.update staged).get? k = some e
      rw [KeyedDict.get?_update]
      cases hk : staged.get? k with
      | none => rw [Option.none_or, he]
      | some e' =>
        rw [hall.fresh k e' hk] at he
        exact absurd he (by simp)
    have hholds : ∀ r ∈ records, HoldsRecord { db with records := db.records.update staged } r := by
      intro r hr
      obtain ⟨e, he, hsame⟩ := hall.holds r (by simp [hr])
      refine ⟨e, ?_, hsame⟩
      change (db.records.update staged).get? (recordKey r) = some e
      rw [KeyedDict.get?_update]
      cases hk : staged.get? (recordKey r) with
      | none =>
        rw [hk, Option.or_none] at he
        rw [Option.none_or, he]
      | some e' =>
        rw [hall.fresh _ e' hk, Option.none_or, hk] at he
        rw [Option.some_or, he]
    refine ⟨hext, hholds, ?_⟩
    rw [InMemoryCommittedEventStore.commitRecords, validateBatch_ok.mpr hvalid]
    dsimp only
    rw [if_neg (Bool.eq_false_iff.mp hready), stageAll_of_held hholds]
    rfl

/-! The checks against the checkpoint. -/

/-- The last committed record at an offset is the one that the store holds under it. -/
theorem committedByOffset_eq (db : InMemoryCommittedEventStore) (run_id : RunId) (k : ℕ) :
    committedByOffset (db.committedRecords run_id) k =
      (db.records.get? (run_id.value, k)).map (·.journal_record) := by
  have hmem (e : KafkaConsumedRecord) : (e ∈ ((db.records.values.filter fun r =>
      r.runId.value = run_id.value).insertionSort fun a b => a.walOffset ≤ b.walOffset).reverse ∧
        e.walOffset = k) ↔ db.records.get? (run_id.value, k) = some e := by
    rw [List.mem_reverse, List.mem_insertionSort, List.mem_filter, KeyedDict.mem_values,
      decide_eq_true_eq]
    constructor
    · rintro ⟨⟨he, hrun⟩, rfl⟩
      rw [← hrun]
      exact he
    · intro he
      have hkey := KeyedDict.key_of_get? he
      obtain ⟨hrun, hoffset⟩ := Prod.mk.inj hkey
      rw [hkey]
      exact ⟨⟨he, hrun⟩, hoffset⟩
  rw [committedByOffset, InMemoryCommittedEventStore.committedRecords, ← List.map_reverse,
    List.find?_map]
  congr 1
  cases hget : db.records.get? (run_id.value, k) with
  | none =>
    rw [List.find?_eq_none]
    intro e he hk
    have hsome := (hmem e).mp ⟨he, of_decide_eq_true hk⟩
    rw [hget] at hsome
    exact absurd hsome (by simp)
  | some e =>
    obtain ⟨he, hk⟩ := (hmem e).mpr hget
    obtain ⟨x, hx⟩ := Option.isSome_iff_exists.mp
      ((@List.find?_isSome _ _ fun r => decide (r.walOffset = k)).mpr ⟨e, he, decide_eq_true hk⟩)
    have hoffset := List.find?_some hx
    have hsome := (hmem x).mp ⟨List.mem_of_find?_eq_some hx, of_decide_eq_true hoffset⟩
    change List.find? (fun r : KafkaConsumedRecord => decide (r.walOffset = k)) _ = _
    rw [hx, ← hsome, hget]

/-- The calls that read a store go through. -/
structure ReadsHold (faults : StoreFaults) : Prop where
  load : faults.load = false
  committed_records : faults.committed_records = false
  committed_kafka_offset : ∀ k, faults.committed_kafka_offset k = false

section Calls

variable {service : LocalDbWriterService} {stores : DbWriterStores} {faults : StoreFaults}

/-- The records up to the checkpoint are committed as they are. -/
def Duplicates (stores : DbWriterStores) (checkpoint : DbWriterCheckpoint)
    (records : List KafkaConsumedRecord) : Prop :=
  ∀ r ∈ records, r.walOffset ≤ checkpoint.last_committed_wal_offset.value →
    HoldsRecord stores.db_store r

theorem checkDuplicates_ok (hreads : ReadsHold faults) {checkpoint : DbWriterCheckpoint}
    {records : List KafkaConsumedRecord} (hrun : ∀ r ∈ records, r.runId = checkpoint.run_id) :
    checkDuplicates stores faults checkpoint
      (stores.db_store.committedRecords checkpoint.run_id) records = .ok () ↔
      Duplicates stores checkpoint records := by
  induction records with
  | nil => simp [checkDuplicates, Duplicates]
  | cons r rs ih =>
    obtain ⟨hr, hrs⟩ := List.forall_mem_cons.mp hrun
    rw [checkDuplicates, Duplicates, List.forall_mem_cons]
    by_cases hlater : checkpoint.last_committed_wal_offset.value < r.walOffset
    · rw [if_pos hlater, ih hrs]
      exact ⟨fun h => ⟨fun hle => absurd hle (by omega), h⟩, fun h => h.2⟩
    · rw [if_neg hlater, committedByOffset_eq, HoldsRecord, recordKey, hr,
        InMemoryCommittedEventStore.committedKafkaOffset]
      simp only [hreads.committed_kafka_offset, Bool.false_eq_true, ↓reduceIte,
        not_lt.mp hlater, true_implies]
      cases hget : stores.db_store.records.get? (checkpoint.run_id.value, r.walOffset) with
      | none => simp
      | some e =>
        simp only [Option.map_some, Option.some.injEq, exists_eq_left']
        constructor
        · intro h
          split_ifs at h with hevent hkafka
          exact ⟨⟨not_not.mp hevent, by simpa using hkafka⟩, (ih hrs).mp h⟩
        · rintro ⟨⟨hevent, hkafka⟩, hrest⟩
          have hid : e.journal_record.event.event_id = r.eventId := hevent
          rw [if_neg (not_not.mpr hid), if_neg (by simp [hkafka])]
          exact (ih hrs).mpr hrest

theorem load_run {checkpoint : DbWriterCheckpoint} {run_id : RunId}
    (h : stores.checkpoint_store.load service.consumer_id run_id = some checkpoint) :
    checkpoint.run_id = run_id := by
  have hkey : dbWriterKey checkpoint = (service.consumer_id.value, run_id.value) :=
    KeyedDict.key_of_get? h
  exact DomainId.ext (Prod.mk.inj hkey).2

/-- What follows the checkpoint in the batch. -/
def restAfter (checkpoint : DbWriterCheckpoint) (records : List KafkaConsumedRecord) :
    List KafkaConsumedRecord :=
  records.filter fun r => checkpoint.last_committed_wal_offset.value < r.walOffset

/-- What the plan of a batch comes to when a checkpoint is found. -/
theorem planBatch_some (hreads : ReadsHold faults) {run_id : RunId}
    {checkpoint : DbWriterCheckpoint} {records : List KafkaConsumedRecord}
    (hload : stores.checkpoint_store.load service.consumer_id run_id = some checkpoint)
    (hrun : ∀ r ∈ records, r.runId = run_id) :
    (∀ rest, planBatch service stores faults run_id records = .ok (.commit rest) ↔
      Duplicates stores checkpoint records ∧ rest = restAfter checkpoint records ∧
        ∃ first, rest.head? = some first ∧
          first.walOffset = checkpoint.last_committed_wal_offset.value + 1) ∧
    (planBatch service stores faults run_id records = .ok (.upToDate checkpoint) ↔
      Duplicates stores checkpoint records ∧ restAfter checkpoint records = []) := by
  have hdup : validateCheckpointDuplicates stores faults checkpoint records = .ok () ↔
      Duplicates stores checkpoint records := by
    rw [validateCheckpointDuplicates, hreads.committed_records, if_neg (by simp)]
    apply checkDuplicates_ok hreads
    rw [load_run hload]
    exact hrun
  rw [planBatch, hreads.load, if_neg (by simp), hload]
  dsimp only
  cases hvalidated : validateCheckpointDuplicates stores faults checkpoint records with
  | error e =>
    have hnot : ¬ Duplicates stores checkpoint records := by
      rw [← hdup, hvalidated]
      simp
    simp [hnot]
  | ok u =>
    have hall := hdup.mp hvalidated
    simp only [hall, true_and]
    rw [restAfter]
    cases hrest : records.filter fun r =>
      decide (checkpoint.last_committed_wal_offset.value < r.walOffset) with
    | nil => simp
    | cons first rest =>
      dsimp only
      split_ifs with hgap
      · refine ⟨fun rest' => ⟨fun h => absurd h (by simp), ?_⟩, by simp⟩
        rintro ⟨rfl, first', hfirst, hnext⟩
        obtain rfl := Option.some.inj hfirst
        exact absurd hnext hgap
      · refine ⟨fun rest' => ⟨fun h => ?_, ?_⟩, by simp⟩
        · obtain rfl := BatchPlan.commit.inj (Except.ok.inj h)
          exact ⟨rfl, first, rfl, not_not.mp hgap⟩
        · rintro ⟨rfl, -⟩
          rfl

/-- The plan depends on the faults of the reading calls only. -/
theorem planBatch_reads (hreads : ReadsHold faults) (run_id : RunId)
    (records : List KafkaConsumedRecord) :
    planBatch service stores faults run_id records =
      planBatch service stores .never run_id records := by
  have hcheck (checkpoint : DbWriterCheckpoint) (committed : List JournalRecord)
      (records : List KafkaConsumedRecord) :
      checkDuplicates stores faults checkpoint committed records =
        checkDuplicates stores .never checkpoint committed records := by
    induction records with
    | nil => rfl
    | cons r rs ih =>
      rw [checkDuplicates, checkDuplicates, ih, hreads.committed_kafka_offset]
      rfl
  simp only [planBatch, validateCheckpointDuplicates, hreads.load, hreads.committed_records, hcheck]
  rfl

/-! An error of a store's call that failed is none of the service's own. -/

def DbWriterError.isFault : DbWriterError → Bool
  | .simulatedCommitFailure | .storeFailure => true
  | _ => false

theorem validateBatchScope_error {first : KafkaConsumedRecord}
    {records : List KafkaConsumedRecord} {e : DbWriterError}
    (h : validateBatchScope first records = .error e) : e.isFault = false := by
  induction records with
  | nil => exact absurd h (by simp [validateBatchScope])
  | cons r rs ih =>
    rw [validateBatchScope] at h
    split_ifs at h
    · exact Except.error.inj h ▸ rfl
    · exact Except.error.inj h ▸ rfl
    · exact Except.error.inj h ▸ rfl
    · exact ih h

theorem validateSortedContiguous_error {values : List ℕ} {unsorted gap e : DbWriterError}
    (hunsorted : unsorted.isFault = false) (hgap : gap.isFault = false)
    (h : validateSortedContiguous values unsorted gap = .error e) : e.isFault = false := by
  rw [validateSortedContiguous] at h
  split_ifs at h
  · exact Except.error.inj h ▸ hunsorted
  · exact Except.error.inj h ▸ hgap

theorem validateBatch_error {records : List KafkaConsumedRecord} {e : DbWriterError}
    (h : validateBatch records = .error e) : e.isFault = false := by
  cases records with
  | nil => exact Except.error.inj h ▸ rfl
  | cons first rs =>
    rw [validateBatch] at h
    split at h
    · rename_i e' hscope
      obtain rfl := Except.error.inj h
      exact validateBatchScope_error hscope
    · split at h
      · rename_i e' hwal
        obtain rfl := Except.error.inj h
        exact validateSortedContiguous_error rfl rfl hwal
      · exact validateSortedContiguous_error rfl rfl h

theorem checkDuplicates_error (hreads : ReadsHold faults) {checkpoint : DbWriterCheckpoint}
    {committed : List JournalRecord} {records : List KafkaConsumedRecord} {e : DbWriterError}
    (h : checkDuplicates stores faults checkpoint committed records = .error e) :
    e.isFault = false := by
  induction records with
  | nil => exact absurd h (by simp [checkDuplicates])
  | cons r rs ih =>
    rw [checkDuplicates] at h
    simp only [hreads.committed_kafka_offset, Bool.false_eq_true, ↓reduceIte] at h
    split at h
    · exact ih h
    · split at h
      · exact Except.error.inj h ▸ rfl
      · split_ifs at h
        · exact Except.error.inj h ▸ rfl
        · exact Except.error.inj h ▸ rfl
        · exact ih h

theorem planBatch_error (hreads : ReadsHold faults) {run_id : RunId}
    {records : List KafkaConsumedRecord} {e : DbWriterError}
    (h : planBatch service stores faults run_id records = .error e) : e.isFault = false := by
  rw [planBatch, hreads.load, if_neg (by simp)] at h
  split at h
  · exact absurd h (by simp)
  · split at h
    · rename_i e' hvalidated
      obtain rfl := Except.error.inj h
      rw [validateCheckpointDuplicates, hreads.committed_records, if_neg (by simp)] at hvalidated
      exact checkDuplicates_error hreads hvalidated
    · split at h
      · exact absurd h (by simp)
      · split_ifs at h
        exact Except.error.inj h ▸ rfl

theorem stageAll_error {db : InMemoryCommittedEventStore} {staged : KeyedDict recordKey}
    {records : List KafkaConsumedRecord} {e : DbWriterError}
    (h : db.stageAll staged records = .error e) : e.isFault = false := by
  induction records generalizing staged with
  | nil => exact absurd h (by simp [InMemoryCommittedEventStore.stageAll])
  | cons r rs ih =>
    rw [InMemoryCommittedEventStore.stageAll] at h
    split at h
    · rename_i e' hstage
      obtain rfl := Except.error.inj h
      rw [InMemoryCommittedEventStore.stage] at hstage
      split at hstage
      · split_ifs at hstage
        · exact Except.error.inj hstage ▸ rfl
        · exact Except.error.inj hstage ▸ rfl
      · exact absurd hstage (by simp)
    · exact ih h

/-- A commit that is refused leaves the store as it is; one that is told to fail does so once. -/
theorem commitRecords_error {db db' : InMemoryCommittedEventStore}
    {records : List KafkaConsumedRecord} {e : DbWriterError}
    (h : db.commitRecords records = (db', .error e)) :
    (db' = db ∧ e.isFault = false) ∨ (db.fail_next_commit = true ∧
      e = .simulatedCommitFailure ∧ db' = { db with fail_next_commit := false }) := by
  rw [InMemoryCommittedEventStore.commitRecords] at h
  split at h
  · rename_i e' hvalid
    obtain ⟨rfl, he⟩ := Prod.mk.inj h
    obtain rfl := Except.error.inj he
    exact .inl ⟨rfl, validateBatch_error hvalid⟩
  · split_ifs at h with hfail
    · obtain ⟨rfl, he⟩ := Prod.mk.inj h
      exact .inr ⟨hfail, (Except.error.inj he).symm, rfl⟩
    · split at h
      · rename_i e' hstaged
        obtain ⟨rfl, he⟩ := Prod.mk.inj h
        obtain rfl := Except.error.inj he
        exact .inl ⟨rfl, stageAll_error hstaged⟩
      · exact absurd (Prod.mk.inj h).2 (by simp)

/-! A call of the service up to its commit. -/

/-- The batch is planned and committed: its records from `first` to `last` are written, the
checkpoint is still to be moved. -/
structure Commits (service : LocalDbWriterService) (stores : DbWriterStores)
    (records rest : List KafkaConsumedRecord) (db' : InMemoryCommittedEventStore)
    (start first last : KafkaConsumedRecord) : Prop where
  valid : ValidBatch records
  head : records.head? = some start
  plan : planBatch service stores .never start.runId records = .ok (.commit rest)
  commit : stores.db_store.commitRecords rest = (db', .ok (rest.map (·.journal_record)))
  first : rest.head? = some first
  last : rest.getLast? = some last

theorem Commits.call {records rest : List KafkaConsumedRecord} {db' : InMemoryCommittedEventStore}
    {start first last : KafkaConsumedRecord}
    (h : Commits service stores records rest db' start first last) (hreads : ReadsHold faults)
    (now : Option DateTime) :
    commitConsumedBatch service stores faults now records =
      match faults.commit with
      | .none => advanceCheckpoints service { stores with db_store := db' } faults now start.runId
          first.walOffset last.journal_record last.kafka_offset
      | .before => (stores, .error .storeFailure)
      | .after => ({ stores with db_store := db' }, .error .storeFailure) := by
  rw [commitConsumedBatch, validateBatch_ok.mpr h.valid, h.head]
  simp only [planBatch_reads hreads, h.plan, h.commit]
  cases faults.commit with
  | none =>
    simp only [CallFault.apply, List.head?_map, List.getLast?_map, h.first, h.last,
      Option.map_some]
    rfl
  | before => rfl
  | after => rfl

/-- How a call of the service begins: it ends before anything is written, its commit is refused,
or the batch is committed. -/
inductive CallStart (service : LocalDbWriterService) (stores : DbWriterStores)
    (records : List KafkaConsumedRecord) : Prop where
  | settled (result : Except DbWriterError (Option DbWriterCheckpoint))
      (own : ∀ e, result = .error e → e.isFault = false)
      (call : ∀ faults now, ReadsHold faults →
        commitConsumedBatch service stores faults now records = (stores, result))
  | refused (e : DbWriterError) (db' : InMemoryCommittedEventStore)
      (error : (db' = stores.db_store ∧ e.isFault = false) ∨
        (stores.db_store.fail_next_commit = true ∧ e = .simulatedCommitFailure ∧
          db' = { stores.db_store with fail_next_commit := false }))
      (call : ∀ faults now, ReadsHold faults →
        commitConsumedBatch service stores faults now records =
          (match faults.commit with
            | .none => ({ stores with db_store := db' }, .error e)
            | .before => (stores, .error .storeFailure)
            | .after => ({ stores with db_store := db' }, .error .storeFailure)))
  | commits (rest : List KafkaConsumedRecord) (db' : InMemoryCommittedEventStore)
      (start first last : KafkaConsumedRecord)
      (h : Commits service stores records rest db' start first last)

theorem callStart (service : LocalDbWriterService) (stores : DbWriterStores)
    (records : List KafkaConsumedRecord) : CallStart service stores records := by
  have hnever : ReadsHold .never := ⟨rfl, rfl, fun _ => rfl⟩
  cases hvalid : validateBatch records with
  | error e =>
    refine .settled (.error e) (fun e' he => Except.error.inj he ▸ validateBatch_error hvalid) ?_
    intro faults now _
    rw [commitConsumedBatch, hvalid]
  | ok u =>
    cases hhead : records.head? with
    | none =>
      refine .settled (.error .emptyBatch) (fun e' he => Except.error.inj he ▸ rfl) ?_
      intro faults now _
      rw [commitConsumedBatch, hvalid, hhead]
    | some start =>
      cases hplan : planBatch service stores .never start.runId records with
      | error e =>
        refine .settled (.error e)
          (fun e' he => Except.error.inj he ▸ planBatch_error hnever hplan) ?_
        intro faults now hreads
        rw [commitConsumedBatch, hvalid, hhead]
        simp only [planBatch_reads hreads, hplan]
      | ok plan =>
        cases plan with
        | upToDate checkpoint =>
          refine .settled (.ok (some checkpoint)) (fun e' he => absurd he (by simp)) ?_
          intro faults now hreads
          rw [commitConsumedBatch, hvalid, hhead]
          simp only [planBatch_reads hreads, hplan]
        | commit rest =>
          rcases hcommit : stores.db_store.commitRecords rest with ⟨db', result⟩
          cases result with
          | error e =>
            refine .refused e db' (commitRecords_error hcommit) ?_
            intro faults now hreads
            rw [commitConsumedBatch, hvalid, hhead]
            simp only [planBatch_reads hreads, hplan, hcommit]
            cases faults.commit <;> rfl
          | ok committed =>
            obtain ⟨hrest, -, -, rfl, -⟩ := commitRecords_ok hcommit
            obtain ⟨first, hfirst⟩ := Option.isSome_iff_exists.mp
              (List.isSome_head?.mpr hrest.nonempty)
            exact .commits rest db' start first _ ⟨validateBatch_ok.mp hvalid, hhead, hplan,
              hcommit, hfirst, List.getLast?_eq_some_getLast hrest.nonempty⟩

/-! What a committed batch has in it. -/

section Committed

variable {records rest : List KafkaConsumedRecord} {db' : InMemoryCommittedEventStore}
  {start first last : KafkaConsumedRecord}

theorem ReadsHold.never : ReadsHold .never := ⟨rfl, rfl, fun _ => rfl⟩

theorem Commits.run (h : Commits service stores records rest db' start first last) :
    ∀ r ∈ records, r.runId = start.runId :=
  fun r hr => (h.valid.scope start h.head r hr).1

/-- The batch follows on the checkpoint, if there is one. -/
theorem Commits.after (h : Commits service stores records rest db' start first last) :
    (stores.checkpoint_store.load service.consumer_id start.runId = none ∧ rest = records) ∨
      ∃ checkpoint, stores.checkpoint_store.load service.consumer_id start.runId =
          some checkpoint ∧ Duplicates stores checkpoint records ∧
        rest = restAfter checkpoint records := by
  have hplan := h.plan
  cases hload : stores.checkpoint_store.load service.consumer_id start.runId with
  | none =>
    rw [planBatch, hload] at hplan
    exact .inl ⟨rfl, (BatchPlan.commit.inj (Except.ok.inj hplan)).symm⟩
  | some checkpoint =>
    rw [(planBatch_some .never hload h.run).1 rest] at hplan
    exact .inr ⟨checkpoint, rfl, hplan.1, hplan.2.1⟩

theorem Commits.rest_sub (h : Commits service stores records rest db' start first last) :
    ∀ r ∈ rest, r ∈ records := by
  rcases h.after with ⟨-, rfl⟩ | ⟨checkpoint, -, -, rfl⟩
  · exact fun r hr => hr
  · exact fun r hr => List.mem_of_mem_filter hr

/-- The last record of the batch is always left to be committed. -/
theorem Commits.getLast (h : Commits service stores records rest db' start first last) :
    records.getLast? = some last := by
  have hlast := h.last
  rcases h.after with ⟨-, rfl⟩ | ⟨checkpoint, -, -, rfl⟩
  · exact hlast
  · obtain ⟨records', z, hrecords⟩ : ∃ records' z, records = records' ++ [z] := by
      rcases List.eq_nil_or_concat records with rfl | ⟨records', z, hz⟩
      · exact absurd hlast (by simp [restAfter])
      · exact ⟨records', z, by simpa using hz⟩
    -- the last offset is the highest
    have hz : checkpoint.last_committed_wal_offset.value < z.walOffset := by
      have hmem := List.mem_of_getLast? hlast
      obtain ⟨hin, hlater⟩ := List.mem_filter.mp hmem
      have hle : last.walOffset ≤ z.walOffset := by
        have hsorted := h.valid.wal.pairwise_le
        rw [hrecords, List.map_append, List.pairwise_append] at hsorted
        rw [hrecords, List.mem_append, List.mem_singleton] at hin
        rcases hin with hin | rfl
        · exact hsorted.2.2 _ (List.mem_map_of_mem hin) _ (by simp)
        · exact le_refl _
      have hlater := of_decide_eq_true hlater
      omega
    rw [restAfter, hrecords, List.filter_append, List.filter_singleton, decide_eq_true hz] at hlast
    rw [hrecords]
    simpa using hlast

theorem Commits.le_last (h : Commits service stores records rest db' start first last) :
    ∀ r ∈ records, r.walOffset ≤ last.walOffset := by
  intro r hr
  have hlast := h.getLast
  obtain ⟨a, ha⟩ : ∃ a, (records.map (·.walOffset)).head? = some a := by
    rw [List.head?_map, h.head]
    exact ⟨_, rfl⟩
  have hb : (records.map (·.walOffset)).getLast? = some last.walOffset := by
    rw [List.getLast?_map, hlast, Option.map_some]
  exact ((h.valid.wal.mem_iff ha hb).mp (List.mem_map_of_mem hr)).2

/-- After the commit every record of the batch is committed. -/
theorem Commits.holds (h : Commits service stores records rest db' start first last) :
    ∀ r ∈ records, HoldsRecord db' r := by
  obtain ⟨hext, hrest, -⟩ := commitRecords_again h.commit
  rcases h.after with ⟨-, rfl⟩ | ⟨checkpoint, -, hdup, rfl⟩
  · exact hrest
  · intro r hr
    by_cases hlater : checkpoint.last_committed_wal_offset.value < r.walOffset
    · exact hrest r (List.mem_filter.mpr ⟨hr, decide_eq_true hlater⟩)
    · exact (hdup r hr (not_lt.mp hlater)).mono hext

/-- The same batch may be committed again over the stores that the commit left. -/
theorem Commits.again (h : Commits service stores records rest db' start first last) :
    Commits service { stores with db_store := db' } records rest db' start first last := by
  refine ⟨h.valid, h.head, ?_, (commitRecords_again h.commit).2.2, h.first, h.last⟩
  have hplan := h.plan
  cases hload : stores.checkpoint_store.load service.consumer_id start.runId with
  | none =>
    rw [planBatch, hload] at hplan ⊢
    exact hplan
  | some checkpoint =>
    rw [(planBatch_some .never hload h.run).1 rest] at hplan
    rw [(planBatch_some .never (by exact hload) h.run).1 rest]
    exact ⟨fun r hr _ => h.holds r hr, hplan.2⟩

/-- Once the checkpoint has moved, the batch is found committed and nothing is written. -/
theorem Commits.moved (h : Commits service stores records rest db' start first last)
    {stores' : DbWriterStores} {checkpoint : DbWriterCheckpoint} (hdb : stores'.db_store = db')
    (hload : stores'.checkpoint_store.load service.consumer_id start.runId = some checkpoint)
    (hoffset : checkpoint.last_committed_wal_offset.value = last.walOffset)
    (now : Option DateTime) :
    commitConsumedBatch service stores' .never now records = (stores', .ok (some checkpoint)) := by
  have hplan : planBatch service stores' .never start.runId records =
      .ok (.upToDate checkpoint) := by
    rw [(planBatch_some .never hload h.run).2, restAfter, List.filter_eq_nil_iff]
    constructor
    · intro r hr _
      rw [hdb]
      exact h.holds r hr
    · intro r hr
      have hle := h.le_last r hr
      rw [hoffset, decide_eq_true_eq]
      omega
  rw [commitConsumedBatch, validateBatch_ok.mpr h.valid, h.head]
  simp only [hplan]

/-! The checkpoints that follow. -/

/-- The checkpoint of the batch is new to its store, and is saved. -/
theorem Commits.save (h : Commits service stores records rest db' start first last)
    {saved_at : DateTime} {checkpoint : DbWriterCheckpoint}
    (hcheckpoint : newCheckpoint service start.runId first.walOffset last.journal_record
      last.kafka_offset saved_at = some checkpoint) :
    InMemoryDbWriterCheckpointStore.save stores.checkpoint_store checkpoint =
      .ok (stores.checkpoint_store.put checkpoint) := by
  obtain ⟨batch_id, -, rfl⟩ := Option.map_eq_some_iff.mp hcheckpoint
  rw [InMemoryDbWriterCheckpointStore.save]
  rcases h.after with ⟨hnone, -⟩ | ⟨old, hload, -, hrest⟩
  · have hget : KeyedDict.get? stores.checkpoint_store (service.consumer_id.value,
        start.runId.value) = none := hnone
    simp only [dbWriterKey, hget]
  · have hget : KeyedDict.get? stores.checkpoint_store (service.consumer_id.value,
        start.runId.value) = some old := hload
    have hlater : old.last_committed_wal_offset.value < last.walOffset := by
      have hmem := List.mem_of_getLast? h.last
      rw [hrest] at hmem
      exact of_decide_eq_true (List.mem_filter.mp hmem).2
    have hlater' : old.last_committed_wal_offset.value < last.journal_record.wal_offset.value :=
      hlater
    simp only [dbWriterKey, hget]
    rw [if_neg (by omega), if_neg (by omega)]

/-- The stores once the checkpoint is saved. -/
def savedStores (stores : DbWriterStores) (db' : InMemoryCommittedEventStore)
    (checkpoint : DbWriterCheckpoint) : DbWriterStores :=
  { stores with
    db_store := db'
    checkpoint_store := stores.checkpoint_store.put checkpoint }

/-- How the checkpoints are moved, when the time and the ids are accepted. -/
theorem Commits.advance (h : Commits service stores records rest db' start first last)
    {saved_at : DateTime} {checkpoint : DbWriterCheckpoint}
    (hcheckpoint : newCheckpoint service start.runId first.walOffset last.journal_record
      last.kafka_offset saved_at = some checkpoint) :
    advanceCheckpoints service { stores with db_store := db' } faults (some saved_at) start.runId
        first.walOffset last.journal_record last.kafka_offset =
      match faults.save with
      | .none => upsertRequired service (savedStores stores db' checkpoint) faults start.runId
          last.journal_record last.kafka_offset saved_at checkpoint
      | .before => ({ stores with db_store := db' }, .error .storeFailure)
      | .after => (savedStores stores db' checkpoint, .error .storeFailure) := by
  simp only [advanceCheckpoints, hcheckpoint, h.save hcheckpoint, orUnchanged]
  cases faults.save <;> rfl

theorem newCheckpoint_load {saved_at : DateTime} {checkpoint : DbWriterCheckpoint}
    (hcheckpoint : newCheckpoint service start.runId first.walOffset last.journal_record
      last.kafka_offset saved_at = some checkpoint) :
    (savedStores stores db' checkpoint).checkpoint_store.load service.consumer_id start.runId =
        some checkpoint ∧ checkpoint.last_committed_wal_offset.value = last.walOffset := by
  obtain ⟨batch_id, -, rfl⟩ := Option.map_eq_some_iff.mp hcheckpoint
  exact ⟨KeyedDict.get?_put_self _ _, rfl⟩

end Committed

end Calls

end FuturesBot
