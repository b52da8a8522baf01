import FuturesBot.DbWriter
import FuturesBot.StepRuns

/-! The database writer under store failures: where its checkpoints stand, the WAL is committed
up to there, and garbage collection over the required-consumer store removes nothing that was
not committed. -/
namespace FuturesBot

open DateTimes Dicts ConsecutiveNumbers StepRuns LocalDbWriterService

/-! The committed-event store only grows, and a commit that went through adds its batch. -/

def Grows (db db' : InMemoryCommittedEventStore) : Prop :=
  ∀ run_id k, db.hasCommitted run_id k = true → db'.hasCommitted run_id k = true

theorem Grows.refl (db : InMemoryCommittedEventStore) : Grows db db := fun _ _ h => h

/-- All offsets of the run up to `n` are committed. -/
def CommittedTo (db : InMemoryCommittedEventStore) (run_id : RunId) (n : ℕ) : Prop :=
  ∀ k ≤ n, db.hasCommitted run_id k = true

theorem CommittedTo.grows {db db' : InMemoryCommittedEventStore} {run_id : RunId} {n : ℕ}
    (h : CommittedTo db run_id n) (hgrows : Grows db db') : CommittedTo db' run_id n :=
  fun k hk => hgrows run_id k (h k hk)

/-- Every record of the batch agrees with what is committed at its offset. -/
def NoConflict (db : InMemoryCommittedEventStore) (records : List KafkaConsumedRecord) : Prop :=
  ∀ r ∈ records, ∀ e, db.records.get? (recordKey r) = some e →
    e.eventId = r.eventId ∧ e.kafka_offset = r.kafka_offset

theorem stage_ok {db : InMemoryCommittedEventStore} {staged staged' : KeyedDict recordKey}
    {r : KafkaConsumedRecord} (h : db.stage staged r = .ok staged') :
    (∀ k, (staged.get? k).isSome = true → (staged'.get? k).isSome = true) ∧
      ((db.records.get? (recordKey r)).isSome = true ∨
        (staged'.get? (recordKey r)).isSome = true) ∧
      ∀ e, db.records.get? (recordKey r) = some e →
        e.eventId = r.eventId ∧ e.kafka_offset = r.kafka_offset := by
  rw [InMemoryCommittedEventStore.stage] at h
  split at h
  · rename_i existing hexisting
    split_ifs at h with hevent hkafka
    obtain rfl := Except.ok.inj h
    refine ⟨fun _ hk => hk, ?_, fun e he => ?_⟩
    · cases hdb : db.records.get? (recordKey r) with
      | some e => exact .inl rfl
      | none =>
        rw [hdb, Option.none_or] at hexisting
        exact .inr (by rw [hexisting]; rfl)
    · rw [he, Option.some_or] at hexisting
      obtain rfl := Option.some.inj hexisting
      exact ⟨not_not.mp hevent, not_not.mp hkafka⟩
  · rename_i hnone
    obtain rfl := Except.ok.inj h
    obtain ⟨hdb, -⟩ := Option.or_eq_none_iff.mp hnone
    refine ⟨fun k hk => ?_, .inr (by rw [KeyedDict.get?_put_self]; rfl), fun e he => ?_⟩
    · rw [KeyedDict.get?_put]
      split
      · rfl
      · exact hk
    · rw [hdb] at he
      exact absurd he (by simp)

theorem stageAll_ok {db : InMemoryCommittedEventStore} {staged staged' : KeyedDict recordKey}
    {records : List KafkaConsumedRecord} (h : db.stageAll staged records = .ok staged') :
    (∀ k, (staged.get? k).isSome = true → (staged'.get? k).isSome = true) ∧
      (∀ r ∈ records, (db.records.get? (recordKey r)).isSome = true ∨
        (staged'.get? (recordKey r)).isSome = true) ∧ NoConflict db records := by
  induction records generalizing staged with
  | nil =>
    obtain rfl := Except.ok.inj h
    exact ⟨fun _ hk => hk, fun r hr => absurd hr List.not_mem_nil,
      fun r hr => absurd hr List.not_mem_nil⟩
  | cons r rs ih =>
    rw [InMemoryCommittedEventStore.stageAll] at h
    split at h
    · exact absurd h (by simp)
    · rename_i mid hmid
      obtain ⟨hkeep, hr, hsame⟩ := stage_ok hmid
      obtain ⟨hkeep', hrs, hsame'⟩ := ih h
      refine ⟨fun k hk => hkeep' k (hkeep k hk), ?_, List.forall_mem_cons.mpr ⟨hsame, hsame'⟩⟩
      exact List.forall_mem_cons.mpr ⟨hr.imp id (hkeep' _), hrs⟩

theorem hasCommitted_update (db : InMemoryCommittedEventStore) (staged : KeyedDict recordKey)
    (run_id : RunId) (k : ℕ) :
    InMemoryCommittedEventStore.hasCommitted { db with records := db.records.update staged }
      run_id k = ((staged.get? (run_id.value, k)).isSome || db.hasCommitted run_id k) := by
  rw [InMemoryCommittedEventStore.hasCommitted, KeyedDict.get?_update, Option.isSome_or]
  rfl

theorem commitRecords_grows (db : InMemoryCommittedEventStore)
    (records : List KafkaConsumedRecord) : Grows db (db.commitRecords records).1 := by
  intro run_id k hk
  rw [InMemoryCommittedEventStore.commitRecords]
  split
  · exact hk
  · split_ifs
    · exact hk
    · split
      · exact hk
      · rw [hasCommitted_update, hk, Bool.or_true]

theorem commitRecords_ok {db db' : InMemoryCommittedEventStore}
    {records : List KafkaConsumedRecord} {committed : List JournalRecord}
    (h : db.commitRecords records = (db', .ok committed)) :
    ValidBatch records ∧ db.fail_next_commit = false ∧ NoConflict db records ∧
      committed = records.map (·.journal_record) ∧
      ∀ r ∈ records, db'.hasCommitted r.runId r.walOffset = true := by
  rw [InMemoryCommittedEventStore.commitRecords] at h
  split at h
  · exact absurd (Prod.mk.inj h).2 (by simp)
  · rename_i hvalid
    split_ifs at h with hfail
    · exact absurd (Prod.mk.inj h).2 (by simp)
    · split at h
      · exact absurd (Prod.mk.inj h).2 (by simp)
      · rename_i staged hstaged
        obtain ⟨rfl, hcommitted⟩ := Prod.mk.inj h
        obtain ⟨-, hall, hsame⟩ := stageAll_ok hstaged
        refine ⟨validateBatch_ok.mp hvalid, Bool.eq_false_of_not_eq_true hfail, hsame,
          (Except.ok.inj hcommitted).symm, fun r hr => ?_⟩
        rw [hasCommitted_update, Bool.or_eq_true]
        exact (hall r hr).symm

theorem grows_apply (db : InMemoryCommittedEventStore) (fault : CallFault)
    (records : List KafkaConsumedRecord) :
    Grows db (fault.apply db (db.commitRecords records)).1 := by
  cases fault with
  | none => exact commitRecords_grows db records
  | before => exact Grows.refl db
  | after => exact commitRecords_grows db records

/-- A call that a caller sees go through went through without a fault. -/
theorem CallFault.apply_ok {σ α : Type} {fault : CallFault} {store store' : σ}
    {result : σ × Except DbWriterError α} {a : α}
    (h : fault.apply store result = (store', .ok a)) :
    fault = .none ∧ result = (store', .ok a) := by
  cases fault with
  | none => exact ⟨rfl, h⟩
  | before => exact absurd (Prod.mk.inj h).2 (by simp)
  | after => exact absurd (Prod.mk.inj h).2 (by simp)

/-- A call whose exception leaves the store unchanged: the store is the old one or the one that
the call gives, and the old one when the call failed before its effect. -/
theorem CallFault.apply_store {σ : Type} (fault : CallFault) (store : σ)
    (result : Except DbWriterError σ) :
    (fault.apply store (orUnchanged store result)).1 = store ∨
      fault ≠ .before ∧ result = .ok (fault.apply store (orUnchanged store result)).1 := by
  cases result with
  | error e => cases fault <;> exact .inl rfl
  | ok store' =>
    cases fault with
    | none => exact .inr ⟨by decide, rfl⟩
    | before => exact .inl rfl
    | after => exact .inr ⟨by decide, rfl⟩

/-! The invariant of one writer. -/

/-- Wherever a checkpoint of the service stands, the WAL of the run is committed up to there. -/
structure Backed (service : LocalDbWriterService) (stores : DbWriterStores) : Prop where
  checkpoint : ∀ run_id cp,
    stores.checkpoint_store.load service.consumer_id run_id = some cp →
    CommittedTo stores.db_store run_id cp.last_committed_wal_offset.value
  required : ∀ store ∈ stores.required_checkpoint_writer, ∀ cp ∈ store.values,
    cp.sidecar_id.value = sidecarText service.consumer_id →
    CommittedTo stores.db_store cp.run_id cp.last_committed_wal_offset.value ∧
      cp.is_required_for_wal_gc = service.is_required_for_wal_gc

/-- What a call leaves alone: the required-consumer checkpoints of others. -/
def LeavesOthers (service : LocalDbWriterService) (stores stores' : DbWriterStores) : Prop :=
  ∀ store' ∈ stores'.required_checkpoint_writer, ∃ store ∈ stores.required_checkpoint_writer,
    ∀ cp ∈ store'.values, cp ∈ store.values ∨ cp.sidecar_id.value = sidecarText service.consumer_id

theorem LeavesOthers.refl (service : LocalDbWriterService) (stores : DbWriterStores) :
    LeavesOthers service stores stores :=
  fun store hstore => ⟨store, hstore, fun _ hcp => .inl hcp⟩

/-- What holds after each part of a call, seen from the state before it. -/
structure CallKeeps (service : LocalDbWriterService) (stores stores' : DbWriterStores) : Prop where
  backed : Backed service stores'
  grows : Grows stores.db_store stores'.db_store
  others : LeavesOthers service stores stores'

variable {service : LocalDbWriterService} {stores stores' : DbWriterStores} {faults : StoreFaults}

theorem saveCursor_keeps {cursor : BrokerConsumerCursor} {saved : DbWriterCheckpoint}
    (h : CallKeeps service stores stores') :
    CallKeeps service stores (saveCursor stores' faults cursor saved).1 := by
  -- the cursor store is no part of the invariant
  rw [saveCursor]
  split
  · exact h
  · split
    · exact ⟨⟨h.backed.checkpoint, h.backed.required⟩, h.grows, h.others⟩
    · exact ⟨⟨h.backed.checkpoint, h.backed.required⟩, h.grows, h.others⟩

/-- A new required-consumer checkpoint of the service at an offset up to which all is committed. -/
theorem CallKeeps.upsert {store store' : InMemoryRequiredConsumerCheckpointStore}
    {checkpoint : SidecarCheckpoint} {result : Except DbWriterError Unit}
    (h : CallKeeps service stores stores')
    (hstore : stores'.required_checkpoint_writer = some store)
    (hown : checkpoint.sidecar_id.value = sidecarText service.consumer_id)
    (hflag : checkpoint.is_required_for_wal_gc = service.is_required_for_wal_gc)
    (hcommitted : CommittedTo stores'.db_store checkpoint.run_id
      checkpoint.last_committed_wal_offset.value)
    (hcall : faults.upsert.apply store (orUnchanged store
      (InMemoryRequiredConsumerCheckpointStore.upsert store checkpoint)) = (store', result)) :
    CallKeeps service stores { stores' with required_checkpoint_writer := some store' } := by
  have hvalues : ∀ cp ∈ store'.values, cp = checkpoint ∨ cp ∈ store.values := by
    have happly := faults.upsert.apply_store store
      (InMemoryRequiredConsumerCheckpointStore.upsert store checkpoint)
    rw [hcall] at happly
    intro cp hcp
    rcases happly with rfl | ⟨-, hput⟩
    · exact .inr hcp
    · obtain rfl := InMemoryRequiredConsumerCheckpointStore.upsert_eq hput
      exact (KeyedDict.mem_values_put.mp hcp).imp id (·.2)
  refine ⟨⟨h.backed.checkpoint, ?_⟩, h.grows, ?_⟩
  · rintro _ ⟨⟩ cp hcp hcpown
    rcases hvalues cp hcp with rfl | hold
    · exact ⟨hcommitted, hflag⟩
    · exact h.backed.required store hstore cp hold hcpown
  · rintro _ ⟨⟩
    obtain ⟨first, hfirst, hsub⟩ := h.others store hstore
    refine ⟨first, hfirst, fun cp hcp => ?_⟩
    rcases hvalues cp hcp with rfl | hold
    · exact .inr hown
    · exact hsub cp hold

theorem upsertRequired_keeps {run_id : RunId} {last_record : JournalRecord}
    {kafka_offset : KafkaPartitionOffset} {saved_at : DateTime} {saved : DbWriterCheckpoint}
    (h : CallKeeps service stores stores')
    (hcommitted : CommittedTo stores'.db_store run_id last_record.wal_offset.value) :
    CallKeeps service stores (upsertRequired service stores' faults run_id last_record kafka_offset
      saved_at saved).1 := by
  rw [upsertRequired]
  split
  · exact saveCursor_keeps h
  · rename_i store hstore
    split
    · exact h
    · rename_i checkpoint hcheckpoint
      obtain ⟨sidecar_id, hid, rfl⟩ := Option.map_eq_some_iff.mp hcheckpoint
      have hown : sidecar_id.value = sidecarText service.consumer_id := DomainId.of_value hid
      split
      · rename_i store' e hcall
        exact h.upsert hstore hown rfl hcommitted hcall
      · rename_i store' hcall
        exact saveCursor_keeps (h.upsert hstore hown rfl hcommitted hcall)

/-- A new checkpoint of the service in its own store. -/
theorem CallKeeps.save {store' : InMemoryDbWriterCheckpointStore} {checkpoint : DbWriterCheckpoint}
    {result : Except DbWriterError Unit} (h : CallKeeps service stores stores')
    (hcommitted : faults.save ≠ .before → CommittedTo stores'.db_store checkpoint.run_id
      checkpoint.last_committed_wal_offset.value)
    (hcall : faults.save.apply stores'.checkpoint_store (orUnchanged stores'.checkpoint_store
      (InMemoryDbWriterCheckpointStore.save stores'.checkpoint_store checkpoint)) =
        (store', result)) :
    CallKeeps service stores { stores' with checkpoint_store := store' } := by
  refine ⟨⟨fun run_id cp hcp => ?_, h.backed.required⟩, h.grows, h.others⟩
  have happly := faults.save.apply_store stores'.checkpoint_store
    (InMemoryDbWriterCheckpointStore.save stores'.checkpoint_store checkpoint)
  rw [hcall] at happly
  change InMemoryDbWriterCheckpointStore.load store' service.consumer_id run_id = some cp at hcp
  rcases happly with hsame | ⟨hfault, hsaved⟩
  · rw [show store' = stores'.checkpoint_store from hsame] at hcp
    exact h.backed.checkpoint run_id cp hcp
  · have heq : store' = KeyedDict.put stores'.checkpoint_store checkpoint ∨
        store' = stores'.checkpoint_store := InMemoryDbWriterCheckpointStore.save_eq hsaved
    rcases heq with hput | hsame
    · rw [hput, InMemoryDbWriterCheckpointStore.load, KeyedDict.get?_put] at hcp
      split_ifs at hcp with hkey
      · obtain rfl := Option.some.inj hcp
        have hrun : checkpoint.run_id = run_id := DomainId.ext (Prod.mk.inj hkey).2
        rw [← hrun]
        exact hcommitted hfault
      · exact h.backed.checkpoint run_id cp hcp
    · rw [hsame] at hcp
      exact h.backed.checkpoint run_id cp hcp

theorem advanceCheckpoints_keeps {saved_at : Option DateTime} {run_id : RunId} {first_offset : ℕ}
    {last_record : JournalRecord} {kafka_offset : KafkaPartitionOffset}
    (h : CallKeeps service stores stores')
    (hcommitted : saved_at ≠ none →
      (DomainId.of (batchText service.consumer_id run_id first_offset
        last_record.wal_offset.value)).isSome = true → faults.save ≠ .before →
      CommittedTo stores'.db_store run_id last_record.wal_offset.value) :
    CallKeeps service stores (advanceCheckpoints service stores' faults saved_at run_id first_offset
      last_record kafka_offset).1 := by
  cases saved_at with
  | none => exact h
  | some saved_at =>
    rw [advanceCheckpoints]
    split
    · exact h
    · rename_i checkpoint hcheckpoint
      obtain ⟨batch_id, hid, rfl⟩ := Option.map_eq_some_iff.mp hcheckpoint
      have hall := hcommitted (by simp) (by rw [hid]; rfl)
      split
      · rename_i store e hcall
        exact h.save hall hcall
      · rename_i store hcall
        have hfault : faults.save ≠ .before := by
          rw [(CallFault.apply_ok hcall).1]
          decide
        exact upsertRequired_keeps (h.save hall hcall) (hall hfault)

/-! One call. -/

structure CommitCall where
  records : List KafkaConsumedRecord
  now : Option DateTime
  faults : StoreFaults

def commitStep (service : LocalDbWriterService) (stores : DbWriterStores) (call : CommitCall) :
    DbWriterStores :=
  (commitConsumedBatch service stores call.faults call.now call.records).1

/-- The call commits a batch of a run that has no checkpoint yet, and saves the first one. -/
structure SavesFirstCheckpoint (service : LocalDbWriterService) (stores : DbWriterStores)
    (call : CommitCall) (first : KafkaConsumedRecord) : Prop where
  head : call.records.head? = some first
  valid : ValidBatch call.records
  unsaved : stores.checkpoint_store.load service.consumer_id first.runId = none
  no_conflict : NoConflict stores.db_store call.records
  available : call.faults.load = false ∧ call.faults.commit = .none ∧
    stores.db_store.fail_next_commit = false ∧ call.faults.save ≠ .before
  clock : call.now ≠ none
  named : ∀ last ∈ call.records.getLast?, (DomainId.of (batchText service.consumer_id first.runId
    first.walOffset last.walOffset)).isSome = true

/-- A batch that gives its run the first checkpoint leaves no offset before it uncommitted. -/
def StartsAtPrefix (service : LocalDbWriterService) (stores : DbWriterStores) (call : CommitCall) :
    Prop :=
  ∀ first, SavesFirstCheckpoint service stores call first →
    ∀ k < first.walOffset, stores.db_store.hasCommitted first.runId k = true

/-- What a plan to commit comes from: the whole batch when the run has no checkpoint, what
follows the checkpoint when it has one. -/
theorem planBatch_commit {run_id : RunId} {records rest : List KafkaConsumedRecord}
    (h : planBatch service stores faults run_id records = .ok (.commit rest)) :
    faults.load = false ∧ (∀ r ∈ rest, r ∈ records) ∧
      ((stores.checkpoint_store.load service.consumer_id run_id = none ∧ rest = records) ∨
        ∃ cp, stores.checkpoint_store.load service.consumer_id run_id = some cp ∧
          ∀ first ∈ rest.head?, first.walOffset = cp.last_committed_wal_offset.value + 1) := by
  rw [planBatch] at h
  split_ifs at h with hload
  refine ⟨Bool.eq_false_of_not_eq_true hload, ?_⟩
  split at h
  · rename_i hnone
    obtain rfl := BatchPlan.commit.inj (Except.ok.inj h)
    exact ⟨fun r hr => hr, .inl ⟨hnone, rfl⟩⟩
  · rename_i cp hcp
    split at h
    · exact absurd h (by simp)
    · split at h
      · exact absurd h (by simp)
      · rename_i first tail hfilter
        split_ifs at h with hgap
        obtain rfl := BatchPlan.commit.inj (Except.ok.inj h)
        refine ⟨fun r hr => ?_, .inr ⟨cp, hcp, ?_⟩⟩
        · rw [← hfilter] at hr
          exact List.mem_of_mem_filter hr
        · rintro _ ⟨⟩
          exact not_not.mp hgap

/-- A committed batch that follows on what is committed already. -/
theorem committedTo_last {db db' : InMemoryCommittedEventStore} {run_id : RunId}
    {records : List KafkaConsumedRecord} {first last : KafkaConsumedRecord}
    (hgrows : Grows db db') (hvalid : ValidBatch records)
    (hall : ∀ r ∈ records, db'.hasCommitted r.runId r.walOffset = true)
    (hrun : ∀ r ∈ records, r.runId = run_id) (hfirst : records.head? = some first)
    (hlast : records.getLast? = some last)
    (hbefore : ∀ k < first.walOffset, db.hasCommitted run_id k = true) :
    CommittedTo db' run_id last.walOffset := by
  intro k hk
  by_cases hlow : k < first.walOffset
  · exact hgrows run_id k (hbefore k hlow)
  · -- consecutive offsets leave none out
    have hmem : k ∈ records.map (·.walOffset) := by
      refine (hvalid.wal.mem_iff (a := first.walOffset) (b := last.walOffset) ?_ ?_).mpr ⟨by omega, hk⟩
      · rw [List.head?_map, hfirst, Option.map_some]
      · rw [List.getLast?_map, hlast, Option.map_some]
    obtain ⟨r, hr, rfl⟩ := List.mem_map.mp hmem
    rw [← hrun r hr]
    exact hall r hr

theorem commitStep_keeps {call : CommitCall} (h : Backed service stores)
    (hcond : StartsAtPrefix service stores call) :
    CallKeeps service stores (commitStep service stores call) := by
  have hstart : CallKeeps service stores stores :=
    ⟨h, Grows.refl _, LeavesOthers.refl service stores⟩
  -- a commit that fails or whose answer is lost changes the committed events alone
  have hcommit (records : List KafkaConsumedRecord) : CallKeeps service stores
      { stores with db_store := (call.faults.commit.apply stores.db_store
        (stores.db_store.commitRecords records)).1 } := by
    have hgrows := grows_apply stores.db_store call.faults.commit records
    exact ⟨⟨fun run_id cp hcp => (h.checkpoint run_id cp hcp).grows hgrows,
      fun store hstore cp hcp hown => ⟨(h.required store hstore cp hcp hown).1.grows hgrows,
        (h.required store hstore cp hcp hown).2⟩⟩, hgrows, LeavesOthers.refl service _⟩
  rw [commitStep, commitConsumedBatch]
  split
  · exact hstart
  · exact hstart
  · rename_i first hvalid hhead
    split
    · exact hstart
    · exact hstart
    · rename_i rest hplan
      have hkeeps := hcommit rest
      split
      · rename_i db e hcall
        rw [hcall] at hkeeps
        exact hkeeps
      · rename_i db committed hcall
        rw [hcall] at hkeeps
        obtain ⟨hfault, hcall⟩ := CallFault.apply_ok hcall
        obtain ⟨hrest, hready, hconflict, rfl, hall⟩ := commitRecords_ok hcall
        split
        · rename_i firstRecord lastRecord lastConsumed hfirst hlast hlastConsumed
          rw [List.head?_map, Option.map_eq_some_iff] at hfirst
          obtain ⟨r, hr, rfl⟩ := hfirst
          rw [List.getLast?_map, hlastConsumed, Option.map_some] at hlast
          obtain rfl := Option.some.inj hlast
          obtain ⟨hload, hsub, hcases⟩ := planBatch_commit hplan
          have hscope := (validateBatch_ok.mp hvalid).scope first hhead
          refine advanceCheckpoints_keeps hkeeps fun hclock hnamed hsave => ?_
          refine committedTo_last hkeeps.grows hrest hall
            (fun r hr => (hscope r (hsub r hr)).1) hr hlastConsumed fun k hk => ?_
          rcases hcases with ⟨hnone, rfl⟩ | ⟨cp, hcp, hnext⟩
          · -- the first checkpoint of the run: the condition speaks
            obtain rfl := Option.some.inj (hhead.symm.trans hr)
            refine hcond first ⟨hhead, hrest, hnone, hconflict, ⟨hload, hfault, hready, hsave⟩,
              hclock, ?_⟩ k hk
            intro last hmem
            obtain rfl := Option.some.inj (hlastConsumed.symm.trans hmem)
            exact hnamed
          · rw [hnext r hr] at hk
            exact h.checkpoint first.runId cp hcp k (by omega)
        · exact hkeeps

/-! Runs of one writer, from empty stores. -/

def DbWriterStores.empty (fail_next_commit has_required has_cursor : Bool) : DbWriterStores where
  db_store := .empty fail_next_commit
  checkpoint_store := .empty
  required_checkpoint_writer := if has_required then some .empty else none
  broker_cursor_store := if has_cursor then some .empty else none

/-- The checkpoints stand on committed records, and a segment that garbage collection may remove
holds committed records only. -/
structure GcSafe (service : LocalDbWriterService) (stores : DbWriterStores) : Prop where
  checkpoint : ∀ run_id cp,
    stores.checkpoint_store.load service.consumer_id run_id = some cp →
    CommittedTo stores.db_store run_id cp.last_committed_wal_offset.value
  required : ∀ store ∈ stores.required_checkpoint_writer, ∀ cp ∈ store.values,
    CommittedTo stores.db_store cp.run_id cp.last_committed_wal_offset.value
  gc : ∀ store ∈ stores.required_checkpoint_writer, ∀ run_id segment decided_at archive,
    (decideWalGc segment
      (InMemoryRequiredConsumerCheckpointStore.loadRequiredCheckpoints store run_id)
      decided_at archive).eligible = true →
    ∃ range, segment.offset_range = some range ∧ ∀ k, range.first.value ≤ k →
      k ≤ range.last.value → stores.db_store.hasCommitted segment.run_id k = true

/-- All required-consumer checkpoints are the service's own. -/
def OwnCheckpoints (service : LocalDbWriterService) (stores : DbWriterStores) : Prop :=
  ∀ store ∈ stores.required_checkpoint_writer, ∀ cp ∈ store.values,
    cp.sidecar_id.value = sidecarText service.consumer_id

theorem mem_loadRequiredCheckpoints {store : InMemoryRequiredConsumerCheckpointStore}
    {run_id : RunId} {cp : SidecarCheckpoint}
    (h : cp ∈ (InMemoryRequiredConsumerCheckpointStore.loadRequiredCheckpoints store
      run_id).requiredCheckpoints) :
    cp ∈ store.values ∧ cp.run_id = run_id := by
  obtain ⟨hcp, -⟩ := List.mem_filter.mp h
  obtain ⟨hmem, hrun⟩ := List.mem_filter.mp hcp
  exact ⟨hmem, DomainId.ext (of_decide_eq_true hrun)⟩

theorem Backed.gcSafe (h : Backed service stores) (hown : OwnCheckpoints service stores) :
    GcSafe service stores := by
  refine ⟨h.checkpoint, fun store hstore cp hcp =>
    (h.required store hstore cp hcp (hown store hstore cp hcp)).1, ?_⟩
  intro store hstore run_id segment decided_at archive heligible
  obtain ⟨hrun, range, hrange, hne, hreached⟩ := decideWalGc_eligible heligible
  obtain ⟨cp, hcp⟩ := List.exists_mem_of_ne_nil _ hne
  obtain ⟨hmem, hcprun⟩ := mem_loadRequiredCheckpoints hcp
  refine ⟨range, hrange, fun k _ hk => ?_⟩
  have hcommitted := (h.required store hstore cp hmem (hown store hstore cp hmem)).1
  rw [hrun, show RequiredConsumerCheckpointSet.run_id _ = run_id from rfl, ← hcprun]
  exact hcommitted k (hk.trans (hreached cp hcp))

/-- In every run of calls that give no run its first checkpoint over a gap, whatever fails, the
checkpoints stand on committed records and garbage collection removes committed records only. -/
theorem commit_run_gc_safe (service : LocalDbWriterService)
    (fail_next_commit has_required has_cursor : Bool) (calls : List CommitCall)
    (h : Meets (commitStep service) (StartsAtPrefix service)
      (.empty fail_next_commit has_required has_cursor) calls) :
    GcSafe service (run (commitStep service) (.empty fail_next_commit has_required has_cursor)
      calls) := by
  have hempty : Backed service (.empty fail_next_commit has_required has_cursor) ∧
      OwnCheckpoints service (.empty fail_next_commit has_required has_cursor) := by
    have hnone : ∀ store ∈ (DbWriterStores.empty fail_next_commit has_required
        has_cursor).required_checkpoint_writer, store = .empty := by
      intro store hstore
      cases has_required with
      | true => exact (Option.some.inj hstore).symm
      | false => exact absurd hstore (by simp [DbWriterStores.empty])
    refine ⟨⟨fun run_id cp hcp => absurd hcp (by simp [DbWriterStores.empty,
      InMemoryDbWriterCheckpointStore.load]), fun store hstore cp hcp => ?_⟩,
      fun store hstore cp hcp => ?_⟩
    · rw [hnone store hstore] at hcp
      exact absurd hcp List.not_mem_nil
    · rw [hnone store hstore] at hcp
      exact absurd hcp List.not_mem_nil
  have hstep : ∀ stores call, (Backed service stores ∧ OwnCheckpoints service stores) →
      StartsAtPrefix service stores call →
      Backed service (commitStep service stores call) ∧
        OwnCheckpoints service (commitStep service stores call) := by
    rintro stores call ⟨hbacked, hown⟩ hcond
    have hkeeps := commitStep_keeps hbacked hcond
    refine ⟨hkeeps.backed, fun store' hstore' cp hcp => ?_⟩
    obtain ⟨store, hstore, hsub⟩ := hkeeps.others store' hstore'
    exact (hsub cp hcp).elim (hown store hstore cp) id
  obtain ⟨hbacked, hown⟩ := invariant hstep hempty h
  exact hbacked.gcSafe hown

/-! A writer of one run, and consumed records of it at given offsets. -/

def sampleWriter : LocalDbWriterService := ⟨⟨"writer-1", by decide⟩, true⟩

def sampleRun : RunId := ⟨"run-1", DomainId.checked evaluates⟩

def sampleRecord (wal_offset : ℕ) : JournalRecord where
  run_id := sampleRun
  producer_id := ⟨"bot-1", DomainId.checked evaluates⟩
  wal_offset := ⟨wal_offset⟩
  event := noteEvent "a"
  recorded_at := sampleTime
  payload_hash := ⟨"hash", by decide⟩
  record_size_bytes := 1
  size_positive := by decide

def sampleConsumed (wal_offset kafka_offset : ℕ) : KafkaConsumedRecord where
  journal_record := sampleRecord wal_offset
  topic := ⟨"events", by decide⟩
  key := none
  kafka_offset := ⟨⟨"events", by decide⟩, 0, kafka_offset⟩
  same_topic := rfl

/-- The first two records, with a checkpoint save that fails, and the same batch again. -/
def retriedCommit : List CommitCall :=
  [⟨[sampleConsumed 0 0, sampleConsumed 1 1], some sampleTime,
      { StoreFaults.never with save := .before }⟩,
    ⟨[sampleConsumed 0 0, sampleConsumed 1 1], some sampleTime, StoreFaults.never⟩]

theorem retriedCommit_gc_safe :
    GcSafe sampleWriter (run (commitStep sampleWriter) (.empty false true true) retriedCommit) := by
  have hzero : ∀ (stores : DbWriterStores) (call : CommitCall),
      call.records.head? = some (sampleConsumed 0 0) → StartsAtPrefix sampleWriter stores call := by
    intro stores call hhead first hfirst k hk
    obtain rfl := Option.some.inj (hhead.symm.trans hfirst.head)
    exact absurd hk (Nat.not_lt_zero k)
  exact commit_run_gc_safe sampleWriter false true true retriedCommit
    ⟨hzero _ _ rfl, hzero _ _ rfl, trivial⟩

/-- A first batch that starts at offset 3 puts the checkpoint at 3 with nothing committed
before it. -/
theorem first_batch_skips_offsets :
    ¬ ∀ (service : LocalDbWriterService) (calls : List CommitCall),
      service.is_required_for_wal_gc = true →
      GcSafe service (run (commitStep service) (.empty false true true) calls) := by
  intro h
  have hsafe := h sampleWriter [⟨[sampleConsumed 3 0], some sampleTime, StoreFaults.never⟩] rfl
  have hload : ((run (commitStep sampleWriter) (.empty false true true)
      [⟨[sampleConsumed 3 0], some sampleTime, StoreFaults.never⟩]).checkpoint_store.load
      sampleWriter.consumer_id sampleRun).map (·.last_committed_wal_offset.value) = some 3 := by
    decide +kernel
  obtain ⟨cp, hcp, hoffset⟩ := Option.map_eq_some_iff.mp hload
  have hzero := hsafe.checkpoint sampleRun cp hcp 0 (Nat.zero_le _)
  exact absurd hzero (by decide +kernel)

end FuturesBot
