import FuturesBot.ConsecutiveNumbers
import FuturesBot.RelayInterleaving

/-! The log of the broker under interleaved relay passes over a journal that grows: what stands at
each broker offset, and which WAL records stand before it. -/
namespace FuturesBot

open DateTimes Dicts StepRuns GapFreeLogs LocalWalRelayService

namespace WalContent

/-- The journal as far as it has been written. -/
def upTo (wal : WalContent) (n : ℕ) : WalContent where
  run_id := wal.run_id
  records := wal.records.take n
  same_run r hr := wal.same_run r (List.mem_of_mem_take hr)
  numbered := by
    rw [List.map_take, wal.numbered, List.length_take, ← List.range_eq_range', List.take_range,
      ← List.range_eq_range']

theorem eq_of_offset (wal : WalContent) {a b : JournalRecord} (ha : a ∈ wal.records)
    (hb : b ∈ wal.records) (h : a.wal_offset.value = b.wal_offset.value) : a = b := by
  have hget := wal.getElem?_offset ha
  rw [h, wal.getElem?_offset hb] at hget
  exact (Option.some.inj hget).symm

theorem slice_offsets (wal : WalContent) (a m : ℕ) :
    ((wal.records.drop a).take m).map (·.wal_offset.value) =
      List.range' a ((wal.records.drop a).take m).length := by
  apply List.ext_getElem
  · simp
  · intro k hk _
    simp only [List.getElem_map, List.getElem_take, List.getElem_drop, List.getElem_range',
      Nat.one_mul]
    exact wal.offset_getElem _

end WalContent

/-- A batch stays a slice of the journal as the journal grows. -/
theorem SliceAfter.mono {wal : WalContent} {n n' : ℕ} {loaded : Option WalRelayCheckpoint}
    {batch : WalRelayBatch} (h : SliceAfter (wal.upTo n) loaded batch) (hn : n ≤ n') :
    SliceAfter (wal.upTo n') loaded batch := by
  obtain ⟨m, hm⟩ := h.slice
  refine ⟨h.run, min m (n - afterCheckpoint loaded), ?_⟩
  have htake : (wal.upTo n).records = (wal.upTo n').records.take n := by
    change wal.records.take n = (wal.records.take n').take n
    rw [List.take_take, Nat.min_eq_left hn]
  rw [hm, htake, List.drop_take, List.take_take]

theorem SliceAfter.offsets {wal : WalContent} {loaded : Option WalRelayCheckpoint}
    {batch : WalRelayBatch} (h : SliceAfter wal loaded batch) :
    batch.records.map (·.wal_offset.value) =
      List.range' (afterCheckpoint loaded) batch.records.length := by
  obtain ⟨m, hm⟩ := h.slice
  rw [hm]
  exact wal.slice_offsets _ m

theorem SliceAfter.mem {wal : WalContent} {loaded : Option WalRelayCheckpoint}
    {batch : WalRelayBatch} (h : SliceAfter wal loaded batch) :
    ∀ r ∈ batch.records, r ∈ wal.records := by
  intro r hr
  obtain ⟨m, hm⟩ := h.slice
  rw [hm] at hr
  exact List.mem_of_mem_drop (List.mem_of_mem_take hr)

namespace InMemoryBrokerPublisher

/-- The journal records of the broker, in the order of their broker offsets. -/
def log (broker : InMemoryBrokerPublisher) : List JournalRecord :=
  broker.consumedRecords.map (·.journal_record)

def walOffsets (broker : InMemoryBrokerPublisher) : List ℕ :=
  broker.log.map (·.wal_offset.value)

theorem consumedFrom_append (n : ℕ) (as bs : List KafkaPublishRecord) :
    consumedFrom n (as ++ bs) = consumedFrom n as ++ consumedFrom (n + as.length) bs := by
  induction as generalizing n with
  | nil => rfl
  | cons a as ih =>
    rw [List.cons_append, consumedFrom, ih, consumedFrom, List.cons_append, List.length_cons]
    congr 3
    omega

theorem consumedFrom_getElem? (n : ℕ) (records : List KafkaPublishRecord) (k : ℕ) :
    (consumedFrom n records)[k]? = records[k]?.map fun r => consumed r (n + k) := by
  induction records generalizing n k with
  | nil => rfl
  | cons r rs ih =>
    cases k with
    | zero => rfl
    | succ k =>
      rw [consumedFrom, List.getElem?_cons_succ, List.getElem?_cons_succ, ih,
        Nat.add_assoc, Nat.add_comm 1 k]

/-- A batch is refused and leaves the log as it is, or is appended at the next broker offsets. -/
theorem publishBatch_log (broker : InMemoryBrokerPublisher) (records : List KafkaPublishRecord) :
    ((broker.publishBatch records).2.kafka_offset = none ∧
      (broker.publishBatch records).1.consumedRecords = broker.consumedRecords ∧
      (broker.publishBatch records).1.offset_counter = broker.offset_counter) ∨
    ((broker.publishBatch records).2.kafka_offset ≠ none ∧
      (broker.publishBatch records).1.consumedRecords =
        broker.consumedRecords ++ consumedFrom broker.offset_counter records ∧
      (broker.publishBatch records).1.offset_counter =
        broker.offset_counter + records.length) := by
  rw [publishBatch]
  split
  · exact .inl ⟨rfl, rfl, rfl⟩
  · split_ifs
    · exact .inl ⟨rfl, rfl, rfl⟩
    · refine .inr ⟨by simp, ?_, rfl⟩
      simp only [consumedRecords, List.flatten_append, List.flatten_cons, List.flatten_nil,
        List.append_nil]

end InMemoryBrokerPublisher

open InMemoryBrokerPublisher

/-- The log holds records of the journal at the broker offsets 0, 1, …, none before the journal's
earlier records. -/
structure LogHolds (service : LocalWalRelayService) (wal : WalContent)
    (broker : InMemoryBrokerPublisher) : Prop where
  consumed : broker.consumedRecords = consumedFrom 0 (broker.log.map service.kafkaRecord)
  counter : broker.offset_counter = broker.log.length
  of_wal : ∀ r ∈ broker.log, r ∈ wal.records
  gap_free : GapFree broker.walOffsets

section Logs

variable {ι : Type} [DecidableEq ι] {service : LocalWalRelayService} {wal : WalContent}
  {broker : InMemoryBrokerPublisher}

theorem LogHolds.getElem? (h : LogHolds service wal broker) (k : ℕ) :
    broker.consumedRecords[k]? =
      broker.log[k]?.map fun r => InMemoryBrokerPublisher.consumed (service.kafkaRecord r) k := by
  conv_lhs => rw [h.consumed]
  rw [consumedFrom_getElem?, List.getElem?_map, Option.map_map, Nat.zero_add]
  rfl

/-- What the log tells of a record of the broker. -/
theorem LogHolds.of_mem (h : LogHolds service wal broker) {c : KafkaConsumedRecord}
    (hc : c ∈ broker.consumedRecords) :
    c.journal_record ∈ wal.records ∧ ∃ k, broker.consumedRecords[k]? = some c ∧
      c = InMemoryBrokerPublisher.consumed (service.kafkaRecord c.journal_record) k := by
  refine ⟨h.of_wal _ (List.mem_map_of_mem hc), ?_⟩
  obtain ⟨k, hk⟩ := List.mem_iff_getElem?.mp hc
  have hlog := h.getElem? k
  rw [hk] at hlog
  obtain ⟨r, -, hr⟩ := Option.map_eq_some_iff.mp hlog.symm
  refine ⟨k, hk, ?_⟩
  rw [← hr]
  rfl

/-- The log after a batch that follows on what is on the broker. -/
theorem LogHolds.publish (h : LogHolds service wal broker) {loaded : Option WalRelayCheckpoint}
    {batch : WalRelayBatch} (hslice : SliceAfter wal loaded batch)
    (hcovered : CoveredTo broker.walOffsets (afterCheckpoint loaded)) :
    LogHolds service wal (service.publish broker batch).1 ∧
      broker.consumedRecords <+: (service.publish broker batch).1.consumedRecords ∧
      ∀ result, (service.publish broker batch).2 = .ok result →
        result.broker_ack.kafka_offset ≠ none →
        CoveredTo (service.publish broker batch).1.walOffsets
          (batch.last.wal_offset.value + 1) := by
  have hlog := publishBatch_log broker (batch.records.map service.kafkaRecord)
  rw [LocalWalRelayService.publish]
  split
  rename_i broker' ack hpublish
  rw [hpublish] at hlog
  have hholds : LogHolds service wal broker' ∧
      broker.consumedRecords <+: broker'.consumedRecords ∧
      (ack.kafka_offset ≠ none →
        CoveredTo broker'.walOffsets (batch.last.wal_offset.value + 1)) := by
    rcases hlog with ⟨hack, hsame, hcounter⟩ | ⟨-, happended, hcounter⟩
    · -- refused: the log is what it was
      have hlog : broker'.log = broker.log := by rw [InMemoryBrokerPublisher.log, hsame]; rfl
      have hoffsets : broker'.walOffsets = broker.walOffsets := by
        rw [walOffsets, hlog]
        rfl
      refine ⟨⟨?_, ?_, ?_, ?_⟩, ?_, fun hne => absurd hack hne⟩
      · rw [hsame, hlog]
        exact h.consumed
      · rw [hcounter, hlog]
        exact h.counter
      · rw [hlog]
        exact h.of_wal
      · rw [hoffsets]
        exact h.gap_free
      · rw [hsame]
    · -- accepted: the batch stands at the end of the log
      have hlog : broker'.log = broker.log ++ batch.records := by
        rw [InMemoryBrokerPublisher.log, happended, List.map_append, consumedFrom_records,
          List.map_map]
        congr 1
        exact List.map_id _
      have hoffsets : broker'.walOffsets =
          broker.walOffsets ++ List.range' (afterCheckpoint loaded) batch.records.length := by
        rw [walOffsets, hlog, List.map_append, hslice.offsets]
        rfl
      refine ⟨⟨?_, ?_, ?_, ?_⟩, ?_, fun _ => ?_⟩
      · rw [happended, hlog, List.map_append, consumedFrom_append, ← h.consumed, h.counter,
          List.length_map, Nat.zero_add]
      · rw [hcounter, h.counter, hlog, List.length_append, List.length_map]
      · intro r hr
        rw [hlog, List.mem_append] at hr
        exact hr.elim (h.of_wal r) (hslice.mem r)
      · rw [hoffsets]
        exact h.gap_free.append_range' _ _ hcovered
      · rw [happended]
        exact List.prefix_append _ _
      · rw [hoffsets, hslice.last_offset]
        exact hcovered.append_range' _
  split_ifs
  · refine ⟨hholds.1, hholds.2.1, ?_⟩
    rintro result ⟨⟩ hack
    exact hholds.2.2 hack
  · exact ⟨hholds.1, hholds.2.1, fun result hresult => absurd hresult (by simp)⟩

/-! Passes over the growing journal. -/

variable (service wal) in
/-- What a pass relies on between its steps. -/
def PassLogged (broker : InMemoryBrokerPublisher) : RelayPhase → Prop
  | .idle => True
  | .built loaded batch =>
    SliceAfter wal loaded batch ∧ CoveredTo broker.walOffsets (afterCheckpoint loaded)
  | .published loaded batch ack =>
    SliceAfter wal loaded batch ∧ (ack.kafka_offset ≠ none →
      CoveredTo broker.walOffsets (batch.last.wal_offset.value + 1))

variable (service wal) in
structure RelayLogged (s : RelayState ι) : Prop where
  log : LogHolds service wal s.broker
  checkpoint : CoveredTo s.broker.walOffsets
    (afterCheckpoint (storedCheckpoint service wal s.store))
  passes : ∀ p, PassLogged wal s.broker (s.pass p)

theorem walOffsets_subset {broker' : InMemoryBrokerPublisher}
    (h : broker.consumedRecords <+: broker'.consumedRecords) :
    broker.walOffsets ⊆ broker'.walOffsets :=
  List.map_subset _ (List.map_subset _ h.subset)

theorem PassLogged.mono {broker' : InMemoryBrokerPublisher} {phase : RelayPhase}
    (h : PassLogged wal broker phase) (hsub : broker.walOffsets ⊆ broker'.walOffsets) :
    PassLogged wal broker' phase := by
  cases phase with
  | idle => trivial
  | built loaded batch => exact ⟨h.1, h.2.mono hsub⟩
  | published loaded batch ack => exact ⟨h.1, fun hack => (h.2 hack).mono hsub⟩

theorem passes_logged_update {pass : ι → RelayPhase} {p : ι} {phase : RelayPhase}
    (h : ∀ q, PassLogged wal broker (pass q)) (hphase : PassLogged wal broker phase) :
    ∀ q, PassLogged wal broker (Function.update pass p phase q) := by
  intro q
  by_cases hq : q = p
  · rw [hq, Function.update_self]
    exact hphase
  · rw [Function.update_of_ne hq]
    exact h q

omit [DecidableEq ι] in
theorem RelayLogged.mono {s : RelayState ι} {n n' : ℕ}
    (h : RelayLogged service (wal.upTo n) s) (hn : n ≤ n') :
    RelayLogged service (wal.upTo n') s := by
  refine ⟨⟨h.log.consumed, h.log.counter, fun r hr => ?_, h.log.gap_free⟩, h.checkpoint,
    fun p => ?_⟩
  · exact (List.take_subset_take_left _ hn) (h.log.of_wal r hr)
  · have hpass := h.passes p
    cases hphase : s.pass p with
    | idle => trivial
    | built loaded batch =>
      rw [hphase] at hpass
      exact ⟨hpass.1.mono hn, hpass.2⟩
    | published loaded batch ack =>
      rw [hphase] at hpass
      exact ⟨hpass.1.mono hn, hpass.2⟩

/-- One step of a pass: the log grows at its end. -/
theorem relayStep_logged {s : RelayState ι} (h : RelayLogged service wal s)
    (step : RelayStep ι) :
    RelayLogged service wal (relayStep service wal s step) ∧
      s.broker.consumedRecords <+: (relayStep service wal s step).broker.consumedRecords := by
  cases step with
  | load p max_records load_fails =>
    rw [relayStep]
    split
    · split
      · rename_i batch hbuild
        obtain ⟨hrun, hslice⟩ := buildBatch_slice hbuild
        refine ⟨⟨h.log, h.checkpoint, ?_⟩, List.prefix_refl _⟩
        exact passes_logged_update h.passes ⟨⟨hrun, _, hslice⟩, h.checkpoint⟩
      · exact ⟨h, List.prefix_refl _⟩
    · exact ⟨h, List.prefix_refl _⟩
  | publish p broker_unavailable =>
    rw [relayStep]
    split
    · rename_i loaded batch hpass
      have hbuilt : PassLogged wal s.broker (.built loaded batch) := hpass ▸ h.passes p
      have hready : LogHolds service wal
          { s.broker with fail_next := s.broker.fail_next || broker_unavailable } :=
        ⟨h.log.consumed, h.log.counter, h.log.of_wal, h.log.gap_free⟩
      have hpublish := hready.publish hbuilt.1 hbuilt.2
      split
      · rename_i broker result hresult
        rw [hresult] at hpublish
        obtain ⟨hlog, hprefix, hcovered⟩ := hpublish
        have hsub := walOffsets_subset hprefix
        refine ⟨⟨hlog, h.checkpoint.mono hsub, ?_⟩, hprefix⟩
        exact passes_logged_update (fun q => (h.passes q).mono hsub)
          ⟨hbuilt.1, hcovered result rfl⟩
      · rename_i broker e hresult
        rw [hresult] at hpublish
        obtain ⟨hlog, hprefix, -⟩ := hpublish
        have hsub := walOffsets_subset hprefix
        refine ⟨⟨hlog, h.checkpoint.mono hsub, ?_⟩, hprefix⟩
        exact passes_logged_update (fun q => (h.passes q).mono hsub) trivial
    · exact ⟨h, List.prefix_refl _⟩
  | save p now fault =>
    rw [relayStep]
    split
    · rename_i loaded batch ack hpass
      have hpublished : PassLogged wal s.broker (.published loaded batch ack) :=
        hpass ▸ h.passes p
      refine ⟨⟨h.log, ?_, passes_logged_update h.passes trivial⟩, List.prefix_refl _⟩
      rcases storedCheckpoint_save service s.store now fault hpublished.1 ack with
        hsame | ⟨hack, cp, hcp, hoffset⟩
      · exact hsame ▸ h.checkpoint
      · change CoveredTo s.broker.walOffsets (afterCheckpoint (storedCheckpoint service wal _))
        rw [hcp, afterCheckpoint, hoffset]
        exact hpublished.2 hack
    · exact ⟨h, List.prefix_refl _⟩
  | stop p => exact ⟨⟨h.log, h.checkpoint, passes_logged_update h.passes trivial⟩,
      List.prefix_refl _⟩

omit [DecidableEq ι] in
theorem relayLogged_initial (fail_next : Bool) :
    RelayLogged service wal (.initial fail_next : RelayState ι) := by
  refine ⟨⟨rfl, rfl, ?_, gapFree_nil⟩, ?_, fun p => trivial⟩
  · intro r hr
    exact absurd hr List.not_mem_nil
  · intro j hj
    exact absurd hj (Nat.not_lt_zero j)

end Logs

end FuturesBot
