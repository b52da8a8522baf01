import FuturesBot.WalGcSafety
import FuturesBot.WalRelay

/-! Relay passes of one relay id over one WAL, broker and checkpoint store, interleaved at
every step: loading the checkpoint, publishing the batch, saving the checkpoint. -/
namespace FuturesBot

open DateTimes Dicts ConsecutiveNumbers StepRuns LocalWalRelayService

/-- Where a pass stands. It keeps the checkpoint that it loaded. -/
inductive RelayPhase where
  | idle
  | built (loaded : Option WalRelayCheckpoint) (batch : WalRelayBatch)
  | published (loaded : Option WalRelayCheckpoint) (batch : WalRelayBatch) (ack : KafkaPublishAck)

structure RelayState (ι : Type) where
  broker : InMemoryBrokerPublisher
  store : InMemoryWalRelayCheckpointStore
  pass : ι → RelayPhase

inductive RelayStep (ι : Type) where
  | load (p : ι) (max_records : ℤ) (load_fails : Bool)
  | publish (p : ι) (broker_unavailable : Bool)
  | save (p : ι) (now : Option DateTime) (fault : SaveFault)
  | stop (p : ι)

section Passes

variable {ι : Type} [DecidableEq ι] (service : LocalWalRelayService) (wal : WalContent)

/-- The checkpoint of the relay for the run of the WAL. -/
def storedCheckpoint (store : InMemoryWalRelayCheckpointStore) : Option WalRelayCheckpoint :=
  InMemoryWalRelayCheckpointStore.load store service.relay_id wal.run_id

def relayStep (s : RelayState ι) : RelayStep ι → RelayState ι
  | .load p max_records load_fails =>
    match s.pass p with
    | .idle =>
      match service.buildBatchAfterCheckpoint wal.records s.store load_fails max_records with
      | .ok (some batch) =>
        let loaded := storedCheckpoint service wal s.store
        { s with pass := Function.update s.pass p (.built loaded batch) }
      | _ => s
    | _ => s
  | .publish p broker_unavailable =>
    match s.pass p with
    | .built loaded batch =>
      match service.publish { s.broker with fail_next := s.broker.fail_next || broker_unavailable }
        batch with
      | (broker, .ok result) =>
        { s with
          broker, pass := Function.update s.pass p (.published loaded batch result.broker_ack) }
      | (broker, .error _) => { s with broker, pass := Function.update s.pass p .idle }
    | _ => s
  | .save p now fault =>
    match s.pass p with
    | .published _ batch ack =>
      { s with
        store := (service.saveCheckpoint s.store now fault batch ack).1
        pass := Function.update s.pass p .idle }
    | _ => s
  | .stop p => { s with pass := Function.update s.pass p .idle }

def RelayState.initial (fail_next : Bool) : RelayState ι := ⟨.empty fail_next, .empty, fun _ => .idle⟩

/-- The WAL records below an offset are on the broker. -/
def OnBroker (broker : InMemoryBrokerPublisher) (n : ℕ) : Prop :=
  ∀ r ∈ wal.records, r.wal_offset.value < n →
    ∃ c ∈ broker.consumedRecords, c.journal_record = r

variable {service wal}

theorem OnBroker.mono {broker broker' : InMemoryBrokerPublisher} {n : ℕ}
    (h : OnBroker wal broker n)
    (hsub : ∀ c ∈ broker.consumedRecords, c ∈ broker'.consumedRecords) : OnBroker wal broker' n := by
  intro r hr hlt
  obtain ⟨c, hc, hcr⟩ := h r hr hlt
  exact ⟨c, hsub c hc, hcr⟩

theorem consumedFrom_records (n : ℕ) (records : List KafkaPublishRecord) :
    (InMemoryBrokerPublisher.consumedFrom n records).map (·.journal_record) =
      records.map (·.journal_record) := by
  induction records generalizing n with
  | nil => rfl
  | cons r rs ih =>
    rw [InMemoryBrokerPublisher.consumedFrom, List.map_cons, ih, List.map_cons]
    rfl

/-- What the broker holds after a publish: what it held, and the batch when it accepts it. -/
theorem publishBatch_records (broker : InMemoryBrokerPublisher)
    (records : List KafkaPublishRecord) :
    (∀ c ∈ broker.consumedRecords, c ∈ (broker.publishBatch records).1.consumedRecords) ∧
      ((broker.publishBatch records).2.kafka_offset ≠ none →
        (broker.publishBatch records).1.consumedRecords =
          broker.consumedRecords ++ InMemoryBrokerPublisher.consumedFrom broker.offset_counter
            records) := by
  rw [InMemoryBrokerPublisher.publishBatch]
  split
  · exact ⟨fun c hc => hc, fun h => absurd rfl h⟩
  · split_ifs
    · exact ⟨fun c hc => hc, fun h => absurd rfl h⟩
    · simp only [InMemoryBrokerPublisher.consumedRecords, List.flatten_append, List.flatten_cons,
        List.flatten_nil, List.append_nil]
      exact ⟨fun c hc => List.mem_append_left _ hc, fun _ => trivial⟩

variable (service) in
theorem publish_records (broker : InMemoryBrokerPublisher) (batch : WalRelayBatch) :
    (∀ c ∈ broker.consumedRecords, c ∈ (service.publish broker batch).1.consumedRecords) ∧
      ∀ result, (service.publish broker batch).2 = .ok result →
        result.broker_ack.kafka_offset ≠ none → ∀ r ∈ batch.records,
          ∃ c ∈ (service.publish broker batch).1.consumedRecords, c.journal_record = r := by
  obtain ⟨hsub, hbatch⟩ := publishBatch_records broker (batch.records.map service.kafkaRecord)
  rw [LocalWalRelayService.publish]
  split
  rename_i broker' ack hpublish
  rw [hpublish] at hsub hbatch
  split_ifs
  · refine ⟨hsub, ?_⟩
    rintro result ⟨⟩ hack r hr
    have hrecords := hbatch hack
    -- the record is among those that the broker made of the batch
    have hmem : r ∈ (InMemoryBrokerPublisher.consumedFrom broker.offset_counter
        (batch.records.map service.kafkaRecord)).map (·.journal_record) := by
      rw [consumedFrom_records, List.map_map]
      exact List.mem_map.mpr ⟨r, hr, rfl⟩
    obtain ⟨c, hc, hcr⟩ := List.mem_map.mp hmem
    dsimp only at hrecords ⊢
    rw [hrecords]
    exact ⟨c, List.mem_append_right _ hc, hcr⟩
  · exact ⟨hsub, fun result h => absurd h (by simp)⟩

/-- A batch that a pass built: the next records after the checkpoint that it loaded. -/
structure SliceAfter (wal : WalContent) (loaded : Option WalRelayCheckpoint)
    (batch : WalRelayBatch) : Prop where
  run : batch.run_id = wal.run_id
  slice : ∃ m, batch.records = (wal.records.drop (afterCheckpoint loaded)).take m

theorem SliceAfter.last_offset {loaded : Option WalRelayCheckpoint} {batch : WalRelayBatch}
    (h : SliceAfter wal loaded batch) :
    batch.last.wal_offset.value + 1 = afterCheckpoint loaded + batch.records.length := by
  obtain ⟨m, hm⟩ := h.slice
  have hne := List.length_pos_iff.mpr batch.nonempty
  have hlast : batch.records[batch.records.length - 1]? = some batch.last := by
    rw [← List.getLast?_eq_getElem?, List.getLast?_eq_some_getLast batch.nonempty]
    rfl
  have hlen : batch.records.length ≤ m := by
    rw [hm, List.length_take]
    omega
  rw [hm] at hlast
  rw [List.getElem?_take, List.getElem?_drop] at hlast
  split_ifs at hlast
  · obtain ⟨hk, hget⟩ := List.getElem?_eq_some_iff.mp hlast
    have hoffset := wal.offset_getElem hk
    rw [hget] at hoffset
    rw [hoffset, ← hm]
    omega

/-- With the records before the batch and those of the batch on the broker, all up to its last
are. -/
theorem OnBroker.extend {broker : InMemoryBrokerPublisher} {loaded : Option WalRelayCheckpoint}
    {batch : WalRelayBatch} (h : OnBroker wal broker (afterCheckpoint loaded))
    (hslice : SliceAfter wal loaded batch)
    (hbatch : ∀ r ∈ batch.records, ∃ c ∈ broker.consumedRecords, c.journal_record = r) :
    OnBroker wal broker (batch.last.wal_offset.value + 1) := by
  intro r hr hlt
  by_cases hbefore : r.wal_offset.value < afterCheckpoint loaded
  · exact h r hr hbefore
  · rw [hslice.last_offset] at hlt
    obtain ⟨m, hm⟩ := hslice.slice
    have hindex : (afterCheckpoint loaded) + (r.wal_offset.value - afterCheckpoint loaded) =
        r.wal_offset.value := by omega
    have hlen : r.wal_offset.value - afterCheckpoint loaded < m := by
      have := congrArg List.length hm
      rw [List.length_take] at this
      omega
    apply hbatch
    rw [hm, List.mem_iff_getElem?]
    refine ⟨r.wal_offset.value - afterCheckpoint loaded, ?_⟩
    rw [List.getElem?_take_of_lt hlen, List.getElem?_drop, hindex]
    exact wal.getElem?_offset hr

variable (service wal) in
/-- What a pass relies on between its steps. -/
def PassHolds (broker : InMemoryBrokerPublisher) : RelayPhase → Prop
  | .idle => True
  | .built loaded batch =>
    SliceAfter wal loaded batch ∧ OnBroker wal broker (afterCheckpoint loaded)
  | .published loaded batch ack =>
    SliceAfter wal loaded batch ∧
      (ack.kafka_offset ≠ none → OnBroker wal broker (batch.last.wal_offset.value + 1))

variable (service wal) in
/-- The checkpoint stands on published records, and so does what each pass has loaded. -/
structure RelayHolds (s : RelayState ι) : Prop where
  checkpoint : OnBroker wal s.broker (afterCheckpoint (storedCheckpoint service wal s.store))
  passes : ∀ p, PassHolds wal s.broker (s.pass p)

theorem PassHolds.mono {broker broker' : InMemoryBrokerPublisher} {phase : RelayPhase}
    (h : PassHolds wal broker phase)
    (hsub : ∀ c ∈ broker.consumedRecords, c ∈ broker'.consumedRecords) :
    PassHolds wal broker' phase := by
  cases phase with
  | idle => trivial
  | built loaded batch => exact ⟨h.1, h.2.mono hsub⟩
  | published loaded batch ack => exact ⟨h.1, fun hack => (h.2 hack).mono hsub⟩

/-- One pass moves to a new phase, the others stay where they are. -/
theorem passes_update {broker : InMemoryBrokerPublisher} {pass : ι → RelayPhase} {p : ι}
    {phase : RelayPhase} (h : ∀ q, PassHolds wal broker (pass q))
    (hphase : PassHolds wal broker phase) :
    ∀ q, PassHolds wal broker (Function.update pass p phase q) := by
  intro q
  by_cases hq : q = p
  · rw [hq, Function.update_self]
    exact hphase
  · rw [Function.update_of_ne hq]
    exact h q

variable (service) in
/-- A save leaves the stored checkpoint as it is, or sets it to the last record of the batch. -/
theorem storedCheckpoint_save (store : InMemoryWalRelayCheckpointStore) (now : Option DateTime)
    (fault : SaveFault) {loaded : Option WalRelayCheckpoint} {batch : WalRelayBatch}
    (hslice : SliceAfter wal loaded batch) (ack : KafkaPublishAck) :
    storedCheckpoint service wal (service.saveCheckpoint store now fault batch ack).1 =
        storedCheckpoint service wal store ∨
      ack.kafka_offset ≠ none ∧
        ∃ cp, storedCheckpoint service wal (service.saveCheckpoint store now fault batch ack).1 =
          some cp ∧ cp.last_published_wal_offset = batch.last.wal_offset := by
  rw [saveCheckpoint.eq_def]
  split
  · exact .inl rfl
  · rename_i kafka_offset hack
    split
    · exact .inl rfl
    · rename_i now
      have hsaved : storedCheckpoint service wal (InMemoryWalRelayCheckpointStore.save store
          (service.newRelayCheckpoint batch kafka_offset now)) =
          some (service.newRelayCheckpoint batch kafka_offset now) := by
        have hkey : relayKey (service.newRelayCheckpoint batch kafka_offset now) =
            (service.relay_id.value, wal.run_id.value) := by
          rw [← hslice.run]
          rfl
        rw [storedCheckpoint, InMemoryWalRelayCheckpointStore.load,
          InMemoryWalRelayCheckpointStore.save, KeyedDict.get?_put, if_pos hkey]
      have hne : ack.kafka_offset ≠ none := by rw [hack]; simp
      cases fault with
      | none => exact .inr ⟨hne, _, hsaved, rfl⟩
      | before => exact .inl rfl
      | after => exact .inr ⟨hne, _, hsaved, rfl⟩

theorem relayStep_holds {s : RelayState ι} (h : RelayHolds service wal s) (step : RelayStep ι) :
    RelayHolds service wal (relayStep service wal s step) := by
  cases step with
  | load p max_records load_fails =>
    rw [relayStep]
    split
    · split
      · rename_i batch hbuild
        obtain ⟨hrun, hslice⟩ := buildBatch_slice hbuild
        exact ⟨h.checkpoint, passes_update h.passes ⟨⟨hrun, _, hslice⟩, h.checkpoint⟩⟩
      · exact h
    · exact h
  | publish p broker_unavailable =>
    rw [relayStep]
    split
    · rename_i loaded batch hpass
      have hpublish := publish_records service
        { s.broker with fail_next := s.broker.fail_next || broker_unavailable } batch
      have hbuilt : PassHolds wal s.broker (.built loaded batch) := hpass ▸ h.passes p
      split
      · rename_i broker result hresult
        rw [hresult] at hpublish
        obtain ⟨hsub, hbatch⟩ := hpublish
        refine ⟨h.checkpoint.mono hsub, passes_update (fun q => (h.passes q).mono hsub) ?_⟩
        exact ⟨hbuilt.1, fun hack =>
          (hbuilt.2.mono hsub).extend hbuilt.1 (hbatch result rfl hack)⟩
      · rename_i broker e hresult
        rw [hresult] at hpublish
        exact ⟨h.checkpoint.mono hpublish.1,
          passes_update (fun q => (h.passes q).mono hpublish.1) trivial⟩
    · exact h
  | save p now fault =>
    rw [relayStep]
    split
    · rename_i loaded batch ack hpass
      have hpublished : PassHolds wal s.broker (.published loaded batch ack) := hpass ▸ h.passes p
      refine ⟨?_, passes_update h.passes trivial⟩
      rcases storedCheckpoint_save service s.store now fault hpublished.1 ack with
        hsame | ⟨hack, cp, hcp, hoffset⟩
      · exact hsame ▸ h.checkpoint
      · change OnBroker wal s.broker (afterCheckpoint (storedCheckpoint service wal _))
        rw [hcp, afterCheckpoint, hoffset]
        exact hpublished.2 hack
    · exact h
  | stop p => exact ⟨h.checkpoint, passes_update h.passes trivial⟩

/-- A save by a pass whose checkpoint another pass has replaced since it loaded it. -/
def StaleSave (service : LocalWalRelayService) (wal : WalContent) (s : RelayState ι)
    (step : RelayStep ι) : Prop :=
  ∃ p now fault loaded batch ack, step = .save p now fault ∧
    s.pass p = .published loaded batch ack ∧ loaded ≠ storedCheckpoint service wal s.store

/-- A step does not move the stored checkpoint backwards. -/
def MovesForward (service : LocalWalRelayService) (wal : WalContent) (s : RelayState ι)
    (step : RelayStep ι) : Prop :=
  ∀ old, storedCheckpoint service wal s.store = some old →
    ∃ new, storedCheckpoint service wal (relayStep service wal s step).store = some new ∧
      old.last_published_wal_offset.value ≤ new.last_published_wal_offset.value

/-- What holds of the stored checkpoint in a state that a run reaches. -/
structure RelaySafe (service : LocalWalRelayService) (wal : WalContent) (s : RelayState ι) :
    Prop where
  on_broker : ∀ cp, storedCheckpoint service wal s.store = some cp → ∀ r ∈ wal.records,
    r.wal_offset.value ≤ cp.last_published_wal_offset.value →
    ∃ c ∈ s.broker.consumedRecords, c.journal_record = r
  forward : ∀ step, ¬ StaleSave service wal s step → MovesForward service wal s step

theorem RelayHolds.moves_forward {s : RelayState ι} (h : RelayHolds service wal s)
    {step : RelayStep ι} (hstale : ¬ StaleSave service wal s step) :
    MovesForward service wal s step := by
  intro old hold
  have hkeep : ∀ s' : RelayState ι, s'.store = s.store →
      ∃ new, storedCheckpoint service wal s'.store = some new ∧
        old.last_published_wal_offset.value ≤ new.last_published_wal_offset.value :=
    fun s' hs' => ⟨old, by rw [hs']; exact hold, le_refl _⟩
  cases step with
  | load p max_records load_fails =>
    apply hkeep
    rw [relayStep]
    split
    · split <;> rfl
    · rfl
  | publish p broker_unavailable =>
    apply hkeep
    rw [relayStep]
    split
    · split <;> rfl
    · rfl
  | save p now fault =>
    rw [relayStep]
    split
    · rename_i loaded batch ack hpass
      have hpublished : PassHolds wal s.broker (.published loaded batch ack) := hpass ▸ h.passes p
      have hloaded : loaded = some old := by
        rw [← hold]
        by_contra hne
        exact hstale ⟨p, now, fault, loaded, batch, ack, rfl, hpass, hne⟩
      rcases storedCheckpoint_save service s.store now fault hpublished.1 ack with
        hsame | ⟨-, cp, hcp, hoffset⟩
      · exact ⟨old, hsame.trans hold, le_refl _⟩
      · -- the batch starts after the checkpoint that the pass loaded
        refine ⟨cp, hcp, ?_⟩
        have hlast := hpublished.1.last_offset
        have hpos := List.length_pos_iff.mpr batch.nonempty
        rw [hloaded, afterCheckpoint] at hlast
        rw [hoffset]
        omega
    · exact hkeep s rfl
  | stop p => exact hkeep _ rfl

/-- In every interleaving of passes, the WAL records up to the stored checkpoint are on the
broker, and the checkpoint moves backwards only when a pass saves over a checkpoint that
another pass saved since it loaded its own. -/
theorem relay_run_safe (service : LocalWalRelayService) (wal : WalContent) (fail_next : Bool)
    (steps : List (RelayStep ι)) :
    RelaySafe service wal (run (relayStep service wal) (.initial fail_next) steps) := by
  have hinitial : RelayHolds service wal (.initial fail_next : RelayState ι) :=
    ⟨fun r hr hlt => absurd hlt (Nat.not_lt_zero _), fun p => trivial⟩
  have hstep : ∀ (s : RelayState ι) step, RelayHolds service wal s →
      RelayHolds service wal (relayStep service wal s step) :=
    fun _ step hs => relayStep_holds hs step
  have h := run_keeps hstep hinitial steps
  refine ⟨fun cp hcp r hr hle => ?_, fun step hstale => h.moves_forward hstale⟩
  have hbroker := h.checkpoint
  rw [hcp] at hbroker
  exact hbroker r hr (Nat.lt_succ_of_le hle)

/-! The steps of a pass that does not stand where they start. -/

theorem publish_idle {s : RelayState ι} {p : ι} (hidle : s.pass p = .idle)
    (broker_unavailable : Bool) : relayStep service wal s (.publish p broker_unavailable) = s := by
  rw [relayStep]
  split
  · rename_i loaded batch hpass
    exact absurd (hidle.symm.trans hpass) (by simp)
  · rfl

variable (service wal) in
theorem save_idle {s : RelayState ι} {p : ι} (hidle : s.pass p = .idle) (now : Option DateTime)
    (fault : SaveFault) : relayStep service wal s (.save p now fault) = s := by
  rw [relayStep]
  split
  · rename_i loaded batch ack hpass
    exact absurd (hidle.symm.trans hpass) (by simp)
  · rfl

theorem load_idle {s : RelayState ι} {p : ι} (hidle : s.pass p = .idle) (max_records : ℤ)
    (load_fails : Bool)
    (hbuild : ∀ batch, service.buildBatchAfterCheckpoint wal.records s.store load_fails
      max_records ≠ .ok (some batch)) :
    relayStep service wal s (.load p max_records load_fails) = s := by
  rw [relayStep, hidle]
  dsimp only
  split
  · rename_i batch hbatch
    exact absurd hbatch (hbuild batch)
  · rfl

/-- The stores after the last step of a pass, whether it stops or saves. -/
theorem finish_idle {s : RelayState ι} {p : ι} (hidle : s.pass p = .idle) (stops : Bool)
    (now : Option DateTime) (fault : SaveFault) :
    let after := relayStep service wal s (if stops then .stop p else .save p now fault)
    (after.broker, after.store) = (s.broker, s.store) := by
  cases stops with
  | true => rfl
  | false =>
    have hsave := save_idle service wal hidle now fault
    dsimp only
    rw [if_neg Bool.false_ne_true, hsave]

/-- A pass is its steps one after the other, with nothing in between. -/
theorem relayOnce_eq_run (s : RelayState ι) {p : ι} (hidle : s.pass p = .idle)
    (faults : PassFaults) (max_records : ℤ) :
    let after := run (relayStep service wal) s
      [.load p max_records faults.load_fails, .publish p faults.broker_unavailable,
        if faults.stops then .stop p else .save p faults.now faults.save]
    (service.relayOnce wal.records s.broker s.store faults max_records).1 =
      (after.broker, after.store) := by
  dsimp only
  rw [run_cons, run_cons, run_cons, run_nil, relayOnce]
  cases hbuild : service.buildBatchAfterCheckpoint wal.records s.store faults.load_fails
    max_records with
  | error e =>
    rw [load_idle hidle _ _ (by rw [hbuild]; simp), publish_idle hidle]
    exact (finish_idle hidle _ _ _).symm
  | ok found =>
    cases found with
    | none =>
      rw [load_idle hidle _ _ (by rw [hbuild]; simp), publish_idle hidle]
      exact (finish_idle hidle _ _ _).symm
    | some batch =>
      let loaded := storedCheckpoint service wal s.store
      have hload : relayStep service wal s (.load p max_records faults.load_fails) =
          { s with pass := Function.update s.pass p (.built loaded batch) } := by
        rw [relayStep, hidle]
        dsimp only
        rw [hbuild]
      rw [hload]
      dsimp only
      cases hpublish : service.publish
          { s.broker with fail_next := s.broker.fail_next || faults.broker_unavailable } batch with
      | mk broker outcome =>
        cases outcome with
        | error e =>
          -- the pass is idle again before its last step
          have hstep : relayStep service wal
              { s with pass := Function.update s.pass p (.built loaded batch) }
              (.publish p faults.broker_unavailable) =
              { s with
                broker
                pass := Function.update (Function.update s.pass p (.built loaded batch)) p
                  .idle } := by
            rw [relayStep]
            dsimp only
            rw [Function.update_self]
            dsimp only
            rw [hpublish]
          rw [hstep]
          apply Eq.symm
          apply finish_idle
          exact Function.update_self ..
        | ok result =>
          have hstep : relayStep service wal
              { s with pass := Function.update s.pass p (.built loaded batch) }
              (.publish p faults.broker_unavailable) =
              { s with
                broker
                pass := Function.update (Function.update s.pass p (.built loaded batch)) p
                  (.published loaded batch result.broker_ack) } := by
            rw [relayStep]
            dsimp only
            rw [Function.update_self]
            dsimp only
            rw [hpublish]
          rw [hstep]
          dsimp only
          cases hstops : faults.stops with
          | true => rfl
          | false =>
            rw [if_neg Bool.false_ne_true, if_neg Bool.false_ne_true, relayStep]
            dsimp only
            rw [Function.update_self]
            dsimp only
            split <;> rename_i store _ hsave <;> rw [hsave]

end Passes

/-! Two passes over a WAL of two records. -/

def sampleRelay : LocalWalRelayService :=
  ⟨⟨"relay-1", by decide⟩, ⟨"events", DomainId.checked evaluates⟩⟩

def sampleWal : WalContent where
  run_id := sampleRun
  records := [sampleRecord 0, sampleRecord 1]
  same_run r hr := by
    rcases List.mem_pair.mp hr with rfl | rfl <;> rfl
  numbered := rfl

/-- The slow pass has published the first record when the fast one publishes both and saves. -/
def overtaken : List (RelayStep Bool) :=
  [.load false 1 false, .load true 2 false, .publish true false, .save true (some sampleTime) .none,
    .publish false false]

/-- The slow pass then saves its own checkpoint over the later one. -/
theorem stale_save_moves_back :
    ¬ ∀ (service : LocalWalRelayService) (wal : WalContent) (steps : List (RelayStep Bool)) step,
      MovesForward service wal (run (relayStep service wal) (.initial false) steps) step := by
  intro h
  have hforward := h sampleRelay sampleWal overtaken (.save false (some sampleTime) .none)
  have hbefore : (storedCheckpoint sampleRelay sampleWal
      (run (relayStep sampleRelay sampleWal) (.initial false) overtaken).store).map
      (·.last_published_wal_offset.value) = some 1 := by
    decide +kernel
  have hafter : (storedCheckpoint sampleRelay sampleWal
      (relayStep sampleRelay sampleWal (run (relayStep sampleRelay sampleWal) (.initial false)
        overtaken) (.save false (some sampleTime) .none)).store).map
      (·.last_published_wal_offset.value) = some 0 := by
    decide +kernel
  obtain ⟨old, hold, hone⟩ := Option.map_eq_some_iff.mp hbefore
  obtain ⟨new, hnew, hle⟩ := hforward old hold
  rw [hnew] at hafter
  have hzero : new.last_published_wal_offset.value = 0 := Option.some.inj hafter
  have hone : old.last_published_wal_offset.value = 1 := hone
  omega

end FuturesBot
