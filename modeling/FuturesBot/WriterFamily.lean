import FuturesBot.WalGcSafety

/-! Several database writers that share one required-consumer store, in any interleaving of
their calls, and garbage collection over that store. -/
namespace FuturesBot

open DateTimes Dicts StepRuns LocalDbWriterService

/-- The stores that a writer of the family has to itself. -/
structure OwnStores where
  db_store : InMemoryCommittedEventStore
  checkpoint_store : InMemoryDbWriterCheckpointStore
  broker_cursor_store : Option InMemoryBrokerConsumerCursorStore

structure FamilyState (ι : Type) where
  own : ι → OwnStores
  required : InMemoryRequiredConsumerCheckpointStore

section Family

variable {ι : Type} [DecidableEq ι] (services : ι → LocalDbWriterService)

/-- The stores as one writer sees them. -/
def FamilyState.view (s : FamilyState ι) (i : ι) : DbWriterStores where
  db_store := (s.own i).db_store
  checkpoint_store := (s.own i).checkpoint_store
  required_checkpoint_writer := some s.required
  broker_cursor_store := (s.own i).broker_cursor_store

/-- A call of one writer. The shared store is what the call makes of it. -/
def familyStep (s : FamilyState ι) (call : ι × CommitCall) : FamilyState ι :=
  let stores := commitStep (services call.1) (s.view call.1) call.2
  { own := Function.update s.own call.1
      ⟨stores.db_store, stores.checkpoint_store, stores.broker_cursor_store⟩
    required := stores.required_checkpoint_writer.getD s.required }

/-- The calling writer commits its batches from offset 0: a batch that gives a run its first
checkpoint leaves no offset out. -/
def CommitsFromZero (s : FamilyState ι) (call : ι × CommitCall) : Prop :=
  StartsAtPrefix (services call.1) (s.view call.1) call.2

def FamilyState.empty (fail_next_commit has_cursor : ι → Bool) : FamilyState ι where
  own i := ⟨.empty (fail_next_commit i), .empty, if has_cursor i then some .empty else none⟩
  required := .empty

/-- Garbage collection of a run over the shared store removes only what every writer of the
family has committed. -/
def FamilyGcSafe (s : FamilyState ι) (run_id : RunId) : Prop :=
  ∀ segment decided_at archive,
    (decideWalGc segment
      (InMemoryRequiredConsumerCheckpointStore.loadRequiredCheckpoints s.required run_id)
      decided_at archive).eligible = true →
    ∃ range, segment.offset_range = some range ∧ ∀ i k, range.first.value ≤ k →
      k ≤ range.last.value → (s.own i).db_store.hasCommitted segment.run_id k = true

/-- Every writer of the family has a checkpoint of the run in the shared store. -/
def AllRegistered (s : FamilyState ι) (run_id : RunId) : Prop :=
  ∀ i, (s.required.get? (sidecarText (services i).consumer_id, run_id.value)).isSome = true

variable {services}

theorem sidecarText_inj {a b : ConsumerId} (h : sidecarText a = sidecarText b) : a = b :=
  DomainId.ext ((String.append_right_inj _).mp h)

/-- A call leaves the required-consumer store in place when there is one. -/
theorem commitStep_required_isSome (service : LocalDbWriterService) {stores : DbWriterStores}
    (call : CommitCall) {store : InMemoryRequiredConsumerCheckpointStore}
    (h : stores.required_checkpoint_writer = some store) :
    (commitStep service stores call).required_checkpoint_writer.isSome = true := by
  have hcursor : ∀ (stores : DbWriterStores) cursor saved,
      (saveCursor stores call.faults cursor saved).1.required_checkpoint_writer =
        stores.required_checkpoint_writer := by
    intro stores cursor saved
    rw [saveCursor]
    split
    · rfl
    · split <;> rfl
  have hsome : stores.required_checkpoint_writer.isSome = true := by rw [h]; rfl
  have hupsert : ∀ (stores : DbWriterStores) run_id last_record kafka_offset saved_at saved,
      stores.required_checkpoint_writer.isSome = true →
      (upsertRequired service stores call.faults run_id last_record kafka_offset saved_at
        saved).1.required_checkpoint_writer.isSome = true := by
    intro stores run_id last_record kafka_offset saved_at saved hs
    rw [upsertRequired]
    split
    · rw [hcursor]
      exact hs
    · split
      · exact hs
      · split
        · rfl
        · rw [hcursor]
          rfl
  rw [commitStep, commitConsumedBatch]
  split
  · exact hsome
  · exact hsome
  · split
    · exact hsome
    · exact hsome
    · split
      · exact hsome
      · split
        · rw [advanceCheckpoints.eq_def]
          split
          · exact hsome
          · split
            · exact hsome
            · split
              · exact hsome
              · exact hupsert _ _ _ _ _ _ hsome
        · exact hsome

/-- Every writer keeps its own invariant through the calls of all of them. -/
theorem family_step_backed (hdistinct : Function.Injective fun i => (services i).consumer_id)
    {s : FamilyState ι} {call : ι × CommitCall} (h : ∀ i, Backed (services i) (s.view i))
    (hcond : CommitsFromZero services s call) :
    ∀ i, Backed (services i) ((familyStep services s call).view i) := by
  obtain ⟨j, call⟩ := call
  have hkeeps := commitStep_keeps (h j) hcond
  obtain ⟨required, hrequired⟩ := Option.isSome_iff_exists.mp
    (commitStep_required_isSome (services j) call
      (show (s.view j).required_checkpoint_writer = some s.required from rfl))
  have hnew : (familyStep services s (j, call)).required = required := by
    simp only [familyStep, hrequired, Option.getD_some]
  intro i
  by_cases hij : i = j
  · -- the caller: what its call keeps
    subst hij
    refine ⟨fun run_id cp hcp => ?_, ?_⟩
    · simp only [FamilyState.view, familyStep, Function.update_self] at hcp ⊢
      exact hkeeps.backed.checkpoint run_id cp hcp
    · rintro _ ⟨⟩ cp hcp hown
      rw [hnew] at hcp
      simp only [FamilyState.view, familyStep, Function.update_self]
      exact hkeeps.backed.required required hrequired cp hcp hown
  · -- another writer: its stores and its checkpoints in the shared store are the old ones
    have hown_same : (familyStep services s (j, call)).own i = s.own i := by
      simp only [familyStep, Function.update_of_ne hij]
    refine ⟨fun run_id cp hcp => ?_, ?_⟩
    · simp only [FamilyState.view, hown_same] at hcp ⊢
      exact (h i).checkpoint run_id cp hcp
    · rintro _ ⟨⟩ cp hcp hown
      rw [hnew] at hcp
      simp only [FamilyState.view, hown_same]
      obtain ⟨old, hold, hsub⟩ := hkeeps.others required hrequired
      obtain rfl := Option.some.inj hold
      rcases hsub cp hcp with hmem | hother
      · exact (h i).required s.required rfl cp hmem hown
      · exact absurd (hdistinct (sidecarText_inj (hown.symm.trans hother))) hij

theorem family_run_backed (hdistinct : Function.Injective fun i => (services i).consumer_id)
    (fail_next_commit has_cursor : ι → Bool) {calls : List (ι × CommitCall)}
    (h : Meets (familyStep services) (CommitsFromZero services)
      (.empty fail_next_commit has_cursor) calls) (i : ι) :
    Backed (services i)
      ((run (familyStep services) (.empty fail_next_commit has_cursor) calls).view i) := by
  have hempty : ∀ i, Backed (services i)
      ((FamilyState.empty fail_next_commit has_cursor).view i) := by
    intro i
    refine ⟨fun run_id cp hcp => absurd hcp (by simp [FamilyState.view, FamilyState.empty,
      InMemoryDbWriterCheckpointStore.load]), ?_⟩
    rintro _ ⟨⟩ cp hcp
    exact absurd hcp List.not_mem_nil
  have hstep : ∀ (s : FamilyState ι) call, (∀ i, Backed (services i) (s.view i)) →
      CommitsFromZero services s call →
      ∀ i, Backed (services i) ((familyStep services s call).view i) :=
    fun s call hs hc => family_step_backed hdistinct hs hc
  exact invariant hstep hempty h i

/-- In every interleaving of writers with distinct consumer ids that commit from offset 0,
garbage collection of a run in which every writer has a checkpoint removes only what all of them
have committed. -/
theorem family_run_gc_safe (hrequired : ∀ i, (services i).is_required_for_wal_gc = true)
    (hdistinct : Function.Injective fun i => (services i).consumer_id)
    (fail_next_commit has_cursor : ι → Bool) (calls : List (ι × CommitCall))
    (h : Meets (familyStep services) (CommitsFromZero services)
      (.empty fail_next_commit has_cursor) calls) (run_id : RunId)
    (hregistered : AllRegistered services
      (run (familyStep services) (.empty fail_next_commit has_cursor) calls) run_id) :
    FamilyGcSafe (run (familyStep services) (.empty fail_next_commit has_cursor) calls)
      run_id := by
  intro segment decided_at archive heligible
  obtain ⟨hrun, range, hrange, -, hreached⟩ := decideWalGc_eligible heligible
  refine ⟨range, hrange, fun i k _ hk => ?_⟩
  obtain ⟨cp, hcp⟩ := Option.isSome_iff_exists.mp (hregistered i)
  have hkey : sidecarKey cp = (sidecarText (services i).consumer_id, run_id.value) :=
    KeyedDict.key_of_get? hcp
  obtain ⟨hsidecar, hcprun⟩ := Prod.mk.inj hkey
  have hbacked := (family_run_backed hdistinct fail_next_commit has_cursor h i).required _ rfl cp
    (KeyedDict.mem_values_of_get? hcp) hsidecar
  -- the writer's own checkpoint is one of those that garbage collection consults
  have hmem : cp ∈ (InMemoryRequiredConsumerCheckpointStore.loadRequiredCheckpoints
      (run (familyStep services) (.empty fail_next_commit has_cursor) calls).required
      run_id).requiredCheckpoints := by
    refine List.mem_filter.mpr ⟨List.mem_filter.mpr ⟨KeyedDict.mem_values_of_get? hcp, ?_⟩, ?_⟩
    · exact decide_eq_true hcprun
    · rw [hbacked.2, hrequired i]
  have hcommitted := hbacked.1
  rw [DomainId.ext hcprun] at hcommitted
  rw [hrun]
  exact hcommitted k (hk.trans (hreached cp hmem))

end Family

/-! Two writers, of which the second has committed nothing. -/

def twoWriters (second : Bool) : LocalDbWriterService :=
  ⟨if second then ⟨"writer-2", by decide⟩ else ⟨"writer-1", DomainId.checked evaluates⟩, true⟩

def firstRecordBy (second : Bool) : Bool × CommitCall :=
  (second, ⟨[sampleConsumed 0 0], some sampleTime, StoreFaults.never⟩)

theorem twoWriters_distinct : Function.Injective fun second => (twoWriters second).consumer_id := by
  intro a b h
  have hvalue : (twoWriters a).consumer_id.value = (twoWriters b).consumer_id.value :=
    congrArg DomainId.value h
  cases a <;> cases b <;> first | rfl | exact absurd hvalue (by decide)

theorem firstRecordBy_fromZero (s : FamilyState Bool) (second : Bool) :
    CommitsFromZero twoWriters s (firstRecordBy second) := by
  intro first hfirst k hk
  obtain rfl := Option.some.inj ((rfl : _ = some (sampleConsumed 0 0)).symm.trans hfirst.head)
  exact absurd hk (Nat.not_lt_zero k)

theorem both_committed_gc_safe :
    FamilyGcSafe (run (familyStep twoWriters) (.empty (fun _ => false) (fun _ => false))
      [firstRecordBy false, firstRecordBy true]) sampleRun := by
  have hmeets : Meets (familyStep twoWriters) (CommitsFromZero twoWriters)
      (.empty (fun _ => false) (fun _ => false)) [firstRecordBy false, firstRecordBy true] :=
    ⟨firstRecordBy_fromZero _ _, firstRecordBy_fromZero _ _, trivial⟩
  refine family_run_gc_safe (fun _ => rfl) twoWriters_distinct _ _ _ hmeets sampleRun fun i => ?_
  cases i <;> decide +kernel

def sampleSegment : WalSegmentMetadata where
  segment_id := ⟨"run-1-segment-000001", by decide⟩
  run_id := sampleRun
  status := .SEALED
  offset_range := some ⟨⟨0⟩, ⟨0⟩, by decide⟩
  created_at := sampleTime
  sealed_at := some sampleTime
  event_count := 1
  payload_bytes := 1
  segment_hash := none
  previous_segment_hash := none
  valid := by decide +kernel

/-- The first writer commits the record of a segment, which is then eligible while the second
writer has not committed it. -/
theorem unregistered_writer_overtaken :
    ¬ ∀ calls : List (Bool × CommitCall),
      Meets (familyStep twoWriters) (CommitsFromZero twoWriters)
        (.empty (fun _ => false) (fun _ => false)) calls →
      ∀ run_id, FamilyGcSafe
        (run (familyStep twoWriters) (.empty (fun _ => false) (fun _ => false)) calls) run_id := by
  intro h
  have hsafe := h [firstRecordBy false] ⟨firstRecordBy_fromZero _ _, trivial⟩ sampleRun
  obtain ⟨range, hrange, hall⟩ := hsafe sampleSegment sampleTime true (by decide +kernel)
  obtain rfl := Option.some.inj hrange
  exact absurd (hall true 0 (le_refl _) (le_refl _)) (by decide +kernel)

end FuturesBot
