import FuturesBot.ReplayRecords
import FuturesBot.ReplayTransitions

/-! What each call of the runtime does to the stores. -/
namespace FuturesBot.Replay

open DateTimes Dicts Checks LocalDeterministicReplayRuntime

variable {env : Env}

/-! The state store. -/

theorem ReplayRunState.of_valid {s : ReplayRunFields} (h : checkAll s.validateState = .ok ()) :
    ReplayRunState.of s = .ok ⟨s, h⟩ := by
  rw [ReplayRunState.of]
  split
  · rfl
  · rename_i hinvalid
    rw [h] at hinvalid
    exact absurd hinvalid (by simp)

theorem ReplayRunState.of_ok {s : ReplayRunFields} {state : ReplayRunState}
    (h : ReplayRunState.of s = .ok state) : state.toReplayRunFields = s := by
  rw [ReplayRunState.of] at h
  split at h
  · rw [← Except.ok.inj h]
  · exact absurd h (by simp)

theorem stepResult_valid {previous : ReplayRunState} (current : ReplayRunState)
    {receipts : List (ReplayEventDispatchReceipt env)}
    (h : checkAll (resultFields previous.toReplayRunFields current.toReplayRunFields
      receipts).validateResult = .ok ()) :
    stepResult previous current receipts = .ok ⟨_, h⟩ := by
  rw [stepResult, ReplayRunStepResult.of]
  split
  · rfl
  · rename_i hinvalid
    rw [h] at hinvalid
    exact absurd hinvalid (by simp)

theorem stepResult_ok {previous current : ReplayRunState}
    {receipts : List (ReplayEventDispatchReceipt env)} {result : ReplayRunStepResult env}
    (h : stepResult previous current receipts = .ok result) :
    result.toReplayRunStepFields =
      resultFields previous.toReplayRunFields current.toReplayRunFields receipts := by
  rw [stepResult, ReplayRunStepResult.of] at h
  split at h
  · rw [← Except.ok.inj h]
  · exact absurd h (by simp)

namespace InMemoryReplayRunStateStore

theorem replace_ok {store store' : InMemoryReplayRunStateStore} {state : ReplayRunState}
    {expected_revision : ℕ} :
    InMemoryReplayRunStateStore.replace store state expected_revision = .ok store' ↔
      ∃ existing, store.get? state.run_id.value = some existing ∧
        existing.revision = expected_revision ∧
        checkAll (validateTransition existing.toReplayRunFields state.toReplayRunFields) = .ok () ∧
        store' = store.put state := by
  rw [InMemoryReplayRunStateStore.replace]
  cases hget : store.get? state.run_id.value with
  | none => simp
  | some existing =>
    dsimp only
    by_cases hrevision : existing.revision = expected_revision
    · rw [if_neg (not_not_intro hrevision)]
      cases hcheck : checkAll
          (validateTransition existing.toReplayRunFields state.toReplayRunFields) with
      | error e => simp [hcheck]
      | ok u =>
        simp only [Except.ok.injEq, Option.some.injEq, exists_eq_left', hrevision, hcheck, true_and]
        exact eq_comm
    · rw [if_pos hrevision]
      simp [hrevision]

end InMemoryReplayRunStateStore

/-! Dispatchers and timelines. -/

variable {runtime : LocalDeterministicReplayRuntime env}

theorem validatedDispatcherFingerprint_ok :
    validatedDispatcherFingerprint runtime.dispatcher =
      .ok runtime.dispatcher.dispatcher_fingerprint := by
  rw [validatedDispatcherFingerprint, ← runtime.dispatcher.fingerprint_eq]
  exact if_neg (not_not_intro rfl)

theorem requireMatchingDispatcher_ok {state : ReplayRunState} {fingerprint : HexDigest} :
    requireMatchingDispatcher runtime.dispatcher state = .ok fingerprint ↔
      state.dispatcher_fingerprint = runtime.dispatcher.dispatcher_fingerprint ∧
        fingerprint = state.dispatcher_fingerprint := by
  rw [requireMatchingDispatcher, validatedDispatcherFingerprint_ok]
  dsimp only
  by_cases h : runtime.dispatcher.dispatcher_fingerprint = state.dispatcher_fingerprint
  · rw [if_neg (not_not_intro h), h]
    simp only [Except.ok.injEq, true_and]
    exact eq_comm
  · rw [if_pos h]
    simp only [reduceCtorEq, false_iff, not_and]
    exact fun heq => absurd heq.symm h

theorem requireNonRegressingRuntimeTime_ok {captured_now : Option DateTime}
    {state : ReplayRunState} {now : DateTime} :
    requireNonRegressingRuntimeTime captured_now state = .ok now ↔
      captured_now = some now ∧ state.updated_at ≤ now := by
  rw [requireNonRegressingRuntimeTime.eq_def]
  cases captured_now with
  | none => simp
  | some t =>
    dsimp only
    by_cases h : t < state.updated_at
    · rw [if_pos h]
      simp only [reduceCtorEq, Option.some.injEq, false_iff, not_and]
      rintro rfl
      exact not_le_of_gt h
    · rw [if_neg h]
      simp only [Except.ok.injEq, Option.some.injEq]
      constructor
      · rintro rfl
        exact ⟨rfl, Nat.not_lt.mp h⟩
      · exact fun ht => ht.1

/-- What a run is bound to. -/
structure BoundTo (runtime : LocalDeterministicReplayRuntime env) (state : ReplayRunFields)
    (timeline : ReplayTimeline) : Prop where
  stored : runtime.catalog.timeline_store.get? state.timeline_id.value = some timeline
  built : timeline.status = .BUILT
  plan : timeline.replay_plan_id = state.replay_plan_id
  total : timeline.events.length = state.total_event_count
  last : 0 < state.next_event_index → state.last_processed_event_id =
    (timeline.events[state.next_event_index - 1]?).map (·.event_id)
  fingerprint : state.dispatcher_fingerprint = runtime.dispatcher.dispatcher_fingerprint

theorem BoundTo.load {state : ReplayRunState} {timeline : ReplayTimeline}
    (h : BoundTo runtime state.toReplayRunFields timeline) :
    runtime.loadBoundTimeline state = .ok timeline := by
  have hkey := KeyedDict.key_of_get? h.stored
  have hid : timeline.timeline_id = state.timeline_id := TrimmedText.ext hkey
  have hchecks : checkAll [
      require (timeline.status = .BUILT) (.check "bound replay timeline must be BUILT"),
      require (timeline.timeline_id = state.timeline_id)
        (.check "loaded replay timeline id does not match run state"),
      require (timeline.replay_plan_id = state.replay_plan_id)
        (.check "bound replay timeline replay_plan_id does not match run state"),
      require (timeline.events.length = state.total_event_count)
        (.check "bound replay timeline event count does not match run state"),
      require (0 < state.next_event_index → state.last_processed_event_id =
          (timeline.events[state.next_event_index - 1]?).map (·.event_id))
        (.check "last_processed_event_id must match the bound timeline event before next_event_index"),
      require (timeline.events.map (·.order_index) = List.range timeline.events.length)
        (ReplayError.check "timeline event order_index must equal tuple position")] = .ok () := by
    simp only [checkAll_require, checkAll_nil, and_true]
    exact ⟨h.built, hid, h.plan, h.total, h.last, timeline.indexed⟩
  rw [loadBoundTimeline, h.stored]
  dsimp only
  rw [hchecks]

/-- A run that has loaded its timeline, with the runtime's dispatcher, is bound to it. -/
theorem BoundTo.of_load {state : ReplayRunState} {timeline : ReplayTimeline}
    (h : runtime.loadBoundTimeline state = .ok timeline)
    (hfingerprint : state.dispatcher_fingerprint = runtime.dispatcher.dispatcher_fingerprint) :
    BoundTo runtime state.toReplayRunFields timeline := by
  rw [loadBoundTimeline] at h
  split at h
  · exact absurd h (by simp)
  · rename_i stored hstored
    split at h
    · exact absurd h (by simp)
    · rename_i hchecks
      obtain rfl := Except.ok.inj h
      simp only [checkAll_require, checkAll_nil, and_true] at hchecks
      obtain ⟨hbuilt, -, hplan, htotal, hlast, -⟩ := hchecks
      exact ⟨hstored, hbuilt, hplan, htotal, hlast, hfingerprint⟩

theorem BoundTo.unique {state : ReplayRunFields} {timeline timeline' : ReplayTimeline}
    (h : BoundTo runtime state timeline) (h' : BoundTo runtime state timeline') :
    timeline = timeline' := Option.some.inj (h.stored.symm.trans h'.stored)

/-! Creating, starting, pausing and resuming. -/

variable {stores : ReplayStores env} {run_id : String}

theorem replaceState_cases (stores : ReplayStores env) (state : ReplayRunState)
    (update : ReplayRunFields) :
    (∃ e, replaceState stores state update = (stores, .error e)) ∨
      ∃ replacement result, replaceState stores state update =
          ({ stores with run_store := stores.run_store.put replacement }, .ok result) ∧
        replacement.toReplayRunFields = update := by
  rw [replaceState]
  split
  · exact .inl ⟨_, rfl⟩
  · rename_i replacement hreplacement
    split
    · exact .inl ⟨_, rfl⟩
    · rename_i result hresult
      split
      · exact .inl ⟨_, rfl⟩
      · rename_i run_store hreplace
        obtain ⟨existing, -, -, -, rfl⟩ := InMemoryReplayRunStateStore.replace_ok.mp hreplace
        exact .inr ⟨replacement, result, rfl, ReplayRunState.of_ok hreplacement⟩

variable (runtime) in
/-- An operation is refused or takes the state of the run to its update. -/
theorem transitionRun_cases (stores : ReplayStores env) (run_id : String)
    (required : ReplayRunStatus) (now : Option DateTime)
    (update : ReplayRunState → DateTime → ReplayRunFields) :
    (∃ e, runtime.transitionRun stores run_id required now update = (stores, .error e)) ∨
      ∃ state t replacement result, stores.run_store.get? run_id = some state ∧
        state.status = required ∧
        runtime.transitionRun stores run_id required now update =
          ({ stores with run_store := stores.run_store.put replacement }, .ok result) ∧
        replacement.toReplayRunFields = update state t := by
  rw [transitionRun, loadState]
  cases hget : stores.run_store.get? run_id with
  | none => exact .inl ⟨_, rfl⟩
  | some state =>
    dsimp only
    by_cases hstatus : state.status = required
    · rw [if_neg (not_not_intro hstatus)]
      split
      · exact .inl ⟨_, rfl⟩
      · split
        · exact .inl ⟨_, rfl⟩
        · rename_i t ht
          rcases replaceState_cases stores state (update state t) with
            ⟨e, he⟩ | ⟨replacement, result, hreplace, hfields⟩
          · exact .inl ⟨e, he⟩
          · exact .inr ⟨state, t, replacement, result, rfl, hstatus, hreplace, hfields⟩
    · rw [if_pos hstatus]
      exact .inl ⟨_, rfl⟩

theorem boundArtifacts_ok {manifest_id timeline_id timeline_fingerprint_id : String}
    {manifest : ReplayRunManifest} {timeline : ReplayTimeline}
    {fingerprint : ReplayArtifactFingerprint}
    (h : runtime.boundArtifacts manifest_id timeline_id timeline_fingerprint_id =
      .ok (manifest, timeline, fingerprint)) :
    runtime.catalog.timeline_store.get? timeline_id = some timeline ∧ timeline.status = .BUILT ∧
      timeline.replay_plan_id = manifest.replay_plan_id := by
  rw [boundArtifacts] at h
  split at h
  · exact absurd h (by simp)
  · split at h
    · exact absurd h (by simp)
    · split at h
      · exact absurd h (by simp)
      · rename_i stored hstored
        split at h
        · exact absurd h (by simp)
        · rename_i htimeline
          split at h
          · exact absurd h (by simp)
          · split at h
            · exact absurd h (by simp)
            · simp only [Except.ok.injEq, Prod.mk.injEq] at h
              obtain ⟨rfl, rfl, rfl⟩ := h
              simp only [timelineChecks, checkAll_require, checkAll_nil, and_true] at htimeline
              exact ⟨hstored, htimeline.1, htimeline.2.1⟩

theorem newRun_ok {manifest_id timeline_id timeline_fingerprint_id : String} {now : Option DateTime}
    {state : ReplayRunState}
    (h : runtime.newRun run_id manifest_id timeline_id timeline_fingerprint_id
      runtime.dispatcher.dispatcher_fingerprint now = .ok state) :
    state.run_id.value = run_id ∧ state.status = .CREATED ∧
      ∃ timeline, BoundTo runtime state.toReplayRunFields timeline := by
  rw [newRun] at h
  split at h
  · exact absurd h (by simp)
  · rename_i manifest timeline fingerprint hartifacts
    split at h
    · exact absurd h (by simp)
    · split at h
      · exact absurd h (by simp)
      · split at h
        · exact absurd h (by simp)
        · rename_i id hid
          obtain ⟨hstored, hbuilt, hplan⟩ := boundArtifacts_ok hartifacts
          have hvalue : id.value = run_id := by
            rw [TrimmedText.of] at hid
            split at hid
            · rw [← Option.some.inj hid]
            · exact absurd hid (by simp)
          have hfields := ReplayRunState.of_ok h
          rw [hfields]
          refine ⟨hvalue, rfl, timeline, ?_, hbuilt, hplan, rfl, ?_, rfl⟩
          · change runtime.catalog.timeline_store.get? timeline.timeline_id.value = some timeline
            rw [KeyedDict.key_of_get? hstored]
            exact hstored
          · exact fun hpos => absurd hpos (Nat.lt_irrefl 0)

variable (runtime) in
/-- A creation changes nothing, or makes a new run of a timeline. -/
theorem createRun_cases (stores : ReplayStores env)
    (run_id manifest_id timeline_id timeline_fingerprint_id : String) (now : Option DateTime) :
    (runtime.createRun stores run_id manifest_id timeline_id timeline_fingerprint_id now).1 =
        stores ∨
      ∃ state timeline, stores.run_store.get? run_id = none ∧ state.run_id.value = run_id ∧
        state.status = .CREATED ∧ BoundTo runtime state.toReplayRunFields timeline ∧
        (runtime.createRun stores run_id manifest_id timeline_id timeline_fingerprint_id now).1 =
          { stores with run_store := stores.run_store.put state } := by
  rw [createRun, validatedDispatcherFingerprint_ok]
  dsimp only
  cases hget : stores.run_store.get? run_id with
  | some existing =>
    dsimp only
    split
    · exact .inl rfl
    · exact .inl rfl
  | none =>
    dsimp only
    split
    · exact .inl rfl
    · rename_i state hnew
      split
      · exact .inl rfl
      · rename_i run_store hcreate
        obtain ⟨hvalue, hcreated, timeline, hbound⟩ := newRun_ok hnew
        refine .inr ⟨state, timeline, rfl, hvalue, hcreated, hbound, ?_⟩
        rw [InMemoryReplayRunStateStore.create] at hcreate
        split at hcreate
        · exact absurd hcreate (by simp)
        · split at hcreate
          · exact absurd hcreate (by simp)
          · split at hcreate
            · exact absurd hcreate (by simp)
            · rename_i saved hsaved
              obtain rfl := Except.ok.inj hcreate
              rw [(KeyedDict.saveOnce_eq_some.mp hsaved).2]

end FuturesBot.Replay
