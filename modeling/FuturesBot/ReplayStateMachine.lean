import FuturesBot.ReplayOperations
import FuturesBot.TimelineBuilding

/-! The state machine of a replay run: what each operation makes of every state that the calls of
the runtime reach. -/
namespace FuturesBot.Replay

open DateTimes TextLines Dicts Checks StepRuns LocalDeterministicReplayRuntime

variable {env : Env} {runtime : LocalDeterministicReplayRuntime env} {stores : ReplayStores env}
  {run_id : String} {state : ReplayRunState}

/-! No operation leaves COMPLETED. -/

variable (runtime) in
/-- A call changes at most one run, which it finds absent or not completed. -/
theorem after_cases (stores : ReplayStores env) (call : RuntimeCall) :
    (runtime.after stores call).run_store = stores.run_store ∨
      ∃ replacement : ReplayRunState,
        (runtime.after stores call).run_store = stores.run_store.put replacement ∧
          ∀ s ∈ stores.run_store.get? replacement.run_id.value, s.status ≠ .COMPLETED := by
  have hmoved : ∀ {run_id : String} {required : ReplayRunStatus} {now : Option DateTime}
      {update : ReplayRunState → DateTime → ReplayRunFields}, required ≠ .COMPLETED →
      (∀ s t, (update s t).run_id = s.run_id) →
      (runtime.transitionRun stores run_id required now update).1.run_store = stores.run_store ∨
        ∃ replacement : ReplayRunState,
          (runtime.transitionRun stores run_id required now update).1.run_store =
              stores.run_store.put replacement ∧
            ∀ s ∈ stores.run_store.get? replacement.run_id.value, s.status ≠ .COMPLETED := by
    intro run_id required now update hrequired hrun
    rcases transitionRun_cases runtime stores run_id required now update with
      ⟨e, he⟩ | ⟨s, t, replacement, result, hget, hstatus, hok, hfields⟩
    · rw [he]
      exact .inl rfl
    · rw [hok]
      refine .inr ⟨replacement, rfl, fun s' hs' => ?_⟩
      have hkey := KeyedDict.key_of_get? hget
      rw [hfields, hrun, hkey, hget, Option.mem_some_iff] at hs'
      rw [← hs', hstatus]
      exact hrequired
  cases call with
  | create run_id manifest_id timeline_id timeline_fingerprint_id now =>
    rw [LocalDeterministicReplayRuntime.after]
    rcases createRun_cases runtime stores run_id manifest_id timeline_id
      timeline_fingerprint_id now with hsame | ⟨s, timeline, hnew, hid, -, -, hstores⟩
    · rw [hsame]
      exact .inl rfl
    · rw [hstores]
      refine .inr ⟨s, rfl, fun s' hs' => ?_⟩
      rw [hid, hnew] at hs'
      exact absurd hs' (by simp)
  | start run_id now => exact hmoved (by simp) fun _ _ => rfl
  | pause run_id now => exact hmoved (by simp) fun _ _ => rfl
  | resume run_id now => exact hmoved (by simp) fun _ _ => rfl
  | step handlers run_id max_events now =>
    rw [LocalDeterministicReplayRuntime.after]
    rcases stepRun_cases runtime handlers stores run_id max_events now
      with ⟨e, he⟩ | ⟨s, timeline, ds, writes, hget, -, hprepared, hcases⟩
    · rw [he]
      exact .inl rfl
    · rcases hcases with ⟨e, he⟩ | ⟨-, -, hok⟩
      · rw [he]
        exact .inl rfl
      · rw [hok]
        refine .inr ⟨writes.replacement, rfl, fun s' hs' => ?_⟩
        have hkey := KeyedDict.key_of_get? hget
        rw [hprepared.run_id, hkey, hget, Option.mem_some_iff] at hs'
        rw [← hs', hprepared.running]
        simp

theorem completed_stays (hget : stores.run_store.get? run_id = some state)
    (hcompleted : state.status = .COMPLETED) (call : RuntimeCall) :
    (runtime.after stores call).run_store.get? run_id = some state := by
  rcases after_cases runtime stores call with hsame | ⟨replacement, hput, hactive⟩
  · rw [hsame, hget]
  · rw [hput, KeyedDict.get?_put]
    split
    · rename_i hkey
      rw [hkey, hget] at hactive
      exact absurd hcompleted (hactive state rfl)
    · exact hget

/-! The operations. -/

/-- The outcome of a step that processes `count` events. -/
structure Steps (stores : ReplayStores env) (state : ReplayRunState) (timeline : ReplayTimeline)
    (count : ℕ) (now : DateTime)
    (outcome : ReplayStores env × Except ReplayError (ReplayRunStepResult env)) : Prop where
  returns : ∃ (replacement : ReplayRunState) (result : ReplayRunStepResult env)
    (last_event : ReplayTimelineEvent), outcome.2 = .ok result ∧
      outcome.1.run_store = stores.run_store.put replacement ∧
      timeline.events[state.next_event_index + count - 1]? = some last_event ∧
      replacement.toReplayRunFields =
        stepUpdate state last_event (state.next_event_index + count) now ∧
      result.toReplayRunStepFields = resultFields state.toReplayRunFields
        replacement.toReplayRunFields result.processed_receipts ∧
      result.processed_receipts.map (·.context) =
        ((timeline.events.drop state.next_event_index).take count).map
          (contextOf state.toReplayRunFields)

/-- What the operations make of a run: each that its precondition admits returns. -/
structure Operates (runtime : LocalDeterministicReplayRuntime env) (stores : ReplayStores env)
    (run_id : String) (state : ReplayRunState) : Prop where
  start : state.status = .CREATED → ∀ now, state.updated_at ≤ now →
    Moves stores state (startUpdate state now) (runtime.startRun stores run_id (some now))
  pause : state.status = .RUNNING → ∀ now, state.updated_at ≤ now →
    Moves stores state (pauseUpdate state now) (runtime.pauseRun stores run_id (some now))
  resume : state.status = .PAUSED → ∀ now, state.updated_at ≤ now →
    Moves stores state (resumeUpdate state now) (runtime.resumeRun stores run_id (some now))
  step : ∃ timeline, runtime.catalog.timeline_store.get? state.timeline_id.value = some timeline ∧
    (state.status = .RUNNING → ∀ (handlers : ReplayHandlers) (max_events : ℤ) (now : DateTime),
      0 < max_events → state.updated_at ≤ now →
      (∀ e ∈ stepEvents state.toReplayRunFields timeline max_events.toNat,
        Answers env handlers (contextOf state.toReplayRunFields e) e
          (runtime.dispatcher.selectedDescriptorsFor e.kind)) →
      NoCollision runtime handlers stores state.toReplayRunFields
        (stepEvents state.toReplayRunFields timeline max_events.toNat) →
      Steps stores state timeline
        (min max_events.toNat (state.total_event_count - state.next_event_index)) now
        (runtime.stepRun handlers stores run_id max_events (some now)))
  completed : state.status ≠ .CREATED →
    (state.status = .COMPLETED ↔ state.processed_event_count = state.total_event_count)
  final : state.status = .COMPLETED → ∀ call,
    (runtime.after stores call).run_store.get? run_id = some state

theorem StoresHold.steps (h : StoresHold runtime stores)
    (hget : stores.run_store.get? run_id = some state) {timeline : ReplayTimeline}
    (hbound : BoundTo runtime state.toReplayRunFields timeline) (hrunning : state.status = .RUNNING)
    {handlers : ReplayHandlers} {max_events : ℤ} {now : DateTime} (hmax : 0 < max_events)
    (hnow : state.updated_at ≤ now)
    (hanswers : ∀ e ∈ stepEvents state.toReplayRunFields timeline max_events.toNat,
      Answers env handlers (contextOf state.toReplayRunFields e) e
        (runtime.dispatcher.selectedDescriptorsFor e.kind))
    (hcollision : NoCollision runtime handlers stores state.toReplayRunFields
      (stepEvents state.toReplayRunFields timeline max_events.toNat)) :
    Steps stores state timeline
      (min max_events.toNat (state.total_event_count - state.next_event_index)) now
      (runtime.stepRun handlers stores run_id max_events (some now)) := by
  obtain ⟨ds, writes, hprepared, htime, hok⟩ :=
    h.step_ok hget hrunning hbound hmax hnow hanswers hcollision
  obtain ⟨last_event, t, hlast, -, hreplacement⟩ := hprepared.replacement
  have ht : t = now := by
    rw [← htime, hreplacement]
    rfl
  have hreceipts : writes.result.processed_receipts = writes.receipts :=
    congrArg (·.processed_receipts) hprepared.result
  rw [ht] at hreplacement
  rw [hok]
  refine ⟨writes.replacement, writes.result, last_event, rfl, rfl,
    (stepEvents_getLast hbound hlast).2, hreplacement, ?_, ?_⟩
  · rw [hreceipts]
    exact hprepared.result
  · rw [hreceipts]
    exact hprepared.contexts

/-- In every state that the calls reach, each operation that is admitted returns a valid result,
a step advances by the events asked for or those that remain, a run that was started is completed
exactly when it has processed all events, and it then stays so. -/
theorem replay_state_machine (runtime : LocalDeterministicReplayRuntime env)
    (calls : List RuntimeCall) {run_id : String} {state : ReplayRunState}
    (hget : (run runtime.after (ReplayStores.empty env) calls).run_store.get? run_id =
      some state) :
    Operates runtime (run runtime.after (ReplayStores.empty env) calls) run_id state := by
  have hholds := storesHold_run runtime calls
  obtain ⟨timeline, hrecords⟩ := hholds.runs run_id state hget
  have hfingerprint := hrecords.bound.fingerprint
  refine ⟨?_, ?_, ?_, ⟨timeline, hrecords.bound.stored, ?_⟩, ?_, ?_⟩
  · intro hstatus now hnow
    exact transitionRun_of hget hfingerprint hstatus hnow rfl (startUpdate_valid hstatus hnow)
      (startUpdate_transition hstatus hnow) (startUpdate_result hstatus)
  · intro hstatus now hnow
    exact transitionRun_of hget hfingerprint hstatus hnow rfl (pauseUpdate_valid hstatus hnow)
      (pauseUpdate_transition hstatus hnow) (pauseUpdate_result hstatus)
  · intro hstatus now hnow
    exact transitionRun_of hget hfingerprint hstatus hnow rfl (resumeUpdate_valid hstatus hnow)
      (resumeUpdate_transition hstatus hnow) (resumeUpdate_result hstatus)
  · intro hrunning handlers max_events now hmax hnow hanswers hcollision
    exact hholds.steps hget hrecords.bound hrunning hmax hnow hanswers hcollision
  · intro hcreated
    have hprocessed := state.facts.processed
    cases hstatus : state.status with
    | CREATED => exact absurd hstatus hcreated
    | RUNNING =>
      have hlt := (state.running hstatus).next_lt
      simp only [reduceCtorEq, false_iff]
      omega
    | PAUSED =>
      have hlt := (state.paused hstatus).next_lt
      simp only [reduceCtorEq, false_iff]
      omega
    | COMPLETED =>
      have heq := (state.completed hstatus).next_eq
      simp only [true_iff]
      omega
    | FAILED => exact absurd hstatus hrecords.live.1
    | INVALIDATED => exact absurd hstatus hrecords.live.2
  · intro hcompleted call
    exact completed_stays hget hcompleted call

/-! A runtime without handlers over a timeline. -/

def sampleHash (b : Bytes) : ℕ := b.foldl (fun h c => (h * 257 + c.toNat) % 10 ^ 64) 0

def sampleEnv : Env where
  sha256 b := {
    value := String.ofList (fixedDigits 64 (sampleHash b))
    hex := by
      rw [String.toList_ofList]
      exact ⟨fixedDigits_length 64 _, fun c hc => .inl (fixedDigits_isDigit 64 _ c hc)⟩ }
  jsonDepth := 8
  depth_min := Nat.le_refl 8
  creatable _ := true

def sampleEvent (event_id : TrimmedText) (order_index : ℕ) : ReplayTimelineEvent where
  event_id
  batch_id := ⟨"a", .checked evaluates⟩
  input_dataset_id := ⟨"dataset-1", .checked evaluates⟩
  record_id := event_id
  kind := .TRADE
  instrument := sampleInstrument
  event_time := sampleTime
  source_sequence := order_index
  order_index
  content_hash := none

def sampleTimelineFields (input_batch_ids input_dataset_ids : List String)
    (events : List ReplayTimelineEvent) : ReplayTimelineFields where
  timeline_id := ⟨"timeline-1", by decide⟩
  replay_plan_id := ⟨"plan-1", by decide⟩
  temporal_window := sampleWindow
  ordering_policy := .EVENT_TIME_THEN_SEQUENCE
  input_batch_ids
  input_dataset_ids
  events
  created_at := sampleTime
  status := .BUILT
  notes := none

def emptyTimeline : ReplayTimeline := ⟨sampleTimelineFields [] [] [], by decide +kernel⟩

def twoEvents : ReplayTimeline where
  toReplayTimelineFields := sampleTimelineFields ["a"] ["dataset-1"]
    [sampleEvent ⟨"a:1", .checked evaluates⟩ 0, sampleEvent ⟨"a:2", .checked evaluates⟩ 1]
  valid := by decide +kernel

def sampleRuntime (timeline : ReplayTimeline) : LocalDeterministicReplayRuntime sampleEnv where
  catalog := {
    manifest_store := KeyedDict.empty.put {
      manifest_id := ⟨"manifest-1", by decide⟩
      replay_plan_id := ⟨"plan-1", by decide⟩
      created_at := sampleTime
      status := .PLANNED
      fingerprint_ids := [⟨"fingerprint-1", by decide⟩] }
    timeline_store := KeyedDict.empty.put timeline
    fingerprint_store := KeyedDict.empty.put {
      fingerprint_id := ⟨"fingerprint-1", by decide⟩
      artifact_kind := .TIMELINE
      artifact_id := ⟨"timeline-1", by decide⟩
      replay_plan_id := some ⟨"plan-1", by decide⟩
      generated_at := sampleTime
      status := .GENERATED } }
  dispatcher := {
    descriptors := []
    dispatcher_fingerprint := buildReplayDispatcherFingerprint sampleEnv []
    distinct := List.nodup_nil
    ordered := List.Pairwise.nil
    fingerprint_eq := rfl }

def sampleCreate : RuntimeCall :=
  .create "run-1" "manifest-1" "timeline-1" "fingerprint-1" (some sampleTime)

def sampleStart : RuntimeCall := .start "run-1" (some sampleTime)

def sampleStep (max_events : ℤ) : RuntimeCall :=
  .step (fun _ _ _ => .raised) "run-1" max_events (some sampleTime)

/-- The run of the two events after its creation, its start and one step. -/
theorem twoEvents_operates :
    ∃ state, state.status = .RUNNING ∧ Operates (sampleRuntime twoEvents)
      (run (sampleRuntime twoEvents).after (ReplayStores.empty sampleEnv)
        [sampleCreate, sampleStart, sampleStep 1]) "run-1" state := by
  have hstatus : ((run (sampleRuntime twoEvents).after (ReplayStores.empty sampleEnv)
      [sampleCreate, sampleStart, sampleStep 1]).run_store.get? "run-1").map (·.status) =
        some .RUNNING := by decide +kernel
  obtain ⟨state, hget, hrunning⟩ := Option.map_eq_some_iff.mp hstatus
  exact ⟨state, hrunning, replay_state_machine _ _ hget⟩

/-- A run over no events has processed all of them before it starts. -/
theorem created_run_not_completed :
    ¬ ∀ (runtime : LocalDeterministicReplayRuntime sampleEnv) (calls : List RuntimeCall)
      (run_id : String) (state : ReplayRunState),
      (run runtime.after (ReplayStores.empty sampleEnv) calls).run_store.get? run_id =
        some state →
      (state.status = .COMPLETED ↔ state.processed_event_count = state.total_event_count) := by
  intro h
  have hcreated : ((run (sampleRuntime emptyTimeline).after (ReplayStores.empty sampleEnv)
      [sampleCreate]).run_store.get? "run-1").map (fun s =>
        (s.status, s.processed_event_count, s.total_event_count)) = some (.CREATED, 0, 0) := by
    decide +kernel
  obtain ⟨state, hget, hfields⟩ := Option.map_eq_some_iff.mp hcreated
  simp only [Prod.mk.injEq] at hfields
  obtain ⟨hstatus, hprocessed, htotal⟩ := hfields
  have hcompleted := (h _ _ _ _ hget).mpr (by rw [hprocessed, htotal])
  rw [hstatus] at hcompleted
  exact absurd hcompleted (by simp)

end FuturesBot.Replay
