import FuturesBot.StepRuns
import FuturesBot.ReplaySteps

/-! Runs of calls of the runtime. Whatever the calls, each run in the store is bound to its
timeline and has one receipt for each event that it has processed. -/
namespace FuturesBot.Replay

open DateTimes Dicts Checks StepRuns LocalDeterministicReplayRuntime

variable {env : Env}

/-! The writes of a step. -/

theorem preflight_ok {stores : ReplayStores env} {writes : StepWrites env} :
    checkAll (preflight stores writes) = .ok () ↔
      (∀ receipt ∈ writes.receipts, stores.receipt_store.Accepts receipt) ∧
        ∀ record ∈ writes.output_records, stores.output_store.Accepts record := by
  simp only [preflight, checkAll_append, checkAll_flatMap, checkAll_require, checkAll_nil, and_true]
  exact Iff.rfl

/-- A step that no other call comes between fails before its receipts, or succeeds. -/
theorem writeStep_cases {stores : ReplayStores env} {writes : StepWrites env}
    (hdistinct : (writes.receipts.map (·.receipt_id)).Nodup)
    (hreplace : InMemoryReplayRunStateStore.replace stores.run_store writes.replacement
      writes.expected_revision = .ok (stores.run_store.put writes.replacement)) :
    (∃ e, writeStep stores writes = (stores, .error e)) ∨
      (∃ e, writeStep stores writes =
        ({ stores with output_store := (stores.output_store.saveEach writes.output_records).1 },
          .error e)) ∨
      (stores.output_store.saveEach writes.output_records).2 = none ∧
        (stores.receipt_store.saveEach writes.receipts).2 = none ∧
        writeStep stores writes =
          (⟨stores.run_store.put writes.replacement,
            (stores.receipt_store.saveEach writes.receipts).1,
            (stores.output_store.saveEach writes.output_records).1⟩, .ok writes.result) := by
  rw [writeStep]
  cases hchecks : checkAll (preflight stores writes) with
  | error e => exact .inl ⟨e, rfl⟩
  | ok u =>
    right
    have hreceipts : (stores.receipt_store.saveEach writes.receipts).2 = none := by
      apply KeyedDict.saveEach_ok (preflight_ok.mp hchecks).1
      intro a ha b hb
      exact List.inj_on_of_nodup_map hdistinct ha hb
    dsimp only
    rw [saveOutputs_eq]
    cases houtputs : (stores.output_store.saveEach writes.output_records).2 with
    | some record => exact .inl ⟨_, rfl⟩
    | none =>
      right
      dsimp only
      rw [saveReceipts_eq]
      dsimp only
      rw [hreceipts]
      dsimp only
      rw [hreplace]
      exact ⟨rfl, rfl, rfl⟩

variable {runtime : LocalDeterministicReplayRuntime env} {handlers : ReplayHandlers}

section Prepared

variable {state : ReplayRunState} {max_events : ℕ} {timeline : ReplayTimeline}
  {ds : List (ReplayEventDispatchReceipt env × List (ReplayEventOutputRecord env))}
  {writes : StepWrites env}

theorem Prepared.distinct (h : Prepared runtime handlers state max_events timeline ds writes) :
    (writes.receipts.map (·.receipt_id)).Nodup := by
  have hvalid := writes.result.valid
  simp only [ReplayRunStepFields.validateResult, ReplayRunStepFields.validateReceipts,
    checkAll_append, checkAll_require, checkAll_nil, and_true] at hvalid
  have hreceipts : writes.result.processed_receipts = writes.receipts :=
    congrArg (·.processed_receipts) h.result
  rw [← hreceipts]
  exact hvalid.1.1.2.2.2.1

theorem Prepared.run_id (h : Prepared runtime handlers state max_events timeline ds writes) :
    writes.replacement.run_id = state.run_id := by
  obtain ⟨last_event, now, -, -, hreplacement⟩ := h.replacement
  exact congrArg (·.run_id) hreplacement

theorem Prepared.contextOf_eq
    (h : Prepared runtime handlers state max_events timeline ds writes) :
    contextOf writes.replacement.toReplayRunFields = contextOf state.toReplayRunFields := by
  obtain ⟨last_event, now, -, -, hreplacement⟩ := h.replacement
  rw [hreplacement]
  rfl

theorem Prepared.next (h : Prepared runtime handlers state max_events timeline ds writes) :
    writes.replacement.next_event_index =
      state.next_event_index + stepCount state.toReplayRunFields max_events := by
  obtain ⟨last_event, now, -, -, hreplacement⟩ := h.replacement
  exact congrArg (·.next_event_index) hreplacement

theorem Prepared.count (h : Prepared runtime handlers state max_events timeline ds writes) :
    writes.receipts.length = stepCount state.toReplayRunFields max_events := by
  rw [h.receipts, List.length_map, ← h.dispatched.length_eq, stepEvents_length _ h.bound.total]

theorem Prepared.contexts (h : Prepared runtime handlers state max_events timeline ds writes) :
    writes.receipts.map (·.context) =
      (stepEvents state.toReplayRunFields timeline max_events).map
        (contextOf state.toReplayRunFields) := by
  rw [h.receipts]
  exact dispatched_contexts h.dispatched

theorem Prepared.output_context
    (h : Prepared runtime handlers state max_events timeline ds writes)
    {r : ReplayEventOutputRecord env} (hr : r ∈ writes.output_records) :
    ∃ event ∈ timeline.events, r.context = contextOf state.toReplayRunFields event := by
  rw [h.output_records] at hr
  obtain ⟨d, hd, hrd⟩ := List.mem_flatMap.mp hr
  obtain ⟨event, hevent, hdispatched⟩ := dispatched_event h.dispatched hd
  exact ⟨event, List.mem_of_mem_drop (List.mem_of_mem_take hevent), hdispatched.output_context hrd⟩

theorem Prepared.receipt_run_id
    (h : Prepared runtime handlers state max_events timeline ds writes)
    {r : ReplayEventDispatchReceipt env} (hr : r ∈ writes.receipts) :
    r.context.run_id = state.run_id := by
  have hmem : r.context ∈ writes.receipts.map (·.context) := List.mem_map_of_mem hr
  rw [h.contexts] at hmem
  obtain ⟨event, -, hcontext⟩ := List.mem_map.mp hmem
  rw [← hcontext]
  rfl

/-- The run after the step is bound to the same timeline. -/
theorem Prepared.bound_after
    (h : Prepared runtime handlers state max_events timeline ds writes) :
    BoundTo runtime writes.replacement.toReplayRunFields timeline := by
  obtain ⟨last_event, now, hlast, -, hreplacement⟩ := h.replacement
  rw [hreplacement]
  refine ⟨h.bound.stored, h.bound.built, h.bound.plan, h.bound.total, fun _ => ?_,
    h.bound.fingerprint⟩
  change some last_event.event_id = (timeline.events[state.next_event_index +
    stepCount state.toReplayRunFields max_events - 1]?).map (·.event_id)
  rw [(stepEvents_getLast h.bound hlast).2]
  rfl

theorem Prepared.replace (h : Prepared runtime handlers state max_events timeline ds writes)
    (store : InMemoryReplayRunStateStore) (hget : store.get? state.run_id.value = some state) :
    InMemoryReplayRunStateStore.replace store writes.replacement writes.expected_revision =
      .ok (store.put writes.replacement) := by
  obtain ⟨last_event, now, hlast, hnow, hreplacement⟩ := h.replacement
  have hpos := (stepEvents_getLast h.bound hlast).1
  have hlt := (state.running h.running).next_lt
  have hle : stepCount state.toReplayRunFields max_events ≤
      state.total_event_count - state.next_event_index := Nat.min_le_right _ _
  rw [InMemoryReplayRunStateStore.replace_ok]
  refine ⟨state, by rw [h.run_id]; exact hget, h.revision.symm, ?_, rfl⟩
  rw [hreplacement]
  exact stepUpdate_transition h.running hnow (by omega) (by omega)
    (last_event_advances h.bound hlast)

end Prepared

/-! One step of a run. -/

variable (runtime handlers) in
/-- A step is refused and changes nothing, is refused with some of its outputs saved, or saves its
outputs and receipts and replaces the state. -/
theorem stepRun_cases (stores : ReplayStores env) (run_id : String) (max_events : ℤ)
    (now : Option DateTime) :
    (∃ e, runtime.stepRun handlers stores run_id max_events now = (stores, .error e)) ∨
      ∃ state timeline ds writes, stores.run_store.get? run_id = some state ∧
        0 < max_events.toNat ∧
        Prepared runtime handlers state max_events.toNat timeline ds writes ∧
        ((∃ e, runtime.stepRun handlers stores run_id max_events now =
            ({ stores with output_store := (stores.output_store.saveEach writes.output_records).1 },
              .error e)) ∨
          (stores.output_store.saveEach writes.output_records).2 = none ∧
            (stores.receipt_store.saveEach writes.receipts).2 = none ∧
            runtime.stepRun handlers stores run_id max_events now =
              (⟨stores.run_store.put writes.replacement,
                (stores.receipt_store.saveEach writes.receipts).1,
                (stores.output_store.saveEach writes.output_records).1⟩, .ok writes.result)) := by
  rw [stepRun]
  by_cases hmax : max_events ≤ 0
  · rw [if_pos hmax]
    exact .inl ⟨_, rfl⟩
  · rw [if_neg hmax, loadState]
    cases hget : stores.run_store.get? run_id with
    | none => exact .inl ⟨_, rfl⟩
    | some state =>
      dsimp only
      split
      · exact .inl ⟨_, rfl⟩
      · rename_i writes hprepare
        obtain ⟨timeline, ds, hprepared, -⟩ := prepareStep_ok hprepare
        have hkey := KeyedDict.key_of_get? hget
        have hstored : stores.run_store.get? state.run_id.value = some state := by
          rw [hkey]
          exact hget
        rcases writeStep_cases hprepared.distinct (hprepared.replace _ hstored) with h | h
        · exact .inl h
        · exact .inr ⟨state, timeline, ds, writes, rfl, by omega, hprepared, h⟩

/-! Runs of calls. -/

/-- A call of the runtime, with what the clock and the handlers then give. -/
inductive RuntimeCall where
  | create (run_id manifest_id timeline_id timeline_fingerprint_id : String) (now : Option DateTime)
  | start (run_id : String) (now : Option DateTime)
  | step (handlers : ReplayHandlers) (run_id : String) (max_events : ℤ) (now : Option DateTime)
  | pause (run_id : String) (now : Option DateTime)
  | resume (run_id : String) (now : Option DateTime)

/-- The stores after a call, whether it returns or raises. -/
def LocalDeterministicReplayRuntime.after (runtime : LocalDeterministicReplayRuntime env)
    (stores : ReplayStores env) : RuntimeCall → ReplayStores env
  | .create run_id manifest_id timeline_id timeline_fingerprint_id now =>
    (runtime.createRun stores run_id manifest_id timeline_id timeline_fingerprint_id now).1
  | .start run_id now => (runtime.startRun stores run_id now).1
  | .step handlers run_id max_events now =>
    (runtime.stepRun handlers stores run_id max_events now).1
  | .pause run_id now => (runtime.pauseRun stores run_id now).1
  | .resume run_id now => (runtime.resumeRun stores run_id now).1

/-- What the stores hold of a run: one receipt for each of the first `m` events of its timeline,
and outputs of its events. -/
structure RunRecords (runtime : LocalDeterministicReplayRuntime env) (stores : ReplayStores env)
    (state : ReplayRunFields) (timeline : ReplayTimeline) (m : ℕ) : Prop where
  bound : BoundTo runtime state timeline
  live : state.status ≠ .FAILED ∧ state.status ≠ .INVALIDATED
  receipts : Covers stores.receipt_store state timeline m
  outputs : ∀ r ∈ stores.output_store.values, r.context.run_id = state.run_id →
    ∃ event ∈ timeline.events, r.context = contextOf state event

structure StoresHold (runtime : LocalDeterministicReplayRuntime env) (stores : ReplayStores env) :
    Prop where
  runs : ∀ run_id state, stores.run_store.get? run_id = some state →
    ∃ timeline, RunRecords runtime stores state.toReplayRunFields timeline state.next_event_index
  receipts : ∀ r ∈ stores.receipt_store.values,
    stores.run_store.get? r.context.run_id.value ≠ none
  outputs : ∀ r ∈ stores.output_store.values,
    stores.run_store.get? r.context.run_id.value ≠ none

theorem storesHold_empty (runtime : LocalDeterministicReplayRuntime env) :
    StoresHold runtime (ReplayStores.empty env) where
  runs _ _ h := absurd h (by simp [ReplayStores.empty])
  receipts _ h := absurd h List.not_mem_nil
  outputs _ h := absurd h List.not_mem_nil

theorem get?_put_state (store : InMemoryReplayRunStateStore) (state : ReplayRunState) :
    (store.put state).get? state.run_id.value = some state :=
  KeyedDict.get?_put_self store state

/-- A change of one run, that adds records of this run only. -/
theorem StoresHold.update {stores stores' : ReplayStores env} (h : StoresHold runtime stores)
    {replacement : ReplayRunState} (hstore : stores'.run_store = stores.run_store.put replacement)
    (hrecords : ∃ timeline, RunRecords runtime stores' replacement.toReplayRunFields timeline
      replacement.next_event_index)
    (hreceipts : ∀ run_id, run_id ≠ replacement.run_id →
      receiptContexts stores'.receipt_store run_id = receiptContexts stores.receipt_store run_id)
    (houtputs : ∀ r ∈ stores'.output_store.values,
      r ∈ stores.output_store.values ∨ r.context.run_id = replacement.run_id) :
    StoresHold runtime stores' := by
  have hget : ∀ run_id : TrimmedText, stores.run_store.get? run_id.value ≠ none →
      stores'.run_store.get? run_id.value ≠ none := by
    intro run_id hsome
    rw [hstore, KeyedDict.get?_put]
    split
    · simp
    · exact hsome
  constructor
  · intro run_id state hstate
    rw [hstore, KeyedDict.get?_put] at hstate
    split at hstate
    · obtain rfl := Option.some.inj hstate
      exact hrecords
    · rename_i hne
      have hkey := KeyedDict.key_of_get? hstate
      have hother : state.run_id ≠ replacement.run_id := by
        intro heq
        exact hne (by rw [← heq]; exact hkey)
      obtain ⟨timeline, hrun⟩ := h.runs run_id state hstate
      refine ⟨timeline, hrun.bound, hrun.live, ?_, fun r hr hrun_id => ?_⟩
      · rw [Covers, hreceipts _ hother]
        exact hrun.receipts
      · rcases houtputs r hr with hold | hnew
        · exact hrun.outputs r hold hrun_id
        · exact absurd (hrun_id.symm.trans hnew) hother
  · intro r hr
    by_cases hrun : r.context.run_id = replacement.run_id
    · rw [hrun, hstore, get?_put_state]
      simp
    · have hmem : r.context ∈ receiptContexts stores'.receipt_store r.context.run_id :=
        mem_receiptContexts.mpr ⟨rfl, r, hr, rfl⟩
      rw [hreceipts _ hrun] at hmem
      obtain ⟨-, old, hold, hcontext⟩ := mem_receiptContexts.mp hmem
      apply hget
      rw [← hcontext]
      exact h.receipts old hold
  · intro r hr
    rcases houtputs r hr with hold | hnew
    · exact hget _ (h.outputs r hold)
    · rw [hnew, hstore, get?_put_state]
      simp

/-- A change of the times, the status and the revision keeps the records. -/
theorem RunRecords.moved {stores : ReplayStores env} {run_store : InMemoryReplayRunStateStore}
    {state : ReplayRunFields} {timeline : ReplayTimeline} {m : ℕ}
    (h : RunRecords runtime stores state timeline m) (updated_at : DateTime)
    (started_at paused_at completed_at : Option DateTime) {status : ReplayRunStatus} (revision : ℕ)
    (hlive : status ≠ .FAILED ∧ status ≠ .INVALIDATED) :
    RunRecords runtime { stores with run_store }
      { state with updated_at, started_at, paused_at, completed_at, status, revision } timeline m where
  bound := ⟨h.bound.stored, h.bound.built, h.bound.plan, h.bound.total, h.bound.last,
    h.bound.fingerprint⟩
  live := hlive
  receipts := h.receipts
  outputs := h.outputs

theorem StoresHold.create {stores : ReplayStores env} (h : StoresHold runtime stores)
    {state : ReplayRunState} {timeline : ReplayTimeline}
    (hnew : stores.run_store.get? state.run_id.value = none) (hcreated : state.status = .CREATED)
    (hbound : BoundTo runtime state.toReplayRunFields timeline) :
    StoresHold runtime { stores with run_store := stores.run_store.put state } := by
  refine h.update rfl ⟨timeline, hbound, ?_, ?_, ?_⟩ (fun _ _ => rfl) (fun _ hr => .inl hr)
  · rw [hcreated]
    simp
  · -- no record of the run was there before it
    rw [(state.created hcreated).next, Covers, List.take_zero, List.map_nil,
      List.eq_nil_iff_forall_not_mem]
    intro context hmem
    obtain ⟨hrun, r, hr, rfl⟩ := mem_receiptContexts.mp hmem
    exact h.receipts r hr (by rw [hrun]; exact hnew)
  · intro r hr hrun
    exact absurd hnew (by rw [← hrun]; exact h.outputs r hr)

theorem StoresHold.transition {stores : ReplayStores env} (h : StoresHold runtime stores)
    (run_id : String) (required : ReplayRunStatus) (now : Option DateTime)
    {update : ReplayRunState → DateTime → ReplayRunFields}
    (hupdate : ∀ state t, ∃ updated_at started_at paused_at completed_at status revision,
      (status ≠ ReplayRunStatus.FAILED ∧ status ≠ .INVALIDATED) ∧ update state t =
        { state.toReplayRunFields with
          updated_at, started_at, paused_at, completed_at, status, revision }) :
    StoresHold runtime (runtime.transitionRun stores run_id required now update).1 := by
  rcases transitionRun_cases runtime stores run_id required now update with
    ⟨e, he⟩ | ⟨state, t, replacement, result, hget, -, hmoved, hfields⟩
  · rw [he]
    exact h
  · rw [hmoved]
    obtain ⟨timeline, hrun⟩ := h.runs run_id state hget
    obtain ⟨u, st, p, c, status, revision, hlive, heq⟩ := hupdate state t
    refine h.update rfl ⟨timeline, ?_⟩ (fun _ _ => rfl) (fun _ hr => .inl hr)
    rw [hfields, heq]
    exact hrun.moved u st p c revision hlive

theorem receiptContexts_saveEach_other {store : InMemoryReplayEventDispatchReceiptStore env}
    {receipts : List (ReplayEventDispatchReceipt env)} {run_id : TrimmedText}
    (h : ∀ r ∈ receipts, r.context.run_id ≠ run_id) :
    receiptContexts (store.saveEach receipts).1 run_id = receiptContexts store run_id := by
  apply KeyedDict.saveEach_keeps (P := fun d => receiptContexts d run_id = receiptContexts store run_id)
  · intro d r hr hd haccepts
    rw [receiptContexts_put_other haccepts (h r hr), hd]
  · rfl

theorem StoresHold.step {stores : ReplayStores env} (h : StoresHold runtime stores)
    (handlers : ReplayHandlers) (run_id : String) (max_events : ℤ) (now : Option DateTime) :
    StoresHold runtime (runtime.stepRun handlers stores run_id max_events now).1 := by
  rcases stepRun_cases runtime handlers stores run_id max_events now with
    ⟨e, he⟩ | ⟨state, timeline, ds, writes, hget, -, hprepared, hcases⟩
  · rw [he]
    exact h
  obtain ⟨timeline', hrun⟩ := h.runs run_id state hget
  obtain rfl := hprepared.bound.unique hrun.bound
  have houtputs : ∀ r ∈ (stores.output_store.saveEach writes.output_records).1.values,
      r ∈ stores.output_store.values ∨ r.context.run_id = state.run_id := by
    intro r hr
    rcases KeyedDict.saveEach_mem hr with hnew | hold
    · obtain ⟨event, -, hcontext⟩ := hprepared.output_context hnew
      exact .inr (by rw [hcontext]; rfl)
    · exact .inl hold
  have hevents : ∀ r ∈ (stores.output_store.saveEach writes.output_records).1.values,
      r.context.run_id = state.run_id →
        ∃ event ∈ timeline.events, r.context = contextOf state.toReplayRunFields event := by
    intro r hr hrun_id
    rcases KeyedDict.saveEach_mem hr with hnew | hold
    · exact hprepared.output_context hnew
    · exact hrun.outputs r hold hrun_id
  rcases hcases with ⟨e, he⟩ | ⟨-, hsaved, hok⟩
  · -- some outputs are saved, the run stays as it is
    rw [he]
    have hkey := KeyedDict.key_of_get? hget
    have hstored : stores.run_store.put state = stores.run_store := by
      apply KeyedDict.put_of_get?
      rw [hkey]
      exact hget
    refine h.update hstored.symm ⟨timeline, ?_⟩ (fun _ _ => rfl) houtputs
    exact ⟨hrun.bound, hrun.live, hrun.receipts, hevents⟩
  · rw [hok]
    refine h.update rfl ⟨timeline, hprepared.bound_after, ?_, ?_, ?_⟩ ?_ ?_
    · obtain ⟨last_event, t, -, -, hreplacement⟩ := hprepared.replacement
      rw [hreplacement, stepUpdate]
      dsimp only
      split
      · simp
      · simp
    · have hcovers := hrun.receipts.saveEach (le_refl _)
        (by rw [hprepared.contexts, hprepared.count, stepEvents]) hsaved
      rw [hprepared.count, max_eq_right (Nat.le_add_right _ _), ← hprepared.next] at hcovers
      rw [Covers, hprepared.contextOf_eq, hprepared.run_id]
      exact hcovers
    · rw [hprepared.contextOf_eq, hprepared.run_id]
      exact hevents
    · intro id hid
      apply receiptContexts_saveEach_other
      intro r hr hrun_id
      rw [hprepared.run_id] at hid
      exact hid (hrun_id.symm.trans (hprepared.receipt_run_id hr))
    · rw [hprepared.run_id]
      exact houtputs

theorem StoresHold.after {stores : ReplayStores env} (h : StoresHold runtime stores)
    (call : RuntimeCall) : StoresHold runtime (runtime.after stores call) := by
  cases call with
  | create run_id manifest_id timeline_id timeline_fingerprint_id now =>
    rw [LocalDeterministicReplayRuntime.after]
    rcases createRun_cases runtime stores run_id manifest_id timeline_id timeline_fingerprint_id now with
      hsame | ⟨state, timeline, hnew, hid, hcreated, hbound, hstores⟩
    · rw [hsame]
      exact h
    · rw [hstores]
      exact h.create (by rw [hid]; exact hnew) hcreated hbound
  | start run_id now =>
    apply h.transition run_id .CREATED now
    intro state t
    refine ⟨_, _, _, _, _, _, ?_, rfl⟩
    split
    · simp
    · simp
  | step handlers run_id max_events now => exact h.step handlers run_id max_events now
  | pause run_id now =>
    apply h.transition run_id .RUNNING now
    intro state t
    exact ⟨_, _, _, _, _, _, by simp, rfl⟩
  | resume run_id now =>
    apply h.transition run_id .PAUSED now
    intro state t
    exact ⟨_, _, _, _, _, _, by simp, rfl⟩

/-- The stores after any calls. -/
theorem storesHold_run (runtime : LocalDeterministicReplayRuntime env) (calls : List RuntimeCall) :
    StoresHold runtime (run runtime.after (ReplayStores.empty env) calls) := by
  have hstep : ∀ stores call, StoresHold runtime stores →
      StoresHold runtime (runtime.after stores call) := fun _ call h => h.after call
  exact run_keeps hstep (storesHold_empty runtime) calls

end FuturesBot.Replay
