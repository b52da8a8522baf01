import FuturesBot.ReplayPlanning

/-! Every operation that its own precondition admits replaces the state of the run by a valid one
and returns a valid result. -/
namespace FuturesBot.Replay

open DateTimes TextLines Dicts Checks StepRuns LocalDeterministicReplayRuntime

variable {env : Env} {runtime : LocalDeterministicReplayRuntime env} {stores : ReplayStores env}
  {run_id : String} {state : ReplayRunState}

/-! Starting, pausing and resuming. -/

/-- The outcome of an operation that takes the state of a run to its update. -/
def Moves (stores : ReplayStores env) (state : ReplayRunState) (update : ReplayRunFields)
    (outcome : ReplayStores env × Except ReplayError (ReplayRunStepResult env)) : Prop :=
  ∃ (replacement : ReplayRunState) (result : ReplayRunStepResult env),
    outcome = ({ stores with run_store := stores.run_store.put replacement }, .ok result) ∧
      replacement.toReplayRunFields = update ∧
      result.toReplayRunStepFields = resultFields state.toReplayRunFields update []

theorem transitionRun_of {required : ReplayRunStatus} {now : DateTime}
    {update : ReplayRunState → DateTime → ReplayRunFields}
    (hget : stores.run_store.get? run_id = some state)
    (hfingerprint : state.dispatcher_fingerprint = runtime.dispatcher.dispatcher_fingerprint)
    (hstatus : state.status = required) (hnow : state.updated_at ≤ now)
    (hrun : (update state now).run_id = state.run_id)
    (hvalid : checkAll (update state now).validateState = .ok ())
    (htransition :
      checkAll (validateTransition state.toReplayRunFields (update state now)) = .ok ())
    (hresult : checkAll (resultFields state.toReplayRunFields (update state now)
      ([] : List (ReplayEventDispatchReceipt env))).validateResult = .ok ()) :
    Moves stores state (update state now)
      (runtime.transitionRun stores run_id required (some now) update) := by
  have hkey := KeyedDict.key_of_get? hget
  have htime : requireNonRegressingRuntimeTime (some now) state = .ok now :=
    requireNonRegressingRuntimeTime_ok.mpr ⟨rfl, hnow⟩
  have hreplace : InMemoryReplayRunStateStore.replace stores.run_store
      ⟨update state now, hvalid⟩ state.revision =
        .ok (stores.run_store.put ⟨update state now, hvalid⟩) := by
    rw [InMemoryReplayRunStateStore.replace_ok]
    refine ⟨state, ?_, rfl, htransition, rfl⟩
    change stores.run_store.get? (update state now).run_id.value = some state
    rw [hrun, hkey]
    exact hget
  refine ⟨⟨update state now, hvalid⟩, ⟨_, hresult⟩, ?_, rfl, rfl⟩
  rw [transitionRun, loadState, hget]
  dsimp only
  rw [if_neg (not_not_intro hstatus), htime,
    requireMatchingDispatcher_ok.mpr ⟨hfingerprint, rfl⟩]
  dsimp only
  rw [replaceState, ReplayRunState.of_valid hvalid]
  dsimp only
  rw [stepResult_valid ⟨update state now, hvalid⟩ hresult]
  dsimp only
  rw [hreplace]

/-! Stepping. -/

section Stepping

variable {handlers : ReplayHandlers} {timeline : ReplayTimeline} {max_events : ℤ}

/-- A step whose records the stores accept succeeds. -/
theorem stepRun_of {now : Option DateTime}
    {ds : List (ReplayEventDispatchReceipt env × List (ReplayEventOutputRecord env))}
    {writes : StepWrites env} (hget : stores.run_store.get? run_id = some state)
    (hmax : 0 < max_events)
    (hprepare : runtime.prepareStep handlers state max_events.toNat now = .ok writes)
    (hprepared : Prepared runtime handlers state max_events.toNat timeline ds writes)
    (hreceipts : ∀ r ∈ writes.receipts, stores.receipt_store.Accepts r)
    (houtputs : ∀ r ∈ writes.output_records, stores.output_store.Accepts r)
    (hagree : ∀ r ∈ writes.output_records, ∀ w ∈ writes.output_records,
      r.output_record_id = w.output_record_id → r = w) :
    (stores.output_store.saveEach writes.output_records).2 = none ∧
      (stores.receipt_store.saveEach writes.receipts).2 = none ∧
      runtime.stepRun handlers stores run_id max_events now =
        (⟨stores.run_store.put writes.replacement,
          (stores.receipt_store.saveEach writes.receipts).1,
          (stores.output_store.saveEach writes.output_records).1⟩, .ok writes.result) := by
  have hsaved : (stores.receipt_store.saveEach writes.receipts).2 = none := by
    apply KeyedDict.saveEach_ok hreceipts
    intro a ha b hb
    exact List.inj_on_of_nodup_map hprepared.distinct ha hb
  have hsaved' : (stores.output_store.saveEach writes.output_records).2 = none :=
    KeyedDict.saveEach_ok houtputs hagree
  have hchecks : checkAll (preflight stores writes) = .ok () :=
    preflight_ok.mpr ⟨hreceipts, houtputs⟩
  have hkey := KeyedDict.key_of_get? hget
  have hreplace := hprepared.replace stores.run_store (by rw [hkey]; exact hget)
  refine ⟨hsaved', hsaved, ?_⟩
  rw [stepRun, if_neg (not_le_of_gt hmax), loadState, hget]
  dsimp only
  rw [hprepare]
  dsimp only
  rw [writeStep, hchecks]
  dsimp only
  rw [saveOutputs_eq, hsaved']
  dsimp only
  rw [saveReceipts_eq]
  dsimp only
  rw [hsaved]
  dsimp only
  rw [hreplace]

/-- The texts of the ids that a step compares: those of the stored records, and those of the
records of its events. -/
inductive HashedText (runtime : LocalDeterministicReplayRuntime env) (handlers : ReplayHandlers)
    (stores : ReplayStores env) (state : ReplayRunFields) (events : List ReplayTimelineEvent) :
    Bytes → Prop where
  | storedReceipt {r} (h : r ∈ stores.receipt_store.values) :
    HashedText runtime handlers stores state events (receiptText r.context)
  | storedOutput {r} (h : r ∈ stores.output_store.values) :
    HashedText runtime handlers stores state events (outputText r.toReplayOutputFields)
  | storedPayload {r} (h : r ∈ stores.output_store.values) :
    HashedText runtime handlers stores state events (payloadText r.toReplayOutputFields)
  | receipt {event} (h : event ∈ events) :
    HashedText runtime handlers stores state events (receiptText (contextOf state event))
  | output {event records r} (h : event ∈ events)
    (hrecords : eventRecords runtime handlers state event = .ok records) (hr : r ∈ records) :
    HashedText runtime handlers stores state events (outputText r.toReplayOutputFields)
  | payload {event records r} (h : event ∈ events)
    (hrecords : eventRecords runtime handlers state event = .ok records) (hr : r ∈ records) :
    HashedText runtime handlers stores state events (payloadText r.toReplayOutputFields)

/-- The digests of a step do not collide. -/
def NoCollision (runtime : LocalDeterministicReplayRuntime env) (handlers : ReplayHandlers)
    (stores : ReplayStores env) (state : ReplayRunFields) (events : List ReplayTimelineEvent) :
    Prop :=
  Set.InjOn env.sha256 {text | HashedText runtime handlers stores state events text}

variable {events : List ReplayTimelineEvent}

theorem contextOf_injOn {s : ReplayRunFields} {a b : ReplayTimelineEvent}
    (ha : a ∈ timeline.events) (hb : b ∈ timeline.events)
    (h : (contextOf s a).event_order_index = (contextOf s b).event_order_index) : a = b := by
  have hindex : a.order_index = b.order_index := h
  have hget := timeline.getElem?_of_mem ha
  rw [hindex, timeline.getElem?_of_mem hb] at hget
  exact (Option.some.inj hget).symm

/-- Events whose handlers answer are dispatched, under receipts of distinct ids. -/
theorem NoCollision.dispatched {s : ReplayRunFields}
    (h : NoCollision runtime handlers stores s events)
    (hevents : ∀ e ∈ events, e ∈ timeline.events) (hdistinct : events.Nodup)
    (hfingerprint : s.dispatcher_fingerprint = runtime.dispatcher.dispatcher_fingerprint)
    (hanswers : ∀ e ∈ events, Answers env handlers (contextOf s e) e
      (runtime.dispatcher.selectedDescriptorsFor e.kind)) :
    ∃ ds, List.Forall₂ (Dispatched runtime handlers s) events ds ∧
      ((ds.map (·.1)).map (·.receipt_id)).Nodup := by
  have hevent : ∀ e ∈ events, ∃ d, Dispatched runtime handlers s e d := by
    intro e he
    obtain ⟨records, hrecords⟩ := (hanswers e he).collect
    have hids : (records.map (·.output_record_id)).Nodup := by
      have hnodup : records.Nodup :=
        (eventRecords_ordered hrecords).imp fun hlt heq => absurd hlt (by rw [heq]; exact lt_irrefl _)
      apply hnodup.map_on
      intro r hr w hw
      apply output_eq_of_id h (HashedText.output he hrecords hr) (HashedText.output he hrecords hw)
        (HashedText.payload he hrecords hr) (HashedText.payload he hrecords hw)
      intro _ _
      rw [(collectRecords_context hrecords hr).1, (collectRecords_context hrecords hw).1]
    obtain ⟨receipt, hd⟩ := dispatched_of hfingerprint hrecords hids
    exact ⟨_, hd⟩
  obtain ⟨ds, hds⟩ := dispatched_list hevent
  refine ⟨ds, hds, ?_⟩
  -- the ids are the digests of the texts of distinct events
  have hids : (ds.map (·.1)).map (·.receipt_id) =
      events.map fun e => env.sha256 (receiptText (contextOf s e)) := by
    calc (ds.map (·.1)).map (·.receipt_id)
        = ((ds.map (·.1)).map (·.context)).map fun c => env.sha256 (receiptText c) := by
          rw [List.map_map (l := ds.map (·.1))]
          exact List.map_congr_left fun r _ => r.receipt_id_text
      _ = (events.map (contextOf s)).map fun c => env.sha256 (receiptText c) := by
          rw [dispatched_contexts hds]
      _ = events.map fun e => env.sha256 (receiptText (contextOf s e)) := by
          rw [List.map_map]
          rfl
  rw [hids]
  apply hdistinct.map_on
  intro a ha b hb hsha
  have htext := h (HashedText.receipt ha) (HashedText.receipt hb) hsha
  exact contextOf_injOn (hevents a ha) (hevents b hb) (receiptText_injective htext).2.1

theorem Dispatched.records {s : ReplayRunFields} {event : ReplayTimelineEvent}
    {d : ReplayEventDispatchReceipt env × List (ReplayEventOutputRecord env)}
    (h : Dispatched runtime handlers s event d) :
    eventRecords runtime handlers s event = .ok d.2 := by
  obtain ⟨plan, hplan, -, hrecords⟩ := h.dispatched
  rw [← hrecords]
  exact (planDispatch_ok hplan).2.2

theorem Prepared.output_record {n : ℕ}
    {ds : List (ReplayEventDispatchReceipt env × List (ReplayEventOutputRecord env))}
    {writes : StepWrites env} (h : Prepared runtime handlers state n timeline ds writes)
    {r : ReplayEventOutputRecord env} (hr : r ∈ writes.output_records) :
    ∃ e ∈ stepEvents state.toReplayRunFields timeline n, ∃ records,
      eventRecords runtime handlers state.toReplayRunFields e = .ok records ∧ r ∈ records := by
  rw [h.output_records] at hr
  obtain ⟨d, hd, hrd⟩ := List.mem_flatMap.mp hr
  obtain ⟨e, he, hdispatched⟩ := dispatched_event h.dispatched hd
  exact ⟨e, he, d.2, hdispatched.records, hrd⟩

/-- The receipts of a step are of events that have none. -/
theorem RunRecords.accepts_receipt {n : ℕ}
    {ds : List (ReplayEventDispatchReceipt env × List (ReplayEventOutputRecord env))}
    {writes : StepWrites env}
    (h : RunRecords runtime stores state.toReplayRunFields timeline state.next_event_index)
    (hprepared : Prepared runtime handlers state n timeline ds writes)
    (hcollision : NoCollision runtime handlers stores state.toReplayRunFields
      (stepEvents state.toReplayRunFields timeline n))
    {r : ReplayEventDispatchReceipt env} (hr : r ∈ writes.receipts) :
    stores.receipt_store.Accepts r := by
  intro w hget
  have hw := KeyedDict.mem_values_of_get? hget
  have hid := KeyedDict.key_of_get? hget
  have hmem : r.context ∈ writes.receipts.map (·.context) := List.mem_map_of_mem hr
  rw [hprepared.contexts] at hmem
  obtain ⟨e, he, hcontext⟩ := List.mem_map.mp hmem
  have htext : receiptText w.context = receiptText r.context := by
    apply hcollision (HashedText.storedReceipt hw)
    · rw [← hcontext]
      exact HashedText.receipt he
    · rw [← w.receipt_id_text, ← r.receipt_id_text]
      exact hid
  obtain ⟨hrun, hindex, -⟩ := receiptText_injective htext
  obtain ⟨e', he', hcontext'⟩ := h.receipts.mem hw (hrun.trans (hprepared.receipt_run_id hr))
  rw [← hcontext, hcontext'] at hindex
  -- a stored receipt is of an event before the next one
  have hsame : e'.order_index = e.order_index := hindex
  have hlt : e'.order_index < state.next_event_index := by
    obtain ⟨j, hj⟩ := List.mem_iff_getElem?.mp he'
    have hj' := (List.getElem?_eq_some_iff.mp hj).1
    rw [List.length_take] at hj'
    rw [List.getElem?_take_of_lt (by omega)] at hj
    rw [timeline.order_index_eq hj]
    omega
  have hge : e.order_index ∈ List.range' state.next_event_index
      (stepEvents state.toReplayRunFields timeline n).length := by
    rw [← stepEvents_indexes]
    exact List.mem_map_of_mem he
  rw [List.mem_range'_1] at hge
  omega

theorem RunRecords.accepts_output {n : ℕ}
    {ds : List (ReplayEventDispatchReceipt env × List (ReplayEventOutputRecord env))}
    {writes : StepWrites env}
    (h : RunRecords runtime stores state.toReplayRunFields timeline state.next_event_index)
    (hprepared : Prepared runtime handlers state n timeline ds writes)
    (hcollision : NoCollision runtime handlers stores state.toReplayRunFields
      (stepEvents state.toReplayRunFields timeline n))
    {r : ReplayEventOutputRecord env} (hr : r ∈ writes.output_records) :
    stores.output_store.Accepts r := by
  intro w hget
  have hw := KeyedDict.mem_values_of_get? hget
  have hid := KeyedDict.key_of_get? hget
  obtain ⟨e, he, records, hrecords, hmem⟩ := hprepared.output_record hr
  have hcontext : r.context = contextOf state.toReplayRunFields e :=
    (collectRecords_context hrecords hmem).1
  apply output_eq_of_id hcollision (HashedText.storedOutput hw)
    (HashedText.output he hrecords hmem) (HashedText.storedPayload hw)
    (HashedText.payload he hrecords hmem) ?_ hid
  intro hrun hindex
  have hrun' : w.context.run_id = state.run_id := by
    rw [hrun, hcontext]
    rfl
  obtain ⟨e', he', hcontext'⟩ := h.outputs w hw hrun'
  rw [hcontext, hcontext'] at hindex ⊢
  rw [contextOf_injOn he' (List.mem_of_mem_drop (List.mem_of_mem_take he)) hindex]

/-- A step of a running run, in stores that only the runtime has written. -/
theorem StoresHold.step_ok (h : StoresHold runtime stores)
    (hget : stores.run_store.get? run_id = some state) (hrunning : state.status = .RUNNING)
    (hbound : BoundTo runtime state.toReplayRunFields timeline) (hmax : 0 < max_events)
    {now : DateTime} (hnow : state.updated_at ≤ now)
    (hanswers : ∀ e ∈ stepEvents state.toReplayRunFields timeline max_events.toNat,
      Answers env handlers (contextOf state.toReplayRunFields e) e
        (runtime.dispatcher.selectedDescriptorsFor e.kind))
    (hcollision : NoCollision runtime handlers stores state.toReplayRunFields
      (stepEvents state.toReplayRunFields timeline max_events.toNat)) :
    ∃ ds writes, Prepared runtime handlers state max_events.toNat timeline ds writes ∧
      writes.replacement.updated_at = now ∧
      runtime.stepRun handlers stores run_id max_events (some now) =
        (⟨stores.run_store.put writes.replacement,
          (stores.receipt_store.saveEach writes.receipts).1,
          (stores.output_store.saveEach writes.output_records).1⟩, .ok writes.result) := by
  obtain ⟨timeline', hrun⟩ := h.runs run_id state hget
  obtain rfl := hbound.unique hrun.bound
  have hevents : ∀ e ∈ stepEvents state.toReplayRunFields timeline max_events.toNat,
      e ∈ timeline.events := fun e he => List.mem_of_mem_drop (List.mem_of_mem_take he)
  have hdistinct : (stepEvents state.toReplayRunFields timeline max_events.toNat).Nodup := by
    apply List.Nodup.of_map (·.order_index)
    rw [stepEvents_indexes]
    exact List.nodup_range'
  obtain ⟨ds, hds, hids⟩ :=
    hcollision.dispatched hevents hdistinct hbound.fingerprint hanswers
  obtain ⟨writes, hprepare⟩ := prepareStep_of hrunning hbound (by omega) hds hids hnow
  obtain ⟨timeline', ds', hprepared, htime⟩ := prepareStep_ok hprepare
  obtain rfl := hbound.unique hprepared.bound
  refine ⟨ds', writes, hprepared, (Option.some.inj htime).symm, (stepRun_of hget hmax hprepare hprepared
    (fun r hr => hrun.accepts_receipt hprepared hcollision hr)
    (fun r hr => hrun.accepts_output hprepared hcollision hr) ?_).2.2⟩
  intro r hr w hw
  obtain ⟨e, he, records, hrecords, hmem⟩ := hprepared.output_record hr
  obtain ⟨e', he', records', hrecords', hmem'⟩ := hprepared.output_record hw
  apply output_eq_of_id hcollision (HashedText.output he hrecords hmem)
    (HashedText.output he' hrecords' hmem') (HashedText.payload he hrecords hmem)
    (HashedText.payload he' hrecords' hmem')
  intro _ hindex
  rw [(collectRecords_context hrecords hmem).1, (collectRecords_context hrecords' hmem').1]
    at hindex ⊢
  rw [contextOf_injOn (hevents e he) (hevents e' he') hindex]

end Stepping

end FuturesBot.Replay
