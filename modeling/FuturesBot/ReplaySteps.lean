import FuturesBot.ReplayRuns

/-! What a step makes ready and what it writes. -/
namespace FuturesBot.Replay

open DateTimes Dicts Checks LocalDeterministicReplayRuntime

variable {env : Env} {runtime : LocalDeterministicReplayRuntime env} {handlers : ReplayHandlers}

/-! The events of a step. -/

section Events

variable {state : ReplayRunState} {timeline : ReplayTimeline} {max_events : ℕ}

theorem stepEvents_length (max_events : ℕ) (h : timeline.events.length = state.total_event_count) :
    (stepEvents state.toReplayRunFields timeline max_events).length =
      stepCount state.toReplayRunFields max_events := by
  rw [stepEvents, List.length_take, List.length_drop, h, stepCount]
  omega

theorem stepEvents_indexes :
    (stepEvents state.toReplayRunFields timeline max_events).map (·.order_index) =
      List.range' state.next_event_index
        (stepEvents state.toReplayRunFields timeline max_events).length := by
  apply List.ext_getElem
  · rw [List.length_map, List.length_range']
  · intro i hi hi'
    rw [List.length_map] at hi
    have hget : timeline.events[state.next_event_index + i]? =
        some (stepEvents state.toReplayRunFields timeline max_events)[i] := by
      have hlt := hi
      rw [stepEvents, List.length_take] at hlt
      have hplace : (stepEvents state.toReplayRunFields timeline max_events)[i]? =
          timeline.events[state.next_event_index + i]? := by
        rw [stepEvents, List.getElem?_take_of_lt (by omega), List.getElem?_drop]
      rw [← hplace]
      exact List.getElem?_eq_getElem hi
    rw [List.getElem_map, List.getElem_range', timeline.order_index_eq hget, Nat.one_mul]

theorem stepCount_pos (hmax : 0 < max_events)
    (hremaining : state.next_event_index < state.total_event_count) :
    0 < stepCount state.toReplayRunFields max_events := by
  rw [stepCount]
  omega

/-- The last event of a step stands before the next one of the run. -/
theorem stepEvents_getLast (hbound : BoundTo runtime state.toReplayRunFields timeline)
    {last_event : ReplayTimelineEvent}
    (h : (stepEvents state.toReplayRunFields timeline max_events).getLast? = some last_event) :
    0 < stepCount state.toReplayRunFields max_events ∧
      timeline.events[state.next_event_index + stepCount state.toReplayRunFields max_events - 1]? =
        some last_event := by
  have hlength := stepEvents_length max_events hbound.total
  have hpos : 0 < stepCount state.toReplayRunFields max_events := by
    rw [← hlength]
    exact List.length_pos_of_mem (List.mem_of_mem_getLast? h)
  refine ⟨hpos, ?_⟩
  rw [List.getLast?_eq_getElem?, hlength, stepEvents, List.getElem?_take_of_lt (by omega),
    List.getElem?_drop] at h
  rw [← h]
  congr 1
  omega

/-- The last event of a step is not the one that the run processed last. -/
theorem last_event_advances (hbound : BoundTo runtime state.toReplayRunFields timeline)
    {last_event : ReplayTimelineEvent}
    (h : (stepEvents state.toReplayRunFields timeline max_events).getLast? = some last_event) :
    state.last_processed_event_id ≠ some last_event.event_id := by
  intro hlast
  have hpos : 0 < state.next_event_index := by
    by_contra hzero
    rw [state.facts.last.mpr (by omega)] at hlast
    exact absurd hlast (by simp)
  rw [hbound.last hpos] at hlast
  obtain ⟨event, hevent, hid⟩ := Option.map_eq_some_iff.mp hlast
  -- the two stand at different places of the timeline
  have hmem : last_event ∈ stepEvents state.toReplayRunFields timeline max_events :=
    List.mem_of_mem_getLast? h
  have htimeline : last_event ∈ timeline.events :=
    List.mem_of_mem_drop (List.mem_of_mem_take hmem)
  have hindex : last_event.order_index ∈ List.range' state.next_event_index
      (stepEvents state.toReplayRunFields timeline max_events).length := by
    rw [← stepEvents_indexes]
    exact List.mem_map_of_mem hmem
  obtain rfl : event = last_event :=
    List.inj_on_of_nodup_map timeline.distinct (List.mem_of_getElem? hevent) htimeline hid
  rw [List.mem_range'_1, timeline.order_index_eq hevent] at hindex
  omega

end Events

/-! Dispatching the events of a step. -/

section Dispatching

variable {state : ReplayRunFields} {events : List ReplayTimelineEvent}
  {ds : List (ReplayEventDispatchReceipt env × List (ReplayEventOutputRecord env))}

theorem dispatched_contexts
    (h : List.Forall₂ (Dispatched runtime handlers state) events ds) :
    (ds.map (·.1)).map (·.context) = events.map (contextOf state) := by
  induction h with
  | nil => rfl
  | cons hd _ ih =>
    rw [List.map_cons, List.map_cons, List.map_cons, hd.context, ih]

/-- Events that are dispatched one by one are dispatched as a list. -/
theorem dispatched_list (h : ∀ e ∈ events, ∃ d, Dispatched runtime handlers state e d) :
    ∃ ds, List.Forall₂ (Dispatched runtime handlers state) events ds := by
  induction events with
  | nil => exact ⟨[], List.Forall₂.nil⟩
  | cons e es ih =>
    obtain ⟨d, hd⟩ := h e List.mem_cons_self
    obtain ⟨ds, hds⟩ := ih fun e he => h e (List.mem_cons_of_mem _ he)
    exact ⟨d :: ds, List.Forall₂.cons hd hds⟩

theorem dispatched_of_event (h : List.Forall₂ (Dispatched runtime handlers state) events ds)
    {e : ReplayTimelineEvent} (he : e ∈ events) :
    ∃ d ∈ ds, Dispatched runtime handlers state e d := by
  induction h with
  | nil => exact absurd he List.not_mem_nil
  | cons hd _ ih =>
    rcases List.mem_cons.mp he with rfl | he
    · exact ⟨_, List.mem_cons_self, hd⟩
    · obtain ⟨d, hmem, hdispatched⟩ := ih he
      exact ⟨d, List.mem_cons_of_mem _ hmem, hdispatched⟩

theorem dispatched_event (h : List.Forall₂ (Dispatched runtime handlers state) events ds)
    {d : ReplayEventDispatchReceipt env × List (ReplayEventOutputRecord env)} (hd : d ∈ ds) :
    ∃ e ∈ events, Dispatched runtime handlers state e d := by
  induction h with
  | nil => exact absurd hd List.not_mem_nil
  | cons hfirst _ ih =>
    rcases List.mem_cons.mp hd with rfl | hd
    · exact ⟨_, List.mem_cons_self, hfirst⟩
    · obtain ⟨e, hmem, hdispatched⟩ := ih hd
      exact ⟨e, List.mem_cons_of_mem _ hmem, hdispatched⟩

theorem dispatchEvents_of (h : List.Forall₂ (Dispatched runtime handlers state) events ds) :
    runtime.dispatchEvents handlers state.dispatcher_fingerprint state events =
      .ok (ds.map (·.1), ds.flatMap (·.2)) := by
  have hplans : ∃ plans, runtime.dispatchPlans handlers state events = .ok plans ∧
      dispatchReceipts env state events plans = .ok (ds.map (·.1)) ∧
      checkAll (runtime.validateDispatchBundles state.dispatcher_fingerprint state events plans
        (ds.map (·.1))) = .ok () ∧ plans.flatMap (·.output_records) = ds.flatMap (·.2) := by
    induction h with
    | nil => exact ⟨[], rfl, rfl, rfl, rfl⟩
    | cons hd _ ih =>
      obtain ⟨plan, hplan, hreceipt, hrecords⟩ := hd.dispatched
      obtain ⟨plans, hplans, hreceipts, hbundles, hflat⟩ := ih
      refine ⟨plan :: plans, ?_, ?_, ?_, ?_⟩
      · rw [dispatchPlans, hplan]
        dsimp only
        rw [hplans]
      · rw [dispatchReceipts, hreceipt]
        dsimp only
        rw [hreceipts]
        rfl
      · rw [List.map_cons, validateDispatchBundles, checkAll_append]
        exact ⟨validateDispatchBundle_ok hplan hreceipt, hbundles⟩
      · rw [List.flatMap_cons, List.flatMap_cons, hrecords, hflat]
  obtain ⟨plans, hplans, hreceipts, hbundles, hflat⟩ := hplans
  rw [dispatchEvents, hplans]
  dsimp only
  rw [hreceipts]
  dsimp only
  rw [hbundles, hflat]

end Dispatching

/-! What a step has made ready. -/

/-- A step that is ready to write: what it was made of. -/
structure Prepared (runtime : LocalDeterministicReplayRuntime env) (handlers : ReplayHandlers)
    (state : ReplayRunState) (max_events : ℕ) (timeline : ReplayTimeline)
    (ds : List (ReplayEventDispatchReceipt env × List (ReplayEventOutputRecord env)))
    (writes : StepWrites env) : Prop where
  running : state.status = .RUNNING
  bound : BoundTo runtime state.toReplayRunFields timeline
  dispatched : List.Forall₂ (Dispatched runtime handlers state.toReplayRunFields)
    (stepEvents state.toReplayRunFields timeline max_events) ds
  replacement : ∃ last_event now,
    (stepEvents state.toReplayRunFields timeline max_events).getLast? = some last_event ∧
      state.updated_at ≤ now ∧ writes.replacement.toReplayRunFields = stepUpdate state last_event
        (state.next_event_index + stepCount state.toReplayRunFields max_events) now
  result : writes.result.toReplayRunStepFields = resultFields state.toReplayRunFields
    writes.replacement.toReplayRunFields writes.receipts
  revision : writes.expected_revision = state.revision
  receipts : writes.receipts = ds.map (·.1)
  output_records : writes.output_records = ds.flatMap (·.2)

variable {state : ReplayRunState} {max_events : ℕ} {now : Option DateTime} {writes : StepWrites env}

theorem prepareStep_ok (h : runtime.prepareStep handlers state max_events now = .ok writes) :
    ∃ timeline ds, Prepared runtime handlers state max_events timeline ds writes ∧
      now = some writes.replacement.updated_at := by
  rw [prepareStep] at h
  split at h
  · exact absurd h (by simp)
  · rename_i hrunning
    split at h
    · exact absurd h (by simp)
    · rename_i fingerprint hmatching
      obtain ⟨hfingerprint, rfl⟩ := requireMatchingDispatcher_ok.mp hmatching
      split at h
      · exact absurd h (by simp)
      · rename_i timeline hload
        split at h
        · exact absurd h (by simp)
        · dsimp only at h
          split at h
          · exact absurd h (by simp)
          · rename_i receipts output_records hdispatch
            obtain ⟨ds, hds, hreceipts, hrecords⟩ := dispatchEvents_ok hdispatch
            split at h
            · exact absurd h (by simp)
            · rename_i last_event hlast
              split at h
              · exact absurd h (by simp)
              · rename_i t ht
                split at h
                · exact absurd h (by simp)
                · rename_i replacement hreplacement
                  split at h
                  · exact absurd h (by simp)
                  · rename_i result hresult
                    obtain rfl := Except.ok.inj h
                    obtain ⟨hnow, hle⟩ := requireNonRegressingRuntimeTime_ok.mp ht
                    have hfields := ReplayRunState.of_ok hreplacement
                    refine ⟨timeline, ds, ?_, ?_⟩
                    · exact {
                        running := not_not.mp hrunning
                        bound := BoundTo.of_load hload hfingerprint
                        dispatched := hds
                        replacement := ⟨last_event, t, hlast, hle, hfields⟩
                        result := stepResult_ok hresult
                        revision := rfl
                        receipts := hreceipts
                        output_records := hrecords }
                    · rw [hnow]
                      exact congrArg some (congrArg (·.updated_at) hfields).symm

/-- The events of a running run, once dispatched under receipts of distinct ids, make a step
ready. -/
theorem prepareStep_of {timeline : ReplayTimeline} {t : DateTime}
    {ds : List (ReplayEventDispatchReceipt env × List (ReplayEventOutputRecord env))}
    (hrunning : state.status = .RUNNING) (hbound : BoundTo runtime state.toReplayRunFields timeline)
    (hmax : 0 < max_events)
    (hds : List.Forall₂ (Dispatched runtime handlers state.toReplayRunFields)
      (stepEvents state.toReplayRunFields timeline max_events) ds)
    (hdistinct : ((ds.map (·.1)).map (·.receipt_id)).Nodup) (hnow : state.updated_at ≤ t) :
    ∃ writes, runtime.prepareStep handlers state max_events (some t) = .ok writes := by
  have hremaining := (state.running hrunning).next_lt
  have hlength := stepEvents_length max_events hbound.total
  have hpos := stepCount_pos hmax hremaining
  obtain ⟨last_event, hlast⟩ : ∃ e,
      (stepEvents state.toReplayRunFields timeline max_events).getLast? = some e := by
    apply Option.ne_none_iff_exists'.mp
    rw [ne_eq, List.getLast?_eq_none_iff, ← List.length_eq_zero_iff]
    omega
  have hle : stepCount state.toReplayRunFields max_events ≤
      state.total_event_count - state.next_event_index := Nat.min_le_right _ _
  have hne : stepEvents state.toReplayRunFields timeline max_events ≠ [] := by
    rw [← List.length_pos_iff]
    omega
  have hvalid := stepUpdate_valid last_event
    (state.next_event_index + stepCount state.toReplayRunFields max_events) hrunning hnow
    (by omega) (by omega)
  have hresult := stepUpdate_result t last_event hrunning
    ⟨dispatched_contexts hds, stepEvents_indexes, hdistinct⟩ hne (by omega)
  rw [hlength] at hresult
  have htime : requireNonRegressingRuntimeTime (some t) state = .ok t :=
    requireNonRegressingRuntimeTime_ok.mpr ⟨rfl, hnow⟩
  rw [prepareStep, if_neg (not_not_intro hrunning), htime,
    requireMatchingDispatcher_ok.mpr ⟨hbound.fingerprint, rfl⟩]
  dsimp only
  rw [hbound.load]
  dsimp only
  rw [if_neg (not_le_of_gt hremaining), dispatchEvents_of hds]
  dsimp only
  rw [hlast]
  dsimp only
  rw [ReplayRunState.of_valid hvalid]
  dsimp only
  rw [stepResult_valid _ hresult]
  exact ⟨_, rfl⟩

end FuturesBot.Replay
