import FuturesBot.ReplayRuntime

/-! Each operation of the runtime makes of a valid state a state that passes the model's check, a
transition that the store accepts, and a valid result. -/
namespace FuturesBot.Replay

open DateTimes Dicts Checks LocalDeterministicReplayRuntime

/-! What the check of a state asks. -/

theorem validateOptionalTime_ok {s : ReplayRunFields} {field_name : String}
    {value : Option DateTime} :
    checkAll (s.validateOptionalTime field_name value) = .ok () ↔
      ∀ t ∈ value, s.created_at ≤ t ∧ t ≤ s.updated_at := by
  simp only [ReplayRunFields.validateOptionalTime, checkAll_require, checkAll_nil, and_true]
  constructor
  · exact fun h t ht => ⟨h.1 t ht, h.2 t ht⟩
  · exact fun h => ⟨fun t ht => (h t ht).1, fun t ht => (h t ht).2⟩

structure StateFacts (s : ReplayRunFields) : Prop where
  next_le : s.next_event_index ≤ s.total_event_count
  processed : s.processed_event_count = s.next_event_index
  created_le : s.created_at ≤ s.updated_at
  started : ∀ t ∈ s.started_at, s.created_at ≤ t ∧ t ≤ s.updated_at
  paused : ∀ t ∈ s.paused_at, s.created_at ≤ t ∧ t ≤ s.updated_at
  completed : ∀ t ∈ s.completed_at, s.created_at ≤ t ∧ t ≤ s.updated_at
  started_le_paused : ∀ a ∈ s.started_at, ∀ b ∈ s.paused_at, a ≤ b
  started_le_completed : ∀ a ∈ s.started_at, ∀ b ∈ s.completed_at, a ≤ b
  last : s.last_processed_event_id = none ↔ s.next_event_index = 0
  rules : checkAll s.validateStatusRules = .ok ()

theorem validateState_ok {s : ReplayRunFields} :
    checkAll s.validateState = .ok () ↔ StateFacts s := by
  simp only [ReplayRunFields.validateState, ReplayRunFields.validateTemporalOrder, checkAll_append,
    checkAll_require, checkAll_nil, and_true, validateOptionalTime_ok]
  constructor
  · rintro ⟨⟨⟨⟨h1, h2, h3⟩, ⟨⟨⟨h4, h5⟩, h6⟩, h7⟩, h8, h9⟩, h10, h11⟩, h12⟩
    refine ⟨h1, h3, h4, h5, h6, h7, h8, h9, ⟨fun h => ?_, fun h => h10 (h3.trans h)⟩, h12⟩
    by_contra hne
    exact h11 (by rw [h3]; exact hne) h
  · intro h
    refine ⟨⟨⟨⟨h.next_le, h.processed ▸ h.next_le, h.processed⟩,
      ⟨⟨⟨h.created_le, h.started⟩, h.paused⟩, h.completed⟩, h.started_le_paused,
      h.started_le_completed⟩, fun hz => h.last.mpr (h.processed ▸ hz),
      fun hz hn => hz (h.processed.trans (h.last.mp hn))⟩, h.rules⟩

theorem ReplayRunState.facts (state : ReplayRunState) : StateFacts state.toReplayRunFields :=
  validateState_ok.mp state.valid

/-! What each status asks. -/

structure CreatedFacts (s : ReplayRunFields) : Prop where
  revision : s.revision = 0
  started : s.started_at = none
  paused : s.paused_at = none
  completed : s.completed_at = none
  updated : s.updated_at = s.created_at
  next : s.next_event_index = 0

structure RunningFacts (s : ReplayRunFields) : Prop where
  started : s.started_at ≠ none
  paused : s.paused_at = none
  completed : s.completed_at = none
  next_lt : s.next_event_index < s.total_event_count

structure PausedFacts (s : ReplayRunFields) : Prop where
  started : s.started_at ≠ none
  paused : s.paused_at = some s.updated_at
  completed : s.completed_at = none
  next_lt : s.next_event_index < s.total_event_count

structure CompletedFacts (s : ReplayRunFields) : Prop where
  started : s.started_at ≠ none
  paused : s.paused_at = none
  completed : s.completed_at = some s.updated_at
  next_eq : s.next_event_index = s.total_event_count

theorem created_rules {s : ReplayRunFields} (h : s.status = .CREATED)
    (hprocessed : s.processed_event_count = s.next_event_index) :
    checkAll s.validateStatusRules = .ok () ↔ CreatedFacts s := by
  rw [ReplayRunFields.validateStatusRules, h]
  simp only [checkAll_require, checkAll_nil, and_true, hprocessed]
  constructor
  · rintro ⟨h1, h2, h3, h4, h5, h6, -⟩
    exact ⟨h1, h2, h3, h4, h5, h6⟩
  · intro h
    exact ⟨h.revision, h.started, h.paused, h.completed, h.updated, h.next, h.next⟩

theorem running_rules {s : ReplayRunFields} (h : s.status = .RUNNING)
    (hstarted : ∀ t ∈ s.started_at, s.created_at ≤ t ∧ t ≤ s.updated_at) :
    checkAll s.validateStatusRules = .ok () ↔ RunningFacts s := by
  rw [ReplayRunFields.validateStatusRules, h]
  simp only [checkAll_require, checkAll_nil, and_true]
  constructor
  · rintro ⟨h1, h2, h3, -, h5⟩
    exact ⟨h1, h2, h3, h5⟩
  · intro h
    exact ⟨h.started, h.paused, h.completed, fun t ht => (hstarted t ht).2, h.next_lt⟩

theorem paused_rules {s : ReplayRunFields} (h : s.status = .PAUSED) :
    checkAll s.validateStatusRules = .ok () ↔ PausedFacts s := by
  rw [ReplayRunFields.validateStatusRules, h]
  simp only [checkAll_require, checkAll_nil, and_true]
  constructor
  · rintro ⟨h1, -, h3, h4, h5⟩
    exact ⟨h1, h4, h3, h5⟩
  · intro h
    exact ⟨h.started, by rw [h.paused]; simp, h.completed, h.paused, h.next_lt⟩

theorem completed_rules {s : ReplayRunFields} (h : s.status = .COMPLETED)
    (hprocessed : s.processed_event_count = s.next_event_index) :
    checkAll s.validateStatusRules = .ok () ↔ CompletedFacts s := by
  rw [ReplayRunFields.validateStatusRules, h]
  simp only [checkAll_require, checkAll_nil, and_true, hprocessed]
  constructor
  · rintro ⟨h1, -, h3, h4, h5, -⟩
    exact ⟨h1, h3, h4, h5⟩
  · intro h
    exact ⟨h.started, by rw [h.completed]; simp, h.paused, h.completed, h.next_eq, h.next_eq⟩

theorem ReplayRunState.created (state : ReplayRunState) (h : state.status = .CREATED) :
    CreatedFacts state.toReplayRunFields :=
  (created_rules h state.facts.processed).mp state.facts.rules

theorem ReplayRunState.running (state : ReplayRunState) (h : state.status = .RUNNING) :
    RunningFacts state.toReplayRunFields :=
  (running_rules h state.facts.started).mp state.facts.rules

theorem ReplayRunState.paused (state : ReplayRunState) (h : state.status = .PAUSED) :
    PausedFacts state.toReplayRunFields := (paused_rules h).mp state.facts.rules

theorem ReplayRunState.completed (state : ReplayRunState) (h : state.status = .COMPLETED) :
    CompletedFacts state.toReplayRunFields :=
  (completed_rules h state.facts.processed).mp state.facts.rules

/-! The updates of the operations. -/

section Updates

variable {state : ReplayRunState} {now : DateTime}

theorem startUpdate_valid (h : state.status = .CREATED) (hnow : state.updated_at ≤ now) :
    checkAll (startUpdate state now).validateState = .ok () := by
  have hf := state.facts
  have hc := state.created h
  have hcreated : state.created_at ≤ now := le_trans hf.created_le hnow
  have htime : ∀ t ∈ some now, state.created_at ≤ t ∧ t ≤ now := by
    rintro t ⟨⟩
    exact ⟨hcreated, le_refl _⟩
  rw [validateState_ok]
  by_cases hz : state.total_event_count = 0
  · refine ⟨hf.next_le, hf.processed, hcreated, htime, ?_, ?_, ?_, ?_, hf.last, ?_⟩
    · simp [startUpdate, hc.paused]
    · simpa [startUpdate, hz] using hcreated
    · simp [startUpdate, hc.paused]
    · simp [startUpdate, hz]
    · apply (completed_rules (s := startUpdate state now) (by simp [startUpdate, hz])
        hf.processed).mpr
      exact ⟨by simp [startUpdate], hc.paused, by simp [startUpdate, hz], by
        change state.next_event_index = state.total_event_count
        rw [hc.next, hz]⟩
  · refine ⟨hf.next_le, hf.processed, hcreated, htime, ?_, ?_, ?_, ?_, hf.last, ?_⟩
    · simp [startUpdate, hc.paused]
    · simp [startUpdate, hz]
    · simp [startUpdate, hc.paused]
    · simp [startUpdate, hz]
    · apply (running_rules (s := startUpdate state now) (by simp [startUpdate, hz]) htime).mpr
      exact ⟨by simp [startUpdate], hc.paused, by simp [startUpdate, hz], by
        change state.next_event_index < state.total_event_count
        rw [hc.next]
        exact Nat.pos_of_ne_zero hz⟩

theorem pauseUpdate_valid (h : state.status = .RUNNING) (hnow : state.updated_at ≤ now) :
    checkAll (pauseUpdate state now).validateState = .ok () := by
  have hf := state.facts
  have hr := state.running h
  have hcreated : state.created_at ≤ now := le_trans hf.created_le hnow
  rw [validateState_ok]
  refine ⟨hf.next_le, hf.processed, hcreated, ?_, ?_, ?_, ?_, ?_, hf.last, ?_⟩
  · intro t ht
    exact ⟨(hf.started t ht).1, le_trans (hf.started t ht).2 hnow⟩
  · rintro t ⟨⟩
    exact ⟨hcreated, le_refl _⟩
  · simp [pauseUpdate, hr.completed]
  · rintro a ha b ⟨⟩
    exact le_trans (hf.started a ha).2 hnow
  · simp [pauseUpdate, hr.completed]
  · apply (paused_rules (s := pauseUpdate state now) rfl).mpr
    exact ⟨hr.started, rfl, hr.completed, hr.next_lt⟩

theorem resumeUpdate_valid (h : state.status = .PAUSED) (hnow : state.updated_at ≤ now) :
    checkAll (resumeUpdate state now).validateState = .ok () := by
  have hf := state.facts
  have hp := state.paused h
  have hstarted : ∀ t ∈ state.started_at, state.created_at ≤ t ∧ t ≤ now := by
    intro t ht
    exact ⟨(hf.started t ht).1, le_trans (hf.started t ht).2 hnow⟩
  rw [validateState_ok]
  refine ⟨hf.next_le, hf.processed, le_trans hf.created_le hnow, hstarted, ?_, ?_, ?_, ?_, hf.last,
    ?_⟩
  · simp [resumeUpdate]
  · simp [resumeUpdate, hp.completed]
  · simp [resumeUpdate]
  · simp [resumeUpdate, hp.completed]
  · apply (running_rules (s := resumeUpdate state now) rfl hstarted).mpr
    exact ⟨hp.started, rfl, hp.completed, hp.next_lt⟩

/-- A step by some of the remaining events. -/
theorem stepUpdate_valid (event : ReplayTimelineEvent) (next : ℕ) (h : state.status = .RUNNING)
    (hnow : state.updated_at ≤ now) (hlt : state.next_event_index < next)
    (hle : next ≤ state.total_event_count) :
    checkAll (stepUpdate state event next now).validateState = .ok () := by
  have hf := state.facts
  have hr := state.running h
  have hcreated : state.created_at ≤ now := le_trans hf.created_le hnow
  have hstarted : ∀ t ∈ state.started_at, state.created_at ≤ t ∧ t ≤ now := by
    intro t ht
    exact ⟨(hf.started t ht).1, le_trans (hf.started t ht).2 hnow⟩
  rw [validateState_ok]
  refine ⟨hle, rfl, hcreated, hstarted, ?_, ?_, ?_, ?_, ?_, ?_⟩
  · simp [stepUpdate, hr.paused]
  · intro t ht
    simp only [stepUpdate, decide_eq_true_eq, Option.mem_def] at ht
    split_ifs at ht
    obtain rfl := Option.some.inj ht
    exact ⟨hcreated, le_refl _⟩
  · simp [stepUpdate, hr.paused]
  · intro a ha b hb
    simp only [stepUpdate, decide_eq_true_eq, Option.mem_def] at hb
    split_ifs at hb
    obtain rfl := Option.some.inj hb
    exact (hstarted a ha).2
  · simp only [stepUpdate, reduceCtorEq, false_iff]
    omega
  · by_cases hz : next = state.total_event_count
    · apply (completed_rules (s := stepUpdate state event next now) (by simp [stepUpdate, hz])
        rfl).mpr
      exact ⟨hr.started, hr.paused, by simp [stepUpdate, hz], hz⟩
    · apply (running_rules (s := stepUpdate state event next now) (by simp [stepUpdate, hz])
        hstarted).mpr
      refine ⟨hr.started, hr.paused, by simp [stepUpdate, hz], ?_⟩
      change next < state.total_event_count
      omega

/-! The transitions. -/

theorem startUpdate_transition (h : state.status = .CREATED) (hnow : state.updated_at ≤ now) :
    checkAll (validateTransition state.toReplayRunFields (startUpdate state now)) = .ok () := by
  have hc := state.created h
  simp only [validateTransition, identityUnchanged, checkAll_append, checkAll_require,
    checkAll_nil, and_true]
  refine ⟨⟨⟨⟨⟨rfl, rfl, rfl, rfl, rfl, rfl, rfl, rfl, rfl, hnow⟩, ?_⟩, ?_⟩, ?_⟩, ?_⟩
  · rw [validateStatusTransition, h]
    by_cases hz : state.total_event_count = 0
    · simp [startUpdate, hz, noProgressChange]
    · simp [startUpdate, hz, noProgressChange, Nat.pos_of_ne_zero hz]
  · rw [validateStartedAt, hc.started]
    by_cases hz : state.total_event_count = 0
    · simp [startUpdate, hz]
    · simp [startUpdate, hz]
  · rw [validateCompletedAt, hc.completed]
    by_cases hz : state.total_event_count = 0
    · simp [startUpdate, hz]
    · simp [startUpdate, hz]
  · rw [validatePausedAt, h]
    simp [startUpdate, hc.paused]

theorem pauseUpdate_transition (h : state.status = .RUNNING) (hnow : state.updated_at ≤ now) :
    checkAll (validateTransition state.toReplayRunFields (pauseUpdate state now)) = .ok () := by
  have hr := state.running h
  obtain ⟨t, ht⟩ := Option.ne_none_iff_exists'.mp hr.started
  simp only [validateTransition, identityUnchanged, checkAll_append, checkAll_require,
    checkAll_nil, and_true]
  refine ⟨⟨⟨⟨⟨rfl, rfl, rfl, rfl, rfl, rfl, rfl, rfl, rfl, hnow⟩, ?_⟩, ?_⟩, ?_⟩, ?_⟩
  · rw [validateStatusTransition, h]
    simp [pauseUpdate, noProgressChange]
  · rw [validateStartedAt, ht]
    simp [pauseUpdate, ht]
  · rw [validateCompletedAt, hr.completed]
    simp [pauseUpdate, hr.completed]
  · rw [validatePausedAt, h]
    simp [pauseUpdate]

theorem resumeUpdate_transition (h : state.status = .PAUSED) (hnow : state.updated_at ≤ now) :
    checkAll (validateTransition state.toReplayRunFields (resumeUpdate state now)) = .ok () := by
  have hp := state.paused h
  obtain ⟨t, ht⟩ := Option.ne_none_iff_exists'.mp hp.started
  simp only [validateTransition, identityUnchanged, checkAll_append, checkAll_require,
    checkAll_nil, and_true]
  refine ⟨⟨⟨⟨⟨rfl, rfl, rfl, rfl, rfl, rfl, rfl, rfl, rfl, hnow⟩, ?_⟩, ?_⟩, ?_⟩, ?_⟩
  · rw [validateStatusTransition, h]
    simp [resumeUpdate, noProgressChange]
  · rw [validateStartedAt, ht]
    simp [resumeUpdate, ht]
  · rw [validateCompletedAt, hp.completed]
    simp [resumeUpdate, hp.completed]
  · rw [validatePausedAt, h]
    simp [resumeUpdate]

theorem stepUpdate_transition {event : ReplayTimelineEvent} {next : ℕ}
    (h : state.status = .RUNNING) (hnow : state.updated_at ≤ now)
    (hlt : state.next_event_index < next) (hle : next ≤ state.total_event_count)
    (hlast : state.last_processed_event_id ≠ some event.event_id) :
    checkAll (validateTransition state.toReplayRunFields (stepUpdate state event next now)) =
      .ok () := by
  have hr := state.running h
  have hf := state.facts
  obtain ⟨t, ht⟩ := Option.ne_none_iff_exists'.mp hr.started
  simp only [validateTransition, identityUnchanged, checkAll_append, checkAll_require,
    checkAll_nil, and_true]
  refine ⟨⟨⟨⟨⟨rfl, rfl, rfl, rfl, rfl, rfl, rfl, rfl, rfl, hnow⟩, ?_⟩, ?_⟩, ?_⟩, ?_⟩
  · rw [validateStatusTransition, h]
    by_cases hz : next = state.total_event_count
    · simp [stepUpdate, hz, positiveProgress, hf.processed, hlast.symm, hr.next_lt, Nat.add_comm]
    · have hlt' : next < state.total_event_count := by omega
      simp [stepUpdate, hz, positiveProgress, hf.processed, hlast.symm, hlt, hlt', Nat.add_comm]
  · rw [validateStartedAt, ht]
    simp [stepUpdate, ht]
  · rw [validateCompletedAt, hr.completed]
    by_cases hz : next = state.total_event_count
    · simp [stepUpdate, hz]
    · simp [stepUpdate, hz]
  · rw [validatePausedAt, h]
    by_cases hz : next = state.total_event_count
    · simp [stepUpdate, hz, hr.paused]
    · simp [stepUpdate, hz, hr.paused]

/-! The results. -/

variable {env : Env}

theorem startUpdate_result (h : state.status = .CREATED) :
    checkAll (resultFields state.toReplayRunFields (startUpdate state now)
      ([] : List (ReplayEventDispatchReceipt env))).validateResult = .ok () := by
  have hf := state.facts
  have hc := state.created h
  simp only [ReplayRunStepFields.validateResult, checkAll_append]
  refine ⟨⟨⟨?_, ?_⟩, ?_⟩, ?_⟩
  · simp [ReplayRunStepFields.validateCounts, resultFields, startUpdate, hf.processed, hc.next]
  · simp [ReplayRunStepFields.validateReceipts, ReplayRunStepFields.progressDelta, resultFields,
      startUpdate]
  · by_cases hz : state.total_event_count = 0
    · simp [ReplayRunStepFields.validateStepTransition, ReplayRunStepFields.validateHistory,
        ReplayRunStepFields.validateNoProgress, ReplayRunStepFields.progressDelta, resultFields,
        startUpdate, hz, h, hf.processed, hc.next, hc.revision]
    · simp [ReplayRunStepFields.validateStepTransition, ReplayRunStepFields.validateHistory,
        ReplayRunStepFields.validateNoProgress, ReplayRunStepFields.progressDelta, resultFields,
        startUpdate, hz, h, hf.processed, hc.next, hc.revision, Nat.pos_of_ne_zero hz]
  · by_cases hz : state.total_event_count = 0
    · simp [ReplayRunStepFields.validateCompletion, resultFields, startUpdate, hz, hf.processed,
        hc.next]
    · simp [ReplayRunStepFields.validateCompletion, resultFields, startUpdate, hz, hc.next,
        Nat.pos_of_ne_zero hz]

theorem pauseUpdate_result (h : state.status = .RUNNING) :
    checkAll (resultFields state.toReplayRunFields (pauseUpdate state now)
      ([] : List (ReplayEventDispatchReceipt env))).validateResult = .ok () := by
  have hf := state.facts
  have hr := state.running h
  simp [ReplayRunStepFields.validateResult, ReplayRunStepFields.validateCounts,
    ReplayRunStepFields.validateReceipts, ReplayRunStepFields.progressDelta,
    ReplayRunStepFields.validateStepTransition, ReplayRunStepFields.validateHistory,
    ReplayRunStepFields.validateNoProgress, ReplayRunStepFields.validateCompletion, resultFields,
    pauseUpdate, h, hf.processed, hf.next_le, hr.next_lt]

theorem resumeUpdate_result (h : state.status = .PAUSED) :
    checkAll (resultFields state.toReplayRunFields (resumeUpdate state now)
      ([] : List (ReplayEventDispatchReceipt env))).validateResult = .ok () := by
  have hf := state.facts
  have hp := state.paused h
  simp [ReplayRunStepFields.validateResult, ReplayRunStepFields.validateCounts,
    ReplayRunStepFields.validateReceipts, ReplayRunStepFields.progressDelta,
    ReplayRunStepFields.validateStepTransition, ReplayRunStepFields.validateHistory,
    ReplayRunStepFields.validateNoProgress, ReplayRunStepFields.validateCompletion, resultFields,
    resumeUpdate, h, hf.processed, hf.next_le, hp.next_lt]

/-- The receipts of a step, one for each of its events. -/
structure ReceiptsOf (state : ReplayRunFields) (events : List ReplayTimelineEvent)
    (receipts : List (ReplayEventDispatchReceipt env)) : Prop where
  contexts : receipts.map (·.context) = events.map (contextOf state)
  indexes : events.map (·.order_index) = List.range' state.next_event_index events.length
  distinct : (receipts.map (·.receipt_id)).Nodup

variable (now) in
theorem stepUpdate_result (event : ReplayTimelineEvent) {events : List ReplayTimelineEvent}
    {receipts : List (ReplayEventDispatchReceipt env)} (h : state.status = .RUNNING)
    (hreceipts : ReceiptsOf state.toReplayRunFields events receipts) (hne : events ≠ [])
    (hle : state.next_event_index + events.length ≤ state.total_event_count) :
    checkAll (resultFields state.toReplayRunFields
      (stepUpdate state event (state.next_event_index + events.length) now)
      receipts).validateResult = .ok () := by
  have hf := state.facts
  have hr := state.running h
  have hpos := List.length_pos_iff.mpr hne
  have hlen : receipts.length = events.length := by
    have := congrArg List.length hreceipts.contexts
    rwa [List.length_map, List.length_map] at this
  have hindexes : receipts.map (·.context.event_order_index) =
      List.range' state.next_event_index events.length := by
    rw [← hreceipts.indexes]
    have := congrArg (List.map (·.event_order_index)) hreceipts.contexts
    rwa [List.map_map, List.map_map] at this
  have hcontext : ∀ receipt ∈ receipts, ∃ e, receipt.context = contextOf state.toReplayRunFields e := by
    intro receipt hmem
    have hmap : receipt.context ∈ receipts.map (·.context) := List.mem_map_of_mem hmem
    rw [hreceipts.contexts] at hmap
    obtain ⟨e, -, he⟩ := List.mem_map.mp hmap
    exact ⟨e, he.symm⟩
  have hrne : receipts ≠ [] := by
    rw [← List.length_pos_iff, hlen]
    exact hpos
  simp only [ReplayRunStepFields.validateResult, checkAll_append]
  refine ⟨⟨⟨?_, ?_⟩, ?_⟩, ?_⟩
  · simp [ReplayRunStepFields.validateCounts, resultFields, stepUpdate, hf.processed, hf.next_le,
      hle]
  · simp only [ReplayRunStepFields.validateReceipts, checkAll_require, checkAll_nil, and_true]
    simp only [ReplayRunStepFields.progressDelta, resultFields, stepUpdate,
      Nat.add_sub_cancel_left]
    refine ⟨hlen.symm, hindexes, hreceipts.distinct, fun receipt hmem => ?_,
      fun first hfirst receipt hmem => ?_⟩
    · obtain ⟨e, he⟩ := hcontext receipt hmem
      rw [he]
      rfl
    · obtain ⟨e, he⟩ := hcontext receipt hmem
      obtain ⟨e', he'⟩ := hcontext first (List.mem_of_mem_head? hfirst)
      rw [he, he']
      rfl
  · by_cases hz : state.next_event_index + events.length = state.total_event_count
    · simp [ReplayRunStepFields.validateStepTransition, ReplayRunStepFields.validateHistory,
        ReplayRunStepFields.validateProgress, ReplayRunStepFields.progressDelta, resultFields,
        stepUpdate, hz, h, hf.processed, hr.next_lt, hrne]
    · simp [ReplayRunStepFields.validateStepTransition, ReplayRunStepFields.validateHistory,
        ReplayRunStepFields.validateProgress, ReplayRunStepFields.progressDelta, resultFields,
        stepUpdate, hz, h, hf.processed, hr.next_lt, hrne, hpos]
  · by_cases hz : state.next_event_index + events.length = state.total_event_count
    · simp [ReplayRunStepFields.validateCompletion, resultFields, stepUpdate, hz]
    · have hlt : state.next_event_index + events.length < state.total_event_count := by omega
      simp [ReplayRunStepFields.validateCompletion, resultFields, stepUpdate, hz, hlt]

end Updates

end FuturesBot.Replay
