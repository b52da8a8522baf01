import FuturesBot.ReplayStateMachine

/-! With pure handlers the size of the steps does not matter: what the stores hold in the end is
told by the events alone. -/
namespace FuturesBot.Replay

open DateTimes Dicts KeySorting Checks StepRuns LocalDeterministicReplayRuntime

variable {env : Env} {runtime : LocalDeterministicReplayRuntime env} {handlers : ReplayHandlers}

/-- A step with the handlers, a pause or a resumption of the run. -/
def OnRun (handlers : ReplayHandlers) (run_id : String) : RuntimeCall → Prop
  | .create .. => False
  | .start .. => False
  | .step step_handlers step_run_id _ _ => step_handlers = handlers ∧ step_run_id = run_id
  | .pause pause_run_id _ => pause_run_id = run_id
  | .resume resume_run_id _ => resume_run_id = run_id

/-- What the operations after the start of a run leave as it is. -/
structure SameRun (a b : ReplayRunFields) : Prop where
  run_id : a.run_id = b.run_id
  manifest_id : a.manifest_id = b.manifest_id
  replay_plan_id : a.replay_plan_id = b.replay_plan_id
  timeline_id : a.timeline_id = b.timeline_id
  timeline_fingerprint_id : a.timeline_fingerprint_id = b.timeline_fingerprint_id
  dispatcher_fingerprint : a.dispatcher_fingerprint = b.dispatcher_fingerprint
  created_at : a.created_at = b.created_at
  started_at : a.started_at = b.started_at
  total_event_count : a.total_event_count = b.total_event_count

theorem SameRun.refl (s : ReplayRunFields) : SameRun s s :=
  ⟨rfl, rfl, rfl, rfl, rfl, rfl, rfl, rfl, rfl⟩

theorem SameRun.symm {a b : ReplayRunFields} (h : SameRun a b) : SameRun b a :=
  ⟨h.run_id.symm, h.manifest_id.symm, h.replay_plan_id.symm, h.timeline_id.symm,
    h.timeline_fingerprint_id.symm, h.dispatcher_fingerprint.symm, h.created_at.symm,
    h.started_at.symm, h.total_event_count.symm⟩

theorem SameRun.contextOf_eq {a b : ReplayRunFields} (h : SameRun a b) :
    contextOf a = contextOf b := by
  funext event
  simp only [contextOf, ReplayDispatchContext.mk.injEq, and_true]
  exact ⟨h.run_id, h.manifest_id, h.replay_plan_id, h.timeline_id, h.timeline_fingerprint_id,
    h.dispatcher_fingerprint⟩

/-- The run after some operations: it has dispatched the events from `origin` on, and what it has
added to the stores are records of such events. -/
structure Progress (runtime : LocalDeterministicReplayRuntime env) (handlers : ReplayHandlers)
    (timeline : ReplayTimeline) (origin : ReplayRunState) (stores₀ stores : ReplayStores env)
    (state : ReplayRunState) : Prop where
  same : SameRun origin.toReplayRunFields state.toReplayRunFields
  receipts_kept : stores₀.receipt_store.Grows stores.receipt_store
  outputs_kept : stores₀.output_store.Grows stores.output_store
  dispatched : ∀ e ∈ timeline.events, origin.next_event_index ≤ e.order_index →
    e.order_index < state.next_event_index → ∃ d,
      Dispatched runtime handlers origin.toReplayRunFields e d ∧
        d.1 ∈ stores.receipt_store.values ∧ ∀ r ∈ d.2, r ∈ stores.output_store.values
  receipts : ∀ r ∈ stores.receipt_store.values, r ∈ stores₀.receipt_store.values ∨
    ∃ e ∈ timeline.events, origin.next_event_index ≤ e.order_index ∧ ∃ d,
      Dispatched runtime handlers origin.toReplayRunFields e d ∧ r = d.1
  outputs : ∀ r ∈ stores.output_store.values, r ∈ stores₀.output_store.values ∨
    ∃ e ∈ timeline.events, origin.next_event_index ≤ e.order_index ∧ ∃ d,
      Dispatched runtime handlers origin.toReplayRunFields e d ∧ r ∈ d.2

variable {timeline : ReplayTimeline} {origin state : ReplayRunState}
  {stores₀ stores : ReplayStores env}

theorem Progress.refl (runtime : LocalDeterministicReplayRuntime env) (handlers : ReplayHandlers)
    (timeline : ReplayTimeline) (origin : ReplayRunState) (stores : ReplayStores env) :
    Progress runtime handlers timeline origin stores stores origin where
  same := SameRun.refl _
  receipts_kept := KeyedDict.Grows.refl _
  outputs_kept := KeyedDict.Grows.refl _
  dispatched _ _ hle hlt := absurd hlt (Nat.not_lt.mpr hle)
  receipts _ hr := .inl hr
  outputs _ hr := .inl hr

/-- The events of a step, told by their places. -/
theorem mem_stepEvents {n : ℕ} {e : ReplayTimelineEvent} :
    e ∈ stepEvents state.toReplayRunFields timeline n ↔ e ∈ timeline.events ∧
      state.next_event_index ≤ e.order_index ∧
        e.order_index < state.next_event_index + stepCount state.toReplayRunFields n := by
  rw [stepEvents]
  constructor
  · intro h
    have hmem : e ∈ timeline.events := List.mem_of_mem_drop (List.mem_of_mem_take h)
    obtain ⟨i, hi⟩ := List.mem_iff_getElem?.mp h
    have hlt := (List.getElem?_eq_some_iff.mp hi).1
    rw [List.length_take] at hlt
    rw [List.getElem?_take_of_lt (by omega), List.getElem?_drop] at hi
    rw [timeline.order_index_eq hi]
    exact ⟨hmem, by omega, by omega⟩
  · rintro ⟨hmem, hle, hlt⟩
    apply List.mem_iff_getElem?.mpr
    refine ⟨e.order_index - state.next_event_index, ?_⟩
    rw [List.getElem?_take_of_lt (by omega), List.getElem?_drop, Nat.add_sub_cancel' hle]
    exact timeline.getElem?_of_mem hmem

section Step

variable {n : ℕ}
  {ds : List (ReplayEventDispatchReceipt env × List (ReplayEventOutputRecord env))}
  {writes : StepWrites env}

/-- The outputs that a step saves, up to one that is refused. -/
theorem Progress.save_outputs (h : Progress runtime handlers timeline origin stores₀ stores state)
    (horigin : origin.next_event_index ≤ state.next_event_index)
    (hprepared : Prepared runtime handlers state n timeline ds writes) :
    Progress runtime handlers timeline origin stores₀
      { stores with output_store := (stores.output_store.saveEach writes.output_records).1 }
      state where
  same := h.same
  receipts_kept := h.receipts_kept
  outputs_kept := h.outputs_kept.trans (KeyedDict.saveEach_grows _ _)
  dispatched e he hle hlt := by
    obtain ⟨d, hd, hreceipt, houtputs⟩ := h.dispatched e he hle hlt
    exact ⟨d, hd, hreceipt, fun r hr => KeyedDict.saveEach_grows _ _ r (houtputs r hr)⟩
  receipts := h.receipts
  outputs r hr := by
    rcases KeyedDict.saveEach_mem hr with hnew | hold
    · rw [hprepared.output_records] at hnew
      obtain ⟨d, hd, hrd⟩ := List.mem_flatMap.mp hnew
      obtain ⟨e, he, hdispatched⟩ := dispatched_event hprepared.dispatched hd
      obtain ⟨hmem, hle, -⟩ := mem_stepEvents.mp he
      exact .inr ⟨e, hmem, horigin.trans hle, d,
        hdispatched.of_context (congrFun h.same.contextOf_eq.symm e), hrd⟩
    · exact h.outputs r hold

theorem Prepared.same (h : Prepared runtime handlers state n timeline ds writes) :
    SameRun state.toReplayRunFields writes.replacement.toReplayRunFields := by
  obtain ⟨last_event, now, -, -, hreplacement⟩ := h.replacement
  rw [hreplacement]
  exact ⟨rfl, rfl, rfl, rfl, rfl, rfl, rfl, rfl, rfl⟩

theorem SameRun.trans {a b c : ReplayRunFields} (h : SameRun a b) (h' : SameRun b c) :
    SameRun a c where
  run_id := h.run_id.trans h'.run_id
  manifest_id := h.manifest_id.trans h'.manifest_id
  replay_plan_id := h.replay_plan_id.trans h'.replay_plan_id
  timeline_id := h.timeline_id.trans h'.timeline_id
  timeline_fingerprint_id := h.timeline_fingerprint_id.trans h'.timeline_fingerprint_id
  dispatcher_fingerprint := h.dispatcher_fingerprint.trans h'.dispatcher_fingerprint
  created_at := h.created_at.trans h'.created_at
  started_at := h.started_at.trans h'.started_at
  total_event_count := h.total_event_count.trans h'.total_event_count

/-- A whole step. -/
theorem Progress.step (h : Progress runtime handlers timeline origin stores₀ stores state)
    (horigin : origin.next_event_index ≤ state.next_event_index)
    (hprepared : Prepared runtime handlers state n timeline ds writes)
    (houtputs : (stores.output_store.saveEach writes.output_records).2 = none)
    (hreceipts : (stores.receipt_store.saveEach writes.receipts).2 = none) :
    Progress runtime handlers timeline origin stores₀
      ⟨stores.run_store.put writes.replacement,
        (stores.receipt_store.saveEach writes.receipts).1,
        (stores.output_store.saveEach writes.output_records).1⟩ writes.replacement := by
  have hsaved := h.save_outputs horigin hprepared
  refine ⟨h.same.trans hprepared.same, h.receipts_kept.trans (KeyedDict.saveEach_grows _ _),
    hsaved.outputs_kept, fun e he hle hlt => ?_, fun r hr => ?_, hsaved.outputs⟩
  · by_cases hbefore : e.order_index < state.next_event_index
    · obtain ⟨d, hd, hreceipt, houts⟩ := hsaved.dispatched e he hle hbefore
      exact ⟨d, hd, KeyedDict.saveEach_grows _ _ _ hreceipt, houts⟩
    · -- an event of this step
      rw [hprepared.next] at hlt
      obtain ⟨d, hd, hdispatched⟩ :=
        dispatched_of_event hprepared.dispatched (mem_stepEvents.mpr ⟨he, by omega, hlt⟩)
      refine ⟨d, hdispatched.of_context (congrFun h.same.contextOf_eq.symm e), ?_, fun r hr => ?_⟩
      · apply KeyedDict.saveEach_saved hreceipts
        rw [hprepared.receipts]
        exact List.mem_map_of_mem hd
      · apply KeyedDict.saveEach_saved houtputs
        rw [hprepared.output_records]
        exact List.mem_flatMap.mpr ⟨d, hd, hr⟩
  · rcases KeyedDict.saveEach_mem hr with hnew | hold
    · rw [hprepared.receipts] at hnew
      obtain ⟨d, hd, rfl⟩ := List.mem_map.mp hnew
      obtain ⟨e, he, hdispatched⟩ := dispatched_event hprepared.dispatched hd
      obtain ⟨hmem, hle, -⟩ := mem_stepEvents.mp he
      exact .inr ⟨e, hmem, horigin.trans hle, d,
        hdispatched.of_context (congrFun h.same.contextOf_eq.symm e), rfl⟩
    · exact h.receipts r hold

end Step

/-! Runs of operations on one run. -/

/-- What the operations on the run have reached. -/
def Reached (runtime : LocalDeterministicReplayRuntime env) (handlers : ReplayHandlers)
    (timeline : ReplayTimeline) (origin : ReplayRunState) (stores₀ : ReplayStores env)
    (run_id : String) (stores : ReplayStores env) : Prop :=
  ∃ state, stores.run_store.get? run_id = some state ∧
    BoundTo runtime state.toReplayRunFields timeline ∧
    origin.next_event_index ≤ state.next_event_index ∧
    Progress runtime handlers timeline origin stores₀ stores state

variable {run_id : String}

theorem Reached.move (h : Reached runtime handlers timeline origin stores₀ run_id stores)
    {required : ReplayRunStatus} {now : Option DateTime}
    {update : ReplayRunState → DateTime → ReplayRunFields}
    (hsame : ∀ s t, SameRun s.toReplayRunFields (update s t))
    (hnext : ∀ s t, (update s t).next_event_index = s.next_event_index)
    (hlast : ∀ s t, (update s t).last_processed_event_id = s.last_processed_event_id) :
    Reached runtime handlers timeline origin stores₀ run_id
      (runtime.transitionRun stores run_id required now update).1 := by
  obtain ⟨state, hget, hbound, horigin, hprogress⟩ := h
  rcases transitionRun_cases runtime stores run_id required now update with
    ⟨e, he⟩ | ⟨s, t, replacement, result, hget', -, hok, hfields⟩
  · rw [he]
    exact ⟨state, hget, hbound, horigin, hprogress⟩
  · obtain rfl := Option.some.inj (hget.symm.trans hget')
    have hreplaced := hsame state t
    have hkey := KeyedDict.key_of_get? hget
    have hnext' : replacement.next_event_index = state.next_event_index := by
      rw [hfields, hnext]
    rw [← hfields] at hreplaced
    rw [hok]
    refine ⟨replacement, ?_, ?_, by rw [hnext']; exact horigin, ?_⟩
    · rw [KeyedDict.get?_put, if_pos]
      rw [← hreplaced.run_id]
      exact hkey
    · refine ⟨?_, hbound.built, ?_, ?_, ?_, ?_⟩
      · rw [← hreplaced.timeline_id]
        exact hbound.stored
      · rw [← hreplaced.replay_plan_id]
        exact hbound.plan
      · rw [← hreplaced.total_event_count]
        exact hbound.total
      · rw [hnext', hfields, hlast]
        exact hbound.last
      · rw [← hreplaced.dispatcher_fingerprint]
        exact hbound.fingerprint
    · refine ⟨hprogress.same.trans hreplaced, hprogress.receipts_kept, hprogress.outputs_kept,
        ?_, hprogress.receipts, hprogress.outputs⟩
      rw [hnext']
      exact hprogress.dispatched

theorem Reached.step (h : Reached runtime handlers timeline origin stores₀ run_id stores)
    (max_events : ℤ) (now : Option DateTime) :
    Reached runtime handlers timeline origin stores₀ run_id
      (runtime.stepRun handlers stores run_id max_events now).1 := by
  obtain ⟨state, hget, hbound, horigin, hprogress⟩ := h
  rcases stepRun_cases runtime handlers stores run_id max_events now
    with ⟨e, he⟩ | ⟨s, timeline', ds, writes, hget', -, hprepared, hcases⟩
  · rw [he]
    exact ⟨state, hget, hbound, horigin, hprogress⟩
  · obtain rfl := Option.some.inj (hget.symm.trans hget')
    obtain rfl := hbound.unique hprepared.bound
    rcases hcases with ⟨e, he⟩ | ⟨houtputs, hreceipts, hok⟩
    · rw [he]
      exact ⟨state, hget, hbound, horigin, hprogress.save_outputs horigin hprepared⟩
    · have hkey := KeyedDict.key_of_get? hget
      rw [hok]
      refine ⟨writes.replacement, ?_, hprepared.bound_after, ?_,
        hprogress.step horigin hprepared houtputs hreceipts⟩
      · rw [KeyedDict.get?_put, if_pos]
        rw [hprepared.run_id]
        exact hkey
      · rw [hprepared.next]
        omega

theorem Reached.after (h : Reached runtime handlers timeline origin stores₀ run_id stores)
    {call : RuntimeCall} (hcall : OnRun handlers run_id call) :
    Reached runtime handlers timeline origin stores₀ run_id (runtime.after stores call) := by
  cases call with
  | create _ _ _ _ _ => exact hcall.elim
  | start _ _ => exact hcall.elim
  | step step_handlers step_run_id max_events now =>
    obtain ⟨rfl, rfl⟩ := hcall
    exact h.step max_events now
  | pause pause_run_id now =>
    obtain rfl := hcall
    exact h.move (fun _ _ => ⟨rfl, rfl, rfl, rfl, rfl, rfl, rfl, rfl, rfl⟩) (fun _ _ => rfl)
      fun _ _ => rfl
  | resume resume_run_id now =>
    obtain rfl := hcall
    exact h.move (fun _ _ => ⟨rfl, rfl, rfl, rfl, rfl, rfl, rfl, rfl, rfl⟩) (fun _ _ => rfl)
      fun _ _ => rfl

theorem Reached.run (h : Reached runtime handlers timeline origin stores₀ run_id stores)
    {calls : List RuntimeCall} (hcalls : ∀ call ∈ calls, OnRun handlers run_id call) :
    Reached runtime handlers timeline origin stores₀ run_id
      (StepRuns.run runtime.after stores calls) := by
  induction calls generalizing stores with
  | nil => exact h
  | cons call calls ih =>
    rw [run_cons]
    exact ih (h.after (hcalls call List.mem_cons_self)) fun c hc => hcalls c (List.mem_cons_of_mem _ hc)

/-! Two ways to the end. -/

/-- The records of a way that has dispatched every event are among those of another. -/
theorem Progress.records_sub {stores' : ReplayStores env} {state' : ReplayRunState}
    (h : Progress runtime handlers timeline origin stores₀ stores state)
    (h' : Progress runtime handlers timeline origin stores₀ stores' state')
    (hend : timeline.events.length ≤ state'.next_event_index) :
    (∀ r ∈ stores.receipt_store.values, r ∈ stores'.receipt_store.values) ∧
      ∀ r ∈ stores.output_store.values, r ∈ stores'.output_store.values := by
  have hplace : ∀ e ∈ timeline.events, e.order_index < state'.next_event_index := by
    intro e he
    have hlt := (List.getElem?_eq_some_iff.mp (timeline.getElem?_of_mem he)).1
    omega
  constructor
  · intro r hr
    rcases h.receipts r hr with hold | ⟨e, he, hle, d, hd, rfl⟩
    · exact h'.receipts_kept r hold
    · obtain ⟨d', hd', hreceipt, -⟩ := h'.dispatched e he hle (hplace e he)
      rw [hd.unique hd']
      exact hreceipt
  · intro r hr
    rcases h.outputs r hr with hold | ⟨e, he, hle, d, hd, hrd⟩
    · exact h'.outputs_kept r hold
    · obtain ⟨d', hd', -, houtputs⟩ := h'.dispatched e he hle (hplace e he)
      rw [hd.unique hd'] at hrd
      exact houtputs r hrd

/-- A run that was started and has no events left is completed. -/
theorem StoresHold.completed (h : StoresHold runtime stores)
    (hget : stores.run_store.get? run_id = some state) (hpos : 0 < state.next_event_index)
    (hend : state.next_event_index = state.total_event_count) : state.status = .COMPLETED := by
  obtain ⟨timeline, hrecords⟩ := h.runs run_id state hget
  cases hstatus : state.status with
  | CREATED =>
    have hzero := (state.created hstatus).next
    omega
  | RUNNING =>
    have hlt := (state.running hstatus).next_lt
    omega
  | PAUSED =>
    have hlt := (state.paused hstatus).next_lt
    omega
  | COMPLETED => rfl
  | FAILED => exact absurd hstatus hrecords.live.1
  | INVALIDATED => exact absurd hstatus hrecords.live.2

/-- Two completed states of a run differ in their times and revisions only. -/
theorem SameRun.completed {a b : ReplayRunState}
    (h : SameRun a.toReplayRunFields b.toReplayRunFields) (ha : a.status = .COMPLETED)
    (hb : b.status = .COMPLETED) (hbound : BoundTo runtime a.toReplayRunFields timeline)
    (hbound' : BoundTo runtime b.toReplayRunFields timeline) (hpos : 0 < a.next_event_index) :
    a.toReplayRunFields = { b.toReplayRunFields with
      updated_at := a.updated_at
      completed_at := a.completed_at
      revision := a.revision } := by
  have hnext : a.next_event_index = b.next_event_index := by
    rw [(a.completed ha).next_eq, (b.completed hb).next_eq, h.total_event_count]
  have hprocessed : a.processed_event_count = b.processed_event_count := by
    rw [a.facts.processed, b.facts.processed, hnext]
  have hpaused : a.paused_at = b.paused_at := by
    rw [(a.completed ha).paused, (b.completed hb).paused]
  have hlast : a.last_processed_event_id = b.last_processed_event_id := by
    rw [hbound.last hpos, hbound'.last (hnext ▸ hpos), hnext]
  have hstatus : a.status = b.status := ha.trans hb.symm
  have hfields : ∀ s t : ReplayRunFields, SameRun s t → s.status = t.status →
      s.next_event_index = t.next_event_index →
      s.processed_event_count = t.processed_event_count → s.paused_at = t.paused_at →
      s.last_processed_event_id = t.last_processed_event_id →
      s = { t with
        updated_at := s.updated_at
        completed_at := s.completed_at
        revision := s.revision } := by
    rintro ⟨⟩ ⟨⟩ hs h1 h2 h3 h4 h5
    simp only [ReplayRunFields.mk.injEq, true_and]
    exact ⟨hs.run_id, hs.manifest_id, hs.replay_plan_id, hs.timeline_id,
      hs.timeline_fingerprint_id, hs.dispatcher_fingerprint, hs.created_at, hs.started_at, h4, h1,
      hs.total_event_count, h2, h3, h5⟩
  exact hfields _ _ h hstatus hnext hprocessed hpaused hlast

theorem receiptOrderKey_injective {a b : ReplayEventDispatchReceipt env}
    (h : receiptOrderKey a = receiptOrderKey b) : a.receipt_id = b.receipt_id := by
  have hkey := toLex.injective h
  exact HexDigest.ext (congrArg Prod.snd hkey)

theorem outputRecordRunOrderKey_injective {a b : ReplayEventOutputRecord env}
    (h : outputRecordRunOrderKey a = outputRecordRunOrderKey b) :
    a.output_record_id = b.output_record_id := by
  have hcontext := congrArg Prod.snd (toLex.injective h)
  have hhandler := congrArg Prod.snd (toLex.injective hcontext)
  have hversion := congrArg Prod.snd (toLex.injective hhandler)
  exact HexDigest.ext (congrArg Prod.snd (toLex.injective hversion))

theorem dispatched_distinct {n : ℕ}
    {ds : List (ReplayEventDispatchReceipt env × List (ReplayEventOutputRecord env))}
    (h : List.Forall₂ (Dispatched runtime handlers state.toReplayRunFields)
      (stepEvents state.toReplayRunFields timeline n) ds) : (ds.map (·.1)).Nodup := by
  have hindexes : ((ds.map (·.1)).map (·.context)).map (·.event_order_index) =
      (stepEvents state.toReplayRunFields timeline n).map (·.order_index) := by
    rw [dispatched_contexts h, List.map_map]
    rfl
  have hnodup : (((ds.map (·.1)).map (·.context)).map (·.event_order_index)).Nodup := by
    rw [hindexes, stepEvents_indexes]
    exact List.nodup_range'
  exact (hnodup.of_map _).of_map _

/-- From where the events that remain have all been dispatched, one step does as much. -/
theorem Reached.one_step {final : ReplayRunState}
    (hget : stores₀.run_store.get? run_id = some origin) (hrunning : origin.status = .RUNNING)
    (hbound : BoundTo runtime origin.toReplayRunFields timeline)
    (hprogress : Progress runtime handlers timeline origin stores₀ stores final)
    (hend : timeline.events.length ≤ final.next_event_index) {max_events : ℤ} {now : DateTime}
    (hmax : (origin.total_event_count : ℤ) ≤ origin.next_event_index + max_events)
    (hnow : origin.updated_at ≤ now) :
    ∃ (writes : StepWrites env) (single : ReplayStores env),
      runtime.stepRun handlers stores₀ run_id max_events (some now) =
        (single, .ok writes.result) ∧
      single.run_store.get? run_id = some writes.replacement ∧
      BoundTo runtime writes.replacement.toReplayRunFields timeline ∧
      writes.replacement.next_event_index = origin.total_event_count ∧
      Progress runtime handlers timeline origin stores₀ single writes.replacement := by
  have hremaining := (origin.running hrunning).next_lt
  -- each event of the step has been dispatched, and its records saved
  have hevents : ∀ e ∈ stepEvents origin.toReplayRunFields timeline max_events.toNat, ∃ d,
      Dispatched runtime handlers origin.toReplayRunFields e d ∧
        d.1 ∈ stores.receipt_store.values ∧ ∀ r ∈ d.2, r ∈ stores.output_store.values := by
    intro e he
    obtain ⟨hmem, hle, -⟩ := mem_stepEvents.mp he
    have hlt := (List.getElem?_eq_some_iff.mp (timeline.getElem?_of_mem hmem)).1
    exact hprogress.dispatched e hmem hle (by omega)
  obtain ⟨ds, hds⟩ := dispatched_list fun e he => (hevents e he).imp fun _ hd => hd.1
  have hsaved : ∀ {ds'}, List.Forall₂ (Dispatched runtime handlers origin.toReplayRunFields)
      (stepEvents origin.toReplayRunFields timeline max_events.toNat) ds' → ∀ d ∈ ds',
        d.1 ∈ stores.receipt_store.values ∧ ∀ r ∈ d.2, r ∈ stores.output_store.values := by
    intro ds' hds' d hd
    obtain ⟨e, he, hdispatched⟩ := dispatched_event hds' hd
    obtain ⟨d', hd', hrecords⟩ := hevents e he
    rw [hdispatched.unique hd']
    exact hrecords
  have hids : ((ds.map (·.1)).map (·.receipt_id)).Nodup := by
    apply (dispatched_distinct hds).map_on
    intro a ha b hb
    obtain ⟨d, hd, rfl⟩ := List.mem_map.mp ha
    obtain ⟨d', hd', rfl⟩ := List.mem_map.mp hb
    exact KeyedDict.eq_of_key (hsaved hds d hd).1 (hsaved hds d' hd').1
  have hpos : 0 < max_events := by omega
  obtain ⟨writes, hprepare⟩ := prepareStep_of hrunning hbound (by omega) hds hids hnow
  obtain ⟨timeline', ds', hprepared, -⟩ := prepareStep_ok hprepare
  obtain rfl := hbound.unique hprepared.bound
  have houtput : ∀ r ∈ writes.output_records, r ∈ stores.output_store.values := by
    intro r hr
    rw [hprepared.output_records] at hr
    obtain ⟨d, hd, hrd⟩ := List.mem_flatMap.mp hr
    exact (hsaved hprepared.dispatched d hd).2 r hrd
  have hreceipt : ∀ r ∈ writes.receipts, r ∈ stores.receipt_store.values := by
    intro r hr
    rw [hprepared.receipts] at hr
    obtain ⟨d, hd, rfl⟩ := List.mem_map.mp hr
    exact (hsaved hprepared.dispatched d hd).1
  obtain ⟨houtputs, hreceipts, hok⟩ := stepRun_of hget hpos hprepare hprepared
    (fun r hr => hprogress.receipts_kept.accepts (hreceipt r hr))
    (fun r hr => hprogress.outputs_kept.accepts (houtput r hr))
    (fun r hr w hw => KeyedDict.eq_of_key (houtput r hr) (houtput w hw))
  refine ⟨writes, _, hok, ?_, hprepared.bound_after, ?_,
    (Progress.refl runtime handlers timeline origin stores₀).step (le_refl _) hprepared houtputs
      hreceipts⟩
  · have hkey := KeyedDict.key_of_get? hget
    rw [KeyedDict.get?_put, if_pos]
    rw [hprepared.run_id]
    exact hkey
  · rw [hprepared.next, stepCount]
    omega

/-- What two ways to process the events of a run have in common. -/
structure SameOutcome (run_id : String) (a b : ReplayStores env) : Prop where
  receipts : InMemoryReplayEventDispatchReceiptStore.listForRun a.receipt_store run_id =
    InMemoryReplayEventDispatchReceiptStore.listForRun b.receipt_store run_id
  outputs : InMemoryReplayEventOutputRecordStore.listForRun a.output_store run_id =
    InMemoryReplayEventOutputRecordStore.listForRun b.output_store run_id
  state : ∃ s t : ReplayRunState, a.run_store.get? run_id = some s ∧
    b.run_store.get? run_id = some t ∧ s.toReplayRunFields = { t.toReplayRunFields with
      updated_at := s.updated_at
      completed_at := s.completed_at
      revision := s.revision }

theorem StoresHold.step_size_independent (h : StoresHold runtime stores)
    (hget : stores.run_store.get? run_id = some origin) (hrunning : origin.status = .RUNNING)
    {steps : List RuntimeCall} (hsteps : ∀ call ∈ steps, OnRun handlers run_id call)
    {final : ReplayRunState}
    (hfinal : (run runtime.after stores steps).run_store.get? run_id = some final)
    (hend : final.next_event_index = final.total_event_count) {max_events : ℤ} {now : DateTime}
    (hmax : (origin.total_event_count : ℤ) ≤ origin.next_event_index + max_events)
    (hnow : origin.updated_at ≤ now) :
    ∃ result single, runtime.stepRun handlers stores run_id max_events (some now) =
        (single, .ok result) ∧
      SameOutcome run_id (run runtime.after stores steps) single := by
  obtain ⟨timeline, hrecords⟩ := h.runs run_id origin hget
  have hreached : Reached runtime handlers timeline origin stores run_id stores :=
    ⟨origin, hget, hrecords.bound, le_refl _, Progress.refl runtime handlers timeline origin stores⟩
  obtain ⟨final', hfinal', hbound', horigin, hprogress⟩ := hreached.run hsteps
  obtain rfl := Option.some.inj (hfinal.symm.trans hfinal')
  have htotal := hprogress.same.total_event_count
  have hlength := hrecords.bound.total
  have hremaining := (origin.running hrunning).next_lt
  obtain ⟨writes, single, hok, hsingle, hbound, hnext, hprogress'⟩ :=
    Reached.one_step hget hrunning hrecords.bound hprogress (by omega) hmax hnow
  have hsub := hprogress.records_sub hprogress' (by omega)
  have hsub' := hprogress'.records_sub hprogress (by omega)
  have hholds : ∀ s c, StoresHold runtime s → StoresHold runtime (runtime.after s c) :=
    fun _ c h => h.after c
  have hcompleted : final.status = .COMPLETED :=
    (run_keeps hholds h steps).completed hfinal (by omega) hend
  have hcompleted' : writes.replacement.status = .COMPLETED := by
    have hstep := h.step handlers run_id max_events (some now)
    rw [hok] at hstep
    have htotal' := hprogress'.same.total_event_count
    exact hstep.completed hsingle (by omega) (by omega)
  have hsame : SameRun final.toReplayRunFields writes.replacement.toReplayRunFields :=
    hprogress.same.symm.trans hprogress'.same
  refine ⟨writes.result, single, hok, ?_, ?_, final, writes.replacement, hfinal, hsingle,
    hsame.completed hcompleted hcompleted' hbound' hbound (by omega)⟩
  · exact KeyedDict.sortBy_filter_eq (fun r => ⟨hsub.1 r, hsub'.1 r⟩)
      fun _ _ => receiptOrderKey_injective
  · exact KeyedDict.sortBy_filter_eq (fun r => ⟨hsub.2 r, hsub'.2 r⟩)
      fun _ _ => outputRecordRunOrderKey_injective

/-- At every moment the receipts of a run are those of the events that it has processed, one each,
in order. From wherever it runs, all ways to step, pause and resume it to its end with the same
handlers leave the receipts, the outputs and the state that one step over all events leaves. -/
theorem replay_step_size_independent (runtime : LocalDeterministicReplayRuntime env)
    (calls : List RuntimeCall) {run_id : String} {state : ReplayRunState}
    (hget : (run runtime.after (ReplayStores.empty env) calls).run_store.get? run_id =
      some state) :
    (∃ timeline,
      runtime.catalog.timeline_store.get? state.timeline_id.value = some timeline ∧
        (InMemoryReplayEventDispatchReceiptStore.listForRun
            (run runtime.after (ReplayStores.empty env) calls).receipt_store run_id).map
            (·.context) =
          (timeline.events.take state.next_event_index).map
            (contextOf state.toReplayRunFields)) ∧
      (state.status = .RUNNING → ∀ (handlers : ReplayHandlers) (steps : List RuntimeCall),
        (∀ call ∈ steps, OnRun handlers run_id call) → ∀ final : ReplayRunState,
        (run runtime.after (run runtime.after (ReplayStores.empty env) calls)
          steps).run_store.get? run_id = some final →
        final.next_event_index = final.total_event_count →
        ∀ (max_events : ℤ) (now : DateTime),
        (state.total_event_count : ℤ) ≤ state.next_event_index + max_events →
        state.updated_at ≤ now → ∃ result single,
          runtime.stepRun handlers (run runtime.after (ReplayStores.empty env) calls) run_id
            max_events (some now) = (single, .ok result) ∧
          SameOutcome run_id (run runtime.after
            (run runtime.after (ReplayStores.empty env) calls) steps) single) := by
  have hholds := storesHold_run runtime calls
  obtain ⟨timeline, hrecords⟩ := hholds.runs run_id state hget
  refine ⟨⟨timeline, hrecords.bound.stored, ?_⟩, ?_⟩
  · have hkey := KeyedDict.key_of_get? hget
    have hlist := hrecords.receipts.listForRun
    rw [hkey] at hlist
    exact hlist
  · intro hrunning handlers steps hsteps final hfinal hend max_events now hmax hnow
    exact hholds.step_size_independent hget hrunning hsteps hfinal hend hmax hnow

/-- Two steps of one event with a pause between them, and one step of two events. -/
theorem twoEvents_one_by_one :
    ∃ result single, (sampleRuntime twoEvents).stepRun (fun _ _ _ => .raised)
        (run (sampleRuntime twoEvents).after (ReplayStores.empty sampleEnv)
          [sampleCreate, sampleStart]) "run-1" 2 (some sampleTime) = (single, .ok result) ∧
      SameOutcome "run-1" (run (sampleRuntime twoEvents).after
        (run (sampleRuntime twoEvents).after (ReplayStores.empty sampleEnv)
          [sampleCreate, sampleStart])
        [sampleStep 1, .pause "run-1" (some sampleTime), .resume "run-1" (some sampleTime),
          sampleStep 1]) single := by
  have hstarted : ((run (sampleRuntime twoEvents).after (ReplayStores.empty sampleEnv)
      [sampleCreate, sampleStart]).run_store.get? "run-1").map (fun s => (s.status,
        s.next_event_index, s.total_event_count, s.updated_at)) =
        some (.RUNNING, 0, 2, sampleTime) := by decide +kernel
  have hended : ((run (sampleRuntime twoEvents).after
      (run (sampleRuntime twoEvents).after (ReplayStores.empty sampleEnv)
        [sampleCreate, sampleStart])
      [sampleStep 1, .pause "run-1" (some sampleTime), .resume "run-1" (some sampleTime),
        sampleStep 1]).run_store.get? "run-1").map (fun s => (s.next_event_index,
          s.total_event_count)) = some (2, 2) := by decide +kernel
  obtain ⟨state, hget, hstate⟩ := Option.map_eq_some_iff.mp hstarted
  obtain ⟨final, hfinal, hend⟩ := Option.map_eq_some_iff.mp hended
  simp only [Prod.mk.injEq] at hstate hend
  obtain ⟨hrunning, hnext, htotal, hupdated⟩ := hstate
  refine (replay_step_size_independent _ _ hget).2 hrunning _ _ ?_ final hfinal
    (hend.1.trans hend.2.symm) 2 sampleTime ?_ ?_
  · intro call hcall
    simp only [List.mem_cons, List.not_mem_nil, or_false] at hcall
    rcases hcall with rfl | rfl | rfl | rfl
    · exact ⟨rfl, rfl⟩
    · rfl
    · rfl
    · exact ⟨rfl, rfl⟩
  · rw [hnext, htotal]
    decide
  · rw [hupdated]

end FuturesBot.Replay
