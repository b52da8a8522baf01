import FuturesBot.ReplayRuntime

/-! What the dispatch of events gives: the record of an event depends on its context alone, and
the plan and the receipt that the dispatcher makes pass their own checks. -/
namespace FuturesBot.Replay

open KeySorting Checks LocalDeterministicReplayDispatcher LocalDeterministicReplayRuntime

variable {env : Env}

/-! Records. -/

theorem outputFields_valid (context : ReplayDispatchContext)
    (descriptor : ReplayDispatchHandlerDescriptor) (output_index : ℕ)
    (proposal : ReplayHandlerOutputProposal env) :
    checkAll ((outputFields env context descriptor output_index proposal).validateOutputRecord
      env) = .ok () := by
  simp only [ReplayOutputFields.validateOutputRecord, checkAll_require, checkAll_nil, and_true]
  exact ⟨proposal.canonical, rfl, rfl, rfl⟩

def outputRecord (context : ReplayDispatchContext) (descriptor : ReplayDispatchHandlerDescriptor)
    (output_index : ℕ) (proposal : ReplayHandlerOutputProposal env) :
    ReplayEventOutputRecord env :=
  ⟨outputFields env context descriptor output_index proposal,
    outputFields_valid context descriptor output_index proposal⟩

def recordsFrom (context : ReplayDispatchContext) (descriptor : ReplayDispatchHandlerDescriptor) :
    ℕ → List (ReplayHandlerOutputProposal env) → List (ReplayEventOutputRecord env)
  | _, [] => []
  | i, proposal :: proposals =>
    outputRecord context descriptor i proposal :: recordsFrom context descriptor (i + 1) proposals

theorem ReplayEventOutputRecord.of_valid {r : ReplayOutputFields}
    (h : checkAll (r.validateOutputRecord env) = .ok ()) :
    ReplayEventOutputRecord.of env r = .ok ⟨r, h⟩ := by
  rw [ReplayEventOutputRecord.of]
  split
  · rfl
  · rename_i hinvalid
    rw [h] at hinvalid
    exact absurd hinvalid (by simp)

theorem buildRecords_eq (context : ReplayDispatchContext)
    (descriptor : ReplayDispatchHandlerDescriptor) (i : ℕ)
    (proposals : List (ReplayHandlerOutputProposal env)) :
    buildRecords env context descriptor i proposals =
      .ok (recordsFrom context descriptor i proposals) := by
  induction proposals generalizing i with
  | nil => rfl
  | cons proposal proposals ih =>
    rw [buildRecords, ReplayEventOutputRecord.of_valid
      (outputFields_valid context descriptor i proposal)]
    dsimp only
    rw [ih]
    rfl

/-- A record of a dispatch stands under its context. -/
theorem recordsFrom_context {context : ReplayDispatchContext}
    {descriptor : ReplayDispatchHandlerDescriptor} {i : ℕ}
    {proposals : List (ReplayHandlerOutputProposal env)} {r : ReplayEventOutputRecord env}
    (h : r ∈ recordsFrom context descriptor i proposals) :
    r.context = context ∧ r.handler_id = descriptor.handler_id ∧
      r.handler_version = descriptor.handler_version := by
  induction proposals generalizing i with
  | nil => exact absurd h List.not_mem_nil
  | cons proposal proposals ih =>
    rcases List.mem_cons.mp h with rfl | hmem
    · exact ⟨rfl, rfl, rfl⟩
    · exact ih hmem

theorem collectRecords_context {handlers : ReplayHandlers} {context : ReplayDispatchContext}
    {event : ReplayTimelineEvent} {descriptors : List ReplayDispatchHandlerDescriptor}
    {records : List (ReplayEventOutputRecord env)}
    (h : collectRecords env handlers context event descriptors = .ok records)
    {r : ReplayEventOutputRecord env} (hr : r ∈ records) :
    r.context = context ∧
      ∃ d ∈ descriptors, r.handler_id = d.handler_id ∧ r.handler_version = d.handler_version := by
  induction descriptors generalizing records with
  | nil =>
    rw [collectRecords] at h
    obtain rfl := Except.ok.inj h
    exact absurd hr List.not_mem_nil
  | cons d ds ih =>
    rw [collectRecords] at h
    split at h
    · exact absurd h (by simp)
    · rw [buildRecords_eq] at h
      dsimp only at h
      split at h
      · exact absurd h (by simp)
      · rename_i more hmore
        obtain rfl := Except.ok.inj h
        rcases List.mem_append.mp hr with hfirst | hrest
        · obtain ⟨hcontext, hid, hversion⟩ := recordsFrom_context hfirst
          exact ⟨hcontext, d, List.mem_cons_self, hid, hversion⟩
        · obtain ⟨hcontext, d', hd', hid, hversion⟩ := ih hmore hrest
          exact ⟨hcontext, d', List.mem_cons_of_mem d hd', hid, hversion⟩

/-! Plans. -/

theorem ReplayEventDispatchPlan.of_ok {p : ReplayPlanFields env} {plan : ReplayEventDispatchPlan env}
    (h : ReplayEventDispatchPlan.of p = .ok plan) : plan.toReplayPlanFields = p := by
  rw [ReplayEventDispatchPlan.of] at h
  split at h
  · rw [← Except.ok.inj h]
  · exact absurd h (by simp)

/-- A plan of the dispatcher holds the context, the selected handlers and their records. -/
theorem planDispatch_ok {dispatcher : LocalDeterministicReplayDispatcher env}
    {handlers : ReplayHandlers} {context : ReplayDispatchContext} {event : ReplayTimelineEvent}
    {receipt_id : HexDigest} {plan : ReplayEventDispatchPlan env}
    (h : dispatcher.planDispatch handlers context event receipt_id = .ok plan) :
    plan.context = context ∧
      plan.handler_ids =
        (dispatcher.selectedDescriptorsFor context.event_kind).map (·.handler_id) ∧
      collectRecords env handlers context event
        (dispatcher.selectedDescriptorsFor context.event_kind) = .ok plan.output_records := by
  rw [planDispatch] at h
  split at h
  · exact absurd h (by simp)
  · dsimp only at h
    split at h
    · exact absurd h (by simp)
    · rename_i records hrecords
      have hfields := ReplayEventDispatchPlan.of_ok h
      refine ⟨congrArg (·.context) hfields, congrArg (·.handler_ids) hfields, ?_⟩
      rw [hrecords]
      exact congrArg Except.ok (congrArg (·.output_records) hfields).symm

theorem ReplayEventDispatchPlan.handlers_sorted (plan : ReplayEventDispatchPlan env) :
    plan.handler_ids.Nodup ∧ SortedBy (·.value) plan.handler_ids := by
  have h := plan.valid
  simp only [ReplayPlanFields.validatePlan, validateUniqueSortedTexts, checkAll_append,
    checkAll_require, checkAll_nil, and_true] at h
  exact h.1.1.1

theorem ReplayEventDispatchPlan.records_distinct (plan : ReplayEventDispatchPlan env) :
    (plan.output_records.map (·.output_record_id)).Nodup := by
  have h := plan.valid
  simp only [ReplayPlanFields.validatePlan, checkAll_append, checkAll_require, checkAll_nil,
    and_true] at h
  exact h.1.1.2

/-! Receipts. -/

theorem ReplayEventDispatchReceipt.of_valid {r : ReplayReceiptFields}
    (h : checkAll (r.validateReceipt env) = .ok ()) :
    ReplayEventDispatchReceipt.of env r = .ok ⟨r, h⟩ := by
  rw [ReplayEventDispatchReceipt.of]
  split
  · rfl
  · rename_i hinvalid
    rw [h] at hinvalid
    exact absurd hinvalid (by simp)

theorem ReplayEventDispatchReceipt.of_ok {r : ReplayReceiptFields}
    {receipt : ReplayEventDispatchReceipt env}
    (h : ReplayEventDispatchReceipt.of env r = .ok receipt) : receipt.toReplayReceiptFields = r := by
  rw [ReplayEventDispatchReceipt.of] at h
  split at h
  · rw [← Except.ok.inj h]
  · exact absurd h (by simp)

/-- A receipt stands under the id of its context. -/
theorem ReplayEventDispatchReceipt.receipt_id_eq (receipt : ReplayEventDispatchReceipt env) :
    receipt.receipt_id = receipt.context.receiptId env := by
  have h := receipt.valid
  simp only [ReplayReceiptFields.validateReceipt, checkAll_append, checkAll_require, checkAll_nil,
    and_true] at h
  exact h.2.2.1

theorem receiptFields_valid {runtime : LocalDeterministicReplayRuntime env}
    {handlers : ReplayHandlers} {state : ReplayRunFields} {event : ReplayTimelineEvent}
    {plan : ReplayEventDispatchPlan env} (h : runtime.dispatchPlan handlers state event = .ok plan) :
    ∃ receipt, dispatchReceipt env state event plan = .ok receipt := by
  obtain ⟨-, hids, hrecords⟩ := planDispatch_ok h
  have hsorted := plan.handlers_sorted
  rw [dispatchReceipt]
  refine ⟨_, ReplayEventDispatchReceipt.of_valid ?_⟩
  simp only [ReplayReceiptFields.validateReceipt, validateUniqueSortedTexts, checkAll_append,
    checkAll_require, checkAll_nil, and_true]
  refine ⟨hsorted, plan.records_distinct, rfl, fun hne hnil => ?_⟩
  -- a record names a selected handler
  have hrecords_ne : plan.output_records ≠ [] := by
    intro hnone
    exact hne (congrArg (List.map (·.output_record_id)) hnone)
  obtain ⟨r, hr⟩ := List.exists_mem_of_ne_nil plan.output_records hrecords_ne
  obtain ⟨-, d, hd, -⟩ := collectRecords_context hrecords hr
  rw [hids, List.map_eq_nil_iff] at hnil
  rw [hnil] at hd
  exact absurd hd List.not_mem_nil

/-! One event. -/

/-- The receipt and the output records of an event. -/
structure Dispatched (runtime : LocalDeterministicReplayRuntime env) (handlers : ReplayHandlers)
    (state : ReplayRunFields) (event : ReplayTimelineEvent)
    (d : ReplayEventDispatchReceipt env × List (ReplayEventOutputRecord env)) : Prop where
  dispatched : ∃ plan, runtime.dispatchPlan handlers state event = .ok plan ∧
    dispatchReceipt env state event plan = .ok d.1 ∧ plan.output_records = d.2

variable {runtime : LocalDeterministicReplayRuntime env} {handlers : ReplayHandlers}
  {state : ReplayRunFields} {event : ReplayTimelineEvent}
  {d : ReplayEventDispatchReceipt env × List (ReplayEventOutputRecord env)}

theorem Dispatched.unique
    {d' : ReplayEventDispatchReceipt env × List (ReplayEventOutputRecord env)}
    (h : Dispatched runtime handlers state event d)
    (h' : Dispatched runtime handlers state event d') : d = d' := by
  obtain ⟨plan, hplan, hreceipt, hrecords⟩ := h.dispatched
  obtain ⟨plan', hplan', hreceipt', hrecords'⟩ := h'.dispatched
  obtain rfl := Except.ok.inj (hplan.symm.trans hplan')
  have hfirst := Except.ok.inj (hreceipt.symm.trans hreceipt')
  exact Prod.ext hfirst (hrecords.symm.trans hrecords')

theorem Dispatched.context (h : Dispatched runtime handlers state event d) :
    d.1.context = contextOf state event := by
  obtain ⟨plan, -, hreceipt, -⟩ := h.dispatched
  exact congrArg (·.context) (ReplayEventDispatchReceipt.of_ok hreceipt)

theorem Dispatched.output_context (h : Dispatched runtime handlers state event d)
    {r : ReplayEventOutputRecord env} (hr : r ∈ d.2) : r.context = contextOf state event := by
  obtain ⟨plan, hplan, -, hrecords⟩ := h.dispatched
  rw [← hrecords] at hr
  exact (collectRecords_context (planDispatch_ok hplan).2.2 hr).1

/-- The dispatch of an event is the same for every state of the run. -/
theorem Dispatched.of_context {state' : ReplayRunFields}
    (h : Dispatched runtime handlers state event d)
    (hcontext : contextOf state event = contextOf state' event) :
    Dispatched runtime handlers state' event d := by
  obtain ⟨plan, hplan, hreceipt, hrecords⟩ := h.dispatched
  have hrun : state.run_id = state'.run_id := congrArg (·.run_id) hcontext
  refine ⟨plan, ?_, ?_, hrecords⟩
  · rw [dispatchPlan, ← hcontext, ← hrun]
    exact hplan
  · rw [dispatchReceipt, ← hcontext, ← hrun]
    exact hreceipt

/-- The bundle of a dispatch passes the runtime's check. -/
theorem validateDispatchBundle_ok {plan : ReplayEventDispatchPlan env}
    {receipt : ReplayEventDispatchReceipt env}
    (hplan : runtime.dispatchPlan handlers state event = .ok plan)
    (hreceipt : dispatchReceipt env state event plan = .ok receipt) :
    checkAll (runtime.validateDispatchBundle state.dispatcher_fingerprint state event plan
      receipt) = .ok () := by
  obtain ⟨hcontext, hids, hrecords⟩ := planDispatch_ok hplan
  have hfields := ReplayEventDispatchReceipt.of_ok hreceipt
  have hkind : (contextOf state event).event_kind = event.kind := rfl
  rw [hkind] at hids hrecords
  have hdistinct : ((runtime.dispatcher.selectedDescriptorsFor event.kind).map
      (·.handler_id)).Nodup :=
    (List.filter_sublist.map _).nodup runtime.dispatcher.distinct
  simp only [validateDispatchBundle, checkAll_append, checkAll_require, checkAll_nil, and_true,
    contextChecks_ok, checkAll_flatMap]
  refine ⟨⟨⟨⟨hids, hcontext⟩, ?_⟩, ?_, ?_, ?_, ?_⟩, fun record hrecord => ?_⟩
  · rw [hfields]
  · rw [hcontext]
    rfl
  · rw [hfields]
    rfl
  · rw [hfields]
  · rw [hfields]
  · obtain ⟨hrcontext, descriptor, hd, hid, hversion⟩ := collectRecords_context hrecords hrecord
    simp only [validateBundleRecord, checkAll_append, checkAll_require, checkAll_nil, and_true,
      contextChecks_ok]
    refine ⟨⟨?_, fun d hd' hid' => ?_, ?_⟩, ?_⟩
    · rw [hid]
      exact List.mem_map_of_mem hd
    · -- the id of a descriptor tells it from the others
      rw [hversion, List.inj_on_of_nodup_map hdistinct hd' hd (hid'.trans hid)]
    · have hvalid := record.valid
      simp only [ReplayOutputFields.validateOutputRecord, checkAll_require, checkAll_nil,
        and_true] at hvalid
      rw [hvalid.2.1, hrcontext, hfields]
      rfl
    · rw [hrcontext, hfields]

/-! Several events. -/

/-- The receipts and the outputs of a list of events are those of its events in turn. -/
theorem dispatchEvents_ok {events : List ReplayTimelineEvent}
    {receipts : List (ReplayEventDispatchReceipt env)}
    {output_records : List (ReplayEventOutputRecord env)}
    (h : runtime.dispatchEvents handlers state.dispatcher_fingerprint state events =
      .ok (receipts, output_records)) :
    ∃ ds, List.Forall₂ (Dispatched runtime handlers state) events ds ∧
      receipts = ds.map (·.1) ∧ output_records = ds.flatMap (·.2) := by
  rw [dispatchEvents] at h
  split at h
  · exact absurd h (by simp)
  · rename_i plans hplans
    split at h
    · exact absurd h (by simp)
    · rename_i receipts' hreceipts
      split at h
      · exact absurd h (by simp)
      · rename_i hbundles
        obtain ⟨rfl, rfl⟩ := Prod.mk.inj (Except.ok.inj h)
        clear h hbundles
        induction events generalizing plans receipts' with
        | nil =>
          obtain rfl := Except.ok.inj hplans
          rw [dispatchReceipts.eq_def] at hreceipts
          obtain rfl := Except.ok.inj hreceipts
          exact ⟨[], List.Forall₂.nil, rfl, rfl⟩
        | cons event events ih =>
          rw [dispatchPlans] at hplans
          split at hplans
          · exact absurd hplans (by simp)
          · rename_i plan hplan
            split at hplans
            · exact absurd hplans (by simp)
            · rename_i plans' hplans'
              obtain rfl := Except.ok.inj hplans
              rw [dispatchReceipts] at hreceipts
              split at hreceipts
              · exact absurd hreceipts (by simp)
              · rename_i receipt hreceipt
                split at hreceipts
                · exact absurd hreceipts (by simp)
                · rename_i rest hrest
                  obtain rfl := Except.ok.inj hreceipts
                  obtain ⟨ds, hds, hmap, hflat⟩ := ih plans' hplans' rest hrest
                  refine ⟨(receipt, plan.output_records) :: ds,
                    List.Forall₂.cons ⟨plan, hplan, hreceipt, rfl⟩ hds, ?_, ?_⟩
                  · rw [hmap]
                    rfl
                  · rw [List.flatMap_cons, hflat]
                    rfl

end FuturesBot.Replay
