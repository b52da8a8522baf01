import FuturesBot.AppendOnly
import FuturesBot.ReplayDispatching

/-! The receipts and outputs of a run in their stores, and what the saves of a step do to them. -/
namespace FuturesBot.Replay

open Dicts KeySorting Checks LocalDeterministicReplayRuntime

variable {env : Env}

theorem saveOutputs_eq (stores : ReplayStores env) (records : List (ReplayEventOutputRecord env)) :
    saveOutputs stores records =
      ({ stores with output_store := (stores.output_store.saveEach records).1 },
        match (stores.output_store.saveEach records).2 with
        | none => .ok ()
        | some record => .error (.outputConflict record.output_record_id)) := by
  induction records generalizing stores with
  | nil => rfl
  | cons record records ih =>
    rw [saveOutputs, InMemoryReplayEventOutputRecordStore.save, KeyedDict.saveEach]
    cases stores.output_store.saveOnce record with
    | none => rfl
    | some output_store =>
      dsimp only
      rw [ih]

theorem saveReceipts_eq (stores : ReplayStores env)
    (receipts : List (ReplayEventDispatchReceipt env)) :
    saveReceipts stores receipts =
      ({ stores with receipt_store := (stores.receipt_store.saveEach receipts).1 },
        match (stores.receipt_store.saveEach receipts).2 with
        | none => .ok ()
        | some receipt => .error (.receiptConflict receipt.receipt_id)) := by
  induction receipts generalizing stores with
  | nil => rfl
  | cons receipt receipts ih =>
    rw [saveReceipts, InMemoryReplayEventDispatchReceiptStore.save, KeyedDict.saveEach]
    cases stores.receipt_store.saveOnce receipt with
    | none => rfl
    | some receipt_store =>
      dsimp only
      rw [ih]

/-! Timelines. -/

theorem ReplayTimeline.indexed (timeline : ReplayTimeline) :
    timeline.events.map (·.order_index) = List.range timeline.events.length := by
  have h := timeline.valid
  simp only [ReplayTimelineFields.validateTimeline, checkAll_append] at h
  by_cases hnil : timeline.events = []
  · rw [hnil]
    rfl
  · rw [if_neg hnil] at h
    simp only [checkAll_append, ReplayTimelineFields.validateOrderIndexes, checkAll_require,
      checkAll_nil, and_true] at h
    exact h.2.1.2

theorem ReplayTimeline.distinct (timeline : ReplayTimeline) :
    (timeline.events.map (·.event_id)).Nodup := by
  have h := timeline.valid
  simp only [ReplayTimelineFields.validateTimeline, ReplayTimelineFields.validateUniqueIds,
    checkAll_append, checkAll_require, checkAll_nil, and_true] at h
  exact h.1.1.2.2.2.1

theorem ReplayTimeline.order_index_eq (timeline : ReplayTimeline) {i : ℕ}
    {event : ReplayTimelineEvent} (h : timeline.events[i]? = some event) :
    event.order_index = i := by
  have hmap : (timeline.events.map (·.order_index))[i]? = some event.order_index := by
    rw [List.getElem?_map, h]
    rfl
  rw [timeline.indexed, List.getElem?_range (List.getElem?_eq_some_iff.mp h).1] at hmap
  exact (Option.some.inj hmap).symm

theorem ReplayTimeline.getElem?_of_mem (timeline : ReplayTimeline) {event : ReplayTimelineEvent}
    (h : event ∈ timeline.events) : timeline.events[event.order_index]? = some event := by
  obtain ⟨i, hi⟩ := List.mem_iff_getElem?.mp h
  rwa [timeline.order_index_eq hi]

/-! The receipts of a run. -/

/-- The contexts of the receipts of a run, in the order in which they were saved. -/
def receiptContexts (store : InMemoryReplayEventDispatchReceiptStore env) (run_id : TrimmedText) :
    List ReplayDispatchContext :=
  (store.values.filter fun r => r.context.run_id = run_id).map (·.context)

theorem mem_receiptContexts {store : InMemoryReplayEventDispatchReceiptStore env}
    {run_id : TrimmedText} {context : ReplayDispatchContext} :
    context ∈ receiptContexts store run_id ↔
      context.run_id = run_id ∧ ∃ r ∈ store.values, r.context = context := by
  simp only [receiptContexts, List.mem_map, List.mem_filter, decide_eq_true_eq]
  constructor
  · rintro ⟨r, ⟨hr, hrun⟩, rfl⟩
    exact ⟨hrun, r, hr, rfl⟩
  · rintro ⟨hrun, r, hr, rfl⟩
    exact ⟨r, ⟨hr, hrun⟩, rfl⟩

theorem receiptContexts_put_other {store : InMemoryReplayEventDispatchReceiptStore env}
    {receipt : ReplayEventDispatchReceipt env} {run_id : TrimmedText}
    (haccepts : store.Accepts receipt) (hrun : receipt.context.run_id ≠ run_id) :
    receiptContexts (store.put receipt) run_id = receiptContexts store run_id := by
  rcases KeyedDict.put_accepted haccepts with ⟨-, hput⟩ | ⟨-, hvalues⟩
  · rw [hput]
  · rw [receiptContexts, hvalues, List.filter_append, List.filter_singleton]
    simp [hrun, receiptContexts]

theorem receiptContexts_put_new {store : InMemoryReplayEventDispatchReceiptStore env}
    {receipt : ReplayEventDispatchReceipt env} (haccepts : store.Accepts receipt)
    (hnew : receipt ∉ store.values) :
    receiptContexts (store.put receipt) receipt.context.run_id =
      receiptContexts store receipt.context.run_id ++ [receipt.context] := by
  rcases KeyedDict.put_accepted haccepts with ⟨hold, -⟩ | ⟨-, hvalues⟩
  · exact absurd hold hnew
  · rw [receiptContexts, hvalues, List.filter_append, List.filter_singleton]
    simp [receiptContexts]

/-- The receipts of a run are those of the first events of its timeline, one each, in order. -/
def Covers (store : InMemoryReplayEventDispatchReceiptStore env) (state : ReplayRunFields)
    (timeline : ReplayTimeline) (m : ℕ) : Prop :=
  receiptContexts store state.run_id = (timeline.events.take m).map (contextOf state)

variable {store : InMemoryReplayEventDispatchReceiptStore env} {state : ReplayRunFields}
  {timeline : ReplayTimeline} {m : ℕ}

theorem Covers.mem (h : Covers store state timeline m) {r : ReplayEventDispatchReceipt env}
    (hr : r ∈ store.values) (hrun : r.context.run_id = state.run_id) :
    ∃ event ∈ timeline.events.take m, r.context = contextOf state event := by
  have hmem : r.context ∈ receiptContexts store state.run_id :=
    mem_receiptContexts.mpr ⟨hrun, r, hr, rfl⟩
  rw [h] at hmem
  obtain ⟨event, hevent, heq⟩ := List.mem_map.mp hmem
  exact ⟨event, hevent, heq.symm⟩

theorem Covers.receipt (h : Covers store state timeline m) {event : ReplayTimelineEvent}
    (hevent : event ∈ timeline.events.take m) :
    ∃ r ∈ store.values, r.context = contextOf state event := by
  have hmem : contextOf state event ∈ receiptContexts store state.run_id := by
    rw [h]
    exact List.mem_map_of_mem hevent
  exact (mem_receiptContexts.mp hmem).2

/-- The save of a receipt of the next event, or of one that has a receipt already. -/
theorem Covers.put (h : Covers store state timeline m) {receipt : ReplayEventDispatchReceipt env}
    (haccepts : store.Accepts receipt) {event : ReplayTimelineEvent} {i : ℕ}
    (hevent : timeline.events[i]? = some event) (hcontext : receipt.context = contextOf state event)
    (hi : i ≤ m) : Covers (store.put receipt) state timeline (max m (i + 1)) := by
  have hrun : receipt.context.run_id = state.run_id := congrArg (·.run_id) hcontext
  rcases Nat.lt_or_eq_of_le hi with hlt | rfl
  · -- the event has a receipt, under the same id
    have htake : event ∈ timeline.events.take m :=
      List.mem_iff_getElem?.mpr ⟨i, by rw [List.getElem?_take_of_lt hlt, hevent]⟩
    obtain ⟨r, hr, hrcontext⟩ := h.receipt htake
    have hid : r.receipt_id = receipt.receipt_id := by
      rw [r.receipt_id_eq, receipt.receipt_id_eq, hrcontext, hcontext]
    have hget : store.get? receipt.receipt_id = some r := by
      rw [← hid]
      exact KeyedDict.mem_values.mp hr
    obtain rfl := haccepts r hget
    rw [KeyedDict.put_of_get? hget, max_eq_left hlt]
    exact h
  · -- no receipt of the run is at this index yet
    have hnew : receipt ∉ store.values := by
      intro hold
      obtain ⟨e, he, heq⟩ := h.mem hold hrun
      obtain ⟨j, hj⟩ := List.mem_iff_getElem?.mp he
      obtain ⟨hjlt, -⟩ := List.getElem?_eq_some_iff.mp hj
      have hjm : j < i := by
        rw [List.length_take] at hjlt
        omega
      rw [List.getElem?_take_of_lt hjm] at hj
      have hindex : e.order_index = event.order_index :=
        congrArg (·.event_order_index) (heq.symm.trans hcontext)
      rw [timeline.order_index_eq hj, timeline.order_index_eq hevent] at hindex
      omega
    have htake : timeline.events.take (i + 1) = timeline.events.take i ++ [event] := by
      rw [List.take_add_one, hevent]
      rfl
    have hput := receiptContexts_put_new haccepts hnew
    rw [hrun, h, hcontext] at hput
    rw [max_eq_right (Nat.le_succ i), Covers, hput, htake, List.map_append]
    rfl

/-- The saves of the receipts of the events from the one at `i`. -/
theorem Covers.saveEach (h : Covers store state timeline m)
    {receipts : List (ReplayEventDispatchReceipt env)} {i : ℕ} (hi : i ≤ m)
    (hcontexts : receipts.map (·.context) =
      ((timeline.events.drop i).take receipts.length).map (contextOf state))
    (hsaved : (store.saveEach receipts).2 = none) :
    Covers (store.saveEach receipts).1 state timeline (max m (i + receipts.length)) := by
  induction receipts generalizing store m i with
  | nil =>
    rw [List.length_nil, Nat.add_zero, max_eq_left hi]
    exact h
  | cons receipt receipts ih =>
    by_cases haccepts : store.Accepts receipt
    · rw [KeyedDict.saveEach_cons_ok haccepts] at hsaved ⊢
      cases hdrop : timeline.events.drop i with
      | nil =>
        rw [hdrop] at hcontexts
        exact absurd hcontexts (by simp)
      | cons event events =>
        rw [hdrop, List.length_cons, List.take_succ_cons, List.map_cons, List.map_cons,
          List.cons.injEq] at hcontexts
        have hevent : timeline.events[i]? = some event := by
          rw [← List.head?_drop, hdrop]
          rfl
        have htail : timeline.events.drop (i + 1) = events := by
          rw [← List.tail_drop, hdrop]
          rfl
        have hput := h.put haccepts hevent hcontexts.1 hi
        have hrest := ih hput (le_max_right m (i + 1)) (by rw [htail]; exact hcontexts.2) hsaved
        have hmax : max (max m (i + 1)) (i + 1 + receipts.length) =
            max m (i + (receipts.length + 1)) := by omega
        rw [hmax] at hrest
        exact hrest
    · rw [KeyedDict.saveEach_cons_refused haccepts] at hsaved
      exact absurd hsaved (by simp)

/-- The list of a run's receipts, which the store sorts, is in the order of its events. -/
theorem Covers.listForRun (h : Covers store state timeline m) :
    (InMemoryReplayEventDispatchReceiptStore.listForRun store state.run_id.value).map (·.context) =
      (timeline.events.take m).map (contextOf state) := by
  have hfilter : (store.values.filter fun r => r.context.run_id.value = state.run_id.value) =
      store.values.filter fun r => r.context.run_id = state.run_id := by
    apply List.filter_congr
    intro r hr
    exact decide_eq_decide.mpr ⟨TrimmedText.ext, congrArg TrimmedText.value⟩
  have hindexes : ((store.values.filter fun r => r.context.run_id = state.run_id).map
      (·.context.event_order_index)) = (timeline.events.take m).map (·.order_index) := by
    have hmap := congrArg (List.map (·.event_order_index)) h
    rw [receiptContexts, List.map_map, List.map_map] at hmap
    exact hmap
  have hsorted : SortedBy receiptOrderKey
      (store.values.filter fun r => r.context.run_id = state.run_id) := by
    have hlt : ((store.values.filter fun r => r.context.run_id = state.run_id).map
        (·.context.event_order_index)).Pairwise (· < ·) := by
      rw [hindexes, List.map_take, timeline.indexed]
      exact List.pairwise_lt_range.sublist (List.take_sublist m _)
    apply (List.pairwise_map.mp hlt).imp
    intro a b hab
    exact Prod.Lex.toLex_le_toLex.mpr (.inl hab)
  rw [InMemoryReplayEventDispatchReceiptStore.listForRun, hfilter,
    (sortBy_eq_self receiptOrderKey).mpr hsorted]
  exact h

end FuturesBot.Replay
