import FuturesBot.ReplayDigests

/-! The dispatcher plans every event whose handlers answer: the records come in the order that the
plan asks for, so only colliding ids could be refused. -/
namespace FuturesBot.Replay

open KeySorting Checks LocalDeterministicReplayDispatcher LocalDeterministicReplayRuntime

variable {env : Env}

/-! The checks of a plan. -/

section Checked

variable {p : ReplayPlanFields env}

theorem validateRecords_ok {previous : Option OutputPosition}
    {records : List (ReplayEventOutputRecord env)}
    (hcontext : ∀ r ∈ records, r.context = p.context)
    (hhandler : ∀ r ∈ records, r.handler_id ∈ p.handler_ids)
    (hprevious : ∀ k ∈ previous, ∀ r ∈ records, k < p.position r)
    (horder : records.Pairwise fun a b => p.position a < p.position b) :
    checkAll (p.validateRecords previous records) = .ok () := by
  induction records generalizing previous with
  | nil => rfl
  | cons r rs ih =>
    obtain ⟨hfirst, hrest⟩ := List.pairwise_cons.mp horder
    simp only [ReplayPlanFields.validateRecords, checkAll_append, checkAll_require, checkAll_nil,
      and_true, contextChecks_ok]
    refine ⟨⟨hcontext r List.mem_cons_self, hhandler r List.mem_cons_self,
      fun k hk => hprevious k hk r List.mem_cons_self⟩, ?_⟩
    apply ih (fun r hr => hcontext r (List.mem_cons_of_mem _ hr))
      (fun r hr => hhandler r (List.mem_cons_of_mem _ hr)) _ hrest
    rintro k ⟨⟩
    exact hfirst

end Checked

/-! The order of the records. -/

section Ordered

variable {p : ReplayPlanFields env} {context : ReplayDispatchContext} {handlers : ReplayHandlers}
  {event : ReplayTimelineEvent}

theorem position_lt_of_handler {r w : ReplayEventOutputRecord env}
    (h : p.handler_ids.idxOf r.handler_id < p.handler_ids.idxOf w.handler_id) :
    p.position r < p.position w := Prod.Lex.toLex_lt_toLex.mpr (.inl h)

theorem position_lt_of_index {r w : ReplayEventOutputRecord env}
    (hhandler : r.handler_id = w.handler_id) (h : r.handler_output_index < w.handler_output_index) :
    p.position r < p.position w := by
  have hplace : p.handler_ids.idxOf r.handler_id = p.handler_ids.idxOf w.handler_id := by
    rw [hhandler]
  apply Prod.Lex.toLex_lt_toLex.mpr
  exact .inr ⟨hplace, Prod.Lex.toLex_lt_toLex.mpr (.inl h)⟩

theorem recordsFrom_indexes (descriptor : ReplayDispatchHandlerDescriptor) (i : ℕ)
    (proposals : List (ReplayHandlerOutputProposal env)) :
    (recordsFrom context descriptor i proposals).map (·.handler_output_index) =
      List.range' i proposals.length := by
  induction proposals generalizing i with
  | nil => rfl
  | cons proposal proposals ih =>
    rw [recordsFrom, List.map_cons, ih (i + 1), List.length_cons, List.range'_succ]
    rfl

theorem recordsFrom_ordered (descriptor : ReplayDispatchHandlerDescriptor) (i : ℕ)
    (proposals : List (ReplayHandlerOutputProposal env)) :
    (recordsFrom context descriptor i proposals).Pairwise
      fun a b => p.position a < p.position b := by
  have hindexes : ((recordsFrom context descriptor i proposals).map
      (·.handler_output_index)).Pairwise (· < ·) := by
    rw [recordsFrom_indexes]
    exact List.pairwise_lt_range'
  apply (List.pairwise_map.mp hindexes).imp_of_mem
  intro a b ha hb hlt
  apply position_lt_of_index _ hlt
  rw [(recordsFrom_context ha).2.1, (recordsFrom_context hb).2.1]

theorem collectRecords_cons {descriptor : ReplayDispatchHandlerDescriptor}
    {descriptors : List ReplayDispatchHandlerDescriptor}
    {records : List (ReplayEventOutputRecord env)}
    (h : collectRecords env handlers context event (descriptor :: descriptors) = .ok records) :
    ∃ proposals more, collectRecords env handlers context event descriptors = .ok more ∧
      records = recordsFrom context descriptor 0 proposals ++ more := by
  rw [collectRecords] at h
  split at h
  · exact absurd h (by simp)
  · rename_i proposals hproposals
    rw [buildRecords_eq] at h
    dsimp only at h
    split at h
    · exact absurd h (by simp)
    · rename_i more hmore
      exact ⟨proposals, more, hmore, (Except.ok.inj h).symm⟩

/-- Handlers run in the order of their descriptors, so their records are ordered. -/
theorem collectRecords_ordered (before : List ReplayDispatchHandlerDescriptor)
    {descriptors : List ReplayDispatchHandlerDescriptor}
    (hids : p.handler_ids = (before ++ descriptors).map (·.handler_id))
    (hdistinct : p.handler_ids.Nodup) {records : List (ReplayEventOutputRecord env)}
    (h : collectRecords env handlers context event descriptors = .ok records) :
    (records.Pairwise fun a b => p.position a < p.position b) ∧
      ∀ r ∈ records, before.length ≤ p.handler_ids.idxOf r.handler_id := by
  induction descriptors generalizing before records with
  | nil =>
    rw [collectRecords] at h
    obtain rfl := Except.ok.inj h
    exact ⟨List.Pairwise.nil, fun r hr => absurd hr List.not_mem_nil⟩
  | cons descriptor descriptors ih =>
    obtain ⟨proposals, more, hmore, rfl⟩ := collectRecords_cons h
    have hrest : p.handler_ids = ((before ++ [descriptor]) ++ descriptors).map (·.handler_id) := by
      rw [hids, List.append_assoc, List.singleton_append]
    obtain ⟨hordered, hbehind⟩ := ih _ hrest hmore
    -- the handler's own records stand at its place, the others behind it
    have hplace : p.handler_ids.idxOf descriptor.handler_id = before.length := by
      have hget : p.handler_ids[before.length]? = some descriptor.handler_id := by
        rw [hids, List.getElem?_map, List.getElem?_append_right (le_refl _), Nat.sub_self]
        rfl
      obtain ⟨hlt, hat⟩ := List.getElem?_eq_some_iff.mp hget
      rw [← hat]
      exact hdistinct.idxOf_getElem _ hlt
    have hown : ∀ r ∈ recordsFrom context descriptor 0 proposals,
        p.handler_ids.idxOf r.handler_id = before.length := by
      intro r hr
      rw [(recordsFrom_context hr).2.1, hplace]
    have hlater : ∀ r ∈ more, before.length < p.handler_ids.idxOf r.handler_id := by
      intro r hr
      have hle := hbehind r hr
      rw [List.length_append, List.length_singleton] at hle
      exact hle
    constructor
    · refine List.pairwise_append.mpr ⟨recordsFrom_ordered descriptor 0 proposals, hordered, ?_⟩
      intro a ha b hb
      apply position_lt_of_handler
      rw [hown a ha]
      exact hlater b hb
    · intro r hr
      rcases List.mem_append.mp hr with hr | hr
      · exact (hown r hr).ge
      · exact (hlater r hr).le

/-- The outputs of each handler are numbered from zero. -/
theorem collectRecords_indexes {descriptors : List ReplayDispatchHandlerDescriptor}
    (hdistinct : (descriptors.map (·.handler_id)).Nodup)
    {records : List (ReplayEventOutputRecord env)}
    (h : collectRecords env handlers context event descriptors = .ok records)
    (handler_id : TrimmedText) :
    ∃ n, ((records.filter fun r => r.handler_id = handler_id).map (·.handler_output_index)) =
      List.range n := by
  induction descriptors generalizing records with
  | nil =>
    rw [collectRecords] at h
    obtain rfl := Except.ok.inj h
    exact ⟨0, rfl⟩
  | cons descriptor descriptors ih =>
    obtain ⟨proposals, more, hmore, rfl⟩ := collectRecords_cons h
    rw [List.map_cons, List.nodup_cons] at hdistinct
    rw [List.filter_append]
    by_cases hid : descriptor.handler_id = handler_id
    · refine ⟨proposals.length, ?_⟩
      have hown : (recordsFrom context descriptor 0 proposals).filter
          (fun r => r.handler_id = handler_id) = recordsFrom context descriptor 0 proposals := by
        apply List.filter_eq_self.mpr
        intro r hr
        rw [decide_eq_true_eq, (recordsFrom_context hr).2.1, hid]
      have hnone : more.filter (fun r => r.handler_id = handler_id) = [] := by
        apply List.filter_eq_nil_iff.mpr
        intro r hr hsame
        obtain ⟨-, d, hd, hrid, -⟩ := collectRecords_context hmore hr
        rw [decide_eq_true_eq] at hsame
        refine hdistinct.1 (List.mem_map.mpr ⟨d, hd, ?_⟩)
        rw [← hrid, hsame, hid]
      rw [hown, hnone, List.append_nil, recordsFrom_indexes, List.range_eq_range']
    · obtain ⟨n, hn⟩ := ih hdistinct.2 hmore
      refine ⟨n, ?_⟩
      have hnone : (recordsFrom context descriptor 0 proposals).filter
          (fun r => r.handler_id = handler_id) = [] := by
        apply List.filter_eq_nil_iff.mpr
        intro r hr hsame
        rw [decide_eq_true_eq, (recordsFrom_context hr).2.1] at hsame
        exact hid hsame
      rw [hnone, List.nil_append, hn]

end Ordered

/-! Plans and receipts of events. -/

/-- The handlers of an event answer with valid proposals. -/
def Answers (env : Env) (handlers : ReplayHandlers) (context : ReplayDispatchContext)
    (event : ReplayTimelineEvent) (descriptors : List ReplayDispatchHandlerDescriptor) : Prop :=
  ∀ d ∈ descriptors, ∃ proposals,
    handlerProposals env handlers d.handler_id context event = .ok proposals

theorem Answers.collect {handlers : ReplayHandlers} {context : ReplayDispatchContext}
    {event : ReplayTimelineEvent} {descriptors : List ReplayDispatchHandlerDescriptor}
    (h : Answers env handlers context event descriptors) :
    ∃ records, collectRecords env handlers context event descriptors = .ok records := by
  induction descriptors with
  | nil => exact ⟨[], rfl⟩
  | cons d ds ih =>
    obtain ⟨proposals, hproposals⟩ := h d List.mem_cons_self
    obtain ⟨more, hmore⟩ := ih fun d hd => h d (List.mem_cons_of_mem _ hd)
    refine ⟨recordsFrom context d 0 proposals ++ more, ?_⟩
    rw [collectRecords, hproposals]
    dsimp only
    rw [buildRecords_eq]
    dsimp only
    rw [hmore]

theorem ReplayEventDispatchPlan.of_valid {p : ReplayPlanFields env}
    (h : checkAll p.validatePlan = .ok ()) : ReplayEventDispatchPlan.of p = .ok ⟨p, h⟩ := by
  rw [ReplayEventDispatchPlan.of]
  split
  · rfl
  · rename_i hinvalid
    rw [h] at hinvalid
    exact absurd hinvalid (by simp)

variable {runtime : LocalDeterministicReplayRuntime env} {handlers : ReplayHandlers}
  {state : ReplayRunFields} {event : ReplayTimelineEvent}

/-- The records that the handlers give for an event of a run. -/
def eventRecords (runtime : LocalDeterministicReplayRuntime env) (handlers : ReplayHandlers)
    (state : ReplayRunFields) (event : ReplayTimelineEvent) :
    Except ReplayError (List (ReplayEventOutputRecord env)) :=
  collectRecords env handlers (contextOf state event) event
    (runtime.dispatcher.selectedDescriptorsFor event.kind)

/-- The selected handlers come in the order of their ids. -/
theorem selected_sorted (dispatcher : LocalDeterministicReplayDispatcher env)
    (event_kind : ReplayInputKind) :
    ((dispatcher.selectedDescriptorsFor event_kind).map (·.handler_id)).Nodup ∧
      SortedBy (·.value) ((dispatcher.selectedDescriptorsFor event_kind).map (·.handler_id)) := by
  constructor
  · exact (List.filter_sublist.map _).nodup dispatcher.distinct
  · have hsorted : (dispatcher.selectedDescriptorsFor event_kind).Pairwise
        fun a b => descriptorKey a ≤ descriptorKey b :=
      dispatcher.ordered.sublist List.filter_sublist
    apply List.pairwise_map.mpr
    apply hsorted.imp
    intro a b hab
    rcases Prod.Lex.toLex_le_toLex.mp hab with hlt | ⟨heq, -⟩
    · exact le_of_lt hlt
    · exact le_of_eq heq

/-- What a dispatch gives passes the checks of a plan, where the ids of its outputs differ. -/
theorem dispatchPlan_valid {dispatcher : LocalDeterministicReplayDispatcher env}
    {context : ReplayDispatchContext} {records : List (ReplayEventOutputRecord env)}
    (h : collectRecords env handlers context event
      (dispatcher.selectedDescriptorsFor context.event_kind) = .ok records)
    (hids : (records.map (·.output_record_id)).Nodup) :
    checkAll (ReplayPlanFields.validatePlan {
      context
      handler_ids := (dispatcher.selectedDescriptorsFor context.event_kind).map (·.handler_id)
      output_records := records }) = .ok () := by
  obtain ⟨hdistinct, hsorted⟩ := selected_sorted dispatcher context.event_kind
  simp only [ReplayPlanFields.validatePlan, validateUniqueSortedTexts, checkAll_append,
    checkAll_require, checkAll_nil, and_true]
  refine ⟨⟨⟨⟨hdistinct, hsorted⟩, hids⟩, ?_⟩, ?_⟩
  · apply validateRecords_ok ?_ ?_ (fun k hk => absurd hk (by simp))
      (collectRecords_ordered [] rfl hdistinct h).1
    · intro r hr
      exact (collectRecords_context h hr).1
    · intro r hr
      obtain ⟨-, d, hd, hid, -⟩ := collectRecords_context h hr
      rw [hid]
      exact List.mem_map_of_mem hd
  · rw [ReplayPlanFields.validateIndexes, checkAll_flatMap]
    intro handler_id hhandler
    obtain ⟨n, hn⟩ := collectRecords_indexes hdistinct h handler_id
    rw [checkAll_require, ReplayPlanFields.indexesOf, hn, List.length_range]
    exact ⟨rfl, checkAll_nil⟩

/-- What the dispatcher makes the plan of an event of. -/
def eventPlan (runtime : LocalDeterministicReplayRuntime env) (state : ReplayRunFields)
    (event : ReplayTimelineEvent) (output_records : List (ReplayEventOutputRecord env)) :
    ReplayPlanFields env where
  context := contextOf state event
  handler_ids := (runtime.dispatcher.selectedDescriptorsFor event.kind).map (·.handler_id)
  output_records

/-- The records of an event, in the order of their handlers and numbers. -/
theorem eventRecords_ordered {records : List (ReplayEventOutputRecord env)}
    (h : eventRecords runtime handlers state event = .ok records) :
    records.Pairwise fun a b => (eventPlan runtime state event records).position a <
      (eventPlan runtime state event records).position b := by
  have hdistinct := (selected_sorted runtime.dispatcher event.kind).1
  exact (collectRecords_ordered [] rfl hdistinct h).1

theorem eventPlan_valid {records : List (ReplayEventOutputRecord env)}
    (h : eventRecords runtime handlers state event = .ok records)
    (hids : (records.map (·.output_record_id)).Nodup) :
    checkAll (eventPlan runtime state event records).validatePlan = .ok () :=
  dispatchPlan_valid h hids

/-- An event whose handlers answer, and whose outputs have distinct ids, is dispatched. -/
theorem dispatched_of {records : List (ReplayEventOutputRecord env)}
    (hfingerprint : state.dispatcher_fingerprint = runtime.dispatcher.dispatcher_fingerprint)
    (hrecords : eventRecords runtime handlers state event = .ok records)
    (hids : (records.map (·.output_record_id)).Nodup) :
    ∃ receipt, Dispatched runtime handlers state event (receipt, records) := by
  have hvalid := eventPlan_valid hrecords hids
  have hplan : runtime.dispatchPlan handlers state event =
      .ok ⟨eventPlan runtime state event records, hvalid⟩ := by
    have hchecks : checkAll (contextMatchesEvent (contextOf state event) event ++
        [require ((contextOf state event).dispatcher_fingerprint =
            runtime.dispatcher.dispatcher_fingerprint)
            (.check "dispatch context dispatcher_fingerprint does not match dispatcher"),
          require (buildReplayEventDispatchReceiptId env state.run_id event.order_index
              event.event_id = (contextOf state event).receiptId env)
            (ReplayError.check "dispatch_receipt_id must match deterministic replay dispatch ID")]) =
          .ok () := by
      simp only [contextMatchesEvent, checkAll_append, checkAll_require, checkAll_nil, and_true]
      exact ⟨⟨rfl, rfl, rfl, rfl⟩, hfingerprint, rfl⟩
    rw [dispatchPlan, planDispatch, hchecks]
    dsimp only
    rw [eventRecords] at hrecords
    have hkind : (contextOf state event).event_kind = event.kind := rfl
    rw [hkind, hrecords]
    exact ReplayEventDispatchPlan.of_valid hvalid
  obtain ⟨receipt, hreceipt⟩ := receiptFields_valid hplan
  exact ⟨receipt, ⟨_, hplan, hreceipt, rfl⟩⟩

end FuturesBot.Replay
