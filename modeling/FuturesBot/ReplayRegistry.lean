import Mathlib.Data.List.Perm.Basic
import FuturesBot.ReplayPlanning
import FuturesBot.ReplayStateMachine

/-! The registry of replay handlers as it is constructed from a tuple of handlers: it does not
depend on the order of the tuple, and the plans that it makes pass the checks of a plan. -/
namespace FuturesBot.Replay

open TextLines KeySorting Checks LocalDeterministicReplayDispatcher

/-- A handler, with what it says of itself. -/
structure ReplayEventHandler where
  handler_id : String
  handler_version : String
  supported_event_kinds : List ReplayInputKind
  handle : ReplayDispatchContext → ReplayTimelineEvent → HandlerOutcome

def descriptorForHandler (handler : ReplayEventHandler) :
    Except ReplayError ReplayDispatchHandlerDescriptor :=
  match TrimmedText.of handler.handler_id, TrimmedText.of handler.handler_version with
  | some handler_id, some handler_version =>
    if hne : handler.supported_event_kinds = [] then
      .error (.check "supported_event_kinds must be non-empty")
    else if hdistinct : handler.supported_event_kinds.Nodup then
      if hordered : SortedBy ReplayInputKind.value handler.supported_event_kinds then
        .ok ⟨handler_id, handler_version, handler.supported_event_kinds, hne, hdistinct, hordered⟩
      else .error (.check "supported_event_kinds must be sorted by enum value")
    else .error (.check "duplicate supported_event_kinds are not allowed")
  | _, _ => .error (.check "handler descriptor field must be a non-empty trimmed string")

/-- A descriptor with the handler it was read off. -/
abbrev RegisteredHandler := ReplayDispatchHandlerDescriptor × ReplayEventHandler

def pairKey (pair : RegisteredHandler) : HandlerKey := descriptorKey pair.1

def describeHandlers : List ReplayEventHandler → Except ReplayError (List RegisteredHandler)
  | [] => .ok []
  | handler :: handlers =>
    match descriptorForHandler handler with
    | .error e => .error e
    | .ok descriptor =>
      match describeHandlers handlers with
      | .error e => .error e
      | .ok pairs => .ok ((descriptor, handler) :: pairs)

/-- The dispatcher with the handlers that stand behind its descriptors. -/
structure HandlerRegistry (env : Env) where
  dispatcher : LocalDeterministicReplayDispatcher env
  pairs : List RegisteredHandler
  descriptors_eq : dispatcher.descriptors = pairs.map (·.1)

theorem sortedPairs {pairs : List RegisteredHandler} :
    SortedBy descriptorKey ((sortBy pairKey pairs).map (·.1)) :=
  List.pairwise_map.mpr (sortBy_sorted pairKey pairs)

theorem distinctPairs {pairs : List RegisteredHandler}
    (h : (pairs.map fun pair => pair.1.handler_id).Nodup) :
    (((sortBy pairKey pairs).map (·.1)).map (·.handler_id)).Nodup := by
  rw [List.map_map]
  exact ((sortBy_perm pairKey pairs).map _).nodup_iff.mpr h

/-- `LocalDeterministicReplayDispatcher.__init__`. -/
def HandlerRegistry.of (env : Env) (handlers : List ReplayEventHandler) :
    Except ReplayError (HandlerRegistry env) :=
  match describeHandlers handlers with
  | .error e => .error e
  | .ok pairs =>
    if h : (pairs.map fun pair => pair.1.handler_id).Nodup then
      .ok {
        dispatcher := {
          descriptors := (sortBy pairKey pairs).map (·.1)
          dispatcher_fingerprint :=
            buildReplayDispatcherFingerprint env ((sortBy pairKey pairs).map (·.1))
          distinct := distinctPairs h
          ordered := sortedPairs
          fingerprint_eq := rfl }
        pairs := sortBy pairKey pairs
        descriptors_eq := rfl }
    else .error (.check "duplicate replay handler IDs are not allowed")

namespace HandlerRegistry

variable {env : Env} (registry : HandlerRegistry env)

/-- The pairs whose descriptor is selected for the kind of the event. -/
def selectedHandlers (event_kind : ReplayInputKind) : List RegisteredHandler :=
  registry.pairs.filter fun pair =>
    pair.1.handler_id ∈ (registry.dispatcher.selectedDescriptorsFor event_kind).map (·.handler_id)

/-- The output records of the handlers, each called on the event in turn. -/
def collectOutputs (env : Env) (context : ReplayDispatchContext) (event : ReplayTimelineEvent) :
    List RegisteredHandler → Except ReplayError (List (ReplayEventOutputRecord env))
  | [] => .ok []
  | (descriptor, handler) :: pairs =>
    match handlerProposals env (fun _ => handler.handle) descriptor.handler_id context event with
    | .error e => .error e
    | .ok proposals =>
      match buildRecords env context descriptor 0 proposals with
      | .error e => .error e
      | .ok records =>
        match collectOutputs env context event pairs with
        | .error e => .error e
        | .ok more => .ok (records ++ more)

/-- What is asked of a dispatch before its handlers are called. -/
def dispatchChecks (context : ReplayDispatchContext) (event : ReplayTimelineEvent)
    (dispatch_receipt_id : HexDigest) : List (Check ReplayError) :=
  contextMatchesEvent context event ++
    [require (context.dispatcher_fingerprint = registry.dispatcher.dispatcher_fingerprint)
        (.check "dispatch context dispatcher_fingerprint does not match dispatcher"),
      require (dispatch_receipt_id = context.receiptId env)
        (.check "dispatch_receipt_id must match deterministic replay dispatch ID")]

/-- `plan_dispatch`, up to the plan that it builds last. -/
def planFields (context : ReplayDispatchContext) (event : ReplayTimelineEvent)
    (dispatch_receipt_id : HexDigest) : Except ReplayError (ReplayPlanFields env) :=
  match checkAll (registry.dispatchChecks context event dispatch_receipt_id) with
  | .error e => .error e
  | .ok () =>
    match collectOutputs env context event (registry.selectedHandlers context.event_kind) with
    | .error e => .error e
    | .ok output_records => .ok {
        context
        handler_ids :=
          (registry.selectedHandlers context.event_kind).map fun pair => pair.1.handler_id
        output_records }

/-- `plan_dispatch`. -/
def planDispatch (context : ReplayDispatchContext) (event : ReplayTimelineEvent)
    (dispatch_receipt_id : HexDigest) : Except ReplayError (ReplayEventDispatchPlan env) :=
  match registry.planFields context event dispatch_receipt_id with
  | .error e => .error e
  | .ok fields => ReplayEventDispatchPlan.of fields

end HandlerRegistry

/-! The order of the handlers. -/

theorem describeHandlers_ok {handlers : List ReplayEventHandler} {pairs : List RegisteredHandler} :
    describeHandlers handlers = .ok pairs ↔
      List.Forall₂ (fun handler (pair : RegisteredHandler) =>
        descriptorForHandler handler = .ok pair.1 ∧ pair.2 = handler) handlers pairs := by
  induction handlers generalizing pairs with
  | nil =>
    rw [describeHandlers, List.forall₂_nil_left_iff]
    exact ⟨fun h => (Except.ok.inj h).symm, fun h => h ▸ rfl⟩
  | cons handler handlers ih =>
    rw [describeHandlers, List.forall₂_cons_left_iff]
    constructor
    · intro h
      split at h
      · exact absurd h (by simp)
      · rename_i descriptor hdescriptor
        split at h
        · exact absurd h (by simp)
        · rename_i rest hrest
          exact ⟨(descriptor, handler), rest, ⟨hdescriptor, rfl⟩, ih.mp hrest,
            (Except.ok.inj h).symm⟩
    · rintro ⟨⟨descriptor, handler'⟩, rest, ⟨hdescriptor, hhandler⟩, hrest, rfl⟩
      subst hhandler
      rw [hdescriptor]
      dsimp only
      rw [ih.mpr hrest]

/-- A permuted tuple of handlers is described by the permuted pairs. -/
theorem describeHandlers_perm {handlers handlers' : List ReplayEventHandler}
    {pairs : List RegisteredHandler} (hperm : handlers'.Perm handlers)
    (h : describeHandlers handlers = .ok pairs) :
    ∃ pairs', describeHandlers handlers' = .ok pairs' ∧ pairs'.Perm pairs := by
  obtain ⟨pairs', hdescribed, hpairs⟩ :=
    List.perm_comp_forall₂ hperm (describeHandlers_ok.mp h)
  exact ⟨pairs', describeHandlers_ok.mpr hdescribed, hpairs⟩

/-- The key of a pair tells it from the others. -/
theorem pairKey_inj {pairs : List RegisteredHandler}
    (h : (pairs.map fun pair => pair.1.handler_id).Nodup) :
    ∀ a ∈ pairs, ∀ b ∈ pairs, pairKey a = pairKey b → a = b := by
  intro a ha b hb hkey
  have hvalue : a.1.handler_id.value = b.1.handler_id.value :=
    congrArg (fun key : HandlerKey => (ofLex key).1) hkey
  exact List.inj_on_of_nodup_map h ha hb (TrimmedText.ext hvalue)

theorem HandlerRegistry.of_perm {env : Env} {handlers handlers' : List ReplayEventHandler}
    (hperm : handlers'.Perm handlers) {registry : HandlerRegistry env}
    (h : HandlerRegistry.of env handlers = .ok registry) :
    HandlerRegistry.of env handlers' = .ok registry := by
  rw [HandlerRegistry.of] at h
  split at h
  · exact absurd h (by simp)
  · rename_i pairs hpairs
    split_ifs at h with hdistinct
    obtain ⟨pairs', hpairs', hperm'⟩ := describeHandlers_perm hperm hpairs
    have hdistinct' : (pairs'.map fun pair => pair.1.handler_id).Nodup :=
      (hperm'.map _).nodup_iff.mpr hdistinct
    have hsorted : sortBy pairKey pairs' = sortBy pairKey pairs :=
      sortBy_perm_eq pairKey hperm' (pairKey_inj hdistinct')
    rw [HandlerRegistry.of, hpairs']
    dsimp only
    rw [dif_pos hdistinct', ← Except.ok.inj h]
    simp only [hsorted]

/-! The plans. -/

namespace HandlerRegistry

variable {env : Env} (registry : HandlerRegistry env)

theorem distinct_ids : (registry.pairs.map fun pair => pair.1.handler_id).Nodup := by
  have h := registry.dispatcher.distinct
  rwa [registry.descriptors_eq, List.map_map] at h

/-- A pair is selected exactly when its handler takes the events of the kind. -/
theorem selectedHandlers_eq (event_kind : ReplayInputKind) :
    registry.selectedHandlers event_kind =
      registry.pairs.filter fun pair => event_kind ∈ pair.1.supported_event_kinds := by
  apply List.filter_congr
  intro pair hpair
  apply decide_eq_decide.mpr
  have hdescriptor : pair.1 ∈ registry.dispatcher.descriptors := by
    rw [registry.descriptors_eq]
    exact List.mem_map_of_mem hpair
  rw [List.mem_map]
  constructor
  · rintro ⟨descriptor, hselected, hid⟩
    obtain ⟨hmem, hkind⟩ := List.mem_filter.mp hselected
    rw [← List.inj_on_of_nodup_map registry.dispatcher.distinct hmem hdescriptor hid]
    exact of_decide_eq_true hkind
  · intro hkind
    exact ⟨pair.1, List.mem_filter.mpr ⟨hdescriptor, decide_eq_true hkind⟩, rfl⟩

theorem selectedHandlers_mem (event_kind : ReplayInputKind) :
    ∀ pair ∈ registry.selectedHandlers event_kind, pair ∈ registry.pairs :=
  fun _ hpair => (List.mem_filter.mp hpair).1

/-! The registry is a dispatcher whose handlers are found by their ids. -/

def handlerOf : ReplayHandlers := fun handler_id context event =>
  match registry.pairs.find? fun pair => pair.1.handler_id = handler_id with
  | none => .raised
  | some pair => pair.2.handle context event

theorem handlerOf_pair {pair : RegisteredHandler} (h : pair ∈ registry.pairs) :
    registry.handlerOf pair.1.handler_id = pair.2.handle := by
  have hfind : registry.pairs.find? (fun p => p.1.handler_id = pair.1.handler_id) = some pair := by
    cases hfound : registry.pairs.find? (fun p => p.1.handler_id = pair.1.handler_id) with
    | none => exact absurd (List.find?_eq_none.mp hfound pair h) (by simp)
    | some found =>
      have hid : found.1.handler_id = pair.1.handler_id :=
        of_decide_eq_true
          (List.find?_some (p := fun p : RegisteredHandler => p.1.handler_id = pair.1.handler_id) hfound)
      rw [List.inj_on_of_nodup_map registry.distinct_ids (List.mem_of_find?_eq_some hfound) h hid]
  funext context event
  rw [handlerOf, hfind]

theorem collectOutputs_eq (context : ReplayDispatchContext) (event : ReplayTimelineEvent)
    {pairs : List RegisteredHandler} (h : ∀ pair ∈ pairs, pair ∈ registry.pairs) :
    collectOutputs env context event pairs =
      collectRecords env registry.handlerOf context event (pairs.map (·.1)) := by
  induction pairs with
  | nil => rfl
  | cons pair pairs ih =>
    have hproposals : handlerProposals env (fun _ => pair.2.handle) pair.1.handler_id context
        event = handlerProposals env registry.handlerOf pair.1.handler_id context event := by
      rw [handlerProposals, handlerProposals, registry.handlerOf_pair (h pair List.mem_cons_self)]
    have hrest := ih fun p hp => h p (List.mem_cons_of_mem _ hp)
    rw [List.map_cons]
    cases hmade : handlerProposals env registry.handlerOf pair.1.handler_id context event with
    | error e => simp only [collectOutputs, collectRecords, hproposals, hmade]
    | ok proposals =>
      cases hrecords : buildRecords env context pair.1 0 proposals with
      | error e => simp only [collectOutputs, collectRecords, hproposals, hmade, hrecords]
      | ok records =>
        cases hmore : collectRecords env registry.handlerOf context event (pairs.map (·.1)) with
        | error e =>
          simp only [collectOutputs, collectRecords, hproposals, hmade, hrecords, hrest, hmore]
        | ok more =>
          simp only [collectOutputs, collectRecords, hproposals, hmade, hrecords, hrest, hmore]

theorem selectedHandlers_descriptors (event_kind : ReplayInputKind) :
    (registry.selectedHandlers event_kind).map (·.1) =
      registry.dispatcher.selectedDescriptorsFor event_kind := by
  rw [selectedHandlers_eq, selectedDescriptorsFor, registry.descriptors_eq, List.filter_map]
  rfl

theorem planDispatch_eq (context : ReplayDispatchContext) (event : ReplayTimelineEvent)
    (dispatch_receipt_id : HexDigest) :
    registry.planDispatch context event dispatch_receipt_id =
      registry.dispatcher.planDispatch registry.handlerOf context event dispatch_receipt_id := by
  rw [planDispatch, planFields, LocalDeterministicReplayDispatcher.planDispatch,
    registry.collectOutputs_eq context event (registry.selectedHandlers_mem _),
    selectedHandlers_descriptors]
  dsimp only [dispatchChecks]
  cases checkAll (contextMatchesEvent context event ++
    [require (context.dispatcher_fingerprint = registry.dispatcher.dispatcher_fingerprint)
        (.check "dispatch context dispatcher_fingerprint does not match dispatcher"),
      require (dispatch_receipt_id = context.receiptId env)
        (.check "dispatch_receipt_id must match deterministic replay dispatch ID")]) with
  | error e => rfl
  | ok u =>
    cases collectRecords env registry.handlerOf context event
      (registry.dispatcher.selectedDescriptorsFor context.event_kind) with
    | error e => rfl
    | ok records =>
      dsimp only
      rw [← selectedHandlers_descriptors, List.map_map]
      rfl


/-! The plans. -/

variable {registry} {context : ReplayDispatchContext} {event : ReplayTimelineEvent}
  {dispatch_receipt_id : HexDigest} {fields : ReplayPlanFields env}

theorem planFields_ok (h : registry.planFields context event dispatch_receipt_id = .ok fields) :
    ∃ records, collectRecords env registry.handlerOf context event
        (registry.dispatcher.selectedDescriptorsFor context.event_kind) = .ok records ∧
      fields = {
        context
        handler_ids :=
          (registry.dispatcher.selectedDescriptorsFor context.event_kind).map (·.handler_id)
        output_records := records } := by
  rw [planFields, registry.collectOutputs_eq context event (registry.selectedHandlers_mem _),
    selectedHandlers_descriptors] at h
  split at h
  · exact absurd h (by simp)
  · split at h
    · exact absurd h (by simp)
    · rename_i records hrecords
      refine ⟨records, hrecords, ?_⟩
      rw [← Except.ok.inj h, ← selectedHandlers_descriptors, List.map_map]
      rfl

/-- The texts behind the ids of the output records. -/
def outputTexts (records : List (ReplayEventOutputRecord env)) : Set Bytes :=
  { text | ∃ r ∈ records, outputText r.toReplayOutputFields = text }

/-- Outputs in the order of their positions have ids that differ, where their digests do not
collide. -/
theorem outputs_distinct {p : ReplayPlanFields env} {records : List (ReplayEventOutputRecord env)}
    (hordered : records.Pairwise fun a b => p.position a < p.position b)
    (hinj : Set.InjOn env.sha256 (outputTexts records)) :
    (records.map (·.output_record_id)).Nodup := by
  refine List.pairwise_map.mpr (hordered.imp_of_mem fun {a b} ha hb hlt heq => ?_)
  have hid := heq
  rw [a.ids.2.2, b.ids.2.2] at hid
  have hsame := outputText_injective (hinj ⟨a, ha, rfl⟩ ⟨b, hb, rfl⟩ hid)
  rw [ReplayPlanFields.position, ReplayPlanFields.position, hsame.handler_id,
    hsame.handler_output_index, heq] at hlt
  exact lt_irrefl _ hlt

/-- What a dispatch is planned with passes every check of a plan, where the digests of the
outputs do not collide. -/
theorem planFields_valid
    (h : registry.planFields context event dispatch_receipt_id = .ok fields)
    (hinj : Set.InjOn env.sha256 (outputTexts fields.output_records)) :
    checkAll fields.validatePlan = .ok () := by
  obtain ⟨records, hrecords, rfl⟩ := planFields_ok h
  obtain ⟨hdistinct, -⟩ := selected_sorted registry.dispatcher context.event_kind
  let p : ReplayPlanFields env := {
    context
    handler_ids := (registry.dispatcher.selectedDescriptorsFor context.event_kind).map (·.handler_id)
    output_records := records }
  have hordered : records.Pairwise fun a b => p.position a < p.position b :=
    (collectRecords_ordered [] rfl hdistinct hrecords).1
  exact dispatchPlan_valid hrecords (outputs_distinct hordered hinj)

theorem planDispatch_of_fields
    (h : registry.planFields context event dispatch_receipt_id = .ok fields)
    (hvalid : checkAll fields.validatePlan = .ok ()) :
    registry.planDispatch context event dispatch_receipt_id = .ok ⟨fields, hvalid⟩ := by
  rw [planDispatch, h]
  exact ReplayEventDispatchPlan.of_valid hvalid

end HandlerRegistry

/-- The fingerprint and the plans of a registry are the same for every order of its handlers. A
dispatch whose handlers give their proposals is planned: what the plan is built from passes every
check of a plan, and its handlers are those that take the events of the kind. -/
theorem dispatch_order_independent (env : Env) {handlers handlers' : List ReplayEventHandler}
    (hperm : handlers'.Perm handlers) {registry : HandlerRegistry env}
    (hregistry : HandlerRegistry.of env handlers = .ok registry) :
    (∃ registry', HandlerRegistry.of env handlers' = .ok registry' ∧
      registry'.dispatcher.dispatcher_fingerprint = registry.dispatcher.dispatcher_fingerprint ∧
      ∀ context event dispatch_receipt_id,
        registry'.planDispatch context event dispatch_receipt_id =
          registry.planDispatch context event dispatch_receipt_id) ∧
    ∀ context event dispatch_receipt_id fields,
      registry.planFields context event dispatch_receipt_id = .ok fields →
      Set.InjOn env.sha256 (HandlerRegistry.outputTexts fields.output_records) →
      ∃ plan, registry.planDispatch context event dispatch_receipt_id = .ok plan ∧
        plan.toReplayPlanFields = fields ∧ plan.context = context ∧
        ∀ handler_id, handler_id ∈ plan.handler_ids ↔
          ∃ pair ∈ registry.pairs, pair.1.handler_id = handler_id ∧
            context.event_kind ∈ pair.1.supported_event_kinds := by
  refine ⟨⟨registry, HandlerRegistry.of_perm hperm hregistry, rfl, fun _ _ _ => rfl⟩, ?_⟩
  intro context event dispatch_receipt_id fields hfields hinj
  have hplan := HandlerRegistry.planDispatch_of_fields hfields
    (HandlerRegistry.planFields_valid hfields hinj)
  obtain ⟨records, -, heq⟩ := HandlerRegistry.planFields_ok hfields
  refine ⟨_, hplan, rfl, congrArg (·.context) heq, fun handler_id => ?_⟩
  have hids : fields.handler_ids = (registry.selectedHandlers context.event_kind).map
      (fun pair => pair.1.handler_id) := by
    rw [heq, ← registry.selectedHandlers_descriptors, List.map_map]
    rfl
  change handler_id ∈ fields.handler_ids ↔ _
  rw [hids, registry.selectedHandlers_eq, List.mem_map]
  constructor
  · rintro ⟨pair, hpair, hid⟩
    obtain ⟨hmem, hkind⟩ := List.mem_filter.mp hpair
    exact ⟨pair, hmem, hid, of_decide_eq_true hkind⟩
  · rintro ⟨pair, hmem, hid, hkind⟩
    exact ⟨pair, List.mem_filter.mpr ⟨hmem, decide_eq_true hkind⟩, hid⟩

/-! Two handlers, one of which gives an output. -/

def sampleHandler (handler_id : String) (proposals : List RawProposal) : ReplayEventHandler where
  handler_id
  handler_version := "1"
  supported_event_kinds := [.TRADE]
  handle _ _ := .proposals proposals

def sampleHandlers : List ReplayEventHandler :=
  [sampleHandler "book" [⟨"top", "{}"⟩], sampleHandler "audit" []]

def sampleRegistry : Except ReplayError (HandlerRegistry sampleEnv) :=
  HandlerRegistry.of sampleEnv sampleHandlers

def sampleContext (registry : HandlerRegistry sampleEnv) : ReplayDispatchContext where
  run_id := ⟨"run-1", by decide⟩
  manifest_id := ⟨"manifest-1", .checked evaluates⟩
  replay_plan_id := ⟨"plan-1", .checked evaluates⟩
  timeline_id := ⟨"timeline-1", .checked evaluates⟩
  timeline_fingerprint_id := ⟨"fingerprint-1", .checked evaluates⟩
  dispatcher_fingerprint := registry.dispatcher.dispatcher_fingerprint
  event_id := ⟨"a:1", by decide⟩
  event_order_index := 0
  event_time := sampleTime
  event_kind := .TRADE

def sampleFields (registry : HandlerRegistry sampleEnv) :
    Except ReplayError (ReplayPlanFields sampleEnv) :=
  registry.planFields (sampleContext registry) (sampleEvent ⟨"a:1", by decide⟩ 0)
    ((sampleContext registry).receiptId sampleEnv)

theorem swapped_handlers_plan :
    ∃ registry plan, HandlerRegistry.of sampleEnv sampleHandlers.reverse = .ok registry ∧
      registry.planDispatch (sampleContext registry) (sampleEvent ⟨"a:1", by decide⟩ 0)
        ((sampleContext registry).receiptId sampleEnv) = .ok plan ∧
      plan.output_records.length = 1 := by
  have hplanned : (match sampleRegistry with
      | .error _ => none
      | .ok registry => (sampleFields registry).toOption.map (·.output_records.length)) = some 1 := by
    decide +kernel
  cases hregistry : sampleRegistry with
  | error e =>
    rw [hregistry] at hplanned
    cases hplanned
  | ok registry =>
    rw [hregistry] at hplanned
    dsimp only at hplanned
    cases hfields : sampleFields registry with
    | error e =>
      rw [hfields] at hplanned
      cases hplanned
    | ok fields =>
      rw [hfields] at hplanned
      have hlength : fields.output_records.length = 1 := Option.some.inj hplanned
      obtain ⟨r, hr⟩ := List.length_eq_one_iff.mp hlength
      have hinj : Set.InjOn sampleEnv.sha256
          (HandlerRegistry.outputTexts fields.output_records) := by
        rintro a ⟨x, hx, rfl⟩ b ⟨y, hy, rfl⟩ -
        rw [hr, List.mem_singleton] at hx hy
        rw [hx, hy]
      obtain ⟨⟨registry', hregistry', hfingerprint, hplans⟩, hplan⟩ :=
        dispatch_order_independent sampleEnv (List.reverse_perm sampleHandlers) hregistry
      obtain ⟨plan, hdispatched, hplanFields, -⟩ := hplan _ _ _ fields hfields hinj
      have hcontext : sampleContext registry' = sampleContext registry := by
        rw [sampleContext, sampleContext, hfingerprint]
      refine ⟨registry', plan, hregistry', ?_, ?_⟩
      · rw [hcontext, hplans]
        exact hdispatched
      · rw [← hlength]
        exact congrArg (fun p => p.output_records.length) hplanFields

end FuturesBot.Replay
